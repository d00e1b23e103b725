import NostrWorkflows.Primitives
import NostrWorkflows.Event
import NostrWorkflows.Task.Metadata
import NostrWorkflows.Task.Decode
import NostrWorkflows.Task.Merge
import NostrWorkflows.Task.RoundTrip
import NostrWorkflows.Tracker
import NostrWorkflows.Kanban
import NostrWorkflows.Errors
