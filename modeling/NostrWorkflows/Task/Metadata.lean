import NostrWorkflows.Event

/-!
# Tasks (NIP-XXA, `nipxxa.rs`)

`TaskUserRole` with its two string conversions (`nipxxa.rs:71-107`), `TaskMetadata` and its
tag codec: the encoder `Into<Tags>` (`nipxxa.rs:172-237`) and the decoder `TryFrom<&Tags>`
(`nipxxa.rs:344-407`), whose single pass over the tags is `List.foldlM` of the loop body in
`Except`, so that an early `return Err` ends the fold. Then `Task`, `Task::to_event_builder`
(`nipxxa.rs:305-314`) and `TryFrom<&Event> for Task` (`nipxxa.rs:409-438`).
-/

namespace NostrWorkflows

/-! ### User roles -/

/-- `TaskUserRole`. -/
inductive TaskUserRole where
  | none
  | assignee
  | client
  | custom (role : String)
  deriving DecidableEq, Repr

namespace TaskUserRole

/-- `TaskUserRole::to_string`: no string for `None`. -/
def toString : TaskUserRole → Option String
  | none => Option.none
  | assignee => some "assignee"
  | client => some "client"
  | custom role => some role

/-- The role named by a string (`nipxxa.rs:99-104`): the two keywords, the empty string as
`None`, anything else as `Custom`. -/
def ofString (role : String) : TaskUserRole :=
  match role with
  | "assignee" => assignee
  | "client" => client
  | "" => none
  | _ => custom role

/-- `From<Option<String>> for TaskUserRole`. -/
def fromOption : Option String → TaskUserRole
  | Option.none => none
  | some role => ofString role

theorem ofString_other {role : String} (h1 : role ≠ "assignee") (h2 : role ≠ "client")
    (h3 : role ≠ "") : ofString role = custom role := by
  unfold ofString
  split <;> simp_all

end TaskUserRole

/-! ### Metadata -/

/-- `TaskMetadata`. -/
structure TaskMetadata (Url PublicKey : Type) where
  title : Option String
  image : Option Url
  publishedAt : Option Timestamp
  dueAt : Option Timestamp
  archived : Option Bool
  tags : List String
  users : List (PublicKey × TaskUserRole)
  deriving DecidableEq, Repr

/-- `TaskError`. -/
inductive TaskError where
  | wrongKind (kind : Kind)
  | missingIdentifier
  | missingContent
  | invalidUrl (url : String)
  | invalidTimestamp (timestamp : String)
  deriving DecidableEq, Repr

namespace TaskMetadata

variable {Url PublicKey : Type}

/-- `TaskMetadata::new`. -/
def new : TaskMetadata Url PublicKey := ⟨none, none, none, none, none, [], []⟩

/-- `TaskMetadata::add_tag`. -/
def addTag (m : TaskMetadata Url PublicKey) (tag : String) : TaskMetadata Url PublicKey :=
  { m with tags := m.tags ++ [tag] }

/-- `TaskMetadata::add_user`. -/
def addUser (m : TaskMetadata Url PublicKey) (pubkey : PublicKey) (role : TaskUserRole) :
    TaskMetadata Url PublicKey :=
  { m with users := m.users ++ [(pubkey, role)] }

/-- The tag of one user reference (`nipxxa.rs:224-233`): `Tag::public_key` when the role has
no string or an empty one, `["p", hex, role]` otherwise. -/
def userTag (pk : TextCodec PublicKey) (user : PublicKey × TaskUserRole) : Tag :=
  let roleStr := user.2.toString.getD ""
  if roleStr = "" then Tag.publicKey pk user.1
  else Tag.custom TagKind.p [pk.print user.1, roleStr]

/-- `Into<Tags> for TaskMetadata`: title, image, published_at, due_at, archived (only when
`Some(true)`), one hashtag per tag, one `p` tag per user. -/
def into (url : TextCodec Url) (pk : TextCodec PublicKey) (m : TaskMetadata Url PublicKey) :
    List Tag :=
  (m.title.map fun title => Tag.custom (.custom "title") [title]).toList ++
  (m.image.map fun image => Tag.custom (.custom "image") [url.print image]).toList ++
  (m.publishedAt.map fun ts => Tag.custom (.custom "published_at") [ts.toString]).toList ++
  (m.dueAt.map fun ts => Tag.custom (.custom "due_at") [ts.toString]).toList ++
  (match m.archived with
    | some true => [Tag.custom (.custom "archived") ["true"]]
    | _ => []) ++
  m.tags.map Tag.hashtag ++
  m.users.map (userTag pk)

/- The kinds of the tags the encoder writes, as the decoder parses them back. -/

@[simp] theorem kind_titleTag (x : String) : (Tag.custom (.custom "title") [x]).kind = .title := rfl

@[simp] theorem kind_imageTag (x : String) : (Tag.custom (.custom "image") [x]).kind = .image := rfl

@[simp] theorem kind_publishedAtTag (x : String) :
    (Tag.custom (.custom "published_at") [x]).kind = .publishedAt := rfl

@[simp] theorem kind_dueAtTag (x : String) : (Tag.custom (.custom "due_at") [x]).kind = .dueAt := rfl

@[simp] theorem kind_archivedTag : (Tag.custom (.custom "archived") ["true"]).kind = .archived := rfl

theorem userTag_kind (pk : TextCodec PublicKey) (user : PublicKey × TaskUserRole) :
    (userTag pk user).kind = TagKind.p := by
  dsimp only [userTag]
  split <;> rfl

/-! ### Builders (`nipxxa.rs:123-169`); the setters are named after the fields they set -/

/-- `TaskMetadata::title`. -/
def setTitle (m : TaskMetadata Url PublicKey) (title : String) : TaskMetadata Url PublicKey :=
  { m with title := some title }

/-- `TaskMetadata::image`. -/
def setImage (m : TaskMetadata Url PublicKey) (image : Url) : TaskMetadata Url PublicKey :=
  { m with image := some image }

/-- `TaskMetadata::published_at`. -/
def setPublishedAt (m : TaskMetadata Url PublicKey) (timestamp : Timestamp) :
    TaskMetadata Url PublicKey :=
  { m with publishedAt := some timestamp }

/-- `TaskMetadata::due_at`. -/
def setDueAt (m : TaskMetadata Url PublicKey) (timestamp : Timestamp) : TaskMetadata Url PublicKey :=
  { m with dueAt := some timestamp }

/-- `TaskMetadata::archived`. -/
def setArchived (m : TaskMetadata Url PublicKey) (archived : Bool) : TaskMetadata Url PublicKey :=
  { m with archived := some archived }

/-- `TaskMetadata::add_tags`. -/
def addTags (m : TaskMetadata Url PublicKey) (tags : List String) : TaskMetadata Url PublicKey :=
  { m with tags := m.tags ++ tags }

/-- A timestamp tag's content read as `u64` seconds (`nipxxa.rs:366-371`, `374-379`). -/
def parseTimestamp (timestampStr : String) : Except TaskError Timestamp :=
  match parseU64 timestampStr with
  | some secs => .ok (Timestamp.fromSecs secs)
  | none => .error (.invalidTimestamp timestampStr)

/-- The body of the decoder's loop (`nipxxa.rs:351-402`) on one tag. -/
def tryFromStep (url : TextCodec Url) (pk : TextCodec PublicKey)
    (m : TaskMetadata Url PublicKey) (tag : Tag) : Except TaskError (TaskMetadata Url PublicKey) :=
  match tag.kind with
  | .title =>
    match tag.content with
    | some title => .ok (m.setTitle title)
    | none => .ok m
  | .image =>
    match tag.content with
    | some imageUrl =>
      match url.parse imageUrl with
      | some image => .ok (m.setImage image)
      | none => .error (.invalidUrl imageUrl)
    | none => .ok m
  | .publishedAt =>
    match tag.content with
    | some s => (parseTimestamp s).map m.setPublishedAt
    | none => .ok m
  | .dueAt =>
    match tag.content with
    | some s => (parseTimestamp s).map m.setDueAt
    | none => .ok m
  | .archived => .ok (m.setArchived true)
  | _ =>
    if tag.kind = TagKind.t then
      match tag.content with
      | some hashtag => .ok (m.addTag hashtag)
      | none => .ok m
    else if tag.kind = TagKind.p then
      match tag.content with
      | some pubkeyStr =>
        match pk.parse pubkeyStr with
        | some pubkey => .ok (m.addUser pubkey (TaskUserRole.fromOption tag.toVec[2]?))
        | none => .ok m
      | none => .ok m
    else .ok m

/-- `TryFrom<&Tags> for TaskMetadata`: the loop from `TaskMetadata::new`, ended by the first
error. -/
def tryFrom (url : TextCodec Url) (pk : TextCodec PublicKey) (tags : List Tag) :
    Except TaskError (TaskMetadata Url PublicKey) :=
  tags.foldlM (tryFromStep url pk) new

end TaskMetadata

/-! ### Tasks -/

/-- `Task`. -/
structure Task (Url PublicKey : Type) where
  id : String
  description : String
  metadata : TaskMetadata Url PublicKey
  deriving DecidableEq, Repr

/-- `nip01::Error`, of which `to_event_builder` returns one variant. -/
inductive Nip01Error where
  | invalidCoordinate
  deriving DecidableEq, Repr

/-- `event::builder::Error`, of which `to_event_builder` returns one variant. -/
inductive BuilderError where
  | nip01 (error : Nip01Error)
  deriving DecidableEq, Repr

namespace Task

variable {Url PublicKey : Type}

/-- `Task::new`. -/
def new (id description : String) : Task Url PublicKey := ⟨id, description, TaskMetadata.new⟩

/-! ### Builders (`nipxxa.rs:257-303`) -/

/-- `Task::title`. -/
def title (task : Task Url PublicKey) (title : String) : Task Url PublicKey :=
  { task with metadata := { task.metadata with title := some title } }

/-- `Task::image`. -/
def image (task : Task Url PublicKey) (image : Url) : Task Url PublicKey :=
  { task with metadata := { task.metadata with image := some image } }

/-- `Task::published_at`. -/
def publishedAt (task : Task Url PublicKey) (timestamp : Timestamp) : Task Url PublicKey :=
  { task with metadata := { task.metadata with publishedAt := some timestamp } }

/-- `Task::due_at`. -/
def dueAt (task : Task Url PublicKey) (timestamp : Timestamp) : Task Url PublicKey :=
  { task with metadata := { task.metadata with dueAt := some timestamp } }

/-- `Task::archived`. -/
def archived (task : Task Url PublicKey) (archived : Bool) : Task Url PublicKey :=
  { task with metadata := { task.metadata with archived := some archived } }

/-- `Task::add_tag`. -/
def addTag (task : Task Url PublicKey) (tag : String) : Task Url PublicKey :=
  { task with metadata := { task.metadata with tags := task.metadata.tags ++ [tag] } }

/-- `Task::add_tags`. -/
def addTags (task : Task Url PublicKey) (tags : List String) : Task Url PublicKey :=
  { task with metadata := { task.metadata with tags := task.metadata.tags ++ tags } }

/-- `Task::add_user`. -/
def addUser (task : Task Url PublicKey) (pubkey : PublicKey) (role : TaskUserRole) :
    Task Url PublicKey :=
  { task with metadata := { task.metadata with users := task.metadata.users ++ [(pubkey, role)] } }

/-- `Task::to_event_builder`. -/
def toEventBuilder (url : TextCodec Url) (pk : TextCodec PublicKey) (task : Task Url PublicKey) :
    Except BuilderError EventBuilder :=
  if task.id = "" then .error (.nip01 .invalidCoordinate)
  else
    let tags := task.metadata.into url pk
    .ok ((EventBuilder.new Kind.task task.description).addTags tags)

/-- The identifier search of `Task::try_from` (`nipxxa.rs:419-429`): the content of the first
`d` tag that has one. -/
def identifier (tags : List Tag) : Option String :=
  tags.findSome? fun tag => if tag.kind = TagKind.d then tag.content else none

/-- `TryFrom<&Event> for Task`. -/
def tryFrom (url : TextCodec Url) (pk : TextCodec PublicKey) (event : Event PublicKey) :
    Except TaskError (Task Url PublicKey) :=
  if event.kind ≠ Kind.task then .error (.wrongKind event.kind)
  else
    match identifier event.tags with
    | none => .error .missingIdentifier
    | some id =>
      let task : Task Url PublicKey := new id event.content
      match TaskMetadata.tryFrom url pk event.tags with
      | .error e => .error e
      | .ok metadata => .ok { task with metadata }

end Task

end NostrWorkflows
