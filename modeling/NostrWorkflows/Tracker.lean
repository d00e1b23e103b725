import NostrWorkflows.Event

/-!
# Trackers (NIP-XXE, `nipxxe.rs`)

`CoordinateLabel` (`nipxxe.rs:48-82`), `parse_a_tag` (`nipxxe.rs:129-143`) and the decoder
`TryFrom<&Event> for Tracker<WorkflowSpecificData>` (`nipxxe.rs:145-192`), generic over the
payload's conversion from the whole event. The decoder scans the tags twice, once for the
tracked item and once for the workflow, and keeps the first tag of each scan that parses as a
labelled coordinate with the wanted label. `parse_a_tag` reads positions 1 and 2 of any tag:
nothing in either scan looks at the tag's kind.
-/

namespace NostrWorkflows

/-! ### Labels -/

/-- `CoordinateLabel`. -/
inductive CoordinateLabel where
  | none
  | trackedItem
  | workflow
  | custom (label : String)
  deriving DecidableEq, Repr

/-- `CoordinateLabelError`. -/
inductive CoordinateLabelError where
  | wrongLabel
  deriving DecidableEq, Repr

namespace CoordinateLabel

/-- `CoordinateLabel::from_str`: never an error. -/
def fromStr (s : String) : Except CoordinateLabelError CoordinateLabel :=
  match s with
  | "tracked_item" => .ok trackedItem
  | "workflow" => .ok workflow
  | _ => .ok (custom s)

/-- `CoordinateLabel::to_string`. -/
def toString : CoordinateLabel → String
  | trackedItem => "tracked_item"
  | workflow => "workflow"
  | none => ""
  | custom s => s

theorem fromStr_custom {s : String} (h1 : s ≠ "tracked_item") (h2 : s ≠ "workflow") :
    fromStr s = .ok (custom s) := by
  unfold fromStr
  split <;> simp_all

/-- The printed label parses back to itself, except `None`, which prints as the empty string
and parses back as `Custom("")`, and the custom labels that spell a named one. -/
theorem fromStr_toString_iff :
    (∀ label : CoordinateLabel, fromStr label.toString = .ok label ↔
      label ≠ none ∧ label ≠ custom "tracked_item" ∧ label ≠ custom "workflow") ∧
    none.toString = "" ∧ fromStr none.toString = .ok (custom "") := by
  refine ⟨fun label => ?_, rfl, by decide⟩
  cases label with
  | custom s =>
    by_cases h1 : s = "tracked_item"
    · subst h1
      decide
    · by_cases h2 : s = "workflow"
      · subst h2
        decide
      · simp [toString, fromStr_custom h1 h2, h1, h2]
  | _ => decide

theorem fromStr_eq_trackedItem {s : String} :
    fromStr s = .ok trackedItem ↔ s = "tracked_item" := by
  unfold fromStr
  split <;> simp_all

theorem fromStr_eq_workflow {s : String} : fromStr s = .ok workflow ↔ s = "workflow" := by
  unfold fromStr
  split <;> simp_all

end CoordinateLabel

/-! ### Labelled coordinates -/

/-- `LabelledCoordinate`. -/
structure LabelledCoordinate (Coordinate : Type) where
  coordinate : Coordinate
  label : CoordinateLabel
  deriving DecidableEq, Repr

/-- `TrackerError`. -/
inductive TrackerError where
  | wrongKind (kind : Kind)
  | missingTag (tag : String)
  | missingIdentifier
  | invalidATag
  | missingTrackedItem
  | missingWorkflow
  | invalidUrl (url : String)
  | invalidTimestamp
  | cannotGetWorkflowSpecificData
  | duplicateTag (tag : String)
  | invalidTagFormat (tag : String)
  deriving DecidableEq, Repr

variable {Coordinate : Type}

/-- `parse_a_tag`, with `coordinate` the library's `Coordinate::from_str`. -/
def parseATag (coordinate : String → Option Coordinate) (tag : Tag) :
    Except TrackerError (LabelledCoordinate Coordinate) :=
  let tag := tag.toVec
  if h : 2 ≤ tag.length then
    match coordinate tag[1] with
    | none => .error .invalidATag
    | some c =>
      match tag[2]? with
      | some label =>
        match CoordinateLabel.fromStr label with
        | .ok l => .ok ⟨c, l⟩
        | .error _ => .error .invalidATag
      | none => .ok ⟨c, .none⟩
  else .error .invalidATag

/-- The scan of `nipxxe.rs:159-170` and `172-183`: the coordinate of the first tag that
`parse_a_tag` reads with label `label`. -/
def findLabelled (coordinate : String → Option Coordinate) (label : CoordinateLabel)
    (tags : List Tag) : Option Coordinate :=
  tags.findSome? fun tag =>
    match parseATag coordinate tag with
    | .ok labelled => if labelled.label = label then some labelled.coordinate else none
    | .error _ => none

/-- The coordinate a tag carries under the label `label`: its value at index 1 when that
parses as a coordinate and its value at index 2 is exactly `label`. -/
def labelledBy (coordinate : String → Option Coordinate) (label : String) (tag : Tag) :
    Option Coordinate :=
  match tag.values with
  | c :: l :: _ => if l = label then coordinate c else none
  | _ => none

/-! ### The decoder -/

/-- `TagStandard`, as far as this code reads it: an identifier, or another standardized form. -/
inductive TagStandard where
  | identifier (identifier : String)
  | other
  deriving DecidableEq, Repr

/-- `Tracker`. -/
structure Tracker (Coordinate WorkflowSpecificData : Type) where
  id : String
  trackedItem : Coordinate
  workflow : Coordinate
  workflowSpecificData : WorkflowSpecificData
  deriving DecidableEq, Repr

/-- `Tags::find_standardized`: the first tag of kind `kind`, standardized by `standardize`
(`Tag::as_standardized`). -/
def findStandardized (standardize : Tag → Option TagStandard) (kind : TagKind) (tags : List Tag) :
    Option TagStandard :=
  (tags.find? fun tag => tag.kind = kind).bind standardize

section Decoder

variable {PublicKey WorkflowSpecificData ε : Type}

/-- `TryFrom<&Event> for Tracker<WorkflowSpecificData>`. The library's parts are parameters:
`trackerKind` is `Kind::Tracker`, `coordinate` is `Coordinate::from_str`, `standardize` is
`Tag::as_standardized`, and `workflowSpecificData` is the payload's `TryFrom<Event>`. -/
def Tracker.tryFrom (trackerKind : Kind) (coordinate : String → Option Coordinate)
    (standardize : Tag → Option TagStandard)
    (workflowSpecificData : Event PublicKey → Except ε WorkflowSpecificData)
    (value : Event PublicKey) : Except TrackerError (Tracker Coordinate WorkflowSpecificData) :=
  let event := value
  if event.kind ≠ trackerKind then .error (.wrongKind event.kind)
  else
    match findStandardized standardize TagKind.d event.tags with
    | none => .error .missingIdentifier
    | some .other => .error .missingIdentifier
    | some (.identifier mutableIdentifier) =>
      match findLabelled coordinate .trackedItem event.tags with
      | none => .error .missingTrackedItem
      | some trackedItem =>
        match findLabelled coordinate .workflow event.tags with
        | none => .error .missingWorkflow
        | some workflow =>
          match workflowSpecificData value with
          | .error _ => .error .cannotGetWorkflowSpecificData
          | .ok data => .ok ⟨mutableIdentifier, trackedItem, workflow, data⟩

variable (coordinate : String → Option Coordinate)

/-- One tag of the scan for a named label is `labelledBy` that label's string. -/
theorem parseATag_labelledBy {label : CoordinateLabel} {labelStr : String}
    (hlabel : ∀ s, CoordinateLabel.fromStr s = .ok label ↔ s = labelStr)
    (hnone : label ≠ .none) (tag : Tag) :
    (match parseATag coordinate tag with
      | .ok labelled => if labelled.label = label then some labelled.coordinate else none
      | .error _ => none) = labelledBy coordinate labelStr tag := by
  obtain ⟨kind, values⟩ := tag
  unfold parseATag labelledBy
  simp only [Tag.toVec]
  match values with
  | [] => rfl
  | [c] => cases hc : coordinate c <;> simp [hc, Ne.symm hnone]
  | c :: l :: rest =>
    cases hc : coordinate c with
    | none => simp [hc]
    | some x =>
      obtain ⟨lab, hlab⟩ : ∃ lab, CoordinateLabel.fromStr l = .ok lab := by
        unfold CoordinateLabel.fromStr
        split <;> exact ⟨_, rfl⟩
      have hiff : lab = label ↔ l = labelStr := by
        rw [← hlabel l, hlab, Except.ok.injEq]
      simp [hc, hlab, hiff]

theorem findLabelled_trackedItem (tags : List Tag) :
    findLabelled coordinate .trackedItem tags =
      tags.findSome? (labelledBy coordinate "tracked_item") := by
  unfold findLabelled
  simp only [parseATag_labelledBy coordinate (fun _ => CoordinateLabel.fromStr_eq_trackedItem)
    (by decide)]

theorem findLabelled_workflow (tags : List Tag) :
    findLabelled coordinate .workflow tags = tags.findSome? (labelledBy coordinate "workflow") := by
  unfold findLabelled
  simp only [parseATag_labelledBy coordinate (fun _ => CoordinateLabel.fromStr_eq_workflow)
    (by decide)]

variable (trackerKind : Kind) (standardize : Tag → Option TagStandard)
  (workflowSpecificData : Event PublicKey → Except ε WorkflowSpecificData)

/-- The tracker decoder by its checks, in order: the kind, the identifier, the first tag of any
kind whose value at index 1 is a coordinate and whose value at index 2 is `tracked_item`,
likewise `workflow`, and the payload. -/
def trackerSpec (e : Event PublicKey) : Except TrackerError (Tracker Coordinate WorkflowSpecificData) :=
  if e.kind ≠ trackerKind then .error (.wrongKind e.kind)
  else
    match findStandardized standardize TagKind.d e.tags,
      e.tags.findSome? (labelledBy coordinate "tracked_item"),
      e.tags.findSome? (labelledBy coordinate "workflow"), workflowSpecificData e with
    | some (.identifier id), some item, some workflow, .ok data => .ok ⟨id, item, workflow, data⟩
    | some (.identifier _), some _, some _, .error _ => .error .cannotGetWorkflowSpecificData
    | some (.identifier _), some _, none, _ => .error .missingWorkflow
    | some (.identifier _), none, _, _ => .error .missingTrackedItem
    | _, _, _, _ => .error .missingIdentifier

theorem tryFrom_eq_trackerSpec (e : Event PublicKey) :
    Tracker.tryFrom trackerKind coordinate standardize workflowSpecificData e =
      trackerSpec coordinate trackerKind standardize workflowSpecificData e := by
  unfold Tracker.tryFrom trackerSpec
  simp only [findLabelled_trackedItem, findLabelled_workflow]
  split_ifs
  · rfl
  · rcases findStandardized standardize TagKind.d e.tags with _ | _ | _ <;>
    rcases e.tags.findSome? (labelledBy coordinate "tracked_item") with _ | _ <;>
    rcases e.tags.findSome? (labelledBy coordinate "workflow") with _ | _ <;>
    rcases workflowSpecificData e with _ | _ <;> rfl

/-- A tag of kind `e` labelled `tracked_item` is taken as the tracked item, though the event
has no `a` tag with that label. -/
theorem tryFrom_e_tag_tracked_item (author : PublicKey) (id item board : String)
    (cItem cBoard : Coordinate) (hid : standardize (Tag.identifier id) = some (.identifier id))
    (hitem : coordinate item = some cItem) (hboard : coordinate board = some cBoard) :
    Tracker.tryFrom trackerKind coordinate standardize (fun _ => (.ok () : Except Unit Unit))
        ⟨author, trackerKind, "",
          [Tag.identifier id, ⟨"e", [item, "tracked_item"]⟩, ⟨"a", [board, "workflow"]⟩]⟩ =
      .ok ⟨id, cItem, cBoard, ()⟩ := by
  have hd : findStandardized standardize TagKind.d
      [Tag.identifier id, ⟨"e", [item, "tracked_item"]⟩, ⟨"a", [board, "workflow"]⟩] =
        some (.identifier id) := by
    simp [findStandardized, hid]
  have h1 : labelledBy coordinate "tracked_item" (Tag.identifier id) = none := rfl
  have h2 : labelledBy coordinate "tracked_item" ⟨"e", [item, "tracked_item"]⟩ = some cItem := by
    simp [labelledBy, hitem]
  have h3 : labelledBy coordinate "workflow" (Tag.identifier id) = none := rfl
  have h4 : labelledBy coordinate "workflow" ⟨"e", [item, "tracked_item"]⟩ = none := by
    simp [labelledBy]
  have h5 : labelledBy coordinate "workflow" ⟨"a", [board, "workflow"]⟩ = some cBoard := by
    simp [labelledBy, hboard]
  simp [Tracker.tryFrom, hd, findLabelled_trackedItem, findLabelled_workflow, List.findSome?_cons,
    h1, h2, h3, h4, h5]

end Decoder

theorem tryFrom_e_tag_tracked_item_example :
    (fun tag => tag.content.map TagStandard.identifier) (Tag.identifier "tracker-1") =
        some (.identifier "tracker-1") ∧
      Nip01.Coordinate.parse
          "30023:b3e392b11f5d4f28321cedd09303a748acfd0487aea5a7450b3481c60b6e4f87:task-1" =
        some ⟨⟨30023⟩, "b3e392b11f5d4f28321cedd09303a748acfd0487aea5a7450b3481c60b6e4f87", "task-1"⟩ ∧
      Nip01.Coordinate.parse
          "30024:b3e392b11f5d4f28321cedd09303a748acfd0487aea5a7450b3481c60b6e4f87:board-1" =
        some ⟨⟨30024⟩, "b3e392b11f5d4f28321cedd09303a748acfd0487aea5a7450b3481c60b6e4f87", "board-1"⟩ ∧
      Tracker.tryFrom ⟨30000⟩ Nip01.Coordinate.parse (fun tag => tag.content.map TagStandard.identifier)
          (fun _ => (.ok () : Except Unit Unit))
          ⟨"b3e392b11f5d4f28321cedd09303a748acfd0487aea5a7450b3481c60b6e4f87", ⟨30000⟩, "",
            [Tag.identifier "tracker-1",
              ⟨"e", ["30023:b3e392b11f5d4f28321cedd09303a748acfd0487aea5a7450b3481c60b6e4f87:task-1",
                "tracked_item"]⟩,
              ⟨"a", ["30024:b3e392b11f5d4f28321cedd09303a748acfd0487aea5a7450b3481c60b6e4f87:board-1",
                "workflow"]⟩]⟩ =
        .ok ⟨"tracker-1", ⟨⟨30023⟩, "b3e392b11f5d4f28321cedd09303a748acfd0487aea5a7450b3481c60b6e4f87", "task-1"⟩,
          ⟨⟨30024⟩, "b3e392b11f5d4f28321cedd09303a748acfd0487aea5a7450b3481c60b6e4f87", "board-1"⟩, ()⟩ :=
  ⟨rfl, rfl, rfl, tryFrom_e_tag_tracked_item Nip01.Coordinate.parse ⟨30000⟩ _
    "b3e392b11f5d4f28321cedd09303a748acfd0487aea5a7450b3481c60b6e4f87" "tracker-1"
    "30023:b3e392b11f5d4f28321cedd09303a748acfd0487aea5a7450b3481c60b6e4f87:task-1"
    "30024:b3e392b11f5d4f28321cedd09303a748acfd0487aea5a7450b3481c60b6e4f87:board-1" _ _ rfl rfl rfl⟩

end NostrWorkflows
