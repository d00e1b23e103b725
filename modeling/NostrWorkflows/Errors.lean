import NostrWorkflows.Kanban

/-!
# How the errors display

The `Display` impls of `TaskUserRole` (`nipxxa.rs:84-93`), `TaskError` (`nipxxa.rs:332-342`)
and `TrackerError` (`nipxxe.rs:111-127`), with `Kind`'s `Display` from the library (its number).
The main results: a role displays as the role string the encoder writes, and no two different
errors of either type display alike, whatever URL, timestamp, tag name or kind they carry.
Every message starts with ten characters of its own, which separates the variants; within a
variant the argument follows a common prefix and is recovered by cancelling it.
-/

namespace NostrWorkflows

/-- `Kind`'s `Display`: its number in decimal. -/
def Kind.toString (kind : Kind) : String := ToString.toString kind.code.toNat

/-- `Display for TaskUserRole`. -/
def TaskUserRole.fmt : TaskUserRole → String
  | .none => ""
  | .assignee => "assignee"
  | .client => "client"
  | .custom role => role

/-- `Display for TaskError`. -/
def TaskError.fmt : TaskError → String
  | .wrongKind kind => "Wrong kind: " ++ kind.toString
  | .missingIdentifier => "Missing identifier"
  | .missingContent => "Missing content"
  | .invalidUrl url => "Invalid URL: " ++ url
  | .invalidTimestamp timestamp => "Invalid timestamp: " ++ timestamp

/-- `Display for TrackerError`; `trackerKind` is `Kind::Tracker`. -/
def TrackerError.fmt (trackerKind : Kind) : TrackerError → String
  | .wrongKind kind =>
    "wrong event kind. Expected: " ++ (trackerKind.toString ++ ("; Got: " ++ kind.toString))
  | .missingTag tag => "missing required tag: " ++ tag
  | .missingIdentifier => "missing identifier"
  | .missingTrackedItem => "missing tracked item reference"
  | .missingWorkflow => "missing workflow reference"
  | .invalidUrl url => "invalid URL: " ++ url
  | .invalidTimestamp => "invalid timestamp"
  | .duplicateTag tag => "duplicate tag found: " ++ tag
  | .invalidTagFormat tag => "invalid tag format: " ++ tag
  | .invalidATag => "invalid a-tag"
  | .cannotGetWorkflowSpecificData => "cannot get workflow specific data"

/-! ### Roles -/

/-- A role displays as the role string the encoder writes (`nipxxa.rs:225`). -/
theorem TaskUserRole.fmt_eq_toString (role : TaskUserRole) : role.fmt = role.toString.getD "" := by
  cases role <;> rfl

/-! ### Cancelling a common prefix -/

theorem append_left_cancel {p x y : String} (h : p ++ x = p ++ y) : x = y :=
  String.ext (List.append_cancel_left (congrArg String.data h))

theorem Kind.toString_injective {k₁ k₂ : Kind} (h : k₁.toString = k₂.toString) : k₁ = k₂ := by
  have hlt : ∀ k : Kind, k.code.toNat < 2 ^ 64 := fun k => by
    have := k.code.toNat_lt_size
    simp only [UInt16.size] at this
    omega
  have h' := congrArg (parseUnsigned 64) h
  simp only [Kind.toString, parseUnsigned_toString _ _ (hlt _), Option.some.injEq] at h'
  cases k₁
  cases k₂
  congr
  exact UInt16.toNat.inj h'

/-! ### Errors -/

/-- Each task error's message starts with ten characters of its own. -/
theorem TaskError.fmt_take_ten (e : TaskError) :
    e.fmt.data.take 10 =
      match e with
      | .wrongKind _ => "Wrong kind".data
      | .missingIdentifier => "Missing id".data
      | .missingContent => "Missing co".data
      | .invalidUrl _ => "Invalid UR".data
      | .invalidTimestamp _ => "Invalid ti".data := by
  cases e <;> rfl

/-- No two different task errors display alike. -/
theorem TaskError.fmt_injective : Function.Injective TaskError.fmt := by
  intro e₁ e₂ h
  have hh := (fmt_take_ten e₁).symm.trans ((congrArg (·.data.take 10) h).trans (fmt_take_ten e₂))
  cases e₁ <;> cases e₂ <;> dsimp only at hh
  all_goals try exact absurd hh (by decide)
  all_goals dsimp only [fmt] at h
  case wrongKind.wrongKind => rw [Kind.toString_injective (append_left_cancel h)]
  case invalidUrl.invalidUrl => rw [append_left_cancel h]
  case invalidTimestamp.invalidTimestamp => rw [append_left_cancel h]
  all_goals rfl

/-- Each tracker error's message starts with ten characters of its own. -/
theorem TrackerError.fmt_take_ten (trackerKind : Kind) (e : TrackerError) :
    (e.fmt trackerKind).data.take 10 =
      match e with
      | .wrongKind _ => "wrong even".data
      | .missingTag _ => "missing re".data
      | .missingIdentifier => "missing id".data
      | .invalidATag => "invalid a-".data
      | .missingTrackedItem => "missing tr".data
      | .missingWorkflow => "missing wo".data
      | .invalidUrl _ => "invalid UR".data
      | .invalidTimestamp => "invalid ti".data
      | .cannotGetWorkflowSpecificData => "cannot get".data
      | .duplicateTag _ => "duplicate ".data
      | .invalidTagFormat _ => "invalid ta".data := by
  cases e <;> rfl

/-- No two different tracker errors display alike. -/
theorem TrackerError.fmt_injective (trackerKind : Kind) :
    Function.Injective (TrackerError.fmt trackerKind) := by
  intro e₁ e₂ h
  have hh := (fmt_take_ten trackerKind e₁).symm.trans
    ((congrArg (·.data.take 10) h).trans (fmt_take_ten trackerKind e₂))
  cases e₁ <;> cases e₂ <;> dsimp only at hh
  all_goals try exact absurd hh (by decide)
  all_goals dsimp only [fmt] at h
  case wrongKind.wrongKind =>
    rw [Kind.toString_injective (append_left_cancel (append_left_cancel (append_left_cancel h)))]
  case missingTag.missingTag => rw [append_left_cancel h]
  case invalidUrl.invalidUrl => rw [append_left_cancel h]
  case duplicateTag.duplicateTag => rw [append_left_cancel h]
  case invalidTagFormat.invalidTagFormat => rw [append_left_cancel h]
  all_goals rfl

/-- An error message names its error: no two different task errors, and no two different tracker
errors, display alike, whatever kind, URL, timestamp or tag name they carry. -/
theorem error_messages_injective :
    Function.Injective TaskError.fmt ∧ ∀ trackerKind, Function.Injective (TrackerError.fmt trackerKind) :=
  ⟨TaskError.fmt_injective, TrackerError.fmt_injective⟩

end NostrWorkflows
