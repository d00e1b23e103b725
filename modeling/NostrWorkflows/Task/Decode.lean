import NostrWorkflows.Task.Metadata

/-!
# The metadata decoder over every tag list

`TaskMetadata::try_from` (`nipxxa.rs:344-407`) in closed form: the first image or timestamp
tag whose content does not parse decides the error; otherwise each scalar field is the
content of the last tag of its kind that has one, `archived` is the presence of an
`archived` tag, and the `t` and `p` tags are collected in order. The proof is one step lemma
(the loop body on the closed form of a prefix gives the closed form of the prefix extended by
one tag) and a snoc induction over the tags.
-/

namespace NostrWorkflows
namespace TaskMetadata

variable {Url PublicKey : Type} (url : TextCodec Url) (pk : TextCodec PublicKey)

/-! ### Closed form -/

/-- The error the decoder returns on one tag: an image whose content is no URL, or a
timestamp whose content is no `u64`. -/
def scalarError (tag : Tag) : Option TaskError :=
  match tag.kind, tag.content with
  | .image, some s => if (url.parse s).isNone then some (.invalidUrl s) else none
  | .publishedAt, some s => if (parseU64 s).isNone then some (.invalidTimestamp s) else none
  | .dueAt, some s => if (parseU64 s).isNone then some (.invalidTimestamp s) else none
  | _, _ => none

/-- The content of the last tag of kind `k` that has one. -/
def lastContent (k : TagKind) (tags : List Tag) : Option String :=
  ((tags.filter fun tag => tag.kind = k).filterMap Tag.content).getLast?

/-- The user of a `p` tag whose content is a public key, with the role of its third value. -/
def userOf (tag : Tag) : Option (PublicKey × TaskUserRole) :=
  (tag.content.bind pk.parse).map fun key => (key, TaskUserRole.fromOption tag.toVec[2]?)

/-- The metadata of a tag list that has no `scalarError`. -/
def metadataOf (tags : List Tag) : TaskMetadata Url PublicKey where
  title := lastContent .title tags
  image := (lastContent .image tags).bind url.parse
  publishedAt := ((lastContent .publishedAt tags).bind parseU64).map Timestamp.fromSecs
  dueAt := ((lastContent .dueAt tags).bind parseU64).map Timestamp.fromSecs
  archived := if tags.any fun tag => tag.kind = .archived then some true else none
  tags := (tags.filter fun tag => tag.kind = TagKind.t).filterMap Tag.content
  users := (tags.filter fun tag => tag.kind = TagKind.p).filterMap (userOf pk)

/-- What `TaskMetadata::try_from` returns, by the spec's reading of the decoder. -/
def metadataSpec (tags : List Tag) : Except TaskError (TaskMetadata Url PublicKey) :=
  match tags.findSome? (scalarError url) with
  | some e => .error e
  | none => .ok (metadataOf url pk tags)

/-- A tag the decoder passes over: of a kind it does not read, or without content and of a
kind whose payload is the content (every kind it reads but `archived`). -/
def Inert (tag : Tag) : Prop :=
  tag.kind ≠ .archived ∧
    (tag.content = none ∨
      tag.kind ∉ [.title, .image, .publishedAt, .dueAt, TagKind.t, TagKind.p])

instance : DecidablePred Inert := fun _ => inferInstanceAs (Decidable (_ ∧ _))

/-! ### One tag -/

variable {url pk}

@[simp] theorem lastContent_append_singleton (k : TagKind) (tags : List Tag) (tag : Tag) :
    lastContent k (tags ++ [tag]) =
      (if tag.kind = k then tag.content else none).or (lastContent k tags) := by
  unfold lastContent
  rw [List.filter_append, List.filterMap_append, List.getLast?_append]
  by_cases hk : tag.kind = k <;> cases hc : tag.content <;> simp [hk, hc]

theorem tryFromStep_inert {m : TaskMetadata Url PublicKey} {tag : Tag} (h : Inert tag) :
    tryFromStep url pk m tag = .ok m := by
  obtain ⟨harch, hread⟩ := h
  unfold tryFromStep
  cases hk : tag.kind <;> cases hc : tag.content <;>
    simp_all [TagKind.t, TagKind.p]

/-- The `t` and `p` lists of the closed form gain the new tag's entry when it is of their kind. -/
theorem filterMap_kind_append_singleton {β : Type} (k : TagKind) (f : Tag → Option β)
    (tags : List Tag) (tag : Tag) :
    ((tags ++ [tag]).filter fun t => t.kind = k).filterMap f =
      if tag.kind = k then (tags.filter fun t => t.kind = k).filterMap f ++ (f tag).toList
      else (tags.filter fun t => t.kind = k).filterMap f := by
  by_cases h : tag.kind = k <;> cases hf : f tag <;> simp [h, hf]

/-- The closed form of a prefix extended by one tag, field by field. -/
theorem metadataOf_append_singleton (tags : List Tag) (tag : Tag) :
    metadataOf url pk (tags ++ [tag]) =
      { title := (if tag.kind = .title then tag.content else none).or (lastContent .title tags)
        image := ((if tag.kind = .image then tag.content else none).or
          (lastContent .image tags)).bind url.parse
        publishedAt := (((if tag.kind = .publishedAt then tag.content else none).or
          (lastContent .publishedAt tags)).bind parseU64).map Timestamp.fromSecs
        dueAt := (((if tag.kind = .dueAt then tag.content else none).or
          (lastContent .dueAt tags)).bind parseU64).map Timestamp.fromSecs
        archived := if tag.kind = .archived then some true else (metadataOf url pk tags).archived
        tags := if tag.kind = TagKind.t then (metadataOf url pk tags).tags ++ tag.content.toList
          else (metadataOf url pk tags).tags
        users := if tag.kind = TagKind.p then (metadataOf url pk tags).users ++ (userOf pk tag).toList
          else (metadataOf url pk tags).users } := by
  simp only [metadataOf, lastContent_append_singleton, filterMap_kind_append_singleton]
  by_cases ha : tag.kind = .archived <;> simp [ha]

/-- The step lemma: the loop body applied to the closed form of a prefix. -/
theorem tryFromStep_metadataOf (tags : List Tag) (tag : Tag) :
    tryFromStep url pk (metadataOf url pk tags) tag =
      match scalarError url tag with
      | some e => .error e
      | none => .ok (metadataOf url pk (tags ++ [tag])) := by
  rw [metadataOf_append_singleton]
  unfold tryFromStep scalarError parseTimestamp
  cases hk : tag.kind <;> cases hc : tag.content <;>
    simp only [reduceCtorEq, ↓reduceIte, TagKind.t, TagKind.p, Option.none_or, Option.or_some,
      Option.some_bind, Option.toList_none, List.append_nil]
  case image.some s => cases url.parse s <;> rfl
  case publishedAt.some s => cases parseU64 s <;> rfl
  case dueAt.some s => cases parseU64 s <;> rfl
  case singleLetter.none c =>
    simp only [userOf, hc, Option.none_bind, Option.map_none', Option.toList_none, List.append_nil,
      ite_self]
    rfl
  case singleLetter.some c s =>
    by_cases ht : c = 't'
    · subst ht; rfl
    by_cases hp : c = 'p'
    · subst hp
      cases h : pk.parse s <;>
        simp only [userOf, hc, h, Option.some_bind, Option.map_some', Option.map_none',
          Option.toList_none, Option.toList_some, List.append_nil] <;> rfl
    · simp only [TagKind.singleLetter.injEq, ht, hp, if_false]
      rfl
  all_goals rfl

/-! ### Every tag list -/

theorem tryFrom_append_singleton (tags : List Tag) (tag : Tag) :
    tryFrom url pk (tags ++ [tag]) = (tryFrom url pk tags).bind (tryFromStep url pk · tag) := by
  simp only [tryFrom, List.foldlM_append, List.foldlM_cons, List.foldlM_nil, bind_pure]
  rfl

/-- The run lemma: the decoder computes the closed form. -/
theorem tryFrom_eq_metadataSpec (tags : List Tag) :
    tryFrom url pk tags = metadataSpec url pk tags := by
  induction tags using List.reverseRecOn with
  | nil => rfl
  | append_singleton tags tag ih =>
    rw [tryFrom_append_singleton, ih]
    unfold metadataSpec
    rw [List.findSome?_append]
    cases tags.findSome? (scalarError url) with
    | some e => rfl
    | none =>
      simp only [Option.none_or, List.findSome?, Except.bind, tryFromStep_metadataOf]
      cases scalarError url tag <;> rfl

theorem tryFrom_insert_inert (pre post : List Tag) {tag : Tag} (h : Inert tag) :
    tryFrom url pk (pre ++ tag :: post) = tryFrom url pk (pre ++ post) := by
  simp only [tryFrom, List.foldlM_append, List.foldlM_cons, tryFromStep_inert h]
  rfl

variable (url pk)

theorem tryFrom_closed_form :
    (∀ tags, tryFrom url pk tags = metadataSpec url pk tags) ∧
    (∀ pre post tag, Inert tag → tryFrom url pk (pre ++ tag :: post) = tryFrom url pk (pre ++ post)) :=
  ⟨tryFrom_eq_metadataSpec, fun pre post _ h => tryFrom_insert_inert pre post h⟩

theorem tryFrom_closed_form_inert_e_tag :
    Inert ⟨"e", ["x"]⟩ ∧
      tryFrom .verbatim .verbatim ([⟨"title", ["a"]⟩] ++ ⟨"e", ["x"]⟩ :: [Tag.hashtag "t"]) =
        tryFrom .verbatim .verbatim ([⟨"title", ["a"]⟩] ++ [Tag.hashtag "t"]) :=
  ⟨by decide, (tryFrom_closed_form .verbatim .verbatim).2 _ _ _ (by decide)⟩

/- Repeated titles: the last one with content wins. -/
example : tryFrom .verbatim .verbatim [⟨"title", ["a"]⟩, ⟨"title", ["b"]⟩, ⟨"title", []⟩] =
    .ok ({ new with title := some "b" } : TaskMetadata String String) := rfl

end TaskMetadata
end NostrWorkflows
