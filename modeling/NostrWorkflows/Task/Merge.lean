import NostrWorkflows.Task.Decode

/-!
# How the metadata decoder combines tags

`TaskMetadata::try_from` (`nipxxa.rs:344-407`) is one pass over the tags from
`TaskMetadata::new`, so decoding `xs ++ ys` is decoding `xs` and then running the loop on `ys`
from that state. The loop body commutes with `merge` on the left (the step lemma
`tryFromStep_merge`), so a run from any state is the run from `new` merged onto it
(`foldlM_merge`). Decoding a concatenation is then the two decodings merged, and the first
part's error comes first: metadata can be decoded tag list by tag list.

Within one list only the order of the tags of each kind matters: two lists with the same tags
of every kind, in the same order within each kind (`SameByKind`), have the same closed form and
the same set of failing tags, so they decode alike or both fail.
-/

namespace NostrWorkflows
namespace TaskMetadata

variable {Url PublicKey : Type}

/-- Two decodings combined as one pass combines consecutive runs of tags: the later run's scalar
fields win where it set them, `archived` is set by either, hashtags and users concatenate. -/
def merge (a b : TaskMetadata Url PublicKey) : TaskMetadata Url PublicKey where
  title := b.title.or a.title
  image := b.image.or a.image
  publishedAt := b.publishedAt.or a.publishedAt
  dueAt := b.dueAt.or a.dueAt
  archived := b.archived.or a.archived
  tags := a.tags ++ b.tags
  users := a.users ++ b.users

@[simp] theorem merge_new (a : TaskMetadata Url PublicKey) : a.merge new = a := by
  simp [merge, new]

variable (url : TextCodec Url) (pk : TextCodec PublicKey)

/-- The step lemma: the loop body on a merged state is the loop body on the later part, merged. -/
theorem tryFromStep_merge (a b : TaskMetadata Url PublicKey) (tag : Tag) :
    tryFromStep url pk (a.merge b) tag = (tryFromStep url pk b tag).map a.merge := by
  unfold tryFromStep parseTimestamp
  cases tag.kind <;> cases tag.content <;> dsimp only
  case image.some s => cases url.parse s <;> rfl
  case publishedAt.some s => cases parseU64 s <;> rfl
  case dueAt.some s => cases parseU64 s <;> rfl
  case singleLetter.some c s | custom.some c s =>
    split_ifs
    · simp [merge, addTag, Except.map]
    · cases pk.parse s <;> simp [merge, addUser, Except.map]
    · rfl
  case singleLetter.none =>
    simp only [ite_self]
    rfl
  all_goals rfl

/-- The run lemma: the loop from a merged state is the loop from the later state, merged. -/
theorem foldlM_merge (a : TaskMetadata Url PublicKey) (tags : List Tag)
    (b : TaskMetadata Url PublicKey) :
    tags.foldlM (tryFromStep url pk) (a.merge b) =
      (tags.foldlM (tryFromStep url pk) b).map a.merge := by
  induction tags generalizing b with
  | nil => rfl
  | cons tag tags ih =>
    rw [List.foldlM_cons, List.foldlM_cons, tryFromStep_merge]
    cases tryFromStep url pk b tag with
    | error e => rfl
    | ok b' => exact ih b'

/-- Decoding a concatenation merges the decodings of its parts, and an error in the first part
comes before any in the second. -/
theorem tryFrom_append (xs ys : List Tag) :
    tryFrom url pk (xs ++ ys) =
      (tryFrom url pk xs).bind fun a => (tryFrom url pk ys).map a.merge := by
  unfold tryFrom
  rw [List.foldlM_append]
  cases xs.foldlM (tryFromStep url pk) new with
  | error e => rfl
  | ok a =>
    have h := foldlM_merge url pk a ys new
    rw [merge_new] at h
    exact h

/-! ### Tags of different kinds -/

/-- Two tag lists with the same tags of every kind, in the same order within each kind. -/
def SameByKind (tags₁ tags₂ : List Tag) : Prop :=
  ∀ k, tags₁.filter (fun tag => tag.kind = k) = tags₂.filter (fun tag => tag.kind = k)

theorem SameByKind.symm {tags₁ tags₂ : List Tag} (h : SameByKind tags₁ tags₂) :
    SameByKind tags₂ tags₁ :=
  fun k => (h k).symm

theorem SameByKind.mem {tags₁ tags₂ : List Tag} (h : SameByKind tags₁ tags₂) {tag : Tag}
    (ht : tag ∈ tags₂) : tag ∈ tags₁ := by
  have hk : tag ∈ tags₂.filter (fun t => t.kind = tag.kind) := List.mem_filter.mpr ⟨ht, by simp⟩
  rw [← h] at hk
  exact (List.mem_filter.mp hk).1

theorem SameByKind.any {tags₁ tags₂ : List Tag} (h : SameByKind tags₁ tags₂) (k : TagKind) :
    (tags₁.any fun tag => tag.kind = k) = tags₂.any fun tag => tag.kind = k := by
  refine Bool.eq_iff_iff.mpr ?_
  simp only [List.any_eq_true]
  exact ⟨fun ⟨t, ht, hk⟩ => ⟨t, h.symm.mem ht, hk⟩, fun ⟨t, ht, hk⟩ => ⟨t, h.mem ht, hk⟩⟩

theorem metadataOf_of_sameByKind {tags₁ tags₂ : List Tag} (h : SameByKind tags₁ tags₂) :
    metadataOf url pk tags₁ = metadataOf url pk tags₂ := by
  unfold metadataOf lastContent
  rw [h .title, h .image, h .publishedAt, h .dueAt, h TagKind.t, h TagKind.p, h.any]

/-- Decoding sees only the order of the tags of each kind: two lists with the same tags of every
kind, in the same order within each kind, decode to the same metadata, or both fail (possibly
with different errors, as the first bad tag in list order decides). -/
theorem tryFrom_of_sameByKind {tags₁ tags₂ : List Tag} (h : SameByKind tags₁ tags₂) :
    tryFrom url pk tags₂ = tryFrom url pk tags₁ ∨
      ∃ e₁ e₂, tryFrom url pk tags₁ = .error e₁ ∧ tryFrom url pk tags₂ = .error e₂ := by
  have hnone : tags₁.findSome? (scalarError url) = none ↔
      tags₂.findSome? (scalarError url) = none := by
    simp only [List.findSome?_eq_none_iff]
    exact ⟨fun h₁ t ht => h₁ t (h.mem ht), fun h₂ t ht => h₂ t (h.symm.mem ht)⟩
  simp only [tryFrom_eq_metadataSpec, metadataSpec]
  cases h₁ : tags₁.findSome? (scalarError url) <;> cases h₂ : tags₂.findSome? (scalarError url)
  · exact .inl (by rw [metadataOf_of_sameByKind url pk h])
  · simp [h₁, h₂] at hnone
  · simp [h₁, h₂] at hnone
  · exact .inr ⟨_, _, rfl, rfl⟩

theorem tryFrom_of_sameByKind_swap :
    SameByKind [Tag.custom (.custom "title") ["a"], Tag.hashtag "x"]
        [Tag.hashtag "x", Tag.custom (.custom "title") ["a"]] ∧
      (tryFrom .verbatim .verbatim [Tag.hashtag "x", Tag.custom (.custom "title") ["a"]] =
          tryFrom .verbatim .verbatim [Tag.custom (.custom "title") ["a"], Tag.hashtag "x"] ∨
        ∃ e₁ e₂, tryFrom .verbatim .verbatim [Tag.custom (.custom "title") ["a"], Tag.hashtag "x"] =
            .error e₁ ∧
          tryFrom .verbatim .verbatim [Tag.hashtag "x", Tag.custom (.custom "title") ["a"]] =
            .error e₂) := by
  have hs : SameByKind [Tag.custom (.custom "title") ["a"], Tag.hashtag "x"]
      [Tag.hashtag "x", Tag.custom (.custom "title") ["a"]] := by
    intro k
    by_cases h₁ : TagKind.title = k
    · subst h₁
      simp [List.filter, TagKind.t]
    · by_cases h₂ : TagKind.t = k <;> simp [List.filter, h₁, h₂]
  exact ⟨hs, tryFrom_of_sameByKind .verbatim .verbatim hs⟩

end TaskMetadata
end NostrWorkflows
