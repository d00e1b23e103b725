import NostrWorkflows.Task.Decode

/-!
# The task codec round trip

Decoding what `Into<Tags>` writes (`nipxxa.rs:172-237` read back by `344-407`) gives the
metadata back up to one normal form: `archived = Some(false)` is not written, and a role is
read back through its string, so `Custom("")`, `Custom("assignee")` and `Custom("client")`
return as `None`, `Assignee` and `Client`. Every metadata the decoder returns is already in
that form. The proof runs the decoder over the encoder's output one segment at a time.

At the event level `Task::to_event_builder` (`nipxxa.rs:305-314`) writes no `d` tag, so
`Task::try_from` finds no identifier in any event built from a task, although `test_task`
expects `["d", id]` first and `test_try_from_event` expects the task back.
-/

namespace NostrWorkflows

/-! ### The normal form -/

/-- Roles as they read back from their string: the three custom roles that spell `None`,
`Assignee` and `Client` become those. -/
def TaskUserRole.normalize : TaskUserRole → TaskUserRole
  | .custom "" => .none
  | .custom "assignee" => .assignee
  | .custom "client" => .client
  | r => r

namespace TaskMetadata

variable {Url PublicKey : Type}

/-- The normal form of the round trip: `archived = Some(false)` becomes `None` and every role
is normalized; titles, URLs, timestamps and the order and multiplicity of tags and users are
kept. -/
def normalize (m : TaskMetadata Url PublicKey) : TaskMetadata Url PublicKey :=
  { m with
    archived := if m.archived = some false then none else m.archived
    users := m.users.map fun user => (user.1, user.2.normalize) }

end TaskMetadata

namespace TaskUserRole

theorem normalize_custom (role : String) : (custom role).normalize = ofString role := by
  unfold normalize ofString
  split <;> split <;> simp_all

/-- The role a `p` tag of the encoder reads back as. -/
theorem fromOption_userTag {PublicKey : Type} (pk : TextCodec PublicKey)
    (user : PublicKey × TaskUserRole) :
    fromOption (TaskMetadata.userTag pk user).toVec[2]? = user.2.normalize := by
  obtain ⟨key, role⟩ := user
  cases role with
  | custom s =>
    by_cases hs : s = ""
    · subst hs
      rfl
    · simp [TaskMetadata.userTag, toString, hs, fromOption, normalize_custom]
  | _ => rfl

/-- `From<Option<String>>` undoes `to_string` up to the normal form. -/
theorem fromOption_toString (role : TaskUserRole) : fromOption role.toString = role.normalize := by
  cases role with
  | custom s => exact (normalize_custom s).symm
  | _ => rfl

theorem normalize_ofString (role : String) : (ofString role).normalize = ofString role := by
  unfold ofString
  split
  · rfl
  · rfl
  · rfl
  · rw [normalize_custom, ofString_other] <;> assumption

theorem normalize_fromOption (o : Option String) :
    (fromOption o).normalize = fromOption o := by
  cases o with
  | none => rfl
  | some role => exact normalize_ofString role

end TaskUserRole

namespace TaskMetadata

variable {Url PublicKey : Type} (url : TextCodec Url) (pk : TextCodec PublicKey)

/-! ### The decoder on each tag the encoder writes -/

section Steps

variable (m : TaskMetadata Url PublicKey)

theorem tryFromStep_title (title : String) :
    tryFromStep url pk m (Tag.custom (.custom "title") [title]) = .ok { m with title := some title } :=
  rfl

theorem tryFromStep_image (image : Url) :
    tryFromStep url pk m (Tag.custom (.custom "image") [url.print image]) =
      .ok { m with image := some image } := by
  show (match url.parse (url.print image) with
    | some image => Except.ok ({ m with image := some image } : TaskMetadata Url PublicKey)
    | none => Except.error (TaskError.invalidUrl (url.print image))) = _
  rw [url.parse_print]

theorem parseTimestamp_toString (ts : Timestamp) : parseTimestamp ts.toString = .ok ts := by
  have h := parseU64_toString ts
  unfold parseTimestamp
  cases hp : parseU64 ts.toString <;> simp_all

theorem tryFromStep_publishedAt (ts : Timestamp) :
    tryFromStep url pk m (Tag.custom (.custom "published_at") [ts.toString]) =
      .ok { m with publishedAt := some ts } := by
  show (parseTimestamp ts.toString).map _ = _
  rw [parseTimestamp_toString]
  rfl

theorem tryFromStep_dueAt (ts : Timestamp) :
    tryFromStep url pk m (Tag.custom (.custom "due_at") [ts.toString]) =
      .ok { m with dueAt := some ts } := by
  show (parseTimestamp ts.toString).map _ = _
  rw [parseTimestamp_toString]
  rfl

theorem tryFromStep_archived :
    tryFromStep url pk m (Tag.custom (.custom "archived") ["true"]) =
      .ok { m with archived := some true } :=
  rfl

theorem tryFromStep_hashtag (hashtag : String) :
    tryFromStep url pk m (Tag.hashtag hashtag) = .ok (m.addTag hashtag) :=
  rfl

theorem userTag_content (user : PublicKey × TaskUserRole) :
    (userTag pk user).content = some (pk.print user.1) := by
  dsimp only [userTag]
  split <;> rfl

theorem tryFromStep_userTag (user : PublicKey × TaskUserRole) :
    tryFromStep url pk m (userTag pk user) = .ok (m.addUser user.1 user.2.normalize) := by
  unfold tryFromStep
  simp only [userTag_kind, userTag_content, pk.parse_print, TaskUserRole.fromOption_userTag]
  rfl

end Steps

/-! ### The encoder's segments -/

theorem foldlM_titleTags (o : Option String) (m : TaskMetadata Url PublicKey) :
    (o.map fun title => Tag.custom (.custom "title") [title]).toList.foldlM (tryFromStep url pk) m =
      .ok { m with title := o.or m.title } := by
  cases o <;> rfl

theorem foldlM_imageTags (o : Option Url) (m : TaskMetadata Url PublicKey) :
    (o.map fun image => Tag.custom (.custom "image") [url.print image]).toList.foldlM
      (tryFromStep url pk) m = .ok { m with image := o.or m.image } := by
  cases o with
  | none => rfl
  | some a => simp [tryFromStep_image]

theorem foldlM_publishedAtTags (o : Option Timestamp) (m : TaskMetadata Url PublicKey) :
    (o.map fun ts => Tag.custom (.custom "published_at") [ts.toString]).toList.foldlM
      (tryFromStep url pk) m = .ok { m with publishedAt := o.or m.publishedAt } := by
  cases o with
  | none => rfl
  | some a => simp [tryFromStep_publishedAt]

theorem foldlM_dueAtTags (o : Option Timestamp) (m : TaskMetadata Url PublicKey) :
    (o.map fun ts => Tag.custom (.custom "due_at") [ts.toString]).toList.foldlM
      (tryFromStep url pk) m = .ok { m with dueAt := o.or m.dueAt } := by
  cases o with
  | none => rfl
  | some a => simp [tryFromStep_dueAt]

theorem foldlM_hashtags (tags : List String) (m : TaskMetadata Url PublicKey) :
    (tags.map Tag.hashtag).foldlM (tryFromStep url pk) m = .ok { m with tags := m.tags ++ tags } := by
  induction tags generalizing m with
  | nil =>
    simp only [List.map_nil, List.append_nil]
    rfl
  | cons h hs ih => simp [tryFromStep_hashtag, ih, addTag]

theorem foldlM_userTags (users : List (PublicKey × TaskUserRole)) (m : TaskMetadata Url PublicKey) :
    (users.map (userTag pk)).foldlM (tryFromStep url pk) m =
      .ok { m with users := m.users ++ users.map fun user => (user.1, user.2.normalize) } := by
  induction users generalizing m with
  | nil =>
    simp only [List.map_nil, List.append_nil]
    rfl
  | cons u us ih => simp [tryFromStep_userTag, ih, addUser]

/-- Decoding the encoding gives the normal form. -/
theorem tryFrom_into (m : TaskMetadata Url PublicKey) :
    tryFrom url pk (m.into url pk) = .ok m.normalize := by
  obtain ⟨title, image, publishedAt, dueAt, archived, tags, users⟩ := m
  simp only [tryFrom, into, List.foldlM_append, foldlM_titleTags, foldlM_imageTags,
    foldlM_publishedAtTags, foldlM_dueAtTags, ok_bind]
  cases archived with
  | none => simp [foldlM_hashtags, foldlM_userTags, normalize, new]
  | some b => cases b <;> simp [foldlM_hashtags, foldlM_userTags, normalize, new, tryFromStep_archived]

/-! ### The decoder's output is in normal form -/

theorem normalize_metadataOf (tags : List Tag) :
    (metadataOf url pk tags).normalize = metadataOf url pk tags := by
  simp only [normalize, metadataOf, List.map_filterMap]
  congr 1
  · split <;> simp
  · refine List.filterMap_congr fun tag _ => ?_
    simp [userOf, Option.map_map, Function.comp_def, TaskUserRole.normalize_fromOption]

variable {url pk}

theorem normalize_of_tryFrom {tags : List Tag} {m : TaskMetadata Url PublicKey}
    (h : tryFrom url pk tags = .ok m) : m.normalize = m := by
  rw [tryFrom_eq_metadataSpec] at h
  unfold metadataSpec at h
  split at h
  · cases h
  · cases h
    exact normalize_metadataOf url pk tags

variable (url pk)

theorem tryFrom_into_lossless :
    (∀ m : TaskMetadata Url PublicKey, tryFrom url pk (m.into url pk) = .ok m.normalize) ∧
    (∀ (tags : List Tag) (m : TaskMetadata Url PublicKey), tryFrom url pk tags = .ok m →
      m.normalize = m ∧ tryFrom url pk (m.into url pk) = .ok m) :=
  ⟨tryFrom_into url pk, fun _ m h =>
    ⟨normalize_of_tryFrom h, (tryFrom_into url pk m).trans (congrArg _ (normalize_of_tryFrom h))⟩⟩

theorem tryFrom_into_lossless_decoded :
    tryFrom .verbatim .verbatim [⟨"p", ["k", "client"]⟩, ⟨"archived", []⟩, ⟨"p", ["j", ""]⟩] =
        .ok (⟨none, none, none, none, some true, [], [("k", .client), ("j", .none)]⟩ : TaskMetadata String String) ∧
      normalize (⟨none, none, none, none, some true, [], [("k", .client), ("j", .none)]⟩ : TaskMetadata String String) =
        (⟨none, none, none, none, some true, [], [("k", .client), ("j", .none)]⟩ : TaskMetadata String String) ∧
      tryFrom .verbatim .verbatim
          (into .verbatim .verbatim (⟨none, none, none, none, some true, [], [("k", .client), ("j", .none)]⟩ : TaskMetadata String String)) =
        .ok (⟨none, none, none, none, some true, [], [("k", .client), ("j", .none)]⟩ : TaskMetadata String String) := by
  have h : tryFrom .verbatim .verbatim [⟨"p", ["k", "client"]⟩, ⟨"archived", []⟩, ⟨"p", ["j", ""]⟩] =
      .ok (⟨none, none, none, none, some true, [], [("k", .client), ("j", .none)]⟩ : TaskMetadata String String) := by
    decide
  exact ⟨h, (tryFrom_into_lossless .verbatim .verbatim).2 _ _ h⟩

/-! ### What the tags carry -/

theorem toString_ofString (role : String) : (TaskUserRole.ofString role).toString.getD "" = role := by
  unfold TaskUserRole.ofString
  split <;> rfl

/-- The role string the encoder writes does not see the normal form. -/
theorem roleStr_normalize (role : TaskUserRole) :
    role.normalize.toString.getD "" = role.toString.getD "" := by
  cases role with
  | custom s => rw [TaskUserRole.normalize_custom, toString_ofString]; rfl
  | _ => rfl

theorem userTag_normalize (user : PublicKey × TaskUserRole) :
    userTag pk (user.1, user.2.normalize) = userTag pk user := by
  unfold userTag
  rw [roleStr_normalize]

/-- The encoder writes the same tags for a metadata and for its normal form. -/
theorem into_normalize (m : TaskMetadata Url PublicKey) : m.normalize.into url pk = m.into url pk := by
  obtain ⟨title, image, publishedAt, dueAt, archived, tags, users⟩ := m
  simp only [into, normalize, List.map_map]
  congr 2
  · cases archived with
    | none => rfl
    | some b => cases b <;> rfl
  · funext user
    exact userTag_normalize pk user

/-- Two metadata encode to the same tags exactly when they have the same normal form: the tags
carry the normal form, no more and no less. -/
theorem into_eq_into_iff (m₁ m₂ : TaskMetadata Url PublicKey) :
    m₁.into url pk = m₂.into url pk ↔ m₁.normalize = m₂.normalize := by
  constructor
  · intro h
    have h' := congrArg (tryFrom url pk) h
    rwa [tryFrom_into, tryFrom_into, Except.ok.injEq] at h'
  · intro h
    rw [← into_normalize url pk m₁, h, into_normalize]

end TaskMetadata

/-! ### Events -/

namespace Task

variable {Url PublicKey : Type} (url : TextCodec Url) (pk : TextCodec PublicKey)

/-- The encoder writes no `d` tag. -/
theorem into_kind_ne_d (m : TaskMetadata Url PublicKey) :
    ∀ tag ∈ m.into url pk, tag.kind ≠ TagKind.d := by
  intro tag htag
  simp only [TaskMetadata.into, List.mem_append, Option.mem_toList, Option.mem_def,
    Option.map_eq_some', List.mem_map, or_assoc] at htag
  rcases htag with ⟨_, _, rfl⟩ | ⟨_, _, rfl⟩ | ⟨_, _, rfl⟩ | ⟨_, _, rfl⟩ | harch | ⟨_, _, rfl⟩ |
    ⟨_, _, rfl⟩
  on_goal 5 =>
    split at harch <;> simp only [List.mem_singleton, List.not_mem_nil] at harch
    subst harch
  all_goals simp [TaskMetadata.userTag_kind, TagKind.t, TagKind.p, TagKind.d]

theorem identifier_into (m : TaskMetadata Url PublicKey) : identifier (m.into url pk) = none :=
  List.findSome?_eq_none_iff.mpr fun tag htag => if_neg (into_kind_ne_d url pk m tag htag)

/-- Every event built from a task decodes to `MissingIdentifier`. -/
theorem tryFrom_toEventBuilder (task : Task Url PublicKey) (author : PublicKey) (h : task.id ≠ "") :
    ∃ b, task.toEventBuilder url pk = .ok b ∧
      tryFrom url pk (b.signWithKeys author) = .error .missingIdentifier :=
  ⟨_, if_neg h, by
    simp [tryFrom, EventBuilder.signWithKeys, EventBuilder.addTags, EventBuilder.new, identifier_into]⟩

/-- `test_try_from_event`'s task (`nipxxa.rs:639-651`): built, signed and decoded, it is
`MissingIdentifier`, where the test expects the task back. -/
theorem tryFrom_toEventBuilder_test_task :
    ∃ b, (⟨"333e500a-7d80-4e7b-beb1-ad1956a6150a", "This is a test task",
        { (TaskMetadata.new : TaskMetadata String String) with
          title := some "Test Task"
          publishedAt := some ⟨1296962229⟩
          dueAt := some ⟨1298962229⟩
          tags := ["test"]
          users := [("b3e392b11f5d4f28321cedd09303a748acfd0487aea5a7450b3481c60b6e4f87",
            .assignee)] }⟩ : Task String String).toEventBuilder .verbatim .verbatim = .ok b ∧
      tryFrom .verbatim .verbatim (b.signWithKeys "author") = .error .missingIdentifier :=
  tryFrom_toEventBuilder _ _ _ _ (by decide)

/-- With the identifier tag in front of the encoded metadata, the layout `test_task` expects,
decoding gives the task back up to the normal form. -/
theorem tryFrom_identifier_into (task : Task Url PublicKey) (author : PublicKey) :
    tryFrom url pk ⟨author, Kind.task, task.description,
        Tag.identifier task.id :: task.metadata.into url pk⟩ =
      .ok { task with metadata := task.metadata.normalize } := by
  have hinert : TaskMetadata.Inert (Tag.identifier task.id) := by
    refine ⟨?_, .inr ?_⟩ <;> simp [TagKind.d, TagKind.t, TagKind.p]
  have hmeta : TaskMetadata.tryFrom url pk (Tag.identifier task.id :: task.metadata.into url pk) =
      TaskMetadata.tryFrom url pk (task.metadata.into url pk) :=
    TaskMetadata.tryFrom_insert_inert [] _ hinert
  have hcontent : (Tag.identifier task.id).content = some task.id := rfl
  simp [tryFrom, identifier, List.findSome?_cons, hcontent, hmeta, TaskMetadata.tryFrom_into, new]

end Task

end NostrWorkflows
