import NostrWorkflows.Task.Decode
import NostrWorkflows.Tracker

/-!
# Kanban boards (NIP-XXC, `nipxxc.rs`)

`Color` with `Color::from_str` and `Color::to_string` (`nipxxc.rs:206-237`), the column of one
`col` tag (`nipxxc.rs:84-104`), the board decoder `TryFrom<&Event> for KanbanBoard`
(`nipxxc.rs:106-179`) and the kanban tracker payload `TryFrom<Event> for
KanbanSpecificTrackerData` (`nipxxc.rs:181-204`). Unlike the metadata decoder, the board
decoder fails on the first malformed column; maintainers fall back to the author only when
no `p` tag names one.

The spec side reads the tags as they are written, by the literal of their kind: the content of
the first tag of a kind (`contentOfFirst`), the columns of the `col` tags (`columnsOf`) and the
keys of the `p` tags (`keysOf`), each by its own recursion over the tags. Each iterator chain
of the decoders is proved equal to its part, and the board theorem is assembled from those.
-/

namespace NostrWorkflows

/-! ### Colors -/

/-- `Color`. -/
inductive Color where
  | red
  | orange
  | yellow
  | green
  | cyan
  | blue
  | purple
  | gray
  | hex (hex : String)
  deriving DecidableEq, Repr

namespace Color

/-- `Color::from_str`: the eight names in any case, else any string starting with `#`. -/
def fromStr (lower : ToLowercase) (color : String) : Option Color :=
  match lower.run color with
  | "red" => some red
  | "orange" => some orange
  | "yellow" => some yellow
  | "green" => some green
  | "cyan" => some cyan
  | "blue" => some blue
  | "purple" => some purple
  | "gray" => some gray
  | _ => if startsWithChar color '#' then some (hex color) else none

/-- `Color::to_string`. -/
def toString : Color → String
  | red => "red"
  | orange => "orange"
  | yellow => "yellow"
  | green => "green"
  | cyan => "cyan"
  | blue => "blue"
  | purple => "purple"
  | gray => "gray"
  | hex h => h

/-- The eight named colors. -/
def isPreset : Color → Bool
  | hex _ => false
  | _ => true

variable {lower : ToLowercase}

/-- What `from_str` can return: a preset whose name is the lowercase input, or the input
itself as `Hex` when it starts with `#` and lowercases to no name. -/
theorem fromStr_cases {s : String} {c : Color} (h : fromStr lower s = some c) :
    (c.isPreset ∧ lower.run s = c.toString) ∨ (c = hex s ∧ startsWithChar s '#') := by
  unfold fromStr at h
  split at h
  all_goals first
    | (cases h; exact .inl ⟨rfl, by assumption⟩)
    | (split at h
       · cases h
         exact .inr ⟨rfl, by assumption⟩
       · cases h)

theorem fromStr_preset {c : Color} (hc : c.isPreset) : fromStr lower c.toString = some c := by
  cases c with
  | hex => cases hc
  | _ => unfold fromStr; rw [lower.run_of_isLower _ (by decide)]; rfl

theorem fromStr_hash {h : String} (hh : startsWithChar h '#') : fromStr lower h = some (hex h) := by
  have hlow : (lower.run h).toList.head? = some '#' :=
    lower.head_hash h (by simpa [startsWithChar] using hh)
  unfold fromStr
  split
  all_goals first
    | (rename_i heq; rw [heq] at hlow; cases hlow)
    | simp [hh]

theorem fromStr_toString_agree (lower : ToLowercase) :
    (∀ s c, fromStr lower s = some c →
      c.toString = (if c.isPreset then lower.run s else s) ∧ fromStr lower c.toString = some c) ∧
    (∀ c, fromStr lower c.toString = some c ↔
      c.isPreset ∨ ∃ h, c = hex h ∧ h.toList.head? = some '#') := by
  refine ⟨fun s c h => ?_, fun c => ⟨fun h => ?_, ?_⟩⟩
  · rcases fromStr_cases h with ⟨hp, hs⟩ | ⟨rfl, _⟩
    · exact ⟨by simp [hp, hs], fromStr_preset hp⟩
    · exact ⟨rfl, h⟩
  · rcases fromStr_cases h with ⟨hp, _⟩ | ⟨hc, hs⟩
    · exact .inl hp
    · cases c <;> simp_all [toString, startsWithChar]
  · rintro (hp | ⟨h, rfl, hh⟩)
    · exact fromStr_preset hp
    · exact fromStr_hash (by simpa [startsWithChar] using hh)

theorem fromStr_toString_agree_upper :
    Color.fromStr .ascii "RED" = some red ∧
      red.toString = (if red.isPreset then ToLowercase.ascii.run "RED" else "RED") ∧
      Color.fromStr .ascii red.toString = some red :=
  ⟨by decide, (fromStr_toString_agree .ascii).1 "RED" red (by decide)⟩

end Color

/-! ### Tags by the literal of their kind -/

/-- The content of the first tag whose kind is written `kind`: `none` when there is no such tag,
or when the first one has no value after its kind. -/
def contentOfFirst (kind : String) : List Tag → Option String
  | [] => none
  | tag :: tags => if tag.kindLiteral = kind then tag.values.head? else contentOfFirst kind tags

/-- `find(kind).and_then(|tag| tag.content())` over the tags, for the kind a literal parses to. -/
theorem find_bind_content (k : TagKind) (kind : String) (hk : TagKind.parse kind = k)
    (tags : List Tag) :
    (tags.find? fun tag => tag.kind = k).bind Tag.content = contentOfFirst kind tags := by
  subst hk
  simp only [Tag.kind_eq_parse_iff]
  induction tags with
  | nil => rfl
  | cons tag tags ih =>
    by_cases h : tag.kindLiteral = kind
    · simp [contentOfFirst, h, Tag.content]
    · simp [contentOfFirst, h, ih]

/-- `KanbanColumnDefinition`. -/
structure KanbanColumnDefinition where
  id : String
  label : String
  color : Option Color
  deriving DecidableEq, Repr

/-- `KanbanBoard`; `pubkey` holds the maintainers. -/
structure KanbanBoard (PublicKey : Type) where
  id : String
  title : Option String
  description : Option String
  alt : Option String
  columns : List KanbanColumnDefinition
  pubkey : List PublicKey
  deriving DecidableEq, Repr

/-- `TryFrom<&Tag> for KanbanColumnDefinition`. -/
def KanbanColumnDefinition.tryFrom (lower : ToLowercase) (tag : Tag) :
    Except String KanbanColumnDefinition :=
  if tag.kind.asStr = "col" then
    match tag.content with
    | none => .error "missing tag content"
    | some tagContent =>
      let tagVec := tag.toVec
      match tagVec[2]? with
      | none => .error "No label"
      | some label => .ok ⟨tagContent, label, tagVec[3]?.bind (Color.fromStr lower)⟩
  else .error "not color tag"

namespace KanbanBoard

variable {PublicKey : Type}

/-- The content of the first tag of kind `k`, if that tag has one (`nipxxc.rs:116-138`). -/
def firstContent (k : TagKind) (tags : List Tag) : Option String :=
  (tags.find? fun tag => tag.kind = k).bind Tag.content

/-- The `col` tags (`nipxxc.rs:141-142`). -/
def columnTags (tags : List Tag) : List Tag := tags.filter fun tag => tag.kind.asStr = "col"

/-- The public keys of the `p` tags, in order (`nipxxc.rs:151-161`). -/
def maintainers (fromHex : String → Option PublicKey) (tags : List Tag) : List PublicKey :=
  ((tags.filter fun tag => tag.kind = TagKind.p).filterMap Tag.content).filterMap fromHex

/-- `TryFrom<&Event> for KanbanBoard`, with `fromHex` the library's `PublicKey::from_hex`. -/
def tryFrom (lower : ToLowercase) (fromHex : String → Option PublicKey) (value : Event PublicKey) :
    Except String (KanbanBoard PublicKey) :=
  if value.kind ≠ Kind.kanbanBoard then .error "Event is not a kanban board (kind 35002)"
  else
    match firstContent TagKind.d value.tags with
    | none => .error "Missing required 'd' tag for board identifier"
    | some id =>
      let title := firstContent .title value.tags
      let description := firstContent .description value.tags
      let alt := firstContent .alt value.tags
      match (columnTags value.tags).mapM (KanbanColumnDefinition.tryFrom lower) with
      | .error e => .error e
      | .ok columns =>
        if columns.isEmpty then .error "Kanban board must have at least one column"
        else
          let pubkey := maintainers fromHex value.tags
          let pubkey := if pubkey.isEmpty then [value.pubkey] else pubkey
          .ok ⟨id, title, description, alt, columns, pubkey⟩

/-! ### The board decoder by the spec -/

/-- The columns of the `col` tags in tag order, or the error of the first one that has no
content value or no third value. A column's id is its tag's second value, its label the third,
and its color the fourth, when there is one. -/
def columnsOf (lower : ToLowercase) : List Tag → Except String (List KanbanColumnDefinition)
  | [] => .ok []
  | tag :: tags =>
    if tag.kindLiteral = "col" then
      match tag.values with
      | [] => .error "missing tag content"
      | [_] => .error "No label"
      | id :: label :: rest =>
        (columnsOf lower tags).map (⟨id, label, rest.head?.bind (Color.fromStr lower)⟩ :: ·)
    else columnsOf lower tags

/-- The keys of the `p` tags whose content parses as a public key, in tag order. -/
def keysOf (fromHex : String → Option PublicKey) : List Tag → List PublicKey
  | [] => []
  | tag :: tags =>
    if tag.kindLiteral = "p" then (tag.values.head?.bind fromHex).toList ++ keysOf fromHex tags
    else keysOf fromHex tags

/-- The board decoder by the spec, over the tags as written: the kind, the content of the first
`d` tag, the `col` tags (the first malformed one decides the error), at least one column, and
the maintainers, which are the author when no `p` tag names one. -/
def boardSpec (lower : ToLowercase) (fromHex : String → Option PublicKey) (e : Event PublicKey) :
    Except String (KanbanBoard PublicKey) :=
  if e.kind ≠ Kind.kanbanBoard then .error "Event is not a kanban board (kind 35002)"
  else
    match contentOfFirst "d" e.tags, columnsOf lower e.tags with
    | none, _ => .error "Missing required 'd' tag for board identifier"
    | some _, .error err => .error err
    | some id, .ok columns =>
      if columns = [] then .error "Kanban board must have at least one column"
      else .ok
        { id
          title := contentOfFirst "title" e.tags
          description := contentOfFirst "description" e.tags
          alt := contentOfFirst "alt" e.tags
          columns
          pubkey :=
            if (keysOf fromHex e.tags).isEmpty then [e.pubkey] else keysOf fromHex e.tags }

/-- What the board decoder accepts, by the spec: a kanban board kind, a first `d` tag with a
content value, at least one `col` tag, and a content value and a third value on every one. -/
def Accepts (e : Event PublicKey) : Prop :=
  e.kind = Kind.kanbanBoard ∧ (contentOfFirst "d" e.tags).isSome ∧
    (∃ tag ∈ e.tags, tag.kindLiteral = "col") ∧
    ∀ tag ∈ e.tags, tag.kindLiteral = "col" → 2 ≤ tag.values.length

/-- `column` is the column the `col` tag `tag` describes: the tag's second value is its id, the
third its label and the fourth, when there is one, its color. -/
def Describes (lower : ToLowercase) (tag : Tag) (column : KanbanColumnDefinition) : Prop :=
  ∃ rest, tag.values = column.id :: column.label :: rest ∧
    column.color = rest.head?.bind (Color.fromStr lower)

variable {lower : ToLowercase}

/-! ### The decoder's iterator chains -/

theorem columnTags_cons (tag : Tag) (tags : List Tag) :
    columnTags (tag :: tags) =
      if tag.kindLiteral = "col" then tag :: columnTags tags else columnTags tags := by
  by_cases h : tag.kindLiteral = "col" <;> simp [columnTags, List.filter_cons, h]

theorem columnTryFrom_col (values : List String) :
    KanbanColumnDefinition.tryFrom lower ⟨"col", values⟩ =
      match values with
      | [] => .error "missing tag content"
      | [_] => .error "No label"
      | id :: label :: rest => .ok ⟨id, label, rest.head?.bind (Color.fromStr lower)⟩ := by
  match values with
  | [] => rfl
  | [_] => rfl
  | [_, _] => rfl
  | _ :: _ :: _ :: _ =>
    simp only [KanbanColumnDefinition.tryFrom, Tag.kind_asStr, ↓reduceIte, Tag.content, Tag.toVec,
      List.head?_cons, List.getElem?_cons_succ, List.getElem?_cons_zero]

/-- `collect::<Result<Vec<_>, _>>` over the `col` tags gives the spec's columns. -/
theorem mapM_columnTags (tags : List Tag) :
    (columnTags tags).mapM (KanbanColumnDefinition.tryFrom lower) = columnsOf lower tags := by
  induction tags with
  | nil => rfl
  | cons tag tags ih =>
    obtain ⟨kind, values⟩ := tag
    rw [columnTags_cons]
    by_cases h : kind = "col"
    · subst h
      rw [if_pos rfl, List.mapM_cons, ih, columnTryFrom_col]
      simp only [columnsOf, if_true]
      match values with
      | [] => rfl
      | [_] => rfl
      | _ :: _ :: _ => cases columnsOf lower tags <;> rfl
    · rw [if_neg h, ih]
      simp only [columnsOf, if_neg h]

theorem maintainers_eq_keysOf (fromHex : String → Option PublicKey) (tags : List Tag) :
    maintainers fromHex tags = keysOf fromHex tags := by
  induction tags with
  | nil => rfl
  | cons tag tags ih =>
    have hp : tag.kind = TagKind.p ↔ tag.kindLiteral = "p" := @Tag.kind_eq_parse_iff tag "p"
    unfold maintainers at ih ⊢
    by_cases h : tag.kindLiteral = "p"
    · cases hc : tag.values.head? with
      | none => simp [List.filter_cons, hp, h, keysOf, Tag.content, hc, ih]
      | some v =>
        cases hv : fromHex v <;> simp [List.filter_cons, hp, h, keysOf, Tag.content, hc, hv, ih]
    · simp [List.filter_cons, hp, h, keysOf, ih]

variable (fromHex : String → Option PublicKey)

theorem tryFrom_eq_boardSpec (e : Event PublicKey) :
    tryFrom lower fromHex e = boardSpec lower fromHex e := by
  unfold tryFrom boardSpec firstContent
  rw [maintainers_eq_keysOf]
  simp only [find_bind_content TagKind.d "d" rfl, find_bind_content .title "title" rfl,
    find_bind_content .description "description" rfl, find_bind_content .alt "alt" rfl,
    mapM_columnTags, List.isEmpty_iff]
  by_cases hk : e.kind ≠ Kind.kanbanBoard
  · rw [if_pos hk, if_pos hk]
  · rw [if_neg hk, if_neg hk]
    cases contentOfFirst "d" e.tags with
    | none => rfl
    | some id => cases columnsOf lower e.tags <;> rfl

/-! ### Columns by the spec -/

/-- Every column the spec returns is described by its `col` tag, one per tag, in order. -/
theorem columnsOf_ok {tags : List Tag} {columns : List KanbanColumnDefinition}
    (h : columnsOf lower tags = .ok columns) :
    List.Forall₂ (Describes lower) (tags.filter fun tag => tag.kindLiteral = "col") columns := by
  induction tags generalizing columns with
  | nil =>
    cases h
    exact .nil
  | cons tag tags ih =>
    obtain ⟨kind, values⟩ := tag
    by_cases hc : kind = "col"
    · subst hc
      simp only [columnsOf, if_true] at h
      rw [List.filter_cons_of_pos (by simp)]
      match values, h with
      | [], h => cases h
      | [_], h => cases h
      | id :: label :: rest, h =>
        cases hrest : columnsOf lower tags with
        | error => rw [hrest] at h; cases h
        | ok cs =>
          rw [hrest] at h
          cases h
          exact .cons ⟨rest, rfl, rfl⟩ (ih hrest)
    · simp only [columnsOf, if_neg hc] at h
      rw [List.filter_cons_of_neg (by simpa using hc)]
      exact ih h

/-- The spec's columns exist exactly when every `col` tag has a content value and a third
value. -/
theorem columnsOf_isOk (tags : List Tag) :
    (∃ columns, columnsOf lower tags = .ok columns) ↔
      ∀ tag ∈ tags, tag.kindLiteral = "col" → 2 ≤ tag.values.length := by
  induction tags with
  | nil => exact iff_of_true ⟨[], rfl⟩ fun _ h => absurd h (List.not_mem_nil _)
  | cons tag tags ih =>
    obtain ⟨kind, values⟩ := tag
    rw [List.forall_mem_cons, ← ih]
    by_cases hc : kind = "col"
    · subst hc
      simp only [columnsOf, if_true, true_implies]
      match values with
      | [] => exact iff_of_false (fun ⟨_, h⟩ => nomatch h) fun h => Nat.not_succ_le_zero 1 h.1
      | [_] => exact iff_of_false (fun ⟨_, h⟩ => nomatch h) fun h => Nat.lt_irrefl 1 h.1
      | _ :: _ :: _ =>
        cases columnsOf lower tags with
        | error => exact iff_of_false (fun ⟨_, h⟩ => nomatch h) fun ⟨_, _, h⟩ => nomatch h
        | ok => exact iff_of_true ⟨_, rfl⟩ ⟨by simp, _, rfl⟩
    · simp only [columnsOf, hc, ↓reduceIte, false_implies, true_and]

/-! ### The board theorem -/

variable {fromHex}

/-- What an accepted board is: every check passed, and its columns and maintainers. -/
theorem boardSpec_ok {e : Event PublicKey} {b : KanbanBoard PublicKey}
    (h : boardSpec lower fromHex e = .ok b) :
    Accepts e ∧ columnsOf lower e.tags = .ok b.columns ∧ b.columns ≠ [] ∧
      b.pubkey = if (keysOf fromHex e.tags).isEmpty then [e.pubkey] else keysOf fromHex e.tags := by
  unfold boardSpec at h
  by_cases hk : e.kind ≠ Kind.kanbanBoard
  · rw [if_pos hk] at h
    cases h
  rw [if_neg hk] at h
  split at h
  · cases h
  · cases h
  · rename_i id columns hid hcols
    by_cases hne : columns = []
    · rw [if_pos hne] at h
      cases h
    rw [if_neg hne] at h
    cases h
    have hfa := columnsOf_ok hcols
    have hfilter : (e.tags.filter fun tag => tag.kindLiteral = "col") ≠ [] := fun hnil =>
      hne (List.forall₂_nil_left_iff.mp (hnil ▸ hfa))
    obtain ⟨tag, htag⟩ := List.exists_mem_of_ne_nil _ hfilter
    have hcol := List.mem_filter.mp htag
    refine ⟨⟨not_not.mp hk, by simp [hid], ⟨tag, hcol.1, by simpa using hcol.2⟩,
      (columnsOf_isOk e.tags).mp ⟨_, hcols⟩⟩, hcols, hne, rfl⟩

theorem boardSpec_accepts {e : Event PublicKey} (h : Accepts e) :
    ∃ b, boardSpec lower fromHex e = .ok b := by
  obtain ⟨hk, hid, ⟨tag, htag, hcol⟩, hlen⟩ := h
  obtain ⟨id, hid⟩ := Option.isSome_iff_exists.mp hid
  obtain ⟨columns, hcols⟩ := (@columnsOf_isOk lower e.tags).mpr hlen
  have hne : columns ≠ [] := by
    rintro rfl
    have hnil := List.forall₂_nil_right_iff.mp (columnsOf_ok hcols)
    exact List.filter_eq_nil_iff.mp hnil tag htag (by simpa using hcol)
  unfold boardSpec
  simp [hk, hid, hcols, hne]

variable (lower fromHex)

theorem tryFrom_board_spec :
    (∀ e, tryFrom lower fromHex e = boardSpec lower fromHex e) ∧
    (∀ e, (∃ b, tryFrom lower fromHex e = .ok b) ↔ Accepts e) ∧
    (∀ e b, tryFrom lower fromHex e = .ok b →
      List.Forall₂ (Describes lower) (e.tags.filter fun tag => tag.kindLiteral = "col")
        b.columns ∧
      b.columns ≠ [] ∧ b.pubkey ≠ [] ∧
      b.pubkey =
        if (keysOf fromHex e.tags).isEmpty then [e.pubkey] else keysOf fromHex e.tags) := by
  refine ⟨tryFrom_eq_boardSpec fromHex, fun e => ?_, fun e b h => ?_⟩
  · rw [tryFrom_eq_boardSpec]
    exact ⟨fun ⟨_, h⟩ => (boardSpec_ok h).1, boardSpec_accepts⟩
  · rw [tryFrom_eq_boardSpec] at h
    obtain ⟨-, hcols, hne, hpk⟩ := boardSpec_ok h
    refine ⟨columnsOf_ok hcols, hne, ?_, hpk⟩
    rw [hpk]
    split_ifs with hm
    · simp
    · simpa [List.isEmpty_iff] using hm

theorem tryFrom_board_spec_two_columns :
    tryFrom .ascii (fun s => if Nip01.isHexKey s then some s else none)
        (⟨"author", Kind.kanbanBoard, "",
          [Tag.identifier "board-1", ⟨"title", ["Board"]⟩, ⟨"col", ["todo", "To do", "RED"]⟩,
          ⟨"col", ["done", "Done"]⟩, ⟨"p", ["b3e392b11f5d4f28321cedd09303a748acfd0487aea5a7450b3481c60b6e4f87"]⟩,
          ⟨"p", ["b3e392b1"]⟩]⟩ : Event String) =
      .ok ⟨"board-1", some "Board", none, none,
        [⟨"todo", "To do", some .red⟩, ⟨"done", "Done", none⟩],
        ["b3e392b11f5d4f28321cedd09303a748acfd0487aea5a7450b3481c60b6e4f87"]⟩ ∧
    List.Forall₂ (Describes .ascii)
        (List.filter (fun tag => tag.kindLiteral = "col")
          [Tag.identifier "board-1", ⟨"title", ["Board"]⟩, ⟨"col", ["todo", "To do", "RED"]⟩,
          ⟨"col", ["done", "Done"]⟩, ⟨"p", ["b3e392b11f5d4f28321cedd09303a748acfd0487aea5a7450b3481c60b6e4f87"]⟩,
          ⟨"p", ["b3e392b1"]⟩])
        [⟨"todo", "To do", some .red⟩, ⟨"done", "Done", none⟩] ∧
      [⟨"todo", "To do", some .red⟩, ⟨"done", "Done", none⟩] ≠ ([] : List KanbanColumnDefinition) ∧
      ["b3e392b11f5d4f28321cedd09303a748acfd0487aea5a7450b3481c60b6e4f87"] ≠ [] ∧
      ["b3e392b11f5d4f28321cedd09303a748acfd0487aea5a7450b3481c60b6e4f87"] =
        if (keysOf (fun s => if Nip01.isHexKey s then some s else none)
            [Tag.identifier "board-1", ⟨"title", ["Board"]⟩, ⟨"col", ["todo", "To do", "RED"]⟩,
          ⟨"col", ["done", "Done"]⟩, ⟨"p", ["b3e392b11f5d4f28321cedd09303a748acfd0487aea5a7450b3481c60b6e4f87"]⟩,
          ⟨"p", ["b3e392b1"]⟩]).isEmpty then ["author"]
        else keysOf (fun s => if Nip01.isHexKey s then some s else none)
          [Tag.identifier "board-1", ⟨"title", ["Board"]⟩, ⟨"col", ["todo", "To do", "RED"]⟩,
          ⟨"col", ["done", "Done"]⟩, ⟨"p", ["b3e392b11f5d4f28321cedd09303a748acfd0487aea5a7450b3481c60b6e4f87"]⟩,
          ⟨"p", ["b3e392b1"]⟩] := by
  have h : tryFrom .ascii (fun s => if Nip01.isHexKey s then some s else none)
      (⟨"author", Kind.kanbanBoard, "",
        [Tag.identifier "board-1", ⟨"title", ["Board"]⟩, ⟨"col", ["todo", "To do", "RED"]⟩,
          ⟨"col", ["done", "Done"]⟩, ⟨"p", ["b3e392b11f5d4f28321cedd09303a748acfd0487aea5a7450b3481c60b6e4f87"]⟩,
          ⟨"p", ["b3e392b1"]⟩]⟩ : Event String) =
      .ok ⟨"board-1", some "Board", none, none,
        [⟨"todo", "To do", some .red⟩, ⟨"done", "Done", none⟩],
        ["b3e392b11f5d4f28321cedd09303a748acfd0487aea5a7450b3481c60b6e4f87"]⟩ := by
    decide
  exact ⟨h, (tryFrom_board_spec .ascii _).2.2 _ _ h⟩

end KanbanBoard

/-! ### The kanban tracker payload -/

/-- `KanbanTrackerStatus`. -/
inductive KanbanTrackerStatus where
  | column (id : String)
  | defer
  deriving DecidableEq, Repr

/-- `KanbanSpecificTrackerData`. -/
structure KanbanSpecificTrackerData (Url PublicKey : Type) where
  status : KanbanTrackerStatus
  rank : Option UInt32
  taskMetadata : TaskMetadata Url PublicKey
  deriving DecidableEq, Repr

/-- `KanbanTracker`. -/
def KanbanTracker (Coordinate Url PublicKey : Type) : Type :=
  Tracker Coordinate (KanbanSpecificTrackerData Url PublicKey)

namespace KanbanSpecificTrackerData

variable {Url PublicKey : Type} (url : TextCodec Url) (pk : TextCodec PublicKey)

/-- The rank of a tracker: the content of the first `rank` tag, read as `u32`
(`nipxxc.rs:194`). -/
def rankOf (tags : List Tag) : Option UInt32 :=
  ((tags.find? fun tag => tag.kind = .custom "rank").bind Tag.content).bind parseU32

/-- `TryFrom<Event> for KanbanSpecificTrackerData`. -/
def tryFrom (value : Event PublicKey) : Except TaskError (KanbanSpecificTrackerData Url PublicKey) :=
  let event := value
  let status := if event.content = "" then KanbanTrackerStatus.defer else .column event.content
  let rank := rankOf event.tags
  match TaskMetadata.tryFrom url pk event.tags with
  | .error e => .error e
  | .ok taskMetadata => .ok ⟨status, rank, taskMetadata⟩

/-- The payload fails exactly on the first bad image or timestamp tag. Otherwise its status is
`Defer` when the content is empty, its rank is the content of the first tag written `rank` read as
`u32` (`None` when there is none or it does not read, never an error), and its metadata is the
metadata decoder's closed form. -/
theorem tryFrom_eq_closed_form (e : Event PublicKey) :
    tryFrom url pk e =
      match e.tags.findSome? (TaskMetadata.scalarError url) with
      | some err => .error err
      | none => .ok ⟨if e.content = "" then .defer else .column e.content,
          (contentOfFirst "rank" e.tags).bind parseU32, TaskMetadata.metadataOf url pk e.tags⟩ := by
  dsimp only [tryFrom, rankOf]
  rw [find_bind_content (.custom "rank") "rank" rfl, TaskMetadata.tryFrom_eq_metadataSpec]
  unfold TaskMetadata.metadataSpec
  cases e.tags.findSome? (TaskMetadata.scalarError url) <;> rfl

end KanbanSpecificTrackerData

/-! ### Values out of range -/

section Bounds

variable {Url PublicKey : Type} (url : TextCodec Url) (pk : TextCodec PublicKey)

end Bounds

section KanbanTracker

variable {Coordinate Url PublicKey : Type} (url : TextCodec Url) (pk : TextCodec PublicKey)
  (trackerKind : Kind) (coordinate : String → Option Coordinate)
  (standardize : Tag → Option TagStandard)

/-- A kanban tracker whose own references resolve but whose tags hold a bad image URL or
timestamp fails with `CannotGetWorkflowSpecificData`: the payload's error is dropped. -/
theorem kanbanTracker_payload_error (e : Event PublicKey) (id : String) (item workflow : Coordinate)
    (err : TaskError) (hk : e.kind = trackerKind)
    (hid : findStandardized standardize TagKind.d e.tags = some (.identifier id))
    (hitem : e.tags.findSome? (labelledBy coordinate "tracked_item") = some item)
    (hworkflow : e.tags.findSome? (labelledBy coordinate "workflow") = some workflow)
    (herr : e.tags.findSome? (TaskMetadata.scalarError url) = some err) :
    Tracker.tryFrom trackerKind coordinate standardize (KanbanSpecificTrackerData.tryFrom url pk) e =
      .error .cannotGetWorkflowSpecificData := by
  have hpayload : KanbanSpecificTrackerData.tryFrom url pk e = .error err := by
    dsimp only [KanbanSpecificTrackerData.tryFrom]
    rw [TaskMetadata.tryFrom_eq_metadataSpec]
    unfold TaskMetadata.metadataSpec
    rw [herr]
  dsimp only [Tracker.tryFrom]
  rw [if_neg (not_not.mpr hk), hid, findLabelled_trackedItem, hitem, findLabelled_workflow,
    hworkflow, hpayload]

end KanbanTracker

theorem kanbanTracker_payload_error_example :
    (⟨30000⟩ : Kind) = ⟨30000⟩ ∧
      findStandardized (fun tag => tag.content.map TagStandard.identifier) TagKind.d
          [Tag.identifier "tracker-1",
            ⟨"a", ["30023:b3e392b11f5d4f28321cedd09303a748acfd0487aea5a7450b3481c60b6e4f87:task-1", "tracked_item"]⟩,
            ⟨"a", ["30024:b3e392b11f5d4f28321cedd09303a748acfd0487aea5a7450b3481c60b6e4f87:board-1", "workflow"]⟩,
            ⟨"published_at", ["soon"]⟩] =
        some (.identifier "tracker-1") ∧
      List.findSome? (labelledBy Nip01.Coordinate.parse "tracked_item")
          [Tag.identifier "tracker-1",
            ⟨"a", ["30023:b3e392b11f5d4f28321cedd09303a748acfd0487aea5a7450b3481c60b6e4f87:task-1", "tracked_item"]⟩,
            ⟨"a", ["30024:b3e392b11f5d4f28321cedd09303a748acfd0487aea5a7450b3481c60b6e4f87:board-1", "workflow"]⟩,
            ⟨"published_at", ["soon"]⟩] =
        some ⟨⟨30023⟩, "b3e392b11f5d4f28321cedd09303a748acfd0487aea5a7450b3481c60b6e4f87", "task-1"⟩ ∧
      List.findSome? (labelledBy Nip01.Coordinate.parse "workflow")
          [Tag.identifier "tracker-1",
            ⟨"a", ["30023:b3e392b11f5d4f28321cedd09303a748acfd0487aea5a7450b3481c60b6e4f87:task-1", "tracked_item"]⟩,
            ⟨"a", ["30024:b3e392b11f5d4f28321cedd09303a748acfd0487aea5a7450b3481c60b6e4f87:board-1", "workflow"]⟩,
            ⟨"published_at", ["soon"]⟩] =
        some ⟨⟨30024⟩, "b3e392b11f5d4f28321cedd09303a748acfd0487aea5a7450b3481c60b6e4f87", "board-1"⟩ ∧
      List.findSome? (TaskMetadata.scalarError .verbatim)
          [Tag.identifier "tracker-1",
            ⟨"a", ["30023:b3e392b11f5d4f28321cedd09303a748acfd0487aea5a7450b3481c60b6e4f87:task-1", "tracked_item"]⟩,
            ⟨"a", ["30024:b3e392b11f5d4f28321cedd09303a748acfd0487aea5a7450b3481c60b6e4f87:board-1", "workflow"]⟩,
            ⟨"published_at", ["soon"]⟩] =
        some (.invalidTimestamp "soon") ∧
      Tracker.tryFrom ⟨30000⟩ Nip01.Coordinate.parse (fun tag => tag.content.map TagStandard.identifier)
          (KanbanSpecificTrackerData.tryFrom .verbatim .verbatim)
          (⟨"b3e392b11f5d4f28321cedd09303a748acfd0487aea5a7450b3481c60b6e4f87", ⟨30000⟩, "todo",
            [Tag.identifier "tracker-1",
            ⟨"a", ["30023:b3e392b11f5d4f28321cedd09303a748acfd0487aea5a7450b3481c60b6e4f87:task-1", "tracked_item"]⟩,
            ⟨"a", ["30024:b3e392b11f5d4f28321cedd09303a748acfd0487aea5a7450b3481c60b6e4f87:board-1", "workflow"]⟩,
            ⟨"published_at", ["soon"]⟩]⟩ :
            Event String) =
        .error .cannotGetWorkflowSpecificData :=
  ⟨rfl, rfl, rfl, rfl, rfl, kanbanTracker_payload_error .verbatim .verbatim ⟨30000⟩
    Nip01.Coordinate.parse _ _ "tracker-1" _ _ _ rfl rfl rfl rfl rfl⟩

end NostrWorkflows
