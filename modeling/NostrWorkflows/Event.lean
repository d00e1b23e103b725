import NostrWorkflows.Primitives

/-!
# Tags, kinds and events

The event container of the `nostr` crate as the three NIP modules read it (spec §6). A tag is
its kind literal followed by its values (`Tag::to_vec`); `Tag::kind` parses the literal into a
`TagKind` and `Tag::content` is the value at index 1. An event exposes its author, kind,
content and tags. None of this is under `src/`: it is modelled from the spec and from the
calls `nipxxa.rs`, `nipxxc.rs` and `nipxxe.rs` make. The tracker decoder takes
`Coordinate::from_str` as a parameter; `Nip01.Coordinate.parse` reads the compact form
`<kind>:<author>:<identifier>` for the decoder's runs on fixed events.
-/

namespace NostrWorkflows

/-! ### Tag kinds -/

/-- The tag kinds the three modules name; a single ASCII letter is `singleLetter`
(`SingleLetterTag`, either case) and every other literal is `custom`. -/
inductive TagKind where
  | alt
  | description
  | title
  | image
  | publishedAt
  | dueAt
  | archived
  | singleLetter (character : Char)
  | custom (kind : String)
  deriving DecidableEq, Repr

namespace TagKind

/-- `TagKind::as_str`. -/
def asStr : TagKind → String
  | alt => "alt"
  | description => "description"
  | title => "title"
  | image => "image"
  | publishedAt => "published_at"
  | dueAt => "due_at"
  | archived => "archived"
  | singleLetter c => c.toString
  | custom s => s

/-- `TagKind::from(&str)`. -/
def parse (s : String) : TagKind :=
  match s with
  | "alt" => alt
  | "description" => description
  | "title" => title
  | "image" => image
  | "published_at" => publishedAt
  | "due_at" => dueAt
  | "archived" => archived
  | _ =>
    match s.toList with
    | [c] => if c.isAlpha then singleLetter c else custom s
    | _ => custom s

/-- `TagKind::d()`. -/
def d : TagKind := singleLetter 'd'

/-- `TagKind::p()`. -/
def p : TagKind := singleLetter 'p'

/-- `TagKind::t()`. -/
def t : TagKind := singleLetter 't'

/-- Parsing a literal and printing it back gives the literal: `TagKind::from` loses nothing,
so comparing parsed kinds is comparing literals. -/
@[simp] theorem asStr_parse (s : String) : (parse s).asStr = s := by
  unfold parse
  split
  all_goals first | rfl | skip
  split
  · rename_i c hc
    split
    · show String.mk [c] = s
      rw [← hc]
      rfl
    · rfl
  · rfl

theorem parse_injective {s s' : String} (h : parse s = parse s') : s = s' := by
  rw [← asStr_parse s, h, asStr_parse]

end TagKind

/-! ### Tags -/

/-- A tag: the kind literal, then the values. The buffer `Tag::to_vec` returns is never
empty, which this shape makes a fact of the type. -/
structure Tag where
  kindLiteral : String
  values : List String
  deriving DecidableEq, Repr

namespace Tag

/-- `Tag::to_vec`. -/
def toVec (tag : Tag) : List String := tag.kindLiteral :: tag.values

/-- `Tag::kind`. -/
def kind (tag : Tag) : TagKind := TagKind.parse tag.kindLiteral

/-- `Tag::content`: the value at index 1. -/
def content (tag : Tag) : Option String := tag.values.head?

/-- Modelled from the spec: `Tag::custom`, the kind's literal followed by the values. -/
def custom (kind : TagKind) (values : List String) : Tag := ⟨kind.asStr, values⟩

/-- Modelled from the spec: `Tag::hashtag`, `["t", hashtag]` (one tag per value, no case
change). -/
def hashtag (hashtag : String) : Tag := custom TagKind.t [hashtag]

/-- Modelled from the spec: `Tag::public_key`, `["p", hex]`, a bare reference. -/
def publicKey {PublicKey : Type} (pk : TextCodec PublicKey) (key : PublicKey) : Tag :=
  custom TagKind.p [pk.print key]

/-- Modelled from the spec: `Tag::identifier`, `["d", identifier]`. -/
def identifier (identifier : String) : Tag := custom TagKind.d [identifier]

@[simp] theorem kind_hashtag (h : String) : (hashtag h).kind = TagKind.t := rfl

@[simp] theorem kind_publicKey {PublicKey : Type} (pk : TextCodec PublicKey) (key : PublicKey) :
    (publicKey pk key).kind = TagKind.p := rfl

@[simp] theorem kind_identifier (id : String) : (identifier id).kind = TagKind.d := rfl

@[simp] theorem content_custom (k : TagKind) (vs : List String) :
    (custom k vs).content = vs.head? := rfl

@[simp] theorem toVec_custom (k : TagKind) (vs : List String) :
    (custom k vs).toVec = k.asStr :: vs := rfl

@[simp] theorem kind_asStr (tag : Tag) : tag.kind.asStr = tag.kindLiteral :=
  TagKind.asStr_parse _

/-- A tag is of the kind a literal parses to exactly when it is written with that literal. -/
theorem kind_eq_parse_iff {tag : Tag} {kind : String} :
    tag.kind = TagKind.parse kind ↔ tag.kindLiteral = kind :=
  ⟨TagKind.parse_injective, fun h => h ▸ rfl⟩

end Tag

/-! ### Event kinds -/

/-- Event kind (`Kind`), compared by its `u16` number. -/
structure Kind where
  code : UInt16
  deriving DecidableEq, Repr

/-- `Kind::Task` (`kind:35001`, `nipxxa.rs:26`). -/
def Kind.task : Kind := ⟨35001⟩

/-- `Kind::KanbanBoard` (`kind 35002`, `nipxxc.rs:110`). -/
def Kind.kanbanBoard : Kind := ⟨35002⟩

/-! ### Coordinates -/

namespace Nip01

/-- Modelled from the spec: `Coordinate`, a reference naming an object by kind, author and
identifier. The author is kept as the hex text of its public key. -/
structure Coordinate where
  kind : Kind
  publicKey : String
  identifier : String
  deriving DecidableEq, Repr

/-- The pieces of a text between its `:` separators, `piece` holding the current one reversed. -/
def splitColons (piece : List Char) : List Char → List (List Char)
  | [] => [piece.reverse]
  | c :: cs => if c = ':' then piece.reverse :: splitColons [] cs else splitColons (c :: piece) cs

/-- An ASCII hexadecimal digit, in either case. -/
def isHexDigit (c : Char) : Bool := c.isDigit || ('a' ≤ c && c ≤ 'f') || ('A' ≤ c && c ≤ 'F')

/-- Modelled from the spec: the text `PublicKey::from_hex` accepts, 64 hexadecimal digits
(32 bytes). Whether those bytes are a point of the curve is left out. -/
def isHexKey (s : String) : Bool := s.toList.length == 64 && s.toList.all isHexDigit

/-- Modelled from the spec: `Coordinate::from_str` on the compact form
`<kind>:<author>:<identifier>`, reading the first three `:`-separated pieces. The kind is a `u16`
in decimal (`Kind::from_str`), and the author is a public key in hex. -/
def Coordinate.parse (s : String) : Option Coordinate :=
  match splitColons [] s.toList with
  | kind :: author :: identifier :: _ =>
    (parseUnsigned 16 (String.mk kind)).bind fun code =>
      if isHexKey (String.mk author) then
        some ⟨⟨UInt16.ofNat code⟩, String.mk author, String.mk identifier⟩
      else none
  | _ => none

end Nip01

/-! ### Events -/

/-- An event as the codecs read it: author, kind, content and tags. Its id, creation time and
signature are read by none of them. -/
structure Event (PublicKey : Type) where
  pubkey : PublicKey
  kind : Kind
  content : String
  tags : List Tag
  deriving DecidableEq, Repr

/-- An unsigned event under construction (`EventBuilder`). -/
structure EventBuilder where
  kind : Kind
  content : String
  tags : List Tag
  deriving DecidableEq, Repr

/-- `EventBuilder::new`. -/
def EventBuilder.new (kind : Kind) (content : String) : EventBuilder := ⟨kind, content, []⟩

/-- `EventBuilder::tags`: the tags are appended in order. -/
def EventBuilder.addTags (b : EventBuilder) (tags : List Tag) : EventBuilder :=
  { b with tags := b.tags ++ tags }

/-- Modelled from the spec: `EventBuilder::sign_with_keys` ("construct an event from a kind,
content and tags; sign it"). The event keeps the builder's kind, content and tags, and the
signer is its author. -/
def EventBuilder.signWithKeys {PublicKey : Type} (b : EventBuilder) (author : PublicKey) :
    Event PublicKey :=
  ⟨author, b.kind, b.content, b.tags⟩

end NostrWorkflows
