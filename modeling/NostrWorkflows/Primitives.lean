import Mathlib.Data.Nat.Digits
import Mathlib.Tactic.IntervalCases

/-!
# Primitive adapters (spec §6)

The codecs consume parsers and printers that live outside `src/`: `Url::parse` and its
`Display`, `PublicKey::from_str` / `from_hex` / `to_hex`, `Coordinate::from_str` and
`str::to_lowercase`. Each is a parameter of the model, carrying the one law of its library
that a codec relies on. The standard library's `str::parse::<u64>` and `<u32>` (read by
`nipxxa.rs:367` and `nipxxc.rs:194`) and the decimal `Display` of `Timestamp` are modelled
here in full, with their round trip.
-/

namespace NostrWorkflows

/-! ### External text formats -/

/-- A text format of an external type: the library's parser and printer, and the round trip
the library promises for every value it prints. -/
structure TextCodec (α : Type) where
  parse : String → Option α
  print : α → String
  parse_print : ∀ a, parse (print a) = some a

/-- Strings read and printed as themselves. -/
def TextCodec.verbatim : TextCodec String := ⟨some, id, fun _ => rfl⟩

/-- `str::to_lowercase`: Unicode lowercasing from the standard library. The codecs use two of
its facts: a word of lowercase ASCII letters is its own lowercase, and a leading `#` has no
case mapping. -/
structure ToLowercase where
  run : String → String
  run_of_isLower : ∀ s : String, (∀ c ∈ s.toList, c.isLower) → run s = s
  head_hash : ∀ s : String, s.toList.head? = some '#' → (run s).toList.head? = some '#'

theorem toLower_of_isLower (c : Char) (h : c.isLower = true) : c.toLower = c := by
  have : 97 ≤ c.toNat := by
    simp only [Char.isLower, Bool.and_eq_true, decide_eq_true_eq] at h
    exact h.1
  simp only [Char.toLower]
  rw [if_neg (by omega)]

/-- ASCII lowercasing, which has both facts. -/
def ToLowercase.ascii : ToLowercase where
  run s := ⟨s.toList.map Char.toLower⟩
  run_of_isLower s h := by
    cases s with
    | mk cs =>
      have hcs : ∀ c ∈ cs, c.toLower = c := fun c hc => toLower_of_isLower c (h c hc)
      show String.mk (cs.map Char.toLower) = String.mk cs
      rw [List.map_congr_left hcs, List.map_id']
  head_hash s h := by
    show (s.data.map Char.toLower).head? = _
    rw [List.head?_map, show s.data.head? = some '#' from h]
    rfl

/-- `str::starts_with` with a `char` pattern. -/
def startsWithChar (s : String) (c : Char) : Bool := s.toList.head? == some c

/-- Results are compared, so that a decoder's result on a fixed input can be decided. -/
instance decEqExcept {ε α : Type} [DecidableEq ε] [DecidableEq α] : DecidableEq (Except ε α)
  | .error a, .error b =>
    if h : a = b then isTrue (h ▸ rfl) else isFalse fun e => h (by injection e)
  | .ok a, .ok b => if h : a = b then isTrue (h ▸ rfl) else isFalse fun e => h (by injection e)
  | .error _, .ok _ => isFalse nofun
  | .ok _, .error _ => isFalse nofun

/-- A `?` on a success goes on with its value. -/
@[simp] theorem ok_bind {ε α β : Type} (a : α) (f : α → Except ε β) :
    (Except.ok a >>= f) = f a := rfl

/-! ### Unsigned integers (`str::parse::<u64>`, `<u32>`) -/

/-- The digit loop of `from_str_radix`: digits read left to right into `acc`, `none` at the
first character that is not an ASCII digit. -/
def digitsValue (acc : Nat) : List Char → Option Nat
  | [] => some acc
  | c :: cs => if c.isDigit then digitsValue (10 * acc + (c.toNat - 48)) cs else none

/-- The sign step of `from_str_radix` for an unsigned type: one leading `+` is dropped. -/
def stripPlus : List Char → List Char
  | '+' :: rest => rest
  | cs => cs

/-- `str::parse` for an unsigned integer of `bits` bits: one optional leading `+`, then one or
more ASCII digits. The loop's checked multiply and add fail exactly when the value reaches
`2 ^ bits`, as the running value never decreases. -/
def parseUnsigned (bits : Nat) (s : String) : Option Nat :=
  let digits := stripPlus s.toList
  if digits = [] then none else (digitsValue 0 digits).filter (fun n => n < 2 ^ bits)

/-- `str::parse::<u64>`. -/
def parseU64 (s : String) : Option UInt64 := (parseUnsigned 64 s).map UInt64.ofNat

/-- `str::parse::<u32>`. -/
def parseU32 (s : String) : Option UInt32 := (parseUnsigned 32 s).map UInt32.ofNat

theorem digitChar_digit (k : Nat) (h : k < 10) :
    (Nat.digitChar k).isDigit = true ∧ (Nat.digitChar k).toNat - 48 = k := by
  interval_cases k <;> decide

@[simp] theorem digitsValue_plus (acc : Nat) (cs : List Char) :
    digitsValue acc ('+' :: cs) = none := rfl

/-- Reading the digits `toDigitsCore` puts in front of `ds` is reading `ds` from `n`. -/
theorem digitsValue_toDigitsCore (f n : Nat) (ds : List Char) (hf : n < f) :
    digitsValue 0 (Nat.toDigitsCore 10 f n ds) = digitsValue n ds := by
  induction f generalizing n ds with
  | zero => omega
  | succ f ih =>
    obtain ⟨hdig, hval⟩ := digitChar_digit (n % 10) (Nat.mod_lt _ (by omega))
    simp only [Nat.toDigitsCore]
    split
    · simp only [digitsValue, hdig, hval, if_true]
      congr 1
      omega
    · rw [ih (n / 10) _ (by omega)]
      simp only [digitsValue, hdig, hval, if_true]
      congr 1
      omega

theorem toDigitsCore_ne_nil (b f n : Nat) (ds : List Char) (h : ds ≠ []) :
    Nat.toDigitsCore b f n ds ≠ [] := by
  induction f generalizing n ds with
  | zero => exact h
  | succ f ih =>
    simp only [Nat.toDigitsCore]
    split
    · exact List.cons_ne_nil _ _
    · exact ih _ _ (List.cons_ne_nil _ _)

/-- `u64`/`u32` parsing of the decimal `Display` of any number: the number when it fits in
`bits` bits, else the overflow error. -/
theorem parseUnsigned_toString_eq (bits n : Nat) :
    parseUnsigned bits (toString n) = if n < 2 ^ bits then some n else none := by
  have hval : digitsValue 0 (Nat.toDigits 10 n) = some n :=
    (digitsValue_toDigitsCore (n + 1) n [] (by omega)).trans rfl
  have hne : Nat.toDigits 10 n ≠ [] := by
    simp only [Nat.toDigits, Nat.toDigitsCore]
    split
    · exact List.cons_ne_nil _ _
    · exact toDigitsCore_ne_nil _ _ _ _ (List.cons_ne_nil _ _)
  obtain ⟨c, cs, hcs⟩ := List.exists_cons_of_ne_nil hne
  have hc : c ≠ '+' := by
    rintro rfl
    rw [hcs, digitsValue_plus] at hval
    cases hval
  have hstrip : stripPlus (toString n).data = Nat.toDigits 10 n :=
    (congrArg stripPlus hcs).trans ((stripPlus.eq_2 _ (by simpa using hc)).trans hcs.symm)
  simp only [parseUnsigned, String.toList, hstrip, hne, hval, if_false]
  split_ifs with h <;> simp [Option.filter, h]

/-- `u64`/`u32` parsing reads back the decimal `Display` of every value in range. -/
theorem parseUnsigned_toString (bits n : Nat) (h : n < 2 ^ bits) :
    parseUnsigned bits (toString n) = some n := by
  rw [parseUnsigned_toString_eq, if_pos h]

/-! ### Timestamps -/

/-- `Timestamp`: seconds since the epoch, a `u64`. -/
structure Timestamp where
  secs : UInt64
  deriving DecidableEq, Repr

/-- `Timestamp::from_secs`. -/
def Timestamp.fromSecs (secs : UInt64) : Timestamp := ⟨secs⟩

/-- `Timestamp`'s `Display`: the decimal digits of its seconds. -/
def Timestamp.toString (t : Timestamp) : String := ToString.toString t.secs.toNat

theorem parseU64_toString (t : Timestamp) :
    (parseU64 t.toString).map Timestamp.fromSecs = some t := by
  have h := parseUnsigned_toString 64 t.secs.toNat t.secs.toNat_lt_size
  simp only [parseU64, Timestamp.toString, h, Option.map_some']
  congr
  exact UInt64.toNat.inj (UInt64.toNat_ofNat_of_lt t.secs.toNat_lt_size)

end NostrWorkflows
