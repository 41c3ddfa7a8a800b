import StoreBridge.Facets.Assignment
import StoreBridge.Proofs.DeclarationMeaning

/-! Facets by name: the value that each can have, and what it means to look one up and to give one
another value. A limit is written as a word for its absence, or as digits with or without a plus
sign, and a flag as its word, in any case; exactly these texts are read, each as the value that it
writes. -/
namespace StoreBridge
open Text Declaration

namespace FacetName

/-- The values that a facet can have. -/
def Value : FacetName → Type
  | maxLength => Limit UInt32
  | precision => Limit UInt8
  | scale => Limit UInt8
  | unicode => Bool
  | fixedLength => Bool
  | preserveSeconds => Bool
  | nullable => Bool

theorem mem_all (n : FacetName) : n ∈ all := by
  cases n <;> decide

/-- A key is that of one facet. -/
theorem ofKey?_eq_some_iff {key : String} {n : FacetName} : ofKey? key = some n ↔ key ∈ n.keys := by
  constructor
  · intro found
    have own := List.find?_some found
    simpa using own
  · intro own
    cases n with
    | maxLength | fixedLength | preserveSeconds =>
      rcases List.mem_pair.mp own with rfl | rfl <;> decide
    | precision | scale | unicode | nullable =>
      rw [List.mem_singleton.mp own]
      decide

/-- The value of a facet that a text is. -/
def read? : (n : FacetName) → String → Option n.Value
  | maxLength, s => (Facets.readLimit? 4294967295 s).map (Facets.narrowed UInt32.ofNat)
  | precision, s => (Facets.readLimit? 255 s).map (Facets.narrowed UInt8.ofNat)
  | scale, s => (Facets.readLimit? 255 s).map (Facets.narrowed UInt8.ofNat)
  | unicode, s => Facets.readFlag? s
  | fixedLength, s => Facets.readFlag? s
  | preserveSeconds, s => Facets.readFlag? s
  | nullable, s => Facets.readFlag? s

/-- The failure of a text that is no value of a facet. -/
def badValue (value key : String) : FacetName → Failure
  | maxLength => .badFacetValue value key
  | precision => .badFacetValue value key
  | scale => .badFacetValue value key
  | unicode => .badFacetFlag value key
  | fixedLength => .badFacetFlag value key
  | preserveSeconds => .badFacetFlag value key
  | nullable => .badFacetFlag value key

end FacetName

namespace Facets
variable {f g : Facets} {m n : FacetName}

/-- The value of a facet, if it is stated. -/
def get (f : Facets) : (n : FacetName) → Option n.Value
  | .maxLength => f.maxLength
  | .precision => f.precision
  | .scale => f.scale
  | .unicode => f.unicode
  | .fixedLength => f.fixedLength
  | .preserveSeconds => f.preserveSeconds
  | .nullable => f.nullable

/-- The facets with another value of one. -/
def put (f : Facets) : (n : FacetName) → n.Value → Facets
  | .maxLength, v => { f with maxLength := some v }
  | .precision, v => { f with precision := some v }
  | .scale, v => { f with scale := some v }
  | .unicode, v => { f with unicode := some v }
  | .fixedLength, v => { f with fixedLength := some v }
  | .preserveSeconds, v => { f with preserveSeconds := some v }
  | .nullable, v => { f with nullable := some v }

@[simp] theorem get_put_self (f : Facets) (n : FacetName) (v : n.Value) :
    (f.put n v).get n = some v := by
  cases n <;> rfl

theorem get_put_other (f : Facets) (other : m ≠ n) (v : n.Value) :
    (f.put n v).get m = f.get m := by
  cases n <;> cases m <;> first | rfl | exact absurd rfl other

@[simp] theorem get_nothing (n : FacetName) : ({} : Facets).get n = none := by
  cases n <;> rfl

/-- Facets are told by their values. -/
theorem ext_get (same : ∀ n, f.get n = g.get n) : f = g := by
  obtain ⟨⟩ := f
  obtain ⟨⟩ := g
  simp only [mk.injEq]
  exact ⟨same .maxLength, same .precision, same .scale, same .unicode, same .fixedLength,
    same .preserveSeconds, same .nullable⟩

/-- Setting a facet gives it the value that is read, or fails. -/
theorem set_eq (f : Facets) (n : FacetName) (key value : String) :
    f.set n key value = (n.read? value).elim (.error (n.badValue value key)) fun v =>
      .ok (f.put n v) := by
  cases n with
  | maxLength | precision | scale =>
    simp only [set, limitOf, FacetName.read?]
    cases readLimit? _ value <;> rfl
  | unicode | fixedLength | preserveSeconds | nullable =>
    simp only [set, flagOf, FacetName.read?]
    cases readFlag? value <;> rfl

end Facets

section Values
variable {cs : List Char}

/-- The ways to write a limit: a word for its absence, in any case, or digits, perhaps with a plus
sign in front. -/
inductive WritesLimit {α : Type} (number : α → Nat) (cs : List Char) : Limit α → Prop where
  | unbounded (word : sameName (String.ofList cs) "unbounded" = true ∨
      sameName (String.ofList cs) "max" = true) : WritesLimit number cs .unbounded
  | bounded {v : α} {ds : List Char} (writes : Writes ds (number v))
      (sign : cs = ds ∨ cs = '+' :: ds) : WritesLimit number cs (.bounded v)

/-- The way to write a flag: its word, in any case. -/
def WritesFlag (cs : List Char) (flag : Bool) : Prop :=
  sameName (String.ofList cs) (if flag then "true" else "false") = true

/-- The ways to write a value of a facet. -/
def FacetName.Writes : (n : FacetName) → List Char → n.Value → Prop
  | .maxLength => WritesLimit UInt32.toNat
  | .precision => WritesLimit UInt8.toNat
  | .scale => WritesLimit UInt8.toNat
  | .unicode => WritesFlag
  | .fixedLength => WritesFlag
  | .preserveSeconds => WritesFlag
  | .nullable => WritesFlag

/-- A word in another case has letters where the word has them. -/
theorem letters_of_sameName {word : String} (letters : word.toList.all isLetter = true)
    (same : sameName (String.ofList cs) word = true) : ∀ c ∈ cs, isLetter c = true := by
  intro c among
  have lowered := congrArg String.toList ((sameName_iff _ _).mp same)
  simp only [lower, String.toList_ofList] at lowered
  have inside : c.toLower ∈ cs.map Char.toLower := List.mem_map_of_mem among
  rw [lowered] at inside
  obtain ⟨d, own, folded⟩ := List.mem_map.mp inside
  rw [← isLetter_toLower c, ← folded, isLetter_toLower]
  exact List.all_eq_true.mp letters d own

/-- What a limit can be written as has letters only, or digits and a sign. -/
theorem WritesLimit.solid {α : Type} {number : α → Nat} {limit : Limit α}
    (writes : WritesLimit number cs limit) : ∀ c ∈ cs, isBlank c = false := by
  intro c among
  cases writes with
  | unbounded word =>
    rcases word with word | word
    · exact isBlank_of_isLetter (letters_of_sameName (by decide +kernel) word c among)
    · exact isBlank_of_isLetter (letters_of_sameName (by decide +kernel) word c among)
  | bounded digits sign =>
    rcases sign with rfl | rfl
    · exact isBlank_of_isDigit (digits.digits c among)
    · rcases List.mem_cons.mp among with rfl | among
      · decide
      · exact isBlank_of_isDigit (digits.digits c among)

theorem WritesFlag.solid {flag : Bool} (writes : WritesFlag cs flag) :
    ∀ c ∈ cs, isBlank c = false := by
  intro c among
  apply isBlank_of_isLetter
  cases flag with
  | true => exact letters_of_sameName (by decide +kernel) writes c among
  | false => exact letters_of_sameName (by decide +kernel) writes c among

theorem FacetName.Writes.solid {n : FacetName} {v : n.Value} (writes : n.Writes cs v) :
    ∀ c ∈ cs, isBlank c = false := by
  cases n with
  | maxLength | precision | scale => exact WritesLimit.solid writes
  | unicode | fixedLength | preserveSeconds | nullable => exact WritesFlag.solid writes

/-- Digits are no word. -/
theorem isUnboundedWord_of_writes {ds : List Char} {n : Nat} (writes : Writes ds n)
    (sign : cs = ds ∨ cs = '+' :: ds) : Facets.isUnboundedWord (String.ofList cs) = false := by
  by_contra word
  simp only [Facets.isUnboundedWord, Bool.not_eq_false, Bool.or_eq_true] at word
  obtain ⟨c, digit, among⟩ : ∃ c, isDigit c = true ∧ c ∈ cs := by
    obtain ⟨c, rest, rfl⟩ := List.exists_cons_of_ne_nil writes.someDigit
    refine ⟨c, writes.digits c List.mem_cons_self, ?_⟩
    rcases sign with rfl | rfl <;> simp
  have letter : isLetter c = true := by
    rcases word with word | word
    · exact letters_of_sameName (by decide +kernel) word c among
    · exact letters_of_sameName (by decide +kernel) word c among
  have other := forall_isDigit (p := fun c => !isLetter c) (by decide) digit
  simp [letter] at other

/-- A limit is read from the ways to write it, for numbers of which `greatest` is the greatest. -/
theorem readLimit?_eq_some_iff {α : Type} {greatest : Nat} {narrow : Nat → α} {number : α → Nat}
    (fits : ∀ v, number v ≤ greatest) (back : ∀ v, narrow (number v) = v)
    (forth : ∀ k ≤ greatest, number (narrow k) = k) {limit : Limit α} :
    (Facets.readLimit? greatest (String.ofList cs)).map (Facets.narrowed narrow) = some limit ↔
      WritesLimit number cs limit := by
  unfold Facets.readLimit?
  constructor
  · intro read
    split at read
    · rename_i word
      cases read
      exact .unbounded (Bool.or_eq_true_iff.mp word)
    · simp only [Option.map_map, String.toList_ofList, Option.map_eq_some_iff] at read
      obtain ⟨k, found, rfl⟩ := read
      obtain ⟨⟨ds, writes, sign⟩, small⟩ := readUnsigned?_signed_iff.mp found
      rw [← forth k small] at writes
      exact .bounded writes sign
  · intro writes
    cases writes with
    | unbounded word =>
      have isWord : Facets.isUnboundedWord (String.ofList cs) = true :=
        Bool.or_eq_true_iff.mpr word
      rw [if_pos isWord]
      rfl
    | @bounded v ds writes sign =>
      have found := readUnsigned?_signed_iff.mpr ⟨⟨ds, writes, sign⟩, fits v⟩
      rw [isUnboundedWord_of_writes writes sign, if_neg Bool.false_ne_true, String.toList_ofList,
        found]
      exact congrArg (fun v => some (Limit.bounded v)) (back v)

theorem readFlag?_eq_some_iff {flag : Bool} :
    Facets.readFlag? (String.ofList cs) = some flag ↔ WritesFlag cs flag := by
  unfold Facets.readFlag? WritesFlag
  simp only [sameName_iff]
  have different : lower "true" ≠ lower "false" := by decide
  by_cases yes : lower (String.ofList cs) = lower "true"
  · cases flag <;> simp [yes, different]
  · cases flag <;> simp [yes]

theorem FacetName.read?_eq_some_iff {n : FacetName} {v : n.Value} :
    n.read? (String.ofList cs) = some v ↔ n.Writes cs v := by
  have octet {limit : Limit UInt8} :
      (Facets.readLimit? 255 (String.ofList cs)).map (Facets.narrowed UInt8.ofNat) = some limit ↔
        WritesLimit UInt8.toNat cs limit :=
    readLimit?_eq_some_iff (fun v => Nat.le_of_lt_succ v.toNat_lt) (fun _ => UInt8.ofNat_toNat)
      fun _ small => UInt8.toNat_ofNat_of_lt' (Nat.lt_succ_of_le small)
  cases n with
  | maxLength =>
    exact readLimit?_eq_some_iff (fun v => Nat.le_of_lt_succ v.toNat_lt)
      (fun _ => UInt32.ofNat_toNat)
      fun _ small => UInt32.toNat_ofNat_of_lt' (Nat.lt_succ_of_le small)
  | precision | scale => exact octet
  | unicode | fixedLength | preserveSeconds | nullable => exact readFlag?_eq_some_iff

/-- The plain text of a limit. -/
def Limit.valueText {α : Type} (number : α → Nat) : Limit α → String
  | .unbounded => keyword
  | .bounded v => naturalText (number v)

/-- The word of a flag. -/
def flagText (flag : Bool) : String :=
  if flag then "true" else "false"

/-- The plain text of a value. -/
def FacetName.valueText : (n : FacetName) → n.Value → String
  | .maxLength => Limit.valueText UInt32.toNat
  | .precision => Limit.valueText UInt8.toNat
  | .scale => Limit.valueText UInt8.toNat
  | .unicode => flagText
  | .fixedLength => flagText
  | .preserveSeconds => flagText
  | .nullable => flagText

theorem Limit.writes_valueText {α : Type} (number : α → Nat) (limit : Limit α) :
    WritesLimit number (limit.valueText number).toList limit := by
  cases limit with
  | unbounded => exact .unbounded (.inl (by rw [String.ofList_toList]; exact sameName_refl _))
  | bounded v =>
    have digits : Writes (natural (number v)) (number v) :=
      ⟨natural_ne_nil _, natural_isDigit _, decimalValue_natural _⟩
    exact .bounded digits (.inl (by simp [valueText, naturalText]))

theorem writes_flagText (flag : Bool) : WritesFlag (flagText flag).toList flag := by
  unfold WritesFlag
  rw [String.ofList_toList]
  exact sameName_refl _

theorem FacetName.writes_valueText (n : FacetName) (v : n.Value) :
    n.Writes (n.valueText v).toList v := by
  cases n with
  | maxLength | precision | scale => exact Limit.writes_valueText ..
  | unicode | fixedLength | preserveSeconds | nullable => exact writes_flagText v

end Values

end StoreBridge
