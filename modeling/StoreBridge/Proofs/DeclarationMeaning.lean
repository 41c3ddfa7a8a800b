import StoreBridge.Proofs.Deciding
import StoreBridge.Proofs.DeclarationGrammar

/-! What declared types mean. What the arguments state depends on the name, and which numbers they
may be depends on what they state. The name that is meant is in small letters and has single spaces;
however many of the spaces behind it the name takes, its words are the same, and so is the store
type. -/
namespace StoreBridge
open Text

namespace Declaration

/-- The words of a name: what stands between its spaces. -/
def wordsOf (name : List Char) : List (List Char) :=
  (name.splitOn ' ').filter (!·.isEmpty)

/-- The name that is meant: in small letters, with a single space between each two words. -/
def meantName (name : List Char) : String :=
  String.ofList (([' '].intercalate (wordsOf name)).map Char.toLower)

/-- The number that a string of ASCII digits writes. -/
structure Writes (a : List Char) (n : Nat) : Prop where
  someDigit : a ≠ []
  digits : ∀ c ∈ a, isDigit c = true
  value : decimalValue 0 a = n

/-- What the arguments of a name state. The numbers fit: precisions and scales are octets. -/
inductive States (name : String) : List (List Char) → Facets → Prop where
  | nothing : States name [] {}
  | precision {a : List Char} {p : UInt8} (decimal : name ∈ StoreType.decimalNames)
      (number : Writes a p.toNat) : States name [a] { precision := some (.bounded p) }
  | length {a : List Char} {n : UInt32} (other : name ∉ StoreType.decimalNames)
      (number : Writes a n.toNat) : States name [a] { maxLength := some (.bounded n) }
  | unbounded {a : List Char} (other : name ∉ StoreType.decimalNames)
      (word : lower (String.ofList a) = "max") : States name [a] { maxLength := some .unbounded }
  | both {a b : List Char} {p s : UInt8} (first : Writes a p.toNat) (second : Writes b s.toNat) :
      States name [a, b] { precision := some (.bounded p), scale := some (.bounded s) }

/-- The store type that a declared type means. Blanks may stand around it. -/
inductive Means (declared : String) : StoreType → Prop where
  | mk {name text : List Char} {arguments : List (List Char)} {facets : Facets}
      (wording : Wording name) (written : Written name arguments text)
      (padded : Padded text declared.toList) (states : States (meantName name) arguments facets) :
      Means declared ⟨meantName name, facets⟩

section Names
variable {name : List Char}

/-- Where spaces are the only blanks, the words are what stands between the spaces. -/
theorem wordsFrom_eq {cs : List Char} (only : ∀ c ∈ cs, isBlank c = (c == ' ')) (word : List Char) :
    wordsFrom cs word = (cs.splitOnPPrepend (· == ' ') word).filter (!·.isEmpty) := by
  induction cs generalizing word with
  | nil => cases word <;> simp [wordsFrom, List.splitOnPPrepend_nil]
  | cons c cs ih =>
    have here := only c (List.mem_cons_self ..)
    have later := ih fun d among => only d (.tail _ among)
    cases space : c == ' ' with
    | true =>
      rw [List.splitOnPPrepend_cons_pos (p := (· == ' ')) space, List.splitOnP_eq_splitOnPPrepend]
      cases word <;> simp [wordsFrom, here, space, later]
    | false =>
      rw [List.splitOnPPrepend_cons_neg (p := (· == ' ')) space]
      simp [wordsFrom, here, space, later]

theorem words_eq_wordsOf (parts : ∀ c ∈ name, isNamePart c = true) : words name = wordsOf name := by
  rw [wordsOf, List.splitOn_eq_splitOnP, List.splitOnP_eq_splitOnPPrepend]
  refine wordsFrom_eq (fun c among => ?_) []
  cases blank : isBlank c with
  | true => simp [eq_space_of_isNamePart (parts c among) blank]
  | false =>
    symm
    rw [beq_eq_false_iff_ne]
    rintro rfl
    cases blank

/-- A space ends a word. -/
theorem wordsOf_append_space (front behind : List Char) :
    wordsOf (front ++ ' ' :: behind) = wordsOf front ++ wordsOf behind := by
  rw [wordsOf, List.splitOn_append_cons_self, List.filter_append, wordsOf, wordsOf]

theorem wordsOf_append_spaces {spaces : List Char} (only : ∀ c ∈ spaces, c = ' ') :
    wordsOf (name ++ spaces) = wordsOf name := by
  induction spaces generalizing name with
  | nil => rw [List.append_nil]
  | cons c spaces ih =>
    obtain rfl := only c (List.mem_cons_self ..)
    have later : wordsOf ([] ++ spaces) = wordsOf [] := ih fun d among => only d (.tail _ among)
    rw [wordsOf_append_space, ← List.nil_append spaces, later]
    simp [wordsOf]

theorem toList_joined (words : List (List Char)) :
    (joined " " (words.map String.ofList)).toList = [' '].intercalate words := by
  induction words with
  | nil => rfl
  | cons w words ih =>
    cases words with
    | nil => simp [joined]
    | cons v words =>
      rw [List.intercalate_cons_cons, ← ih]
      simp [joined]

theorem meantName_append_spaces {spaces : List Char} (only : ∀ c ∈ spaces, c = ' ') :
    meantName (name ++ spaces) = meantName name := by
  rw [meantName, wordsOf_append_spaces only, meantName]

/-- The name that is meant does not depend on how many of the spaces behind the name it takes. -/
theorem plainName_eq {spaces : List Char} (wording : Wording name) (only : ∀ c ∈ spaces, c = ' ')
    (arguments : List (List Char)) :
    (Declaration.mk (name ++ spaces) arguments).plainName = meantName name := by
  have parts : ∀ c ∈ name ++ spaces, isNamePart c = true :=
    List.forall_mem_append.mpr ⟨wording.parts, fun c among => by rw [only c among]; decide⟩
  rw [plainName, lower, words_eq_wordsOf parts, toList_joined, wordsOf_append_spaces only,
    meantName]

theorem plainName_wording (wording : Wording name) (arguments : List (List Char)) :
    (Declaration.mk name arguments).plainName = meantName name := by
  have plain := plainName_eq wording (List.forall_mem_nil _) arguments
  rwa [List.append_nil] at plain

end Names

section Numbers
variable {a b : List Char}

theorem readNatural?_eq_some_iff {n : Nat} : readNatural? a = some n ↔ Writes a n := by
  unfold readNatural?
  constructor
  · intro read
    split at read
    · rename_i digits
      simp only [Bool.and_eq_true, Bool.not_eq_true', List.isEmpty_eq_false_iff,
        List.all_eq_true] at digits
      exact ⟨digits.1, digits.2, by simpa using read⟩
    · cases read
  · rintro ⟨someDigit, digits, rfl⟩
    have all : a.all isDigit = true := List.all_eq_true.mpr digits
    simp [someDigit, all]

/-- A number may have a plus sign in front, which is no digit. -/
theorem readUnsigned?_signed_iff {greatest n : Nat} : readUnsigned? greatest a = some n ↔
    (∃ ds, Writes ds n ∧ (a = ds ∨ a = '+' :: ds)) ∧ n ≤ greatest := by
  have noDigit : ∀ rest, ¬ Writes ('+' :: rest) n := fun rest writes =>
    absurd (writes.digits '+' List.mem_cons_self) (by decide)
  have bounded : ∀ cs, ((readNatural? cs).bind fun n => if n ≤ greatest then some n else none) =
      some n ↔ Writes cs n ∧ n ≤ greatest := by
    intro cs
    rw [← readNatural?_eq_some_iff]
    cases readNatural? cs with
    | none => simp
    | some m =>
      simp only [Option.bind_some, Option.ite_none_right_eq_some, Option.some.injEq]
      constructor
      · rintro ⟨fits, rfl⟩
        exact ⟨rfl, fits⟩
      · rintro ⟨rfl, fits⟩
        exact ⟨fits, rfl⟩
  unfold readUnsigned?
  split
  · rename_i rest
    apply (bounded rest).trans
    apply and_congr_left'
    constructor
    · intro writes
      exact ⟨rest, writes, .inr rfl⟩
    · rintro ⟨ds, writes, rfl | same⟩
      · exact absurd writes (noDigit _)
      · exact (List.cons.inj same).2 ▸ writes
  · rename_i unsigned
    apply (bounded a).trans
    apply and_congr_left'
    constructor
    · intro writes
      exact ⟨a, writes, .inl rfl⟩
    · rintro ⟨ds, writes, rfl | rfl⟩
      · exact writes
      · exact absurd rfl (unsigned ds)

/-- An argument has no sign, so that a number is read from ASCII digits alone. -/
theorem readUnsigned?_eq_some_iff {greatest n : Nat} (first : IsFirst a) :
    readUnsigned? greatest a = some n ↔ Writes a n ∧ n ≤ greatest := by
  have unsigned : ∀ rest, a ≠ '+' :: rest := by
    rintro rest rfl
    rcases first with digits | word
    · exact absurd (digits.inside '+' (List.mem_cons_self ..)) (by decide)
    · exact absurd ((letters_of_max word).2 '+' (List.mem_cons_self ..)) (by decide)
  rw [readUnsigned?_signed_iff]
  apply and_congr_left'
  constructor
  · rintro ⟨ds, writes, rfl | signed⟩
    · exact writes
    · exact absurd signed (unsigned ds)
  · intro writes
    exact ⟨a, writes, .inl rfl⟩

end Numbers

end Declaration

namespace StoreType
open Declaration

section Stated
variable {declared name : String} {a inner : List Char} {arguments : List (List Char)}
  {facets : Facets}

/-- An argument is understood as a number in range. -/
theorem argument_eq_ok_iff {α : Type} {greatest : Nat} {narrow : Nat → α} {value : α}
    (first : IsFirst a) :
    argument greatest narrow declared a = .ok value ↔
      ∃ n, Writes a n ∧ n ≤ greatest ∧ narrow n = value := by
  unfold argument
  constructor
  · intro understood
    split at understood
    · rename_i n read
      obtain ⟨writes, fits⟩ := (readUnsigned?_eq_some_iff first).mp read
      exact ⟨n, writes, fits, Except.ok.inj understood⟩
    · cases understood
  · rintro ⟨n, writes, fits, rfl⟩
    rw [(readUnsigned?_eq_some_iff first).mpr ⟨writes, fits⟩]

theorem octet_eq_ok_iff {p : UInt8} (first : IsFirst a) :
    argument 255 UInt8.ofNat declared a = .ok p ↔ Writes a p.toNat := by
  rw [argument_eq_ok_iff first]
  constructor
  · rintro ⟨n, writes, fits, rfl⟩
    rwa [UInt8.toNat_ofNat_of_lt' (Nat.lt_succ_of_le fits)]
  · intro writes
    exact ⟨_, writes, Nat.le_of_lt_succ p.toNat_lt, UInt8.ofNat_toNat⟩

theorem length_eq_ok_iff {n : UInt32} (first : IsFirst a) :
    argument 4294967295 UInt32.ofNat declared a = .ok n ↔ Writes a n.toNat := by
  rw [argument_eq_ok_iff first]
  constructor
  · rintro ⟨m, writes, fits, rfl⟩
    rwa [UInt32.toNat_ofNat_of_lt' (Nat.lt_succ_of_le fits)]
  · intro writes
    exact ⟨_, writes, Nat.le_of_lt_succ n.toNat_lt, UInt32.ofNat_toNat⟩

/-- One argument is a precision for the names of decimals, and a length for all others. -/
theorem statedFacets_one (first : IsFirst a) :
    statedFacets declared name [a] = .ok facets ↔ States name [a] facets := by
  by_cases decimal : name ∈ decimalNames
  · have isDecimal : decimalNames.contains name = true := List.contains_iff_mem.mpr decimal
    simp only [statedFacets, isDecimal, if_true]
    constructor
    · intro stated
      obtain ⟨p, read, stated⟩ := bind_eq_ok stated
      cases stated
      exact .precision decimal ((octet_eq_ok_iff first).mp read)
    · intro states
      cases states with
      | precision _ number =>
        rw [(octet_eq_ok_iff first).mpr number]
        rfl
      | length other | unbounded other => exact absurd decimal other
  · have noDecimal : decimalNames.contains name = false := by
      simpa using mt List.contains_iff_mem.mp decimal
    simp only [statedFacets, noDecimal, Bool.false_eq_true, if_false]
    cases word : isMax a with
    | true =>
      constructor
      · intro stated
        cases stated
        exact .unbounded decimal (isMax_iff.mp word)
      · intro states
        cases states with
        | precision known => exact absurd known decimal
        | length _ number =>
          obtain ⟨c, among⟩ := List.exists_mem_of_ne_nil _ number.someDigit
          have digit := isScriptDigit_of_isDigit c (number.digits c among)
          rw [isMax_of_digit among digit] at word
          cases word
        | unbounded => rfl
    | false =>
      constructor
      · intro stated
        obtain ⟨n, read, stated⟩ := bind_eq_ok stated
        cases stated
        exact .length decimal ((length_eq_ok_iff first).mp read)
      · intro states
        cases states with
        | precision known => exact absurd known decimal
        | length _ number =>
          rw [(length_eq_ok_iff first).mpr number]
          rfl
        | unbounded _ unbounded => exact absurd (isMax_iff.mpr unbounded) (by simp [word])

/-- Two arguments are a precision and a scale, whatever the name. -/
theorem statedFacets_two {b : List Char} (first : IsFirst a) (second : IsDigits b) :
    statedFacets declared name [a, b] = .ok facets ↔ States name [a, b] facets := by
  constructor
  · intro stated
    obtain ⟨p, read, stated⟩ := bind_eq_ok stated
    obtain ⟨s, readToo, stated⟩ := bind_eq_ok stated
    cases stated
    exact .both ((octet_eq_ok_iff first).mp read) ((octet_eq_ok_iff (.inl second)).mp readToo)
  · intro states
    cases states with
    | both number numberToo =>
      simp only [statedFacets, (octet_eq_ok_iff first).mpr number,
        (octet_eq_ok_iff (.inl second)).mpr numberToo, bind, Except.bind]
      rfl

/-- Arguments are understood as what they state. -/
theorem statedFacets_eq_ok_iff {cs : List Char} {written : List Char}
    (parts : Written written arguments cs) :
    statedFacets declared name arguments = .ok facets ↔ States name arguments facets := by
  cases parts with
  | bare =>
    constructor
    · intro stated
      cases stated
      exact .nothing
    · intro states
      cases states
      rfl
  | called _ within =>
    cases within with
    | one first => exact statedFacets_one first
    | two first _ second => exact statedFacets_two first second

theorem argument_failure {α : Type} {greatest : Nat} {narrow : Nat → α} {failure : Failure}
    (failed : argument greatest narrow declared a = .error failure) :
    failure = .typeArgumentOutOfRange (String.ofList a) declared := by
  unfold argument at failed
  split at failed
  · cases failed
  · exact (Except.error.inj failed).symm

/-- Of the arguments only a number that is out of range can be wrong. -/
theorem statedFacets_failure {failure : Failure}
    (failed : statedFacets declared name arguments = .error failure) :
    ∃ a, failure = .typeArgumentOutOfRange a declared := by
  unfold statedFacets at failed
  split at failed
  · rcases bind_eq_error failed with refused | ⟨p, -, failed⟩
    · exact ⟨_, argument_failure refused⟩
    rcases bind_eq_error failed with refused | ⟨s, -, failed⟩
    · exact ⟨_, argument_failure refused⟩
    cases failed
  · split at failed
    · rcases bind_eq_error failed with refused | ⟨p, -, failed⟩
      · exact ⟨_, argument_failure refused⟩
      cases failed
    split at failed
    · cases failed
    rcases bind_eq_error failed with refused | ⟨n, -, failed⟩
    · exact ⟨_, argument_failure refused⟩
    cases failed
  · cases failed

end Stated

variable {declared : String} {s : StoreType}

theorem read?_sound {d : Declaration} (read : read? declared = some d) :
    Wording d.name ∧ ∃ text, Padded text declared.toList ∧ Written d.name d.arguments text := by
  obtain ⟨wording, text, padded, written⟩ := ofTrimmed?_sound read
  exact ⟨wording, text, padded.trans (.trimmed _), written⟩

/-- A declared type is read as a store type exactly when it means it. -/
theorem ofDeclared_eq_ok_iff : ofDeclared declared = .ok s ↔ Means declared s := by
  constructor
  · intro understood
    cases read : read? declared with
    | none => simp [ofDeclared, read] at understood
    | some d =>
      obtain ⟨wording, text, padded, written⟩ := read?_sound read
      have plain := plainName_wording wording d.arguments
      rw [ofDeclared, read] at understood
      obtain ⟨facets, stated, understood⟩ := bind_eq_ok understood
      cases understood
      rw [plain] at stated ⊢
      exact .mk wording written padded ((statedFacets_eq_ok_iff written).mp stated)
  · intro means
    obtain @⟨name, text, arguments, facets, wording, written, padded, states⟩ := means
    obtain ⟨kept, spaces, rfl, only, wording, written⟩ := written.trimmed wording
    rw [meantName_append_spaces only] at states ⊢
    obtain ⟨more, onlyToo, read⟩ := ofTrimmed?_complete wording written
    have stated : statedFacets declared (meantName kept) arguments = .ok facets :=
      (statedFacets_eq_ok_iff written).mpr states
    have plain := plainName_eq wording onlyToo arguments
    rw [ofDeclared, Declaration.read?, padded.trimChars_eq, read]
    simp only [plain, stated, bind, Except.bind]
    rfl

/-- What is wrong with a declared type is its form, or an argument that is out of range; either way
the whole text is reported. -/
theorem ofDeclared_failure {failure : Failure} (failed : ofDeclared declared = .error failure) :
    failure = .unreadableDeclaration declared ∨
      ∃ a, failure = .typeArgumentOutOfRange a declared := by
  unfold ofDeclared at failed
  split at failed
  · cases failed
    exact .inl rfl
  · rename_i d _
    rcases bind_eq_error failed with refused | ⟨facets, -, failed⟩
    · exact .inr (statedFacets_failure refused)
    cases failed

/-- A text declares the one store type that it means, and a text without a meaning is an invalid
argument. -/
theorem ofDeclared_grammar (declared : String) :
    (∀ s, ofDeclared declared = .ok s ↔ Means declared s) ∧
      DecidedBy (∃ s, Means declared s) (ofDeclared declared) := by
  refine ⟨fun s => ofDeclared_eq_ok_iff, ?_⟩
  cases read : ofDeclared declared with
  | ok s => exact .met ⟨s, ofDeclared_eq_ok_iff.mp read⟩ s
  | error failure =>
    refine .unmet ?_ ?_
    · rintro ⟨s, means⟩
      rw [ofDeclared_eq_ok_iff.mpr means] at read
      cases read
    · rcases ofDeclared_failure read with rfl | ⟨a, rfl⟩ <;> rfl

/-- The blanks in front of the parenthesis need not be spaces; and a digit of another script is
written as digits are, but it is no number. -/
example : ofDeclared "\u3000Unsigned  BIG int \t( 0012\u00a0)" =
    .ok ⟨"unsigned big int", { maxLength := some (.bounded 12) }⟩ := by decide +kernel

example : ofDeclared "char(\u0663)" =
    .error (.typeArgumentOutOfRange "\u0663" "char(\u0663)") := by decide +kernel

end StoreType
end StoreBridge
