import StoreBridge.Document.Json
import StoreBridge.Document.Json.Reader
import StoreBridge.Proofs.DecimalText
import StoreBridge.Proofs.InstantReading

/-! A document is read back from its text, on one line or on many. What is asked of the document is
that a text can hold it: its integers fit, the names in each of its objects differ, nothing in it
shows how it was put together, and each of its real numbers is read back when it stands alone. A
part of the text is read off the front of whatever cannot be taken for more of a number. -/
namespace StoreBridge.Document
open Text

/-- A document that a text can hold, with real numbers of one sort only. -/
inductive Plain (real : Binary64 → Prop) : Document → Prop where
  | null : Plain real .null
  | boolean (b : Bool) : Plain real (.boolean b)
  | integer {n : Int} (least : -2 ^ 63 ≤ n) (greatest : n < 2 ^ 64) : Plain real (.integer n)
  | real {x : Binary64} (holds : real x) : Plain real (.real x)
  | text (s : String) : Plain real (.text s)
  | list {items : List Document} (each : ∀ d ∈ items, Plain real d) : Plain real (.list items)
  | object {members : List (String × Document)} (distinct : (members.map (·.1)).Nodup)
      (each : ∀ member ∈ members, Plain real member.2) : Plain real (.object members)

theorem levelledItems_eq {items : List Document} (each : ∀ d ∈ items, d.levelled = d) :
    levelledItems items = items := by
  induction items with
  | nil => rfl
  | cons d items ih =>
    rw [levelledItems, each d List.mem_cons_self,
      ih fun e among => each e (List.mem_cons_of_mem d among)]

theorem levelledMembers_eq {members : List (String × Document)}
    (each : ∀ member ∈ members, member.2.levelled = member.2) :
    levelledMembers members = members := by
  induction members with
  | nil => rfl
  | cons member members ih =>
    obtain ⟨name, d⟩ := member
    rw [levelledMembers, each (name, d) List.mem_cons_self,
      ih fun e among => each e (List.mem_cons_of_mem _ among)]

/-- A plain document does not show how it was put together. -/
theorem Plain.levelled_eq {real : Binary64 → Prop} {d : Document} (plain : Plain real d) :
    d.levelled = d := by
  induction plain with
  | null | boolean | integer | real | text => rfl
  | list each ih => rw [levelled, levelledItems_eq ih]
  | object distinct each ih => rw [levelled, levelledMembers_eq ih]

namespace Json

/-- The style puts nothing but blanks between the parts of a document. -/
structure Style.Spaced (style : Style) : Prop where
  colon : ∃ blanks, style.colon = ':' :: blanks ∧ ∀ c ∈ blanks, isSpace c = true
  lineStart : ∀ depth, ∀ c ∈ style.lineStart depth, isSpace c = true

theorem oneLine_spaced : oneLine.Spaced :=
  ⟨⟨[], rfl, by simp⟩, by simp [oneLine]⟩

theorem manyLines_spaced : manyLines.Spaced := by
  refine ⟨⟨[' '], rfl, by simp [isSpace]⟩, ?_⟩
  intro depth c among
  rcases List.mem_cons.mp among with rfl | blank
  · rfl
  · rw [List.eq_of_mem_replicate blank]
    rfl

/-- A real number that is read back from its text. -/
def ReadsBack (x : Binary64) : Prop :=
  read? (compact (.real x)) = some (.real x)

section Lexical
variable {front rest : List Char}

theorem skip_blanks (blank : ∀ c ∈ front, isSpace c = true) : skip (front ++ rest) = skip rest := by
  induction front with
  | nil => rfl
  | cons c front ih =>
    have space := blank c List.mem_cons_self
    rw [List.cons_append, ← ih fun d among => blank d (List.mem_cons_of_mem c among)]
    simp [skip, space]

theorem skip_solid {c : Char} (solid : isSpace c = false) : skip (c :: rest) = c :: rest := by
  simp [skip, solid]

theorem isSpace_of_isDigit {c : Char} (digit : isDigit c = true) : isSpace c = false := by
  have shown := forall_isDigit (p := fun d => !isSpace d) (by decide) digit
  simpa using shown

theorem mark?_found {m : Char} (solid : isSpace m = false)
    (blank : ∀ c ∈ front, isSpace c = true) : mark? m (front ++ m :: rest) = some rest := by
  simp [mark?, skip_blanks blank, skip_solid solid]

theorem mark?_here {m : Char} (solid : isSpace m = false) : mark? m (m :: rest) = some rest := by
  simp [mark?, skip_solid solid]

theorem mark?_other {m c : Char} (solid : isSpace c = false) (other : c ≠ m)
    (blank : ∀ c ∈ front, isSpace c = true) : mark? m (front ++ c :: rest) = none := by
  simp [mark?, skip_blanks blank, skip_solid solid, other]

/-- What follows a document does not go on with a number. -/
def Ends (rest : List Char) : Prop :=
  ∀ c, rest.head? = some c → isDigit c = false ∧ c ≠ '.' ∧ c ≠ 'e' ∧ c ≠ 'E'

theorem ends_nil : Ends [] :=
  fun _ first => nomatch first

theorem ends_blanks (blank : ∀ c ∈ front, isSpace c = true) (ends : Ends rest) :
    Ends (front ++ rest) := by
  cases front with
  | nil => exact ends
  | cons c front =>
    rintro d ⟨⟩
    have space := blank c List.mem_cons_self
    simp only [isSpace, Bool.or_eq_true, beq_iff_eq] at space
    rcases space with ((rfl | rfl) | rfl) | rfl <;> decide

theorem ends_mark {c : Char} (mark : c = ',' ∨ c = ']' ∨ c = '\x7d') : Ends (c :: rest) := by
  rintro d ⟨⟩
  rcases mark with rfl | rfl | rfl <;> decide

theorem Ends.outside (ends : Ends rest) : ∀ c, rest.head? = some c → isDigit c = false :=
  fun c first => (ends c first).1

theorem Ends.fraction? (ends : Ends rest) : fraction? rest = some (none, rest) := by
  unfold Json.fraction?
  split
  · exact absurd rfl (ends '.' rfl).2.1
  · rfl

theorem Ends.exponent? (ends : Ends rest) : exponent? rest = some (none, rest) := by
  cases rest with
  | nil => rfl
  | cons c rest =>
    obtain ⟨-, -, small, capital⟩ := ends c rfl
    simp [Json.exponent?, small, capital]

end Lexical

section Texts

/-- A control character is read from its code. -/
theorem escape?_code {c : Char} (control : c.toNat < 32) (rest : List Char) :
    escape? ('u' :: '0' :: '0' :: lowerHexDigit (c.toNat / 16) :: lowerHexDigit (c.toNat % 16) ::
      rest) = some (c, rest) := by
  have high := hexValue?_lowerHexDigit (n := c.toNat / 16) (by omega)
  have low := hexValue?_lowerHexDigit (n := c.toNat % 16) (by omega)
  have zero : hexValue? '0' = some 0 := rfl
  have both : 16 * (c.toNat / 16) + c.toNat % 16 = c.toNat := Nat.div_add_mod _ _
  have alone : ¬ (0xD800 ≤ c.toNat ∧ c.toNat < 0xDC00) := by omega
  have valid : c.toNat.isValidChar := c.valid
  have unit : unit? ('0' :: '0' :: lowerHexDigit (c.toNat / 16) ::
      lowerHexDigit (c.toNat % 16) :: rest) = some (c.toNat, rest) := by
    simp [unit?, hexNumber?, zero, high, low, both]
  simp only [escape?, unit, unitChar?, if_neg alone, scalar?, if_pos valid, Char.ofNat_toNat,
    Option.bind_eq_bind, Option.bind_some, Option.map_some]

theorem characters?_backslash {steps : Nat} {c : Char} {tail rest : List Char}
    (read : escape? tail = some (c, rest)) :
    characters? (steps + 1) ('\\' :: tail) =
      (characters? steps rest).map fun (cs, rest) => (c :: cs, rest) := by
  simp only [characters?, read, Option.bind_eq_bind, Option.bind_some]
  cases characters? steps rest <;> rfl

theorem characters?_itself {steps : Nat} {c : Char} (quote : c ≠ '"') (backslash : c ≠ '\\')
    (printed : ¬ c.toNat < 32) (rest : List Char) :
    characters? (steps + 1) (c :: rest) =
      (characters? steps rest).map fun (cs, rest) => (c :: cs, rest) := by
  rw [characters?.eq_5 _ _ _ quote backslash, if_neg printed]
  cases characters? steps rest <;> rfl

/-- A character is read from the way it is written inside a text. -/
theorem characters?_escaped (steps : Nat) (c : Char) (rest : List Char) :
    characters? (steps + 1) (escaped c ++ rest) =
      (characters? steps rest).map fun (cs, rest) => (c :: cs, rest) := by
  unfold escaped
  split
  iterate 7 exact characters?_backslash rfl
  rename_i quote backslash _ _ _ _ _
  split
  · rename_i control
    exact characters?_backslash (escape?_code control rest)
  · rename_i printed
    exact characters?_itself quote backslash printed rest

/-- The characters of a text are read up to the closing quote. -/
theorem characters?_flatMap {steps : Nat} (cs : List Char) (enough : cs.length < steps)
    (rest : List Char) :
    characters? steps (cs.flatMap escaped ++ '"' :: rest) = some (cs, rest) := by
  induction cs generalizing steps with
  | nil =>
    cases steps with
    | zero => omega
    | succ steps => rfl
  | cons c cs ih =>
    cases steps with
    | zero => omega
    | succ steps =>
      rw [List.flatMap_cons, List.append_assoc, characters?_escaped,
        ih (Nat.lt_of_succ_lt_succ enough)]
      rfl

theorem length_le_flatMap_escaped (cs : List Char) : cs.length ≤ (cs.flatMap escaped).length := by
  induction cs with
  | nil => exact Nat.zero_le _
  | cons c cs ih =>
    have one : 1 ≤ (escaped c).length := by
      unfold escaped
      split <;> (try split) <;> simp
    rw [List.flatMap_cons, List.length_append, List.length_cons]
    omega

/-- A text is read behind its opening quote. -/
theorem text?_quoted (s : String) (rest : List Char) :
    text? (s.toList.flatMap escaped ++ '"' :: rest) = some (s, rest) := by
  have enough : s.toList.length <
      (s.toList.flatMap escaped ++ '"' :: rest).length + 1 := by
    have short := length_le_flatMap_escaped s.toList
    rw [List.length_append]
    omega
  simp only [text?, characters?_flatMap s.toList enough, Option.bind_eq_bind, Option.bind_some,
    String.ofList_toList, Option.pure_def]

end Texts

section Numbers

theorem le_decimalValue (seed : Nat) (ds : List Char) : seed ≤ decimalValue seed ds := by
  induction ds generalizing seed with
  | nil => exact Nat.le_refl _
  | cons c ds ih =>
    have rest := ih (10 * seed + digitValue c)
    show seed ≤ decimalValue (10 * seed + digitValue c) ds
    omega

/-- Digits of a number that fits are all taken. -/
theorem absorb_eq (seed : Nat) (ds : List Char) (fits : decimalValue seed ds < 2 ^ 64) :
    absorb seed ds = (decimalValue seed ds, ds.length) := by
  induction ds generalizing seed with
  | nil => rfl
  | cons c ds ih =>
    have next : 10 * seed + digitValue c < Nat.pow 2 64 :=
      Nat.lt_of_le_of_lt (le_decimalValue _ ds) fits
    have rest := ih (10 * seed + digitValue c) fits
    rw [absorb, if_pos next, rest]
    rfl

/-- A number begins with zero only if it is zero. -/
theorem natural_zero_first {n : Nat} (zero : (natural n).head? = some '0') : n = 0 := by
  induction n using natural_induction with
  | small n one =>
    rw [natural_small one] at zero
    revert n
    decide
  | snoc n d positive one ih =>
    rw [natural_snoc positive one, List.head?_append_of_ne_nil _ (natural_ne_nil n)] at zero
    have nothing := ih zero
    omega

/-- The digits of a number are read as an integer. -/
theorem number?_natural (negative : Bool) {n : Nat} (fits : n < 2 ^ 64) {rest : List Char}
    (ends : Ends rest) :
    number? negative (natural n ++ rest) = some (whole negative n, rest) := by
  have digits := natural_isDigit n
  have taken := absorb_eq 0 (natural n) (by rw [decimalValue_natural]; exact fits)
  have short : (natural n).head? = some '0' → (natural n).length = 1 := by
    intro zero
    rw [natural_zero_first zero, natural_small (by decide)]
    rfl
  have valid : ((natural n).isEmpty ||
      ((natural n).head? == some '0' && (natural n).length != 1)) = false := by
    by_cases zero : (natural n).head? = some '0'
    · simp [natural_ne_nil, short zero]
    · simp [natural_ne_nil, zero]
  rw [decimalValue_natural] at taken
  simp only [number?, takeWhile_front digits ends.outside, dropWhile_front digits ends.outside,
    ends.fraction?, ends.exponent?, taken, valid, Option.bind_eq_bind, Option.bind_some]
  simp

/-- An exponent is read with its sign. -/
theorem exponent?_exponentPart (layout : Decimal.Layout) (e : Int) {rest : List Char}
    (ends : Ends rest) : exponent? (layout.exponentPart e ++ rest) = some (some e, rest) := by
  have whenBelow : e < 0 → -(e.natAbs : Int) = e := by omega
  have whenAbove : ¬ e < 0 → (e.natAbs : Int) = e := by omega
  have digits := padded_isDigit layout.exponentWidth e.natAbs
  have front := takeWhile_front digits ends.outside
  have behind := dropWhile_front digits ends.outside
  have value := decimalValue_padded layout.exponentWidth e.natAbs
  have filled := padded_ne_nil layout.exponentWidth e.natAbs
  unfold Decimal.Layout.exponentPart
  generalize padded layout.exponentWidth e.natAbs = ds at *
  generalize e.natAbs = n at *
  by_cases below : e < 0
  · have sign := whenBelow below
    simp [exponent?, exponentSign, below, front, behind, value, filled, sign]
  · have sign := whenAbove below
    cases layout.plus with
    | true => simp [exponent?, exponentSign, below, front, behind, value, filled, sign]
    | false =>
      cases ds with
      | nil => exact absurd rfl filled
      | cons c ds =>
        have digit := digits c List.mem_cons_self
        have minus := forall_isDigit (p := (· != '-')) (by decide) digit
        have plus := forall_isDigit (p := (· != '+')) (by decide) digit
        rw [bne_iff_ne] at minus plus
        have unsigned : exponentSign (c :: (ds ++ rest)) = (false, c :: (ds ++ rest)) := by
          simp [exponentSign, minus, plus]
        simp only [List.cons_append] at front behind
        simp [exponent?, unsigned, below, front, behind, value, sign]

/-- The parts of a number that is not whole are found, and nothing behind it matters: it is refused
for a zero in front of its digits, or is the number of its parts. -/
theorem number?_numeral (negative : Bool) {n : Numeral} {layout : Decimal.Layout}
    {text : List Char} {d : Decimal} (written : n.Writes layout text d)
    (real : layout.pointZero = true) {rest : List Char} (ends : Ends rest) :
    number? negative (n.chars layout ++ rest) =
      if n.whole.head? == some '0' && n.whole.length != 1 then none
      else (real? negative n.whole (n.fraction.getD []) (n.exponent.getD 0)).map (·, rest) := by
  have shown := written.real real
  have digits := written.whole_isDigit
  have someDigit := written.whole_ne_nil
  have fractional := written.fraction_isDigit
  have someFraction := written.fraction_ne_nil
  obtain ⟨whole, fraction, exponent⟩ := n
  let tail := exponent.elim [] layout.exponentPart ++ rest
  -- What follows the digits is an exponent or the end, and no digit in either case.
  have outside : ∀ c, tail.head? = some c → isDigit c = false := by
    cases exponent with
    | none => exact ends.outside
    | some e => rintro c ⟨⟩; rfl
  have readExponent : exponent? tail = some (exponent, rest) := by
    cases exponent with
    | none => exact ends.exponent?
    | some e => exact exponent?_exponentPart layout e ends
  have readFraction : fraction? (fraction.elim [] ('.' :: ·) ++ tail) = some (fraction, tail) := by
    cases fraction with
    | none =>
      cases exponent with
      | none => exact ends.fraction?
      | some e => rfl
    | some ds =>
      have front := takeWhile_front (fractional ds rfl) outside
      have behind := dropWhile_front (fractional ds rfl) outside
      have filled : ds ≠ [] := fun nothing => someFraction (congrArg some nothing)
      simp [fraction?, front, behind, filled]
  have point : ∀ c, (fraction.elim [] ('.' :: ·) ++ tail).head? = some c → isDigit c = false := by
    cases fraction with
    | none => exact outside
    | some ds => rintro c ⟨⟩; rfl
  have parted : (fraction.isNone && exponent.isNone) = false := by
    cases fraction <;> cases exponent <;> simp_all
  have text : Numeral.chars layout ⟨whole, fraction, exponent⟩ ++ rest =
      whole ++ (fraction.elim [] ('.' :: ·) ++ tail) := by
    simp [Numeral.chars, tail]
  have filled : whole.isEmpty = false := List.isEmpty_eq_false_iff.mpr someDigit
  rw [text]
  simp only [number?, takeWhile_front digits point, dropWhile_front digits point, filled,
    Bool.false_or, readFraction, readExponent, parted, Bool.false_and, Bool.false_eq_true,
    if_false, Option.bind_eq_bind, Option.bind_some]
  cases real? negative whole (fraction.getD []) (exponent.getD 0) <;> rfl

/-- A number that is read alone is read in front of what does not go on with it. -/
theorem number?_append {negative : Bool} {n : Numeral} {layout : Decimal.Layout}
    {text : List Char} {d : Decimal} (written : n.Writes layout text d)
    (real : layout.pointZero = true) {e : Document} {left : List Char}
    (alone : number? negative (n.chars layout) = some (e, left)) {rest : List Char}
    (ends : Ends rest) : number? negative (n.chars layout ++ rest) = some (e, rest) := by
  have nothing := number?_numeral negative written real ends_nil
  rw [List.append_nil, alone] at nothing
  rw [number?_numeral negative written real ends]
  split at nothing
  · cases nothing
  · rename_i valid
    rw [if_neg valid]
    cases read : real? negative n.whole (n.fraction.getD []) (n.exponent.getD 0) with
    | none =>
      rw [read] at nothing
      cases nothing
    | some found =>
      rw [read] at nothing
      cases nothing
      rfl

end Numbers

section Values
variable {front rest : List Char}

theorem value?_front (steps : Nat) (blank : ∀ c ∈ front, isSpace c = true) :
    value? steps (front ++ rest) = value? steps rest := by
  cases steps with
  | zero => rfl
  | succ steps => simp only [value?, skip_blanks blank]

theorem value?_digit (steps : Nat) {c : Char} (cs : List Char) (digit : isDigit c = true) :
    value? (steps + 1) (c :: cs) = number? false (c :: cs) := by
  have solid := isSpace_of_isDigit digit
  simp only [value?, skip_solid solid]
  split
  any_goals (rename_i first; cases first; cases digit)
  · rename_i first
    cases first
  · rfl

/-- Digits in front decide that a number follows. -/
theorem value?_digits (steps : Nat) {ds : List Char} (digits : ∀ c ∈ ds, isDigit c = true)
    (someDigit : ds ≠ []) (cs : List Char) :
    value? (steps + 1) (ds ++ cs) = number? false (ds ++ cs) := by
  cases ds with
  | nil => exact absurd rfl someDigit
  | cons c ds => exact value?_digit steps (ds ++ cs) (digits c List.mem_cons_self)

/-- A whole number is read, whatever its sign. -/
theorem value?_integer (steps : Nat) {n : Int} (least : -2 ^ 63 ≤ n) (greatest : n < 2 ^ 64)
    (ends : Ends rest) : value? (steps + 1) (Text.integer n ++ rest) = some (.integer n, rest) := by
  cases n with
  | ofNat k =>
    have fits : k < 2 ^ 64 := Int.ofNat_lt.mp greatest
    show value? (steps + 1) (natural k ++ rest) = _
    rw [value?_digits steps (natural_isDigit k) (natural_ne_nil k), number?_natural false fits ends]
    rfl
  | negSucc k =>
    have least : k + 1 ≤ 2 ^ 63 := by omega
    show number? true (natural (k + 1) ++ rest) = _
    rw [number?_natural true (by omega) ends]
    have small : ¬ (k + 1 = 0 ∨ Nat.pow 2 63 < k + 1) := not_or_intro (Nat.succ_ne_zero k)
      (Nat.not_lt.mpr least)
    rw [whole, if_pos rfl, if_neg small]
    rfl

/-- A finite number is written as a sign, if it is negative, and parts. -/
theorem exists_number {x : Binary64} (finite : x.isFinite = true) :
    ∃ n text d, Numeral.Writes n Binary64.documentLayout text d ∧
      number x = (if x.isNegative then ['-'] else []) ++ n.chars Binary64.documentLayout := by
  have notNaN : x.isNaN = false := by
    have below : x.magnitude < Binary64.infiniteMagnitude := of_decide_eq_true finite
    exact decide_eq_false (by omega)
  obtain ⟨n, d, written, -⟩ := Binary64.exists_numeral Binary64.documentLayout (x.shortest .even)
  refine ⟨n, _, d, written, ?_⟩
  simp [number, Binary64.documentText, Binary64.signed, notNaN, finite, ← written.text]

/-- What a sign and parts are read as, whatever follows them. -/
theorem value?_signed (steps : Nat) (negative : Bool) {n : Numeral} {layout : Decimal.Layout}
    {text : List Char} {d : Decimal} (written : n.Writes layout text d) (rest : List Char) :
    value? (steps + 1) ((if negative then ['-'] else []) ++ n.chars layout ++ rest) =
      number? negative (n.chars layout ++ rest) := by
  cases negative with
  | true => rfl
  | false =>
    have whole := value?_digits steps written.whole_isDigit written.whole_ne_nil
    show value? (steps + 1) (n.chars layout ++ rest) = _
    simp only [Numeral.chars, List.append_assoc]
    exact whole _

/-- A number is read in front of what does not go on with it if it is read when it stands alone. -/
theorem value?_number (steps : Nat) {x : Binary64} (finite : x.isFinite = true)
    (back : ReadsBack x) (ends : Ends rest) :
    value? (steps + 1) (number x ++ rest) = some (.real x, rest) := by
  obtain ⟨n, text, d, written, shown⟩ := exists_number finite
  have alone := back
  simp only [ReadsBack, read?, compact, chars, String.toList_ofList, shown] at alone
  have whole := value?_signed (2 * (String.ofList ((if x.isNegative then ['-'] else []) ++
    n.chars Binary64.documentLayout)).length) x.isNegative written []
  rw [List.append_nil, List.append_nil] at whole
  rw [whole] at alone
  rw [shown, value?_signed steps x.isNegative written]
  cases read : number? x.isNegative (n.chars Binary64.documentLayout) with
  | none =>
    rw [read] at alone
    cases alone
  | some found =>
    obtain ⟨e, left⟩ := found
    rw [read] at alone
    simp only [Option.bind_eq_bind, Option.bind_some] at alone
    split at alone
    · cases alone
      exact number?_append written rfl read ends
    · cases alone

end Values

section Documents
variable {style : Style} {front back rest : List Char}

/-- A real number that has a text and is read back from it. -/
def Legible (x : Binary64) : Prop :=
  x.isFinite = true ∧ ReadsBack x

/-- A document is read from its text at every depth, in as many steps as there are characters twice
over, and left behind is whatever does not go on with a number. -/
def Returns (style : Style) (d : Document) : Prop :=
  ∀ depth steps rest, 2 * (chars style depth d).length ≤ steps → Ends rest →
    value? steps (chars style depth d ++ rest) = some (d, rest)

/-- The text of a document begins with what is neither blank nor a closing bracket. -/
theorem first_chars (style : Style) {d : Document} (plain : Plain Legible d) (depth : Nat) :
    ∃ c cs, chars style depth d = c :: cs ∧ isSpace c = false ∧ c ≠ ']' := by
  have digits {ds : List Char} (digits : ∀ c ∈ ds, isDigit c = true) (someDigit : ds ≠ [])
      (rest : List Char) : ∃ c cs, ds ++ rest = c :: cs ∧ isSpace c = false ∧ c ≠ ']' := by
    cases ds with
    | nil => exact absurd rfl someDigit
    | cons c ds =>
      have digit := digits c List.mem_cons_self
      refine ⟨c, ds ++ rest, rfl, isSpace_of_isDigit digit, ?_⟩
      rintro rfl
      cases digit
  cases plain with
  | null => exact ⟨_, _, rfl, rfl, by decide⟩
  | boolean b => cases b <;> exact ⟨_, _, rfl, rfl, by decide⟩
  | @integer n least greatest =>
    cases n with
    | ofNat k =>
      have whole := digits (natural_isDigit k) (natural_ne_nil k) []
      rwa [List.append_nil] at whole
    | negSucc k => exact ⟨_, _, rfl, rfl, by decide⟩
  | @real x holds =>
    obtain ⟨n, text, e, written, shown⟩ := exists_number holds.1
    rw [chars, shown]
    cases x.isNegative with
    | true => exact ⟨_, _, rfl, rfl, by decide⟩
    | false =>
      have whole := digits written.whole_isDigit written.whole_ne_nil
      simpa [Numeral.chars] using whole _
  | text s => exact ⟨_, _, rfl, rfl, by decide⟩
  | @list items each => cases items <;> exact ⟨_, _, rfl, rfl, by decide⟩
  | @object members distinct each => cases members <;> exact ⟨_, _, rfl, rfl, by decide⟩

theorem ends_itemChars (style : Style) (rest : List Char)
    (blank : ∀ c ∈ back, isSpace c = true) (depth : Nat) (items : List Document) :
    Ends (itemChars style depth items ++ (back ++ ']' :: rest)) := by
  cases items with
  | nil =>
    rw [itemChars, List.nil_append]
    exact ends_blanks blank (ends_mark (.inr (.inl rfl)))
  | cons d items => exact ends_mark (.inl rfl)

/-- The items of a list are read one after the other, up to the closing bracket. -/
theorem items?_chars (spaced : style.Spaced) (rest : List Char) {d : Document} {items : List Document}
    (head : Returns style d) (tail : ∀ e ∈ items, Returns style e) {depth steps : Nat}
    (enough : 2 * ((chars style depth d).length + (itemChars style depth items).length) < steps)
    (blankFront : ∀ c ∈ front, isSpace c = true) (blankBack : ∀ c ∈ back, isSpace c = true) :
    items? steps (front ++ (chars style depth d ++ (itemChars style depth items ++
      (back ++ ']' :: rest)))) = some (d :: items, rest) := by
  induction items generalizing d front steps with
  | nil =>
    cases steps with
    | zero => omega
    | succ steps =>
      have ends := ends_itemChars style rest blankBack depth []
      have first := head depth steps _ (by omega) ends
      have comma : mark? ',' (back ++ ']' :: rest) = none :=
        mark?_other rfl (by decide) blankBack
      have closing : mark? ']' (back ++ ']' :: rest) = some rest := mark?_found rfl blankBack
      rw [itemChars, List.nil_append] at first
      simp only [items?, value?_front steps blankFront, itemChars, List.nil_append, first, comma,
        closing, Option.bind_eq_bind, Option.bind_some, Option.pure_def]
  | cons e items ih =>
    cases steps with
    | zero => omega
    | succ steps =>
      have ends := ends_itemChars style rest blankBack depth (e :: items)
      have first := head depth steps _ (by omega) ends
      have others := @ih (style.lineStart depth) e (tail e List.mem_cons_self)
        (fun f among => tail f (List.mem_cons_of_mem e among)) steps
        (by simp only [itemChars, List.length_append, List.length_cons] at enough; omega)
        (spaced.lineStart depth)
      have text : itemChars style depth (e :: items) ++ (back ++ ']' :: rest) =
          ',' :: (style.lineStart depth ++ (chars style depth e ++
            (itemChars style depth items ++ (back ++ ']' :: rest)))) := by
        simp [itemChars]
      have comma (rest : List Char) : mark? ',' (',' :: rest) = some rest := mark?_here rfl
      rw [text] at first ⊢
      simp only [items?, value?_front steps blankFront, first, comma, others, Option.bind_eq_bind,
        Option.bind_some, Option.pure_def]

theorem ends_memberChars (style : Style) (rest : List Char)
    (blank : ∀ c ∈ back, isSpace c = true) (depth : Nat) (members : List (String × Document)) :
    Ends (memberChars style depth members ++ (back ++ '\x7d' :: rest)) := by
  cases members with
  | nil =>
    rw [memberChars, List.nil_append]
    exact ends_blanks blank (ends_mark (.inr (.inr rfl)))
  | cons member members => exact ends_mark (.inl rfl)

/-- The members of an object are read one after the other, up to the closing brace. -/
theorem members?_chars (spaced : style.Spaced) (name : String) (rest : List Char) {d : Document}
    {members : List (String × Document)} (head : Returns style d)
    (tail : ∀ member ∈ members, Returns style member.2) {depth steps : Nat}
    (enough : 2 * ((chars style depth d).length + (memberChars style depth members).length) <
      steps)
    (blankFront : ∀ c ∈ front, isSpace c = true) (blankBack : ∀ c ∈ back, isSpace c = true) :
    members? steps (front ++ (quoted name ++ (style.colon ++ (chars style depth d ++
      (memberChars style depth members ++ (back ++ '\x7d' :: rest)))))) =
      some ((name, d) :: members, rest) := by
  obtain ⟨blanks, colon, blankColon⟩ := spaced.colon
  have named (name : String) (cs : List Char) {front : List Char}
      (blank : ∀ c ∈ front, isSpace c = true) :
      mark? '"' (front ++ (quoted name ++ cs)) =
        some (name.toList.flatMap escaped ++ '"' :: cs) := by
    have text : quoted name ++ cs = '"' :: (name.toList.flatMap escaped ++ '"' :: cs) := by
      simp [quoted]
    rw [text]
    exact mark?_found rfl blank
  have parted (cs : List Char) : mark? ':' (style.colon ++ cs) = some (blanks ++ cs) := by
    rw [colon]
    exact mark?_here rfl
  induction members generalizing name d front steps with
  | nil =>
    cases steps with
    | zero => omega
    | succ steps =>
      have ends := ends_memberChars style rest blankBack depth []
      have first := head depth steps _ (by omega) ends
      have comma : mark? ',' (back ++ '\x7d' :: rest) = none :=
        mark?_other rfl (by decide) blankBack
      have closing : mark? '\x7d' (back ++ '\x7d' :: rest) = some rest :=
        mark?_found rfl blankBack
      rw [memberChars, List.nil_append] at first
      simp only [members?, named name _ blankFront, text?_quoted, parted,
        value?_front steps blankColon, memberChars, List.nil_append, first, comma, closing,
        Option.bind_eq_bind, Option.bind_some, Option.pure_def]
  | cons member members ih =>
    obtain ⟨next, e⟩ := member
    cases steps with
    | zero => omega
    | succ steps =>
      have ends := ends_memberChars style rest blankBack depth
        ((next, e) :: members)
      have first := head depth steps _ (by omega) ends
      have others := @ih (style.lineStart depth) next e (tail (next, e) List.mem_cons_self)
        (fun f among => tail f (List.mem_cons_of_mem _ among)) steps
        (by simp only [memberChars, List.length_append, List.length_cons] at enough; omega)
        (spaced.lineStart depth)
      have text : memberChars style depth ((next, e) :: members) ++ (back ++ '\x7d' :: rest) =
          ',' :: (style.lineStart depth ++ (quoted next ++ (style.colon ++
            (chars style depth e ++ (memberChars style depth members ++
              (back ++ '\x7d' :: rest)))))) := by
        simp [memberChars]
      have comma (rest : List Char) : mark? ',' (',' :: rest) = some rest := mark?_here rfl
      rw [text] at first ⊢
      simp only [members?, named name _ blankFront, text?_quoted, parted,
        value?_front steps blankColon, first, comma, others, Option.bind_eq_bind,
        Option.bind_some, Option.pure_def]

theorem lastOfEach_eq {members : List (String × Document)}
    (distinct : (members.map (·.1)).Nodup) : lastOfEach members = members := by
  induction members with
  | nil => rfl
  | cons member members ih =>
    obtain ⟨name, d⟩ := member
    rw [List.map_cons, List.nodup_cons] at distinct
    have last : (members.any (·.1 == name)) = false := by
      rw [List.any_eq_false]
      rintro other among same
      exact distinct.1 (List.mem_map.mpr ⟨other, among, beq_iff_eq.mp same⟩)
    rw [lastOfEach, last, if_neg Bool.false_ne_true, ih distinct.2]

/-- There is always a step to begin with. -/
theorem returns_of_step {d : Document} (plain : Plain Legible d)
    (step : ∀ depth steps rest, 2 * (chars style depth d).length ≤ steps + 1 → Ends rest →
      value? (steps + 1) (chars style depth d ++ rest) = some (d, rest)) : Returns style d := by
  intro depth steps rest enough ends
  obtain ⟨c, cs, text, -, -⟩ := first_chars style plain depth
  cases steps with
  | zero =>
    rw [text] at enough
    cases enough
  | succ steps => exact step depth steps rest enough ends

/-- A plain document is read from its text. -/
theorem returns_of_plain (spaced : style.Spaced) {d : Document} (plain : Plain Legible d) :
    Returns style d := by
  induction plain with
  | null => exact returns_of_step .null fun _ _ _ _ _ => rfl
  | boolean b =>
    refine returns_of_step (.boolean b) fun depth steps rest enough ends => ?_
    cases b <;> rfl
  | integer least greatest =>
    refine returns_of_step (.integer least greatest) fun depth steps rest enough ends => ?_
    exact value?_integer steps least greatest ends
  | real holds =>
    refine returns_of_step (.real holds) fun depth steps rest enough ends => ?_
    exact value?_number steps holds.1 holds.2 ends
  | text s =>
    refine returns_of_step (.text s) fun depth steps rest enough ends => ?_
    have text : quoted s ++ rest = '"' :: (s.toList.flatMap escaped ++ '"' :: rest) := by
      simp [quoted]
    rw [chars, text]
    show (text? _).bind _ = _
    rw [text?_quoted]
    rfl
  | @list items each ih =>
    refine returns_of_step (.list each) fun depth steps rest enough ends => ?_
    cases items with
    | nil => rfl
    | cons d items =>
      have blank := spaced.lineStart (depth + 1)
      have text : chars style depth (.list (d :: items)) ++ rest =
          '[' :: (style.lineStart (depth + 1) ++ (chars style (depth + 1) d ++
            (itemChars style (depth + 1) items ++ (style.lineStart depth ++ ']' :: rest)))) := by
        simp [chars]
      -- An item begins the list, and no closing bracket.
      obtain ⟨c, cs, first, solid, item⟩ := first_chars style
        (each d List.mem_cons_self) (depth + 1)
      have filled : mark? ']' (style.lineStart (depth + 1) ++ (chars style (depth + 1) d ++
          (itemChars style (depth + 1) items ++ (style.lineStart depth ++ ']' :: rest)))) =
            none := by
        rw [first]
        exact mark?_other solid item blank
      have room : 2 * ((chars style (depth + 1) d).length +
          (itemChars style (depth + 1) items).length) < steps := by
        simp only [chars, List.length_append, List.length_cons] at enough
        omega
      have read := items?_chars spaced rest (ih d List.mem_cons_self)
        (fun e among => ih e (List.mem_cons_of_mem d among)) room blank (spaced.lineStart depth)
      rw [text]
      simp only [value?, skip_solid (c := '[') rfl, filled, read, Option.bind_eq_bind,
        Option.bind_some, Option.pure_def]
  | @object members distinct each ih =>
    refine returns_of_step (.object distinct each) fun depth steps rest enough ends => ?_
    cases members with
    | nil => rfl
    | cons member members =>
      obtain ⟨name, d⟩ := member
      have blank := spaced.lineStart (depth + 1)
      have text : chars style depth (.object ((name, d) :: members)) ++ rest =
          '\x7b' :: (style.lineStart (depth + 1) ++ (quoted name ++ (style.colon ++
            (chars style (depth + 1) d ++ (memberChars style (depth + 1) members ++
              (style.lineStart depth ++ '\x7d' :: rest)))))) := by
        simp [chars, objectChars]
      have filled : mark? '\x7d' (style.lineStart (depth + 1) ++ (quoted name ++ (style.colon ++
          (chars style (depth + 1) d ++ (memberChars style (depth + 1) members ++
            (style.lineStart depth ++ '\x7d' :: rest)))))) = none :=
        mark?_other rfl (by decide) blank
      have room : 2 * ((chars style (depth + 1) d).length +
          (memberChars style (depth + 1) members).length) < steps := by
        simp only [chars, objectChars, List.length_append, List.length_cons] at enough
        omega
      have read := members?_chars spaced name rest (ih (name, d) List.mem_cons_self)
        (fun e among => ih e (List.mem_cons_of_mem _ among)) room blank (spaced.lineStart depth)
      rw [text]
      simp only [value?, skip_solid (c := '\x7b') rfl, filled, read, lastOfEach_eq distinct,
        Option.bind_eq_bind, Option.bind_some, Option.pure_def]

/-- A plain document is what its text is read as, on one line or on many. -/
theorem read?_chars (spaced : style.Spaced) {d : Document} (plain : Plain Legible d) :
    read? (String.ofList (chars style 0 d)) = some d := by
  have read := returns_of_plain spaced plain 0 (2 * (String.ofList (chars style 0 d)).length + 1) []
    (by rw [String.length_ofList]; omega) ends_nil
  rw [List.append_nil] at read
  simp only [read?, String.toList_ofList, read, Option.bind_eq_bind, Option.bind_some]
  rfl

/-- A plain document is read back whichever way it is written. -/
theorem read?_written {write : Document → String} (json : write = compact ∨ write = pretty)
    {d : Document} (plain : Plain Legible d) : read? (write d) = some d := by
  rcases json with rfl | rfl
  · exact read?_chars oneLine_spaced plain
  · exact read?_chars manyLines_spaced plain

end Documents

end Json
end StoreBridge.Document
