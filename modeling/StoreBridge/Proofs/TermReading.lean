import StoreBridge.Proofs.DecimalText
import StoreBridge.Sql.Reader

/-! The parts of a statement that stand for themselves, its names and terms, are read back from
their text. A part is read off the front of the text whenever what follows cannot be taken for more
of it, and just that is left over; which characters the part itself is made of does not matter. -/
namespace StoreBridge.Sql
open Text

/-- What follows a part of a statement: nothing, a blank, a comma, or the closing parenthesis. -/
def Ends (rest : List Char) : Prop :=
  ∀ c, rest.head? = some c → c = ' ' ∨ c = ',' ∨ c = ')'

theorem ends_nil : Ends [] :=
  fun _ first => nomatch first

theorem ends_cons {c : Char} {rest : List Char} (mark : c = ' ' ∨ c = ',' ∨ c = ')') :
    Ends (c :: rest) := by
  intro d first
  cases first
  exact mark

/-- No character of a class follows a part when blanks, commas and parentheses are not in the class.
-/
theorem Ends.outside {rest : List Char} (ends : Ends rest) {p : Char → Bool}
    (blank : p ' ' = false) (comma : p ',' = false) (closing : p ')' = false) :
    ∀ c, rest.head? = some c → p c = false := by
  intro c first
  rcases ends c first with rfl | rfl | rfl <;> assumption

/-- A reader takes just these characters in front of what may follow a part. -/
def Reads {α : Type} (part : Reader α) (chars : List Char) (a : α) : Prop :=
  ∀ rest, Ends rest → part (chars ++ rest) = some (a, rest)

/-- A name is read between its quotes, in front of anything but one more quote. -/
theorem name?_nameChars (name : String) {rest : List Char} (closed : rest.head? ≠ some '"') :
    name? (nameChars name ++ rest) = some (name, rest) := by
  have opened : mark? '"' (nameChars name ++ rest) =
      some (doubled '"' name.toList ++ '"' :: rest) := by
    show mark? '"' ('"' :: (doubled '"' name.toList ++ ['"'] ++ rest)) = _
    rw [List.append_assoc]
    rfl
  simp [name?, opened, unquote?_doubled _ _ _ closed]

theorem Ends.closed {rest : List Char} (ends : Ends rest) {quote : Char}
    (other : quote ≠ ' ' ∧ quote ≠ ',' ∧ quote ≠ ')') : rest.head? ≠ some quote := by
  intro first
  rcases ends _ first with same | same | same
  · exact other.1 same
  · exact other.2.1 same
  · exact other.2.2 same

theorem reads_name (name : String) : Reads name? (nameChars name) name :=
  fun _ ends => name?_nameChars name (ends.closed (by decide))

/-- The word in front is read as a keyword, or as another word. -/
theorem keyword?_front {word : String} {front rest : List Char}
    (letters : front.all isWordChar = true) (someLetter : front.isEmpty = false)
    (ends : Ends rest) :
    keyword? word (front ++ rest) =
      if front.map Char.toUpper = word.toList then some rest else none := by
  have inside : ∀ c ∈ front, isWordChar c = true := List.all_eq_true.mp letters
  have outside := ends.outside (p := isWordChar) rfl rfl rfl
  have wordFirst : skip (front ++ rest) = front ++ rest := by
    cases front with
    | nil => cases someLetter
    | cons c front =>
      have letter := inside c (List.mem_cons_self ..)
      have solid : isSpace c = false := by
        cases space : isSpace c with
        | false => rfl
        | true =>
          simp only [isSpace, Bool.or_eq_true, beq_iff_eq] at space
          rcases space with (((rfl | rfl) | rfl) | rfl) | rfl <;> cases letter
      simp [skip, solid]
  simp only [keyword?, wordFirst, takeWhile_front inside outside, dropWhile_front inside outside]

/-- Two digits for each octet, up to the quote. -/
theorem octets?_hexDigits (octets : List UInt8) (rest : List Char) :
    octets? (Datum.hexDigits octets ++ '\'' :: rest) = some (octets, rest) := by
  induction octets with
  | nil => rfl
  | cons b octets ih =>
    have fits := b.toNat_lt
    have high := hexValue?_upperHexDigit (n := b.toNat / 16) (by omega)
    have low := hexValue?_upperHexDigit (n := b.toNat % 16) (by omega)
    have parts : 16 * (b.toNat / 16) + b.toNat % 16 = b.toNat := by omega
    have unquoted : upperHexDigit (b.toNat / 16) ≠ '\'' := by
      intro quote
      rw [quote] at high
      cases high
    show octets? (upperHexDigit (b.toNat / 16) :: upperHexDigit (b.toNat % 16) ::
      (Datum.hexDigits octets ++ '\'' :: rest)) = _
    rw [octets?]
    · simp only [high, low, ih, bind, Option.bind_some, parts, UInt8.ofNat_toNat]
      rfl
    · exact unquoted

section Numbers

/-- An exponent is read with its sign, and left behind is what does not go on with a digit. -/
theorem exponent?_exponentPart (layout : Decimal.Layout) (e : Int) {rest : List Char}
    (outside : ∀ c, rest.head? = some c → isDigit c = false) :
    exponent? (layout.exponentPart e ++ rest) = some (e, rest) := by
  have whenBelow : e < 0 → -(e.natAbs : Int) = e := by omega
  have whenAbove : ¬ e < 0 → (e.natAbs : Int) = e := by omega
  have digits := padded_isDigit layout.exponentWidth e.natAbs
  have front := takeWhile_front digits outside
  have behind := dropWhile_front digits outside
  have value := decimalValue_padded layout.exponentWidth e.natAbs
  have filled := padded_ne_nil layout.exponentWidth e.natAbs
  unfold Decimal.Layout.exponentPart
  generalize padded layout.exponentWidth e.natAbs = ds at *
  generalize e.natAbs = n at *
  by_cases below : e < 0
  · have sign := whenBelow below
    simp [exponent?, below, front, behind, value, filled, sign]
  · have sign := whenAbove below
    cases layout.plus with
    | true => simp [exponent?, below, front, behind, value, filled, sign]
    | false =>
      cases ds with
      | nil => exact absurd rfl filled
      | cons c ds =>
        have digit := digits c (List.mem_cons_self ..)
        have minus := forall_isDigit (p := (· != '-')) (by decide) digit
        have plus := forall_isDigit (p := (· != '+')) (by decide) digit
        rw [bne_iff_ne] at minus plus
        simp only [List.cons_append] at front behind
        simp [exponent?, below, front, behind, value, sign, minus, plus]

private theorem exponent?_ends {rest : List Char} (ends : Ends rest) : exponent? rest = none := by
  cases rest with
  | nil => rfl
  | cons c rest => rcases ends c rfl with rfl | rfl | rfl <;> rfl

private theorem Ends.no_word {rest : List Char} (ends : Ends rest) :
    rest.head?.any isWordChar = false := by
  cases first : rest.head? with
  | none => rfl
  | some c => exact ends.outside (p := isWordChar) rfl rfl rfl c first

/-- Digits alone are an integer. -/
theorem number?_natural (negative : Bool) (n : Nat) :
    Reads (number? negative) (natural n) (integerDatum negative n) := by
  intro rest ends
  have outside := ends.outside (p := isDigit) rfl rfl rfl
  have none := exponent?_ends ends
  unfold number?
  rw [takeWhile_front (natural_isDigit n) outside, dropWhile_front (natural_isDigit n) outside]
  cases rest with
  | nil => simp [none, natural_ne_nil, decimalValue_natural]
  | cons c rest =>
    have word := ends.outside (p := isWordChar) rfl rfl rfl c rfl
    rcases ends c rfl with rfl | rfl | rfl <;>
      simp [none, word, natural_ne_nil, decimalValue_natural]

/-- Digits with a point or an exponent are the real number that their parts write. -/
theorem number?_numeral (negative : Bool) {n : Numeral} {layout : Decimal.Layout}
    {text : List Char} {d : Decimal} (written : n.Writes layout text d)
    (real : layout.pointZero = true) :
    Reads (number? negative) (n.chars layout) (.real (.ofDecimal negative n.decimal)) := by
  intro rest ends
  have outside := ends.outside (p := isDigit) rfl rfl rfl
  have none := exponent?_ends ends
  have word := ends.no_word
  have shown := written.real real
  have digits := written.whole_isDigit
  have someDigit := written.whole_ne_nil
  have fractional := written.fraction_isDigit
  obtain ⟨whole, fraction, exponent⟩ := n
  -- What follows the digits is an exponent or the end, and no digit in either case.
  have tail : ∀ c, (exponent.elim [] layout.exponentPart ++ rest).head? = some c →
      isDigit c = false := by
    cases exponent with
    | none => exact outside
    | some e =>
      intro c first
      cases first
      rfl
  have read : exponent? (exponent.elim [] layout.exponentPart ++ rest) =
      exponent.map fun e => (e, rest) := by
    cases exponent with
    | none => exact none
    | some e => exact exponent?_exponentPart layout e outside
  unfold number?
  simp only [Numeral.chars, List.append_assoc]
  cases fraction with
  | some ds =>
    have point : ∀ c,
        (('.' :: ds) ++ (exponent.elim [] layout.exponentPart ++ rest)).head? = some c →
          isDigit c = false := by
      intro c first
      cases first
      rfl
    simp only [Option.elim_some, takeWhile_front digits point, dropWhile_front digits point]
    simp only [List.cons_append, takeWhile_front (fractional ds rfl) tail,
      dropWhile_front (fractional ds rfl) tail, read]
    cases exponent <;> simp [Numeral.decimal, someDigit, word]
  | none =>
    simp only [Option.elim_none, List.nil_append, takeWhile_front digits tail,
      dropWhile_front digits tail]
    cases exponent with
    | none => simp at shown
    | some e =>
      have behind := exponent?_exponentPart layout e outside
      simp only [Option.elim_some, Decimal.Layout.exponentPart, List.cons_append,
        List.append_assoc] at behind ⊢
      simp [behind, Numeral.decimal, someDigit, word]

end Numbers

section Terms

/-- A term that has a text of its own: a placeholder has a name, of letters and the like, and a
literal is of a value that has one. -/
def Term.Readable : Term → Prop
  | .placeholder p => p.name.toList ≠ [] ∧ ∀ c ∈ p.name.toList, isWordChar c = true
  | .literal d => d.hasLiteral = true

private theorem reads_placeholder {p : Placeholder} (named : p.name.toList ≠ [])
    (letters : ∀ c ∈ p.name.toList, isWordChar c = true) :
    Reads term? p.chars (.placeholder p) := by
  intro rest ends
  have outside := ends.outside (p := isWordChar) rfl rfl rfl
  have front := takeWhile_front letters outside
  have behind := dropWhile_front letters outside
  have solid : isSpace p.sigil.char = false := by cases p.sigil <;> rfl
  have sigil : sigil? p.sigil.char = some p.sigil := by cases p.sigil <;> rfl
  simp [term?, skip, Placeholder.chars, solid, sigil, front, behind, named]

private theorem reads_null : Reads term? Datum.null.literalChars (.literal .null) := by
  intro rest ends
  have word : keyword? "NULL" ("NULL".toList ++ rest) = some rest := by
    rw [keyword?_front rfl rfl ends]
    rfl
  show (keyword? "NULL" ("NULL".toList ++ rest)).bind _ = _
  rw [word]
  rfl

private theorem reads_text (s : String) :
    Reads term? (Datum.text s).literalChars (.literal (.text s)) := by
  intro rest ends
  have text := unquote?_doubled '\'' s.toList rest (ends.closed (by decide))
  show (unquote? '\'' (doubled '\'' s.toList ++ ['\''] ++ rest)).bind _ = _
  rw [List.append_assoc, List.singleton_append, text]
  simp

private theorem reads_blob (octets : List UInt8) :
    Reads term? (Datum.blob octets).literalChars (.literal (.blob octets)) := by
  intro rest ends
  show (octets? (Datum.hexDigits octets ++ ['\''] ++ rest)).bind _ = _
  rw [List.append_assoc, List.singleton_append, octets?_hexDigits]
  rfl

private theorem term?_digit {c : Char} (cs : List Char) (digit : isDigit c = true) :
    term? (c :: cs) = (number? false (c :: cs)).map fun (d, rest) => (.literal d, rest) := by
  have solid := forall_isDigit (p := fun c => !isSpace c) (by decide) digit
  have plain := forall_isDigit (p := fun c => (sigil? c).isNone) (by decide) digit
  have other :=
    forall_isDigit (p := fun c => !(List.contains ['\'', 'X', 'x', '-'] c)) (by decide) digit
  simp only [List.contains_cons, List.contains_nil, Bool.or_false, Bool.not_or, Bool.and_eq_true,
    Bool.not_eq_true', beq_eq_false_iff_ne, Option.isNone_iff_eq_none] at solid plain other
  obtain ⟨quote, upper, lower, minus⟩ := other
  simp [term?, skip, solid, plain, quote, upper, lower, minus, digit]
  cases number? false (c :: cs) <;> rfl

private theorem term?_minus {c : Char} (cs : List Char) (digit : isDigit c = true) :
    term? ('-' :: c :: cs) = (number? true (c :: cs)).map fun (d, rest) => (.literal d, rest) := by
  have solid := forall_isDigit (p := fun c => !isSpace c) (by decide) digit
  have number : skip (c :: cs) = c :: cs := by
    simp only [Bool.not_eq_true'] at solid
    simp [skip, solid]
  show (number? true (skip (c :: cs))).bind _ = _
  rw [number]
  cases number? true (c :: cs) <;> rfl

/-- Characters that begin with a digit. -/
private theorem exists_first {ds : List Char} (someDigit : ds ≠ [])
    (digits : ∀ c ∈ ds, isDigit c = true) : ∃ c cs, ds = c :: cs ∧ isDigit c = true := by
  cases ds with
  | nil => exact absurd rfl someDigit
  | cons c cs => exact ⟨c, cs, rfl, digits c (List.mem_cons_self ..)⟩

/-- A number is read behind its sign. -/
private theorem reads_number {negative : Bool} {ds rest : List Char} {d : Datum}
    (someDigit : ds ≠ []) (digits : ∀ c ∈ ds, isDigit c = true)
    (reads : Reads (number? negative) (ds ++ rest) d) :
    Reads term? ((if negative then ['-'] else []) ++ (ds ++ rest)) (.literal d) := by
  obtain ⟨c, cs, rfl, digit⟩ := exists_first someDigit digits
  intro behind ends
  have number := reads behind ends
  cases negative with
  | true =>
    show term? ('-' :: c :: (cs ++ rest ++ behind)) = _
    rw [term?_minus _ digit]
    simp only [List.cons_append] at number
    rw [number]
    rfl
  | false =>
    show term? (c :: (cs ++ rest ++ behind)) = _
    rw [term?_digit _ digit]
    simp only [List.cons_append] at number
    rw [number]
    rfl

private theorem integerDatum_eq {negative : Bool} {k : Nat} {n : Int64}
    (value : n.toInt = if negative then -(k : Int) else k) :
    integerDatum negative k = .integer n := by
  unfold integerDatum
  rw [← value, integer64?_toInt]

private theorem reads_integer (n : Int64) :
    Reads term? (Datum.integer n).literalChars (.literal (.integer n)) := by
  have parts : ∃ negative k, Text.integer n.toInt = (if negative then ['-'] else []) ++ natural k ∧
      integerDatum negative k = .integer n := by
    cases value : n.toInt with
    | ofNat k => exact ⟨false, k, by simp [integer], integerDatum_eq (by rw [value]; rfl)⟩
    | negSucc k => exact ⟨true, k + 1, by simp [integer], integerDatum_eq (by rw [value]; rfl)⟩
  obtain ⟨negative, k, text, datum⟩ := parts
  have number := number?_natural negative k
  rw [datum, ← List.append_nil (natural k)] at number
  show Reads term? (Text.integer n.toInt) _
  rw [text, ← List.append_nil (natural k)]
  exact reads_number (natural_ne_nil k) (natural_isDigit k) number

private theorem reads_real {x : Binary64} (finite : x.isFinite = true) :
    Reads term? (Datum.real x).literalChars (.literal (.real x)) := by
  obtain ⟨n, d, written, text, value⟩ := Binary64.exists_literalText finite
  have number := number?_numeral x.isNegative written rfl
  rw [value, Numeral.chars, List.append_assoc] at number
  show Reads term? x.literalText.toList _
  rw [text, Numeral.chars, List.append_assoc]
  exact reads_number written.whole_ne_nil written.whole_isDigit number

/-- A term is read back from its text. -/
theorem reads_term {t : Term} (readable : t.Readable) : Reads term? t.chars t := by
  match t, readable with
  | .placeholder p, named => exact reads_placeholder named.1 named.2
  | .literal .null, _ => exact reads_null
  | .literal (.integer n), _ => exact reads_integer n
  | .literal (.real x), finite => exact reads_real finite
  | .literal (.text s), _ => exact reads_text s
  | .literal (.blob octets), _ => exact reads_blob octets

end Terms

end StoreBridge.Sql
