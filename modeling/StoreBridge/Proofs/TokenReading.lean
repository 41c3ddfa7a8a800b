import StoreBridge.Proofs.TermReading
import StoreBridge.Sql.Expression.Reader

/-! The tokens of the parts of a statement. Each name, each word and each term is a token of its own,
or two, in front of whatever may follow a part; which characters it is made of does not matter, as
long as its quotes are closed. -/
namespace StoreBridge.Sql
open Text

namespace Token

/-- A token without the gap in front of it. -/
def bare (t : Token) : Token :=
  { t with gap := [] }

/-- The placeholder that a token is. -/
def placeholder? (t : Token) : Option Placeholder :=
  if t.kind = .variable then
    match t.asVariable? with
    | some (.named p) => some p
    | _ => none
  else none

/-- The token is part of a statement, and does not end it. -/
def isInner (t : Token) : Bool :=
  t.kind != .illegal && !Grammar.isEnd [t]

/-- The tokens of a text without the gaps in front of them. -/
def bareTokens (steps : Nat) (cs : List Char) : List Token :=
  (ofChars steps cs).map bare

/-- A character of a class is none outside of it. -/
theorem ne_outside {p : Char → Bool} {c d : Char} (inside : p c = true) (outside : p d = false) :
    c ≠ d := by
  rintro rfl
  rw [inside] at outside
  cases outside

theorem null_outside {p : Char → Bool} {cs : List Char} (inside : ∀ c ∈ cs, p c = true)
    (outside : p '\x00' = false) : '\x00' ∉ cs :=
  fun null => ne_outside (inside _ null) outside rfl

/-- A token can begin here: there is neither a gap nor a null character. -/
def opens : List Char → Bool
  | '-' :: d :: _ => isDigit d
  | c :: _ => !isWideSpace c && c != '\ufeff' && c != '-' && c != '/' && c != '\x00'
  | [] => false

theorem opens_cases {cs : List Char} (opening : opens cs = true) :
    (∃ d rest, cs = '-' :: d :: rest ∧ isDigit d = true) ∨
      ∃ c rest, cs = c :: rest ∧ isWideSpace c = false ∧ c ≠ '\ufeff' ∧ c ≠ '-' ∧ c ≠ '/' ∧
        c ≠ '\x00' := by
  unfold opens at opening
  split at opening
  · exact .inl ⟨_, _, rfl, opening⟩
  · refine .inr ⟨_, _, rfl, ?_⟩
    simpa [and_assoc] using opening
  · cases opening

theorem opens_cons {c : Char} (rest : List Char) (space : isWideSpace c = false)
    (mark : c ≠ '\ufeff' ∧ c ≠ '-' ∧ c ≠ '/' ∧ c ≠ '\x00') : opens (c :: rest) = true := by
  obtain ⟨order, minus, slash, null⟩ := mark
  simp [opens.eq_2 _ _ fun d tail same _ => minus same, space, order, minus, slash, null]

theorem opens_isLetter {c : Char} (letter : isLetter c = true) (rest : List Char) :
    opens (c :: rest) = true := by
  have apart (d : Char) (none : isLetter d = false) : c ≠ d := ne_outside letter none
  have space : isWideSpace c = false := by
    simp [isWideSpace, isSpace, apart ' ' rfl, apart '\t' rfl, apart '\n' rfl, apart '\r' rfl,
      apart '\x0c' rfl, apart '\x0b' rfl]
  exact opens_cons rest space
    ⟨apart '\ufeff' rfl, apart '-' rfl, apart '/' rfl, apart '\x00' rfl⟩

theorem opens_isDigit {c : Char} (digit : isDigit c = true) (rest : List Char) :
    opens (c :: rest) = true := by
  have solid := forall_isDigit (p := fun c => !isWideSpace c && c != '\ufeff' && c != '-' &&
    c != '/' && c != '\x00') (by decide) digit
  simp only [Bool.and_eq_true, Bool.not_eq_true', bne_iff_ne, ne_eq, and_assoc] at solid
  exact opens_cons rest solid.1 solid.2

theorem opens_append {cs : List Char} (opening : opens cs = true) (rest : List Char) :
    opens (cs ++ rest) = true := by
  obtain ⟨d, tail, rfl, digit⟩ | ⟨c, tail, rfl, space, mark⟩ := opens_cases opening
  · exact digit
  · exact opens_cons _ space mark

theorem afterGap_opens {cs : List Char} (opening : opens cs = true) (steps : Nat) :
    afterGap steps cs = cs := by
  cases steps with
  | zero => rfl
  | succ steps =>
    obtain ⟨d, tail, rfl, digit⟩ | ⟨c, tail, rfl, space, order, minus, slash, -⟩ :=
      opens_cases opening
    · have other := forall_isDigit (p := (· != '-')) (by decide) digit
      rw [bne_iff_ne] at other
      simp [afterGap, isSpace, other]
    · have narrow : isSpace c = false := by
        rw [isWideSpace, Bool.or_eq_false_iff] at space
        exact space.1
      simp [afterGap, narrow, order, minus, slash]

theorem before_append (front rest : List Char) : before (front ++ rest) rest = front := by
  simp [before]

theorem before_self (cs : List Char) : before cs cs = [] := by
  simp [before]

/-- The first token of a text, and those behind it. -/
theorem bareTokens_cons {front rest : List Char} {kind : Kind} (opening : opens (front ++ rest) = true)
    (filled : front ≠ []) (cut : first (front ++ rest) = (kind, rest)) (steps : Nat) :
    bareTokens (steps + 1) (front ++ rest) = ⟨[], front, kind⟩ :: bareTokens steps rest := by
  have start := afterGap_opens opening (front ++ rest).length
  cases front with
  | nil => exact absurd rfl filled
  | cons c front =>
    rw [List.cons_append] at start cut ⊢
    have chars := before_append (c :: front) rest
    rw [List.cons_append] at chars
    simp only [bareTokens, ofChars, start, cut, before_self, chars, List.map_cons]
    rfl

/-- Characters that no token can begin with are the last ones that are cut. -/
theorem bareTokens_illegal {cs : List Char} (opening : opens cs = true)
    (cut : first cs = (.illegal, [])) (steps : Nat) :
    bareTokens (steps + 1) cs = ⟨[], cs, .illegal⟩ :: bareTokens steps [] := by
  have filled : cs ≠ [] := by
    rintro rfl
    cases opening
  have text : cs ++ [] = cs := List.append_nil cs
  have tokens : bareTokens (steps + 1) (cs ++ []) = ⟨[], cs, .illegal⟩ :: bareTokens steps [] :=
    bareTokens_cons (by rwa [text]) filled (by rwa [text]) steps
  rwa [text] at tokens

/-- A blank in front of a token says nothing. -/
theorem bareTokens_blank {cs : List Char} (opening : opens cs = true) (steps : Nat) :
    bareTokens steps (' ' :: cs) = bareTokens steps cs := by
  cases steps with
  | zero => rfl
  | succ steps =>
    have solid : cs.dropWhile isWideSpace = cs := by
      obtain ⟨d, tail, rfl, -⟩ | ⟨c, tail, rfl, space, -⟩ := opens_cases opening
      · rfl
      · simp [space]
    have blank : afterGap (' ' :: cs).length (' ' :: cs) = cs := by
      show afterGap cs.length (cs.dropWhile isWideSpace) = cs
      rw [solid, afterGap_opens opening]
    have start := afterGap_opens opening cs.length
    simp only [bareTokens, ofChars, blank, start]
    cases cs with
    | nil => rfl
    | cons c cs => rfl

end Token

open Token

section Lexical
variable {cs rest : List Char}

theorem isDigit_of_isLetter {c : Char} (letter : isLetter c = true) : isDigit c = false := by
  simp only [isLetter, isDigit, Bool.or_eq_true, Bool.and_eq_true, Bool.and_eq_false_iff,
    decide_eq_true_eq, decide_eq_false_iff_not, Char.le_def, UInt32.le_iff_toNat_le] at letter ⊢
  have small : ('a' : Char).val.toNat = 97 := rfl
  have capital : ('A' : Char).val.toNat = 65 := rfl
  have nine : ('9' : Char).val.toNat = 57 := rfl
  omega

/-- A letter begins a word, unless it may begin a blob. -/
theorem first_word {c : Char} (letter : isLetter c = true) (other : c ≠ 'x' ∧ c ≠ 'X')
    (letters : ∀ d ∈ cs, isWordChar d = true) (ends : Ends rest) :
    first (c :: cs ++ rest) = (.word, rest) := by
  have apart (d : Char) (none : isLetter d = false) : c ≠ d := ne_outside letter none
  have behind := dropWhile_front letters (ends.outside (p := isWordChar) rfl rfl rfl)
  rw [List.cons_append]
  simp [first, apart '\'' rfl, apart '"' rfl, apart '\x60' rfl, apart '[' rfl, apart '.' rfl,
    apart '?' rfl, apart '$' rfl, apart '@' rfl, apart ':' rfl, apart '#' rfl, other,
    isDigit_of_isLetter letter, isWordStart, letter, behind]

/-- What is quoted is a token up to its closing quote. -/
theorem first_name (name : String) (ends : Ends rest) :
    first (nameChars name ++ rest) = (.name, rest) := by
  have read := unquote?_doubled '"' name.toList rest (ends.closed (by decide))
  show orIllegal .name ((unquote? '"' (doubled '"' name.toList ++ ['"'] ++ rest)).map (·.2)) = _
  rw [List.append_assoc, List.singleton_append, read]
  rfl

theorem first_text (cs : List Char) (ends : Ends rest) :
    first (enquote '\'' cs ++ rest) = (.text, rest) := by
  have read := unquote?_doubled '\'' cs rest (ends.closed (by decide))
  show orIllegal .text ((unquote? '\'' (doubled '\'' cs ++ ['\''] ++ rest)).map (·.2)) = _
  rw [List.append_assoc, List.singleton_append, read]
  rfl

/-- Quotes that are not closed begin no token. -/
theorem unquote?_open (q : Char) (cs : List Char) : unquote? q (doubled q cs) = none := by
  induction cs with
  | nil => rfl
  | cons c cs ih =>
    by_cases quote : c = q
    · simp [doubled, quote, unquote?, ih]
    · cases behind : doubled q cs with
      | nil => simp [doubled, quote, behind, unquote?]
      | cons d tail =>
        rw [behind] at ih
        simp [doubled, quote, behind, unquote?, ih]

/-- What is quoted is no token if its quote is not closed. -/
theorem first_open {q : Char} (quote : q = '"' ∨ q = '\'') (cs : List Char) :
    first (q :: doubled q cs) = (.illegal, []) := by
  rcases quote with rfl | rfl
  · show orIllegal .name ((unquote? '"' (doubled '"' cs)).map (·.2)) = _
    rw [unquote?_open]
    rfl
  · show orIllegal .text ((unquote? '\'' (doubled '\'' cs)).map (·.2)) = _
    rw [unquote?_open]
    rfl

theorem afterVariable?_true (letters : ∀ c ∈ cs, isWordChar c = true) (ends : Ends rest) :
    afterVariable? true (cs ++ rest) = some rest := by
  induction cs with
  | nil =>
    cases rest with
    | nil => rfl
    | cons c rest => rcases ends c rfl with rfl | rfl | rfl <;> rfl
  | cons c cs ih =>
    have letter := letters c List.mem_cons_self
    have colon : c ≠ ':' := by
      rintro rfl
      cases letter
    have others := ih fun d among => letters d (List.mem_cons_of_mem c among)
    rw [List.cons_append, afterVariable?.eq_3 _ _ _ fun _ same _ => colon same, if_pos letter,
      others]

/-- The name of a variable is taken as a whole. -/
theorem afterVariable?_name (named : cs ≠ []) (letters : ∀ c ∈ cs, isWordChar c = true)
    (ends : Ends rest) : afterVariable? false (cs ++ rest) = some rest := by
  cases cs with
  | nil => exact absurd rfl named
  | cons c cs =>
    have letter := letters c List.mem_cons_self
    have colon : c ≠ ':' := by
      rintro rfl
      cases letter
    rw [List.cons_append, afterVariable?.eq_3 _ _ _ fun _ same _ => colon same, if_pos letter,
      afterVariable?_true (fun d among => letters d (List.mem_cons_of_mem c among)) ends]

theorem first_placeholder {p : Placeholder} (named : p.name.toList ≠ [])
    (letters : ∀ c ∈ p.name.toList, isWordChar c = true) (ends : Ends rest) :
    first (p.chars ++ rest) = (.variable, rest) := by
  have read := afterVariable?_name named letters ends
  obtain ⟨sigil, name⟩ := p
  cases sigil <;>
    · show orIllegal .variable (afterVariable? false (name.toList ++ rest)) = _
      rw [read]
      rfl

theorem Ends.afterExponent? (ends : Ends rest) : afterExponent? rest = none := by
  cases rest with
  | nil => rfl
  | cons c rest => rcases ends c rfl with rfl | rfl | rfl <;> rfl

theorem afterExponent?_exponentPart (layout : Decimal.Layout) (e : Int) (ends : Ends rest) :
    afterExponent? (layout.exponentPart e ++ rest) = some rest := by
  have digits := padded_isDigit layout.exponentWidth e.natAbs
  have behind := dropWhile_front digits (ends.outside (p := isDigit) rfl rfl rfl)
  have filled := padded_ne_nil layout.exponentWidth e.natAbs
  unfold Decimal.Layout.exponentPart
  generalize padded layout.exponentWidth e.natAbs = ds at *
  cases ds with
  | nil => exact absurd rfl filled
  | cons c ds =>
    have digit := digits c List.mem_cons_self
    have minus := forall_isDigit (p := (· != '-')) (by decide) digit
    have plus := forall_isDigit (p := (· != '+')) (by decide) digit
    rw [bne_iff_ne] at minus plus
    rw [List.cons_append] at behind
    by_cases below : e < 0
    · simp [afterExponent?, below, digit, behind]
    · cases layout.plus <;> simp [afterExponent?, below, digit, behind, minus, plus]

/-- A digit begins a number, which is decimal unless an `x` follows. -/
theorem first_digit {c : Char} (digit : isDigit c = true)
    (decimal : ∀ x, cs.head? = some x → x ≠ 'x' ∧ x ≠ 'X') :
    first (c :: cs) = Token.number (c :: cs) := by
  have apart (d : Char) (none : isDigit d = false) : c ≠ d := ne_outside digit none
  have plain : anyNumber (c :: cs) = Token.number (c :: cs) := by
    unfold anyNumber
    split
    · rename_i x d rest same
      cases same
      have other := decimal x rfl
      simp [other.1, other.2]
    · rfl
  simp [first, apart '\'' rfl, apart '"' rfl, apart '\x60' rfl, apart '[' rfl, digit, plain]

/-- A number without a point is real if it has an exponent. -/
theorem number_whole {cs tail : List Char} (behind : cs.dropWhile isDigit = tail)
    (pointless : tail.head? ≠ some '.') :
    Token.number cs = match afterExponent? tail with
      | some rest => (if rest.head?.any isWordChar then .illegal else .real, rest)
      | none => (if tail.head?.any isWordChar then .illegal else .natural, tail) := by
  fun_cases Token.number cs with
  | case1 kind start digits kind' rest exponent =>
    rw [behind] at digits
    split at digits
    · exact absurd rfl pointless
    · cases digits
      cases read : afterExponent? tail <;> (rw [read] at exponent; cases exponent; rfl)

/-- A number with a point is real. -/
theorem number_point {cs fraction : List Char} (behind : cs.dropWhile isDigit = '.' :: fraction) :
    Token.number cs = match afterExponent? (fraction.dropWhile isDigit) with
      | some rest => (if rest.head?.any isWordChar then .illegal else .real, rest)
      | none => (if (fraction.dropWhile isDigit).head?.any isWordChar then .illegal else .real,
        fraction.dropWhile isDigit) := by
  fun_cases Token.number cs with
  | case1 kind start digits kind' rest exponent =>
    rw [behind] at digits
    cases digits
    cases read : afterExponent? (fraction.dropWhile isDigit) <;>
      (rw [read] at exponent; cases exponent; rfl)

/-- A number is a token up to what may follow it, a real one if it has a fraction or an exponent. -/
theorem number_parts {layout : Decimal.Layout} {whole : List Char}
    (digits : ∀ c ∈ whole, isDigit c = true) (fraction : Option (List Char))
    (fractional : ∀ ds, fraction = some ds → ∀ c ∈ ds, isDigit c = true) (exponent : Option Int)
    (ends : Ends rest) :
    Token.number (Numeral.chars layout ⟨whole, fraction, exponent⟩ ++ rest) =
      (if fraction.isSome || exponent.isSome then .real else .natural, rest) := by
  have word : rest.head?.any isWordChar = false := by
    cases first : rest.head? with
    | none => rfl
    | some c => exact ends.outside (p := isWordChar) rfl rfl rfl c first
  -- What follows the digits is an exponent or the end, and neither a digit nor a point.
  have outside : ∀ c, (exponent.elim [] layout.exponentPart ++ rest).head? = some c →
      isDigit c = false := by
    cases exponent with
    | none => exact ends.outside (p := isDigit) rfl rfl rfl
    | some e => rintro c ⟨⟩; rfl
  have pointless : (exponent.elim [] layout.exponentPart ++ rest).head? ≠ some '.' := by
    cases exponent with
    | none => exact ends.closed (by decide)
    | some e => exact nofun
  have read : afterExponent? (exponent.elim [] layout.exponentPart ++ rest) =
      exponent.map fun _ => rest := by
    cases exponent with
    | none => exact ends.afterExponent?
    | some e => exact afterExponent?_exponentPart layout e ends
  simp only [Numeral.chars, List.append_assoc]
  cases fraction with
  | some ds =>
    have point : (whole ++ ('.' :: ds ++ (exponent.elim [] layout.exponentPart ++ rest))).dropWhile
        isDigit = '.' :: (ds ++ (exponent.elim [] layout.exponentPart ++ rest)) :=
      dropWhile_front digits (by rintro c ⟨⟩; rfl)
    rw [Option.elim_some, number_point point, dropWhile_front (fractional ds rfl) outside, read]
    cases exponent <;> simp [word]
  | none =>
    have behind := dropWhile_front digits outside
    rw [Option.elim_none, List.nil_append, number_whole behind pointless, read]
    cases exponent <;> simp [word]

/-- Digits begin a number, and nothing behind them makes it a hexadecimal one. -/
theorem first_numeral_eq {n : Numeral} {layout : Decimal.Layout} (someDigit : n.whole ≠ [])
    (digits : ∀ c ∈ n.whole, isDigit c = true) (ends : Ends rest) :
    first (n.chars layout ++ rest) = Token.number (n.chars layout ++ rest) := by
  obtain ⟨whole, fraction, exponent⟩ := n
  cases whole with
  | nil => exact absurd rfl someDigit
  | cons c cs =>
    refine first_digit (digits c List.mem_cons_self) ?_
    cases cs with
    | cons d cs =>
      rintro x ⟨⟩
      have digit := digits d (by simp)
      constructor <;> (rintro rfl; cases digit)
    | nil =>
      cases fraction with
      | some ds => rintro x ⟨⟩; decide
      | none =>
        cases exponent with
        | some e => rintro x ⟨⟩; decide
        | none =>
          intro x first
          rcases ends x first with rfl | rfl | rfl <;> decide

theorem first_natural (n : Nat) (ends : Ends rest) :
    first (natural n ++ rest) = (.natural, rest) := by
  let parts : Numeral := ⟨natural n, none, none⟩
  have text : natural n = parts.chars Binary64.literalLayout := by simp [parts, Numeral.chars]
  rw [text, first_numeral_eq (natural_ne_nil n) (natural_isDigit n) ends,
    number_parts (natural_isDigit n) none (by simp) none ends]
  rfl

theorem first_numeral {n : Numeral} {layout : Decimal.Layout} {text : List Char} {d : Decimal}
    (written : n.Writes layout text d) (real : layout.pointZero = true) (ends : Ends rest) :
    first (n.chars layout ++ rest) = (.real, rest) := by
  have shown := written.real real
  rw [first_numeral_eq written.whole_ne_nil written.whole_isDigit ends,
    number_parts written.whole_isDigit n.fraction written.fraction_isDigit n.exponent ends]
  cases fraction : n.fraction <;> cases exponent : n.exponent <;> simp_all

/-- There is no null character in the text of a number. -/
theorem null_numeral {n : Numeral} {layout : Decimal.Layout} {text : List Char} {d : Decimal}
    (written : n.Writes layout text d) : '\x00' ∉ n.chars layout := by
  intro null
  have whole : '\x00' ∉ n.whole := null_outside written.whole_isDigit rfl
  rw [Numeral.chars, List.append_assoc, List.mem_append, List.mem_append] at null
  rcases null.resolve_left whole with among | among
  · cases fraction : n.fraction with
    | none => simp [fraction] at among
    | some ds =>
      have digit : '\x00' ∈ ds := by simpa [fraction] using among
      exact null_outside (written.fraction_isDigit ds fraction) rfl digit
  · cases exponent : n.exponent with
    | none => simp [exponent] at among
    | some e =>
      have digit : '\x00' ∈ padded layout.exponentWidth e.natAbs := by
        rw [exponent, Option.elim_some, Decimal.Layout.exponentPart, List.cons_append,
          List.mem_cons, List.mem_append] at among
        rcases among.resolve_left (by decide) with sign | digit
        · split at sign
          · simp at sign
          · split at sign <;> simp at sign
        · exact digit
      exact null_outside (padded_isDigit layout.exponentWidth e.natAbs) rfl digit

theorem isHexDigit_hexDigits (octets : List UInt8) :
    ∀ c ∈ Datum.hexDigits octets, isHexDigit c = true := by
  intro c among
  obtain ⟨b, -, among⟩ := List.mem_flatMap.mp among
  have high := hexValue?_upperHexDigit (n := b.toNat / 16) (by have := b.toNat_lt; omega)
  have low := hexValue?_upperHexDigit (n := b.toNat % 16) (by omega)
  simp only [List.mem_cons, List.not_mem_nil, or_false] at among
  rcases among with rfl | rfl
  · rw [isHexDigit, high]
    rfl
  · rw [isHexDigit, low]
    rfl

theorem hexDigits_length (octets : List UInt8) :
    (Datum.hexDigits octets).length = 2 * octets.length := by
  induction octets with
  | nil => rfl
  | cons b octets ih =>
    have first : Datum.hexDigits (b :: octets) =
        [upperHexDigit (b.toNat / 16), upperHexDigit (b.toNat % 16)] ++
          Datum.hexDigits octets := rfl
    rw [first, List.length_append, ih]
    simp only [List.length_cons, List.length_nil]
    omega

theorem first_blob (octets : List UInt8) (rest : List Char) :
    first ('X' :: '\'' :: Datum.hexDigits octets ++ ['\''] ++ rest) = (.blob, rest) := by
  have digits := isHexDigit_hexDigits octets
  have outside : ∀ c, ('\'' :: rest).head? = some c → isHexDigit c = false := by
    rintro c ⟨⟩
    rfl
  have read : afterBlob? (Datum.hexDigits octets ++ '\'' :: rest) = some rest := by
    simp [afterBlob?, takeWhile_front digits outside, dropWhile_front digits outside,
      hexDigits_length]
  show orIllegal .blob (afterBlob? (Datum.hexDigits octets ++ ['\''] ++ rest)) = _
  rw [List.append_assoc, List.singleton_append, read]
  rfl

theorem first_mark {c : Char} (mark : c = '(' ∨ c = ')' ∨ c = ',' ∨ c = '*') (rest : List Char) :
    first (c :: rest) = (.mark, rest) := by
  rcases mark with rfl | rfl | rfl | rfl <;> rfl

theorem first_equals (ends : Ends rest) : first ('=' :: rest) = (.mark, rest) := by
  cases rest with
  | nil => rfl
  | cons c rest => rcases ends c rfl with rfl | rfl | rfl <;> rfl

/-- The sign of a number is a token of its own. -/
theorem first_minus {c : Char} (digit : isDigit c = true) (rest : List Char) :
    first ('-' :: c :: rest) = (.mark, c :: rest) := by
  have other := forall_isDigit (p := (· != '>')) (by decide) digit
  rw [bne_iff_ne] at other
  show orIllegal .mark (afterMark? ('-' :: c :: rest)) = _
  simp [afterMark?, marks, List.isPrefixOf, other.symm, orIllegal]
  rfl

end Lexical

end StoreBridge.Sql
