import StoreBridge.Proofs.StatementReading
import StoreBridge.Proofs.TokenReading
import StoreBridge.Sql.Request

/-! The tokens of a statement's text. Each part of a statement is cut into tokens of its own in front
of whatever may follow it, whatever its names and texts are made of, and none of the tokens ends the
statement; the variables among them are the placeholders of the statement's terms. A null character
can only stand inside quotes, which are then not closed in front of it, so that a text that has one
holds no statement. -/
namespace StoreBridge.Sql
open Text Token

/-- The characters of a text that are read: a null character ends it. -/
def visible (cs : List Char) : List Char :=
  cs.takeWhile (· != '\x00')

theorem visible_append {front : List Char} (seen : '\x00' ∉ front) (rest : List Char) :
    visible (front ++ rest) = front ++ visible rest := by
  refine List.takeWhile_append_of_pos fun c among => ?_
  exact bne_iff_ne.mpr fun null => seen (null ▸ among)

theorem visible_cut {front : List Char} (cut : '\x00' ∈ front) (rest : List Char) :
    visible (front ++ rest) = visible front := by
  induction front with
  | nil => cases cut
  | cons c front ih =>
    by_cases null : c = '\x00'
    · simp [visible, null]
    · have behind : '\x00' ∈ front := by
        rcases List.mem_cons.mp cut with same | behind
        · exact absurd same.symm null
        · exact behind
      have others := ih behind
      simp only [visible] at others
      simp [visible, null, others]

theorem ends_visible {cs : List Char} (ends : Ends cs) : Ends (visible cs) := by
  cases cs with
  | nil => exact ends
  | cons c cs =>
    rcases ends c rfl with rfl | rfl | rfl <;> exact ends_cons (by simp)

theorem opens_visible {cs : List Char} (opening : opens cs = true) : opens (visible cs) = true := by
  obtain ⟨d, tail, rfl, digit⟩ | ⟨c, tail, rfl, space, mark⟩ := opens_cases opening
  · have seen : d ≠ '\x00' := by
      rintro rfl
      cases digit
    have text : visible ('-' :: d :: tail) = '-' :: d :: visible tail := by
      simp [visible, seen]
    rw [text]
    exact digit
  · have seen : c ≠ '\x00' := mark.2.2.2
    have text : visible (c :: tail) = c :: visible tail := by
      simp [visible, seen]
    rw [text]
    exact opens_cons _ space mark

theorem head?_visible {cs : List Char} (opening : opens cs = true) :
    (visible cs).head? = cs.head? := by
  obtain ⟨d, tail, rfl, -⟩ | ⟨c, tail, rfl, -, -, -, -, seen⟩ := opens_cases opening
  · rfl
  · simp [visible, seen]

/-- A part of a statement is cut into tokens that do not end it, in front of whatever may follow the
part; the variables among the tokens are these placeholders. -/
def Cuts (chars : List Char) (ps : List Placeholder) : Prop :=
  ∃ ts, (∀ t ∈ ts, t.isInner = true) ∧ ts.filterMap placeholder? = ps ∧
    ts.length ≤ chars.length ∧ ∀ steps rest, Ends rest →
      bareTokens (ts.length + steps) (chars ++ rest) = ts ++ bareTokens steps rest

/-- What is read of a part of a statement has characters in it that are no token, before any end of
the statement. -/
def Breaks (chars : List Char) : Prop :=
  ∃ ts bad, (∀ t ∈ ts, t.isInner = true) ∧ bad.kind = .illegal ∧
    ts.length < (visible chars).length ∧ ∀ steps, ∃ more,
      bareTokens (ts.length + 1 + steps) (visible chars) = ts ++ bad :: more

/-- A part of a statement is cut into tokens, unless it has a null character in it: then it is not
read to its end. -/
structure Lexes (chars : List Char) (ps : List Placeholder) : Prop where
  cuts : Cuts chars ps
  breaks : '\x00' ∈ chars → Breaks chars

/-- What leads on: in front of what may follow a part it may follow a part itself. -/
def Leads (chars : List Char) : Prop :=
  ∀ rest, Ends rest → Ends (chars ++ rest)

section Parts
variable {chars more : List Char} {ps qs : List Placeholder}

theorem leads_cons {c : Char} (mark : c = ' ' ∨ c = ',' ∨ c = ')') : Leads (c :: chars) :=
  fun _ _ => ends_cons mark

theorem Lexes.nil : Lexes [] [] where
  cuts := ⟨[], by simp, rfl, Nat.le_refl _, fun steps rest _ => by simp⟩
  breaks := nofun

theorem Lexes.append (front : Lexes chars ps) (behind : Lexes more qs) (leads : Leads more) :
    Lexes (chars ++ more) (ps ++ qs) where
  cuts := by
    obtain ⟨ts, inner, found, short, cut⟩ := front.cuts
    obtain ⟨us, innerMore, foundMore, shortMore, cutMore⟩ := behind.cuts
    refine ⟨ts ++ us, ?_, ?_, ?_, ?_⟩
    · exact List.forall_mem_append.mpr ⟨inner, innerMore⟩
    · rw [List.filterMap_append, found, foundMore]
    · rw [List.length_append, List.length_append]
      omega
    · intro steps rest ends
      rw [List.length_append, Nat.add_assoc, List.append_assoc, cut _ _ (leads rest ends),
        cutMore _ _ ends, List.append_assoc]
  breaks := by
    intro null
    -- What is read ends in the front part, or that is cut to its end and the other breaks.
    by_cases here : '\x00' ∈ chars
    · obtain ⟨ts, bad, inner, illegal, short, cut⟩ := front.breaks here
      refine ⟨ts, bad, inner, illegal, ?_, ?_⟩
      · rw [visible_cut here]
        exact short
      · rw [visible_cut here]
        exact cut
    · have there : '\x00' ∈ more := (List.mem_append.mp null).resolve_left here
      obtain ⟨ts, inner, -, short, cut⟩ := front.cuts
      obtain ⟨us, bad, innerMore, illegal, shortMore, cutMore⟩ := behind.breaks there
      have ends : Ends (visible more) := by
        have led := leads [] ends_nil
        rw [List.append_nil] at led
        exact ends_visible led
      refine ⟨ts ++ us, bad, List.forall_mem_append.mpr ⟨inner, innerMore⟩, illegal, ?_, ?_⟩
      · rw [visible_append here, List.length_append, List.length_append]
        omega
      · intro steps
        obtain ⟨rest, tokens⟩ := cutMore steps
        refine ⟨rest, ?_⟩
        rw [visible_append here, List.length_append, Nat.add_assoc, Nat.add_assoc,
          cut _ _ ends, ← Nat.add_assoc, tokens, List.append_assoc]

/-- A blank in front of a part says nothing. -/
theorem Lexes.blank (part : Lexes chars ps) (opening : opens chars = true) :
    Lexes (' ' :: chars) ps where
  cuts := by
    obtain ⟨ts, inner, found, short, cut⟩ := part.cuts
    refine ⟨ts, inner, found, Nat.le_succ_of_le short, fun steps rest ends => ?_⟩
    rw [List.cons_append, bareTokens_blank (opens_append opening rest), cut _ _ ends]
  breaks := by
    intro null
    have there : '\x00' ∈ chars := by simpa using null
    have text : visible (' ' :: chars) = ' ' :: visible chars := rfl
    obtain ⟨ts, bad, inner, illegal, short, cut⟩ := part.breaks there
    refine ⟨ts, bad, inner, illegal, ?_, fun steps => ?_⟩
    · rw [text]
      exact Nat.lt_succ_of_lt short
    · rw [text, bareTokens_blank (opens_visible opening)]
      exact cut steps

/-- One token is cut from what follows. -/
theorem cuts_token {kind : Token.Kind} (opening : opens chars = true)
    (inner : isInner ⟨[], chars, kind⟩ = true)
    (cut : ∀ rest, Ends rest → first (chars ++ rest) = (kind, rest)) :
    Cuts chars (placeholder? ⟨[], chars, kind⟩).toList := by
  have filled : chars ≠ [] := by
    rintro rfl
    cases opening
  refine ⟨[⟨[], chars, kind⟩], by simpa using inner, ?_, List.length_pos_iff.mpr filled,
    fun steps rest ends => ?_⟩
  · cases found : placeholder? ⟨[], chars, kind⟩ <;> simp [found]
  · rw [List.length_singleton, Nat.add_comm,
      bareTokens_cons (opens_append opening rest) filled (cut rest ends)]
    rfl

/-- One token without a null character in it is a part. -/
theorem lexes_token {kind : Token.Kind} (opening : opens chars = true) (seen : '\x00' ∉ chars)
    (inner : isInner ⟨[], chars, kind⟩ = true)
    (cut : ∀ rest, Ends rest → first (chars ++ rest) = (kind, rest)) :
    Lexes chars (placeholder? ⟨[], chars, kind⟩).toList :=
  ⟨cuts_token opening inner cut, fun null => absurd null seen⟩

/-- A mark in front of a part is a token of its own. -/
theorem Lexes.marked {c : Char} (part : Lexes chars ps) (opening : opens chars = true)
    (begins : opens (c :: chars) = true) (inner : isInner ⟨[], [c], .mark⟩ = true)
    (cut : ∀ rest, rest.head? = chars.head? → first (c :: rest) = (.mark, rest)) :
    Lexes (c :: chars) ps := by
  obtain ⟨d, tail, rfl⟩ : ∃ d tail, chars = d :: tail := by
    cases chars with
    | nil => cases opening
    | cons d tail => exact ⟨d, tail, rfl⟩
  -- The mark goes by the first character behind it, which is there however much is read.
  have token (rest : List Char) (begins : opens (c :: rest) = true)
      (same : rest.head? = some d) (steps : Nat) :
      bareTokens (steps + 1) (c :: rest) = ⟨[], [c], .mark⟩ :: bareTokens steps rest :=
    bareTokens_cons (by exact begins) (List.cons_ne_nil c []) (cut rest same) steps
  constructor
  · obtain ⟨ts, innerBehind, found, short, cut⟩ := part.cuts
    refine ⟨⟨[], [c], .mark⟩ :: ts, ?_, ?_, Nat.succ_le_succ short, fun steps rest ends => ?_⟩
    · exact List.forall_mem_cons.mpr ⟨inner, innerBehind⟩
    · rw [← found]
      rfl
    · have mark := token (d :: tail ++ rest) (opens_append begins rest) rfl (ts.length + steps)
      rw [cut steps rest ends] at mark
      rw [List.length_cons, Nat.add_right_comm]
      exact mark
  · intro null
    have here : c ≠ '\x00' := by
      rintro rfl
      cases begins
    have there : '\x00' ∈ d :: tail := (List.mem_cons.mp null).resolve_left here.symm
    obtain ⟨ts, bad, innerBehind, illegal, short, cut⟩ := part.breaks there
    have text : visible (c :: d :: tail) = c :: visible (d :: tail) := by
      simp [visible, here]
    refine ⟨⟨[], [c], .mark⟩ :: ts, bad, List.forall_mem_cons.mpr ⟨inner, innerBehind⟩, illegal,
      ?_, fun steps => ?_⟩
    · rw [text]
      exact Nat.succ_lt_succ short
    · obtain ⟨rest, tokens⟩ := cut steps
      have begins := opens_visible begins
      rw [text] at begins ⊢
      refine ⟨rest, ?_⟩
      rw [List.length_cons, Nat.add_right_comm, Nat.add_right_comm _ 1 steps,
        token _ begins (head?_visible opening), ← Nat.add_right_comm, tokens, List.cons_append]

/-- A part that begins with a token. -/
structure Part (chars : List Char) (ps : List Placeholder) : Prop where
  lexes : Lexes chars ps
  opening : opens chars = true

theorem Part.blank (part : Part chars ps) : Lexes (' ' :: chars) ps :=
  part.lexes.blank part.opening

theorem Part.append (front : Part chars ps) (behind : Lexes more qs) (leads : Leads more) :
    Part (chars ++ more) (ps ++ qs) where
  lexes := front.lexes.append behind leads
  opening := opens_append front.opening more

end Parts

section Tokens

/-- A word is a part, unless it may begin a blob. -/
theorem part_word (word : List Char) (letters : word.all isLetter = true)
    (other : word.head?.any (fun c => c != 'x' && c != 'X') = true) : Part word [] := by
  cases word with
  | nil => cases other
  | cons c cs =>
    have letter : ∀ d ∈ c :: cs, isLetter d = true := List.all_eq_true.mp letters
    have wordChars : ∀ d ∈ cs, isWordChar d = true := by
      intro d among
      simp [isWordChar, letter d (List.mem_cons_of_mem c among)]
    have seen : '\x00' ∉ c :: cs := null_outside letter rfl
    have first (rest : List Char) (ends : Ends rest) :
        first (c :: cs ++ rest) = (.word, rest) :=
      first_word (letter c List.mem_cons_self) (by simpa using other) wordChars ends
    have opening : opens (c :: cs) = true := opens_isLetter (letter c List.mem_cons_self) cs
    exact ⟨lexes_token opening seen rfl first, opening⟩

/-- A word and a blank stand in front of a part. -/
theorem Part.after {chars : List Char} {ps : List Placeholder} (behind : Part chars ps)
    (word : List Char) (letters : word.all isLetter = true)
    (other : word.head?.any (fun c => c != 'x' && c != 'X') = true) :
    Part (word ++ ' ' :: chars) ps :=
  (part_word word letters other).append behind.blank (leads_cons (.inl rfl))

theorem visible_doubled {q : Char} (other : q ≠ '\x00') (cs : List Char) :
    visible (doubled q cs) = doubled q (visible cs) := by
  induction cs with
  | nil => rfl
  | cons c cs ih =>
    simp only [visible] at ih
    by_cases quote : c = q
    · simp [doubled, visible, quote, other, ih]
    · by_cases null : c = '\x00'
      · simp [doubled, visible, null, other.symm]
      · simp [doubled, visible, quote, null, ih]

theorem part_mark {c : Char} (opening : opens [c] = true) (inner : isInner ⟨[], [c], .mark⟩ = true)
    (cut : ∀ rest, Ends rest → first (c :: rest) = (.mark, rest)) : Part [c] [] := by
  have seen : '\x00' ∉ [c] := by
    intro null
    obtain rfl := List.mem_singleton.mp null
    cases opening
  exact ⟨lexes_token opening seen inner cut, opening⟩

/-- What stands between quotes is a part, and with a null character in it one that is not closed. -/
theorem part_quoted {q : Char} (quote : q = '"' ∨ q = '\'') {kind : Token.Kind}
    (named : kind = .name ∨ kind = .text) (cs : List Char)
    (cut : ∀ rest, Ends rest → first (enquote q cs ++ rest) = (kind, rest)) :
    Part (enquote q cs) [] := by
  have other : q ≠ '\x00' := by rcases quote with rfl | rfl <;> decide
  have opening (cs : List Char) : opens (q :: cs) = true := by
    rcases quote with rfl | rfl <;> rfl
  have inner : isInner ⟨[], enquote q cs, kind⟩ = true := by
    rcases named with rfl | rfl <;> rfl
  have silent : placeholder? ⟨[], enquote q cs, kind⟩ = none := by
    rcases named with rfl | rfl <;> rfl
  have begins : opens (enquote q cs) = true := opening _
  have cuts := cuts_token begins inner cut
  rw [silent] at cuts
  refine ⟨⟨cuts, fun null => ?_⟩, begins⟩
  · have inside : '\x00' ∈ doubled q cs := by
      simpa [enquote, other.symm] using null
    have text : visible (enquote q cs) = q :: doubled q (visible cs) := by
      have front : visible (enquote q cs) = q :: visible (doubled q cs ++ [q]) := by
        simp [enquote, visible, other]
      rw [front, visible_cut inside, visible_doubled other]
    rw [Breaks, text]
    refine ⟨[], ⟨[], q :: doubled q (visible cs), .illegal⟩, nofun, rfl, Nat.zero_lt_succ _,
      fun steps => ⟨bareTokens steps [], ?_⟩⟩
    rw [List.length_nil, Nat.zero_add, Nat.add_comm]
    exact bareTokens_illegal (opening _) (first_open quote _) steps

theorem part_name (name : String) : Part (nameChars name) [] :=
  part_quoted (.inl rfl) (.inl rfl) name.toList fun _ => first_name name

/-- A number is a part with its sign. -/
theorem part_number {chars : List Char} (negative : Bool) {kind : Token.Kind}
    (number : kind = .natural ∨ kind = .real) {d : Char} (begins : chars.head? = some d)
    (digit : isDigit d = true) (seen : '\x00' ∉ chars)
    (cut : ∀ rest, Ends rest → first (chars ++ rest) = (kind, rest)) :
    Part ((if negative then ['-'] else []) ++ chars) [] := by
  have inner : isInner ⟨[], chars, kind⟩ = true := by
    rcases number with rfl | rfl <;> rfl
  have silent : placeholder? ⟨[], chars, kind⟩ = none := by
    rcases number with rfl | rfl <;> rfl
  obtain ⟨tail, rfl⟩ : ∃ tail, chars = d :: tail := by
    cases chars with
    | nil => cases begins
    | cons c tail =>
      cases begins
      exact ⟨tail, rfl⟩
  have opening := opens_isDigit digit tail
  have token : Lexes (d :: tail) [] := by
    have token := lexes_token opening seen inner cut
    rwa [silent] at token
  cases negative with
  | false => exact ⟨token, opening⟩
  | true =>
    refine ⟨token.marked opening digit rfl fun rest same => ?_, digit⟩
    cases rest with
    | nil => cases same
    | cons c rest =>
      cases same
      exact first_minus digit rest

/-- The placeholder that a term is. -/
def Term.placeholder? : Term → Option Placeholder
  | .placeholder p => some p
  | .literal _ => none

theorem part_placeholder {p : Placeholder} (named : p.name.toList ≠ [])
    (letters : ∀ c ∈ p.name.toList, isWordChar c = true) : Part p.chars [p] := by
  have opening : opens p.chars = true := by
    obtain ⟨sigil, name⟩ := p
    cases sigil <;> rfl
  have printed : p.sigil.char ≠ '\x00' := by
    cases p.sigil <;> decide
  have seen : '\x00' ∉ p.chars := by
    intro null
    rcases List.mem_cons.mp null with same | among
    · exact printed same.symm
    · exact null_outside letters rfl among
  have inner : isInner ⟨[], p.chars, .variable⟩ = true := rfl
  have found : Token.placeholder? ⟨[], p.chars, .variable⟩ = some p := by
    obtain ⟨sigil, name⟩ := p
    have named : Token.asVariable? ⟨[], (Placeholder.mk sigil name).chars, .variable⟩ =
        some (.named ⟨sigil, name⟩) := by
      cases sigil <;>
        simp [Token.asVariable?, Placeholder.chars, Sigil.char, Sigil.all]
    simp [Token.placeholder?, named]
  have token := lexes_token opening seen inner fun rest => first_placeholder named letters
  rw [found] at token
  exact ⟨token, opening⟩

theorem part_integer (n : Int) : Part (Text.integer n) [] := by
  have parts : ∃ (negative : Bool) (k : Nat), Text.integer n = (if negative then ['-'] else []) ++ natural k := by
    cases n with
    | ofNat k => exact ⟨false, k, by simp [integer]⟩
    | negSucc k => exact ⟨true, k + 1, by simp [integer]⟩
  obtain ⟨negative, k, text⟩ := parts
  have digits := natural_isDigit k
  obtain ⟨d, tail, begins⟩ := List.exists_cons_of_ne_nil (natural_ne_nil k)
  have digit : isDigit d = true := digits d (by rw [begins]; exact List.mem_cons_self)
  have seen : '\x00' ∉ natural k := null_outside digits rfl
  rw [text]
  exact part_number negative (.inl rfl) (by rw [begins]; rfl) digit seen fun _ => first_natural k

theorem part_real {x : Binary64} (finite : x.isFinite = true) : Part x.literalText.toList [] := by
  obtain ⟨n, d, written, text, -⟩ := Binary64.exists_literalText finite
  obtain ⟨c, tail, begins⟩ := List.exists_cons_of_ne_nil written.whole_ne_nil
  have digit : isDigit c = true :=
    written.whole_isDigit c (by rw [begins]; exact List.mem_cons_self)
  have starts : (n.chars Binary64.literalLayout).head? = some c := by
    rw [Numeral.chars, begins]
    rfl
  rw [text]
  exact part_number x.isNegative (.inr rfl) starts digit (null_numeral written) fun _ =>
    first_numeral written rfl

theorem part_blob (octets : List UInt8) : Part (Datum.blob octets).literalChars [] := by
  have seen : '\x00' ∉ (Datum.blob octets).literalChars := by
    intro null
    have among : '\x00' ∈ Datum.hexDigits octets := by
      simpa [Datum.literalChars] using null
    exact null_outside (isHexDigit_hexDigits octets) rfl among
  exact ⟨lexes_token rfl seen rfl fun rest _ => first_blob octets rest, rfl⟩

/-- A term is a part, and is a placeholder or has none. -/
theorem part_term {t : Term} (readable : t.Readable) : Part t.chars t.placeholder?.toList := by
  match t, readable with
  | .placeholder p, named => exact part_placeholder named.1 named.2
  | .literal .null, _ => exact part_word "NULL".toList rfl rfl
  | .literal (.integer n), _ => exact part_integer n.toInt
  | .literal (.real x), finite => exact part_real finite
  | .literal (.text s), _ => exact part_quoted (.inr rfl) (.inr rfl) s.toList fun _ => first_text _
  | .literal (.blob octets), _ => exact part_blob octets

end Tokens

section Clauses
variable {chars : List Char} {ps : List Placeholder}

/-- What stands between two parts leads from one to the next. -/
def Joins (sep : List Char) : Prop :=
  ∀ chars ps, Part chars ps → Lexes (sep ++ chars) ps ∧ Leads (sep ++ chars)

theorem joins_comma : Joins [',', ' '] := by
  intro chars ps part
  have comma : Part [','] [] := part_mark rfl rfl fun rest _ =>
    first_mark (.inr (.inr (.inl rfl))) rest
  exact ⟨(comma.append part.blank (leads_cons (.inl rfl))).lexes, leads_cons (.inr (.inl rfl))⟩

theorem joins_and : Joins " AND ".toList :=
  fun _ _ part => ⟨(part.after "AND".toList rfl rfl).blank, leads_cons (.inl rfl)⟩

/-- Parts with a separator between each two are a part, which has the placeholders of all. -/
theorem part_separated {α : Type} {sep : List Char} (joins : Joins sep) (write : α → List Char)
    (found : α → List Placeholder) {parts : List α} (somePart : parts ≠ [])
    (each : ∀ a ∈ parts, Part (write a) (found a)) :
    Part (separated sep (parts.map write)) (parts.flatMap found) := by
  induction parts with
  | nil => exact absurd rfl somePart
  | cons a parts ih =>
    have first := each a List.mem_cons_self
    cases parts with
    | nil => simpa [separated] using first
    | cons b parts =>
      have others := ih (List.cons_ne_nil b parts) fun c among =>
        each c (List.mem_cons_of_mem a among)
      obtain ⟨behind, leads⟩ := joins _ _ others
      have both := first.append behind leads
      rw [← List.append_assoc] at both
      exact both

/-- The placeholders of a condition. -/
def Condition.found : Condition → List Placeholder
  | .isNull _ => []
  | .equals _ t => t.placeholder?.toList

theorem lexes_equals (part : Part chars ps) :
    Lexes (" = ".toList ++ chars) ps ∧ Leads (" = ".toList ++ chars) := by
  have equals : Part ['='] [] := part_mark rfl rfl fun _ => first_equals
  have both : Part ('=' :: ' ' :: chars) ps := equals.append part.blank (leads_cons (.inl rfl))
  exact ⟨both.blank, leads_cons (.inl rfl)⟩

theorem part_condition {c : Condition} (readable : c.Readable) : Part c.chars c.found := by
  cases c with
  | isNull column =>
    have null : Part "IS NULL".toList [] :=
      (part_word "NULL".toList rfl rfl).after "IS".toList rfl rfl
    exact (part_name column).append null.blank (leads_cons (.inl rfl))
  | equals column t =>
    obtain ⟨behind, leads⟩ := lexes_equals (part_term readable)
    show Part (nameChars column ++ " = ".toList ++ t.chars) ([] ++ t.placeholder?.toList)
    rw [List.append_assoc]
    exact (part_name column).append behind leads

theorem part_assignment {a : String × Term} (readable : a.2.Readable) :
    Part (assignmentChars a) a.2.placeholder?.toList := by
  obtain ⟨behind, leads⟩ := lexes_equals (part_term readable)
  show Part (nameChars a.1 ++ " = ".toList ++ a.2.chars) ([] ++ a.2.placeholder?.toList)
  rw [List.append_assoc]
  exact (part_name a.1).append behind leads

theorem leads_whereChars (conditions : List Condition) : Leads (whereChars conditions) := by
  unfold whereChars
  split
  · exact fun rest ends => ends
  · exact leads_cons (.inl rfl)

theorem lexes_whereChars {conditions : List Condition} (readable : ∀ c ∈ conditions, c.Readable) :
    Lexes (whereChars conditions) (conditions.flatMap Condition.found) := by
  unfold whereChars
  split
  · rename_i none
    rw [List.isEmpty_iff] at none
    rw [none]
    exact Lexes.nil
  · rename_i someCondition
    rw [List.isEmpty_iff] at someCondition
    have list := part_separated joins_and Condition.chars Condition.found someCondition
      fun c among => part_condition (readable c among)
    exact (list.after "WHERE".toList rfl rfl).blank

/-- A table stands behind a word, and the conditions behind it. -/
theorem part_source (table : String) {conditions : List Condition}
    (readable : ∀ c ∈ conditions, c.Readable) :
    Part ("FROM ".toList ++ (nameChars table ++ whereChars conditions))
      (conditions.flatMap Condition.found) :=
  ((part_name table).append (lexes_whereChars readable) (leads_whereChars conditions)).after
    "FROM".toList rfl rfl

theorem part_selection {selection : Selection} (listable : selection ≠ .columns []) :
    Part selection.chars [] := by
  cases selection with
  | all =>
    exact part_mark rfl rfl fun rest _ => first_mark (.inr (.inr (.inr rfl))) rest
  | columns names =>
    have someName : names ≠ [] := fun none => listable (by rw [none])
    have list := part_separated joins_comma nameChars (fun _ => []) someName
      fun name _ => part_name name
    have silent : names.flatMap (fun _ => ([] : List Placeholder)) = [] := by simp
    rw [silent] at list
    exact list

/-- A list in parentheses stands behind a blank. -/
theorem lexes_parenthesised {more : List Char} {qs : List Placeholder} (part : Part chars ps)
    (behind : Lexes more qs) (leads : Leads more) :
    Lexes (" (".toList ++ (chars ++ ')' :: more)) (ps ++ qs) := by
  have closing : Part [')'] [] := part_mark rfl rfl fun rest _ => first_mark (.inr (.inl rfl)) rest
  have inside := part.append (closing.append behind leads).lexes (leads_cons (.inr (.inr rfl)))
  have marked := inside.lexes.marked inside.opening rfl rfl fun rest _ =>
    first_mark (.inl rfl) rest
  exact marked.blank rfl

theorem leads_valuesChars (assignments : List (String × Term)) : Leads (valuesChars assignments) := by
  unfold valuesChars
  split <;> exact leads_cons (.inl rfl)

theorem lexes_valuesChars {assignments : List (String × Term)}
    (readable : ∀ a ∈ assignments, a.2.Readable) :
    Lexes (valuesChars assignments) (assignments.flatMap (·.2.placeholder?.toList)) := by
  by_cases none : assignments = []
  · rw [none]
    exact ((part_word "VALUES".toList rfl rfl).after "DEFAULT".toList rfl rfl).blank
  · rw [valuesChars_eq none]
    have columns := part_separated joins_comma nameChars (fun _ => [])
      (mt List.map_eq_nil_iff.mp none) fun name (_ : name ∈ assignments.map (·.1)) => part_name name
    have terms := part_separated joins_comma Term.chars (·.placeholder?.toList)
      (mt List.map_eq_nil_iff.mp none) fun t (among : t ∈ assignments.map (·.2)) => by
        obtain ⟨a, here, rfl⟩ := List.mem_map.mp among
        exact part_term (readable a here)
    have values := lexes_parenthesised terms Lexes.nil fun _ ends => ends
    have word : Part "VALUES".toList [] := part_word _ rfl rfl
    have behind := (word.append values (leads_cons (.inl rfl))).blank
    have all := lexes_parenthesised columns behind (leads_cons (.inl rfl))
    have silent : (assignments.map (·.1)).flatMap (fun _ => ([] : List Placeholder)) = [] := by
      simp
    rw [silent, List.append_nil, List.nil_append, List.nil_append, List.flatMap_map] at all
    exact all

end Clauses

/-- The placeholders of a statement in the order in which they are written. -/
def Statement.occurring (s : Statement) : List Placeholder :=
  s.terms.filterMap Term.placeholder?

theorem placeholders_eq (s : Statement) : s.placeholders = s.occurring.eraseDups := by
  unfold Statement.placeholders Statement.occurring
  congr 2

theorem occurring_termsOf (assignments : List (String × Term)) (conditions : List Condition) :
    (termsOf assignments conditions).filterMap Term.placeholder? =
      assignments.flatMap (·.2.placeholder?.toList) ++ conditions.flatMap Condition.found := by
  have asked (cs : List Condition) :
      (termsOf [] cs).filterMap Term.placeholder? = cs.flatMap Condition.found := by
    induction cs with
    | nil => rfl
    | cons c cs ih =>
      simp only [termsOf, List.map_nil, List.nil_append] at ih ⊢
      cases c with
      | isNull => exact ih
      | equals column t =>
        cases t <;> simp [Condition.found, Term.placeholder?] at ih ⊢ <;> exact ih
  have split : termsOf assignments conditions =
      assignments.map (·.2) ++ termsOf [] conditions := rfl
  rw [split, List.filterMap_append, asked, List.filterMap_map, List.filterMap_eq_flatMap_toList]
  rfl

/-- A statement is cut into tokens to its end, and its variables are the placeholders of its terms.
-/
theorem part_statement {s : Statement} (readable : s.Readable) : Part s.chars s.occurring := by
  cases s with
  | select selection table conditions =>
    obtain ⟨listable, conditionsReadable⟩ := readable
    have source := part_source table conditionsReadable
    have whole := ((part_selection listable).append source.blank (leads_cons (.inl rfl))).after
      "SELECT".toList rfl rfl
    show Part ("SELECT ".toList ++ selection.chars ++ " FROM ".toList ++ nameChars table ++
      whereChars conditions) ((termsOf [] conditions).filterMap Term.placeholder?)
    rw [occurring_termsOf]
    simp only [List.append_assoc]
    exact whole
  | insert table assignments =>
    have named := (part_name table).append (lexes_valuesChars readable)
      (leads_valuesChars assignments)
    have whole := (named.after "INTO".toList rfl rfl).after "INSERT".toList rfl rfl
    show Part ("INSERT INTO ".toList ++ nameChars table ++ valuesChars assignments)
      ((termsOf assignments []).filterMap Term.placeholder?)
    rw [occurring_termsOf, List.flatMap_nil, List.append_nil, List.append_assoc]
    exact whole
  | update table assignments conditions =>
    obtain ⟨someAssignment, assigned, conditionsReadable⟩ := readable
    have list := part_separated joins_comma assignmentChars (·.2.placeholder?.toList)
      someAssignment fun a among => part_assignment (assigned a among)
    have behind := (list.append (lexes_whereChars conditionsReadable)
      (leads_whereChars conditions)).after "SET".toList rfl rfl
    have whole := ((part_name table).append behind.blank (leads_cons (.inl rfl))).after
      "UPDATE".toList rfl rfl
    show Part ("UPDATE ".toList ++ nameChars table ++ " SET ".toList ++
      listed (assignments.map assignmentChars) ++ whereChars conditions)
      ((termsOf assignments conditions).filterMap Term.placeholder?)
    rw [occurring_termsOf]
    simp only [List.append_assoc]
    exact whole
  | delete table conditions =>
    have whole := (part_source table readable).after "DELETE".toList rfl rfl
    show Part ("DELETE FROM ".toList ++ nameChars table ++ whereChars conditions)
      ((termsOf [] conditions).filterMap Term.placeholder?)
    rw [occurring_termsOf, List.append_assoc]
    exact whole

end StoreBridge.Sql
