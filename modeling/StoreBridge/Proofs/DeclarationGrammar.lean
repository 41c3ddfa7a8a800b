import StoreBridge.Proofs.DigitReading
import StoreBridge.Proofs.Trimming
import StoreBridge.StoreType.Declaration

/-! The written form of declared types: a name, and perhaps one or two arguments in parentheses,
with blanks around each part. A text is taken apart into a name and arguments exactly when it is
written that way. Reading goes as far as it can at each step, which the written form does not ask
for: the name takes the spaces behind it, and they say nothing. -/
namespace StoreBridge
open Text

namespace Declaration

/-- A name as it is written: a letter or an underscore, and then letters, digits, underscores and
spaces. -/
inductive Wording : List Char → Prop where
  | mk {c : Char} {cs : List Char} (start : isNameStart c = true)
      (parts : ∀ d ∈ cs, isNamePart d = true) : Wording (c :: cs)

/-- A string of digits, of any script. -/
structure IsDigits (a : List Char) : Prop where
  someDigit : a ≠ []
  inside : ∀ c ∈ a, isScriptDigit c = true

/-- What may stand first: a string of digits, or the word for an unbounded length. -/
def IsFirst (a : List Char) : Prop :=
  IsDigits a ∨ lower (String.ofList a) = "max"

/-- A text with blanks around it. -/
inductive Padded (a : List Char) : List Char → Prop where
  | mk {front behind : List Char} (before : Blanks front) (after : Blanks behind) :
      Padded a (front ++ a ++ behind)

/-- What stands between the parentheses, for one argument and for two. -/
inductive Arguments : List (List Char) → List Char → Prop where
  | one {a inner : List Char} (first : IsFirst a) (padded : Padded a inner) : Arguments [a] inner
  | two {a b front behind : List Char} (first : IsFirst a) (padded : Padded a front)
      (second : IsDigits b) (paddedToo : Padded b behind) :
      Arguments [a, b] (front ++ ',' :: behind)

/-- The written form of a name with arguments. -/
inductive Written (name : List Char) : List (List Char) → List Char → Prop where
  | bare : Written name [] name
  | called {arguments : List (List Char)} {gap inner : List Char} (blank : Blanks gap)
      (within : Arguments arguments inner) :
      Written name arguments (name ++ gap ++ '(' :: (inner ++ [')']))

section Characters
variable {c : Char}

theorem isNameStart_of_isLetter (letter : isLetter c = true) : isNameStart c = true := by
  simp [isNameStart, isFoldedLetter, letter]

/-- No name begins with a blank. -/
theorem isBlank_of_isNameStart (start : isNameStart c = true) : isBlank c = false := by
  simp only [isNameStart, isFoldedLetter, Bool.or_eq_true, beq_iff_eq] at start
  rcases start with ((letter | rfl) | rfl) | rfl
  · exact isBlank_of_isLetter letter
  all_goals decide

/-- The only blank within a name is the space. -/
theorem eq_space_of_isNamePart (part : isNamePart c = true) (blank : isBlank c = true) :
    c = ' ' := by
  have other := forall_isBlank (p := fun c => !isNamePart c || c == ' ') (by decide) blank
  simpa [part] using other

theorem isBlank_of_isScriptDigit (digit : isScriptDigit c = true) : isBlank c = false := by
  by_contra blank
  have other := forall_isBlank (p := fun c => !isScriptDigit c) (by decide) (by simpa using blank)
  simp [digit] at other

/-- Letters are no digits of any script. -/
theorem isScriptDigit_of_isLetter (letter : isLetter c = true) : isScriptDigit c = false := by
  simp only [isLetter, Bool.or_eq_true, Bool.and_eq_true, decide_eq_true_eq, Char.le_def,
    UInt32.le_iff_toNat_le] at letter
  have code : (97 ≤ c.toNat ∧ c.toNat ≤ 122) ∨ (65 ≤ c.toNat ∧ c.toNat ≤ 90) := letter
  simp only [isScriptDigit, scriptZeros, List.any_cons, List.any_nil, Bool.or_false,
    Bool.or_eq_false_iff, Bool.and_eq_false_iff, decide_eq_false_iff_not]
  omega

end Characters

section Reading
variable {a b cs rest : List Char} {arguments : List (List Char)}

theorem isMax_iff : isMax a = true ↔ lower (String.ofList a) = "max" := by
  rw [← String.toList_inj]
  simp [isMax, lower]

theorem letters_of_max (word : lower (String.ofList a) = "max") :
    a.length = 3 ∧ ∀ c ∈ a, isLetter c = true := by
  have lowered : a.map Char.toLower = ['m', 'a', 'x'] := by simpa [isMax] using isMax_iff.mpr word
  refine ⟨by simpa using congrArg List.length lowered, fun c among => ?_⟩
  have small : c.toLower ∈ ['m', 'a', 'x'] := lowered ▸ List.mem_map_of_mem among
  rw [← isLetter_toLower]
  revert small
  generalize c.toLower = d
  simp only [List.mem_cons, List.not_mem_nil, or_false]
  rintro (rfl | rfl | rfl) <;> decide

/-- No string that has a digit in it is the word for an unbounded length. -/
theorem isMax_of_digit {c : Char} (among : c ∈ a) (digit : isScriptDigit c = true) :
    isMax a = false := by
  by_contra word
  have letter := (letters_of_max (isMax_iff.mp (by simpa using word))).2 c among
  rw [isScriptDigit_of_isLetter letter] at digit
  cases digit

/-- No argument begins with a blank. -/
theorem IsDigits.solid (digits : IsDigits a) (rest : List Char) :
    trimLeft (a ++ rest) = a ++ rest := by
  refine trimLeft_solid fun c first => ?_
  cases a with
  | nil => exact absurd rfl digits.someDigit
  | cons d ds =>
    cases first
    exact isBlank_of_isScriptDigit (digits.inside c (List.mem_cons_self ..))

theorem IsFirst.solid (first : IsFirst a) (rest : List Char) :
    trimLeft (a ++ rest) = a ++ rest := by
  rcases first with digits | word
  · exact digits.solid rest
  · obtain ⟨length, letters⟩ := letters_of_max word
    refine trimLeft_solid fun c first => ?_
    cases a with
    | nil => cases length
    | cons d ds =>
      cases first
      exact isBlank_of_isLetter (letters c (List.mem_cons_self ..))

/-- A string of digits is taken as far as it goes. -/
theorem secondArgument?_eq_some_iff :
    secondArgument? cs = some (a, rest) ↔
      cs = a ++ rest ∧ IsDigits a ∧ ∀ c, rest.head? = some c → isScriptDigit c = false := by
  unfold secondArgument?
  constructor
  · intro read
    split at read
    · cases read
    · rename_i someDigit
      cases read
      refine ⟨List.takeWhile_append_dropWhile.symm, ⟨by simpa using someDigit, fun _ =>
        List.mem_takeWhile_imp⟩, fun c first => ?_⟩
      have stopped := List.head?_dropWhile_not isScriptDigit cs
      rwa [first] at stopped
  · rintro ⟨rfl, digits, stopped⟩
    rw [takeWhile_front digits.inside stopped, dropWhile_front digits.inside stopped,
      if_neg (by simpa using digits.someDigit)]

/-- A first argument is the word, or else a string of digits. -/
theorem firstArgument?_eq : firstArgument? cs =
    if isMax (cs.take 3) then some (cs.take 3, cs.drop 3) else secondArgument? cs := rfl

/-- What was taken for a first argument is one. -/
theorem firstArgument?_sound (read : firstArgument? cs = some (a, rest)) :
    cs = a ++ rest ∧ IsFirst a := by
  rw [firstArgument?_eq] at read
  split at read
  · rename_i word
    cases read
    exact ⟨(List.take_append_drop 3 cs).symm, .inr (isMax_iff.mp word)⟩
  · obtain ⟨parts, digits, -⟩ := secondArgument?_eq_some_iff.mp read
    exact ⟨parts, .inl digits⟩

/-- A first argument is taken in front of what is no digit. -/
theorem firstArgument?_complete (first : IsFirst a)
    (stopped : ∀ c, rest.head? = some c → isScriptDigit c = false) :
    firstArgument? (a ++ rest) = some (a, rest) := by
  rw [firstArgument?_eq]
  rcases first with digits | word
  · cases a with
    | nil => exact absurd rfl digits.someDigit
    | cons d ds =>
      have noWord : isMax ((d :: ds ++ rest).take 3) = false :=
        isMax_of_digit (List.mem_cons_self ..) (digits.inside d (List.mem_cons_self ..))
      rw [noWord, if_neg Bool.false_ne_true]
      exact secondArgument?_eq_some_iff.mpr ⟨rfl, digits, stopped⟩
  · obtain ⟨length, -⟩ := letters_of_max word
    rw [List.take_left' length, List.drop_left' length, if_pos (isMax_iff.mpr word)]

/-- An argument with blanks around it is found again, and behind it the mark that ends it. -/
theorem Padded.parts {inner : List Char} (padded : Padded a inner)
    (solid : ∀ rest, trimLeft (a ++ rest) = a ++ rest) (mark : Char)
    (noBlank : isBlank mark = false) (noDigit : isScriptDigit mark = false) (rest : List Char) :
    ∃ left, trimLeft (inner ++ mark :: rest) = a ++ left ∧ trimLeft left = mark :: rest ∧
      ∀ c, left.head? = some c → isScriptDigit c = false := by
  obtain @⟨front, behind, before, after⟩ := padded
  refine ⟨behind ++ mark :: rest, ?_, ?_, fun c first => ?_⟩
  · rw [List.append_assoc, List.append_assoc, trimLeft_blanks before, solid]
  · rw [trimLeft_blanks after]
    exact trimLeft_solid fun c first => by cases first; exact noBlank
  · cases behind with
    | nil =>
      cases first
      exact noDigit
    | cons d ds =>
      cases first
      by_contra digit
      have solid := isBlank_of_isScriptDigit (c := c) (by simpa using digit)
      rw [after c (List.mem_cons_self ..)] at solid
      cases solid

/-- What is found between blanks is a padded argument, and the text goes on behind it. -/
theorem Padded.of_parts (whole : trimLeft cs = a ++ rest) :
    ∃ inner, Padded a inner ∧ cs = inner ++ trimLeft rest := by
  obtain ⟨front, before, cut⟩ := exists_trimLeft cs
  obtain ⟨behind, after, cutBehind⟩ := exists_trimLeft rest
  refine ⟨front ++ a ++ behind, .mk before after, ?_⟩
  calc cs = front ++ (a ++ rest) := by rw [← whole, ← cut]
    _ = front ++ (a ++ (behind ++ trimLeft rest)) := by rw [← cutBehind]
    _ = front ++ a ++ behind ++ trimLeft rest := by simp only [List.append_assoc]

/-- What is read as arguments are arguments, up to the parenthesis that ends the text. -/
theorem arguments?_sound (read : arguments? cs = some arguments) :
    ∃ inner, cs = inner ++ [')'] ∧ Arguments arguments inner := by
  cases taken : firstArgument? (trimLeft cs) with
  | none => simp [arguments?, taken] at read
  | some parts =>
    obtain ⟨a, rest⟩ := parts
    obtain ⟨whole, first⟩ := firstArgument?_sound taken
    obtain ⟨inner, padded, cut⟩ := Padded.of_parts whole
    simp only [arguments?, taken, bind, Option.bind_some] at read
    split at read
    · rename_i closing
      cases read
      exact ⟨inner, by rw [cut, closing], .one first padded⟩
    · rename_i more comma
      cases takenToo : secondArgument? (trimLeft more) with
      | none => simp [takenToo] at read
      | some parts =>
        obtain ⟨b, rest⟩ := parts
        obtain ⟨wholeToo, second, -⟩ := secondArgument?_eq_some_iff.mp takenToo
        obtain ⟨innerToo, paddedToo, cutToo⟩ := Padded.of_parts wholeToo
        simp only [takenToo, Option.bind_some] at read
        split at read
        · rename_i closing
          cases read
          refine ⟨inner ++ ',' :: innerToo, ?_, .two first padded second paddedToo⟩
          rw [cut, comma, cutToo, closing, List.append_assoc, List.cons_append]
        · cases read
    · cases read

/-- Arguments are read as what they are. -/
theorem arguments?_complete {inner : List Char} (within : Arguments arguments inner) :
    arguments? (inner ++ [')']) = some arguments := by
  cases within with
  | one first padded =>
    obtain ⟨left, found, closing, stopped⟩ :=
      padded.parts first.solid ')' (by decide) (by decide) []
    simp only [arguments?, found, firstArgument?_complete first stopped, bind, Option.bind_some,
      closing]
  | @two a b front behind first padded second paddedToo =>
    obtain ⟨left, found, comma, stopped⟩ :=
      padded.parts first.solid ',' (by decide) (by decide) (behind ++ [')'])
    obtain ⟨leftToo, foundToo, closing, stoppedToo⟩ :=
      paddedToo.parts second.solid ')' (by decide) (by decide) []
    have taken := secondArgument?_eq_some_iff.mpr ⟨rfl, second, stoppedToo⟩
    rw [List.append_assoc, List.cons_append]
    simp only [arguments?, found, firstArgument?_complete first stopped, bind, Option.bind_some,
      comma, foundToo, taken, closing, if_true]

end Reading

section Parts
variable {cs name : List Char} {arguments : List (List Char)}

theorem Padded.trans {inner : List Char} (within : Padded name inner) (padded : Padded inner cs) :
    Padded name cs := by
  obtain @⟨front, behind, before, after⟩ := within
  obtain @⟨first, last, beforeAll, afterAll⟩ := padded
  have whole : Padded name ((first ++ front) ++ name ++ (behind ++ last)) :=
    .mk (List.forall_mem_append.mpr ⟨beforeAll, before⟩)
      (List.forall_mem_append.mpr ⟨after, afterAll⟩)
  simpa only [List.append_assoc] using whole

/-- Around a text there need not be blanks. -/
theorem Padded.self (cs : List Char) : Padded cs cs := by
  have padded : Padded cs ([] ++ cs ++ []) := .mk (List.forall_mem_nil _) (List.forall_mem_nil _)
  simpa using padded

theorem Padded.trimChars_eq {inner : List Char} (padded : Padded inner cs) :
    trimChars cs = trimChars inner := by
  obtain ⟨before, after⟩ := padded
  exact trimChars_padded before after

theorem Padded.trimmed (cs : List Char) : Padded (trimChars cs) cs := by
  obtain ⟨front, behind, before, after, cut⟩ := exists_trimChars cs
  have padded := Padded.mk (a := trimChars cs) before after
  rwa [← cut] at padded

theorem Wording.of_parts (start : name.head?.any isNameStart = true)
    (parts : ∀ c ∈ name, isNamePart c = true) : Wording name := by
  cases name with
  | nil => cases start
  | cons c cs => exact .mk (by simpa using start) fun d among => parts d (.tail _ among)

/-- What is taken apart is written as its parts are, perhaps with blanks behind it. -/
theorem ofTrimmed?_sound {d : Declaration} (read : ofTrimmed? cs = some d) :
    Wording d.name ∧ ∃ inner, Padded inner cs ∧ Written d.name d.arguments inner := by
  obtain ⟨gap, blank, cut⟩ := exists_trimLeft (cs.dropWhile isNamePart)
  have whole : cs = cs.takeWhile isNamePart ++ cs.dropWhile isNamePart :=
    List.takeWhile_append_dropWhile.symm
  have parts : ∀ c ∈ cs.takeWhile isNamePart, isNamePart c = true := fun _ =>
    List.mem_takeWhile_imp
  unfold ofTrimmed? at read
  generalize cs.takeWhile isNamePart = name at read whole parts
  generalize cs.dropWhile isNamePart = rest at read whole cut
  dsimp only at read
  split at read
  · rename_i start
    have wording := Wording.of_parts start parts
    split at read
    · rename_i nothing
      cases read
      rw [nothing, List.append_nil] at cut
      refine ⟨wording, name, ?_, .bare⟩
      have padded : Padded name ([] ++ name ++ gap) := .mk (List.forall_mem_nil _) blank
      rwa [List.nil_append, ← cut, ← whole] at padded
    · rename_i more opening
      cases found : arguments? more with
      | none => simp [found] at read
      | some arguments =>
        simp only [found, Option.map_some, Option.some.injEq] at read
        subst read
        obtain ⟨inner, closing, within⟩ := arguments?_sound found
        refine ⟨wording, cs, .self cs, ?_⟩
        rw [whole, cut, opening, closing, ← List.append_assoc]
        exact .called blank within
    · cases read
  · cases read

theorem Wording.parts (wording : Wording name) : ∀ c ∈ name, isNamePart c = true := by
  obtain ⟨start, parts⟩ := wording
  intro c among
  rcases List.mem_cons.mp among with rfl | among
  · simp [isNamePart, start]
  · exact parts c among

theorem Wording.start (wording : Wording name) (behind : List Char) :
    (name ++ behind).head?.any isNameStart = true := by
  obtain ⟨start, -⟩ := wording
  simpa using start

/-- Of a name only spaces at its end are trimmed. -/
theorem Wording.trimmed (wording : Wording name) :
    ∃ spaces, name = trimChars name ++ spaces ∧ (∀ c ∈ spaces, c = ' ') ∧
      Wording (trimChars name) := by
  obtain ⟨front, behind, before, after, cut⟩ := exists_trimChars name
  have parts := wording.parts
  obtain @⟨c, cs, start, -⟩ := wording
  have solid : isBlank c = false := isBlank_of_isNameStart start
  have inFront : front = [] := by
    cases front with
    | nil => rfl
    | cons d front =>
      obtain ⟨rfl, -⟩ := List.cons.inj cut
      exact absurd (before c (List.mem_cons_self ..)) (by simp [solid])
  rw [inFront, List.nil_append] at cut
  rw [cut, List.forall_mem_append] at parts
  refine ⟨behind, cut, fun d among => eq_space_of_isNamePart (parts.2 d among) (after d among),
    .of_parts ?_ parts.1⟩
  cases kept : trimChars (c :: cs) with
  | nil =>
    rw [kept, List.nil_append] at cut
    exact absurd (after c (cut ▸ List.mem_cons_self ..)) (by simp [solid])
  | cons d ds =>
    rw [kept] at cut
    obtain ⟨rfl, -⟩ := List.cons.inj cut
    simpa using start

/-- Trimming takes nothing from a name with arguments behind it. -/
theorem trimChars_called (wording : Wording name) (rest : List Char) :
    trimChars (name ++ rest ++ [')']) = name ++ rest ++ [')'] := by
  refine trimChars_solid (fun c first => ?_) fun c last => ?_
  · rw [List.append_assoc] at first
    have start := wording.start (rest ++ [')'])
    rw [first] at start
    exact isBlank_of_isNameStart start
  · rw [List.getLast?_concat] at last
    cases last
    decide

/-- What is left of a written form after trimming is written with the same name, but for spaces at
its end. -/
theorem Written.trimmed (wording : Wording name) (written : Written name arguments cs) :
    ∃ kept spaces, name = kept ++ spaces ∧ (∀ c ∈ spaces, c = ' ') ∧ Wording kept ∧
      Written kept arguments (trimChars cs) := by
  cases written with
  | bare =>
    obtain ⟨spaces, cut, only, kept⟩ := wording.trimmed
    exact ⟨_, spaces, cut, only, kept, .bare⟩
  | @called _ gap inner blank within =>
    refine ⟨name, [], (List.append_nil name).symm, List.forall_mem_nil _, wording, ?_⟩
    have text : name ++ gap ++ '(' :: (inner ++ [')']) =
        name ++ (gap ++ '(' :: inner) ++ [')'] := by
      simp
    rw [text, trimChars_called wording, ← text]
    exact .called blank within

/-- What is written is taken apart into the name, with the spaces behind it, and the arguments. -/
theorem ofTrimmed?_complete (wording : Wording name) (written : Written name arguments cs) :
    ∃ spaces, (∀ c ∈ spaces, c = ' ') ∧ ofTrimmed? cs = some ⟨name ++ spaces, arguments⟩ := by
  cases written with
  | bare =>
    refine ⟨[], by simp, ?_⟩
    have all := List.takeWhile_eq_self_iff.mpr wording.parts
    have nothing := List.dropWhile_eq_nil_iff.mpr wording.parts
    have start := wording.start []
    rw [List.append_nil] at start
    simp [ofTrimmed?, all, nothing, start, trimLeft]
  | @called _ gap inner blank within =>
    -- The name takes the spaces in the gap, up to the first blank of another kind.
    have spaces : ∀ c ∈ gap.takeWhile isNamePart, c = ' ' := fun c among =>
      eq_space_of_isNamePart (List.mem_takeWhile_imp among)
        (blank c (List.takeWhile_subset _ among))
    refine ⟨gap.takeWhile isNamePart, spaces, ?_⟩
    have inside : ∀ c ∈ name ++ gap.takeWhile isNamePart, isNamePart c = true :=
      List.forall_mem_append.mpr ⟨wording.parts, fun _ => List.mem_takeWhile_imp⟩
    have outside : ∀ c, (gap.dropWhile isNamePart ++ '(' :: (inner ++ [')'])).head? = some c →
        isNamePart c = false := by
      intro c first
      have stopped := List.head?_dropWhile_not isNamePart gap
      cases behind : gap.dropWhile isNamePart with
      | nil =>
        rw [behind] at first
        cases first
        decide
      | cons d ds =>
        rw [behind] at first stopped
        cases first
        exact stopped
    have text : name ++ gap ++ '(' :: (inner ++ [')']) = name ++ gap.takeWhile isNamePart ++
        (gap.dropWhile isNamePart ++ '(' :: (inner ++ [')'])) := by
      conv_lhs => rw [← List.takeWhile_append_dropWhile (p := isNamePart) (l := gap)]
      simp only [List.append_assoc]
    have opening : trimLeft (gap.dropWhile isNamePart ++ '(' :: (inner ++ [')'])) =
        '(' :: (inner ++ [')']) := by
      rw [trimLeft_blanks fun c among => blank c (List.dropWhile_subset _ among)]
      rfl
    rw [text, ofTrimmed?, takeWhile_front inside outside, dropWhile_front inside outside]
    simp only [wording.start, opening, arguments?_complete within, if_true]
    rfl

end Parts

end Declaration
end StoreBridge
