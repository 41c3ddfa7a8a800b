import StoreBridge.Proofs.DeclarationReading
import StoreBridge.Proofs.Splitting

/-! Writing out what a declared type means. A name that is meant has only single spaces between its
words and none around them, so it is written as it is and read as the same name. The facets without
a written form are those that no store kind looks at, so that what is written means what the
declared type does. -/
namespace StoreBridge
open Text

namespace Declaration

section Words
variable {name w : List Char} {ws : List (List Char)}

/-- A word has characters of the name in it, and no spaces. -/
theorem mem_wordsOf (word : w ∈ wordsOf name) : w ≠ [] ∧ ∀ c ∈ w, c ∈ name ∧ c ≠ ' ' := by
  obtain ⟨piece, someChar⟩ := List.mem_filter.mp word
  exact ⟨by simpa using someChar, mem_splitOn piece⟩

/-- The first word begins where the name does. -/
theorem exists_wordsOf_cons {c : Char} (noSpace : c ≠ ' ') (cs : List Char) :
    ∃ w ws, wordsOf (c :: cs) = (c :: w) :: ws := by
  have other : (c == ' ') = false := by simpa using noSpace
  cases pieces : cs.splitOn ' ' with
  | nil => exact absurd pieces (List.splitOn_ne_nil ' ' cs)
  | cons v vs =>
    refine ⟨v, vs.filter (!·.isEmpty), ?_⟩
    rw [wordsOf, List.splitOn_cons_eq_if_modifyHead, other, pieces]
    rfl

theorem splitOn_joined (solid : ∀ w ∈ ws, w ≠ [] ∧ ∀ c ∈ w, c ≠ ' ') (someWord : ws ≠ []) :
    ([' '].intercalate ws).splitOn ' ' = ws :=
  List.splitOn_intercalate ' ' (fun w word inside => (solid w word).2 ' ' inside rfl) someWord

/-- Words with single spaces between them are the words of what they make. -/
theorem wordsOf_joined (solid : ∀ w ∈ ws, w ≠ [] ∧ ∀ c ∈ w, c ≠ ' ') :
    wordsOf ([' '].intercalate ws) = ws := by
  by_cases someWord : ws = []
  · rw [someWord]
    rfl
  · rw [wordsOf, splitOn_joined solid someWord, List.filter_eq_self]
    exact fun w word => by simpa using (solid w word).1

theorem map_joined (f : Char → Char) (space : f ' ' = ' ') (ws : List (List Char)) :
    ([' '].intercalate ws).map f = [' '].intercalate (ws.map (List.map f)) := by
  induction ws with
  | nil => rfl
  | cons w ws ih =>
    cases ws with
    | nil => simp
    | cons v ws =>
      rw [List.map_cons, List.map_cons, List.intercalate_cons_cons, List.intercalate_cons_cons,
        List.map_append, List.map_append, ih]
      simp [space]

theorem forall_mem_joined {p : Char → Prop} (space : p ' ') (words : ∀ w ∈ ws, ∀ c ∈ w, p c) :
    ∀ c ∈ [' '].intercalate ws, p c := by
  induction ws with
  | nil => exact List.forall_mem_nil _
  | cons w ws ih =>
    obtain ⟨first, later⟩ := List.forall_mem_cons.mp words
    cases ws with
    | nil => simpa using first
    | cons v ws =>
      rw [List.intercalate_cons_cons, List.forall_mem_append, List.forall_mem_append]
      exact ⟨⟨first, by simpa using space⟩, ih later⟩

theorem head?_joined (c : Char) (w : List Char) (ws : List (List Char)) :
    ([' '].intercalate ((c :: w) :: ws)).head? = some c := by
  cases ws <;> simp [List.intercalate_cons_cons]

end Words

section Meant
variable {name : List Char}

/-- The words of the name that is meant. -/
def plainWords (name : List Char) : List (List Char) :=
  (wordsOf name).map (List.map Char.toLower)

theorem toList_meantName (name : List Char) :
    (meantName name).toList = [' '].intercalate (plainWords name) := by
  rw [meantName, String.toList_ofList, map_joined _ (by decide), plainWords]

theorem plainWords_solid {w : List Char} (among : w ∈ plainWords name) :
    w ≠ [] ∧ ∀ c ∈ w, c ≠ ' ' := by
  obtain ⟨v, word, rfl⟩ := List.mem_map.mp among
  obtain ⟨someChar, inside⟩ := mem_wordsOf word
  refine ⟨by simpa using someChar, List.forall_mem_map.mpr fun c member space => ?_⟩
  have noLetter : isLetter c = false := by
    rw [← isLetter_toLower, space]
    decide
  exact (inside c member).2 ((toLower_eq_self noLetter).symm.trans space)

theorem plainWords_parts (parts : ∀ c ∈ name, isNamePart c = true) :
    ∀ w ∈ plainWords name, ∀ c ∈ w, isNamePart c = true := by
  have letters (d : Char) (letter : isLetter d = true) : isNamePart d = true := by
    simp [isNamePart, isNameStart_of_isLetter letter]
  refine List.forall_mem_map.mpr fun v word => List.forall_mem_map.mpr fun c member => ?_
  rw [class_toLower letters]
  exact parts c ((mem_wordsOf word).2 c member).1

/-- The name that is meant is a name again. -/
theorem wording_meantName (wording : Wording name) : Wording (meantName name).toList := by
  rw [toList_meantName]
  refine .of_parts ?_ (forall_mem_joined (by decide) (plainWords_parts wording.parts))
  obtain @⟨c, cs, start, -⟩ := wording
  have noSpace : c ≠ ' ' := by
    rintro rfl
    exact absurd start (by decide)
  obtain ⟨w, ws, words⟩ := exists_wordsOf_cons noSpace cs
  rw [plainWords, words, List.map_cons, List.map_cons, head?_joined, Option.any_some,
    class_toLower fun _ => isNameStart_of_isLetter]
  exact start

/-- Whoever writes the name that is meant means the same name. -/
theorem meantName_meantName (name : List Char) :
    meantName (meantName name).toList = meantName name := by
  have small : (plainWords name).map (List.map Char.toLower) = plainWords name := by
    simp [plainWords, Function.comp_def, Char.toLower_toLower_eq_toLower]
  rw [← String.toList_inj, toList_meantName, toList_meantName, plainWords,
    wordsOf_joined fun _ => plainWords_solid, small]

end Meant

end Declaration

namespace Facets

/-- The facets that have a written form: a length without a bound is not written, nor is a precision
without a scale. -/
def writable (f : Facets) : Facets :=
  { f with
    maxLength := if f.maxLength = some .unbounded then none else f.maxLength
    precision := if f.scale = none then none else f.precision }

/-- The numbers that are shown say all that is shown. -/
theorem shownNumbers_shown (f : Facets) : f.shown.shownNumbers = f.shownNumbers := by
  unfold shown
  split <;> simp_all [shownNumbers]

end Facets

namespace Declaration.States
variable {name : String} {arguments : List (List Char)} {f : Facets}

/-- The text of a declared type shows what has a written form. -/
theorem shown_eq (states : States name arguments f) : f.shown = f.writable := by
  cases states <;> rfl

/-- What the text does not show of a declared type is nothing that a store kind looks at. -/
theorem alike_shown (states : States name arguments f) (k : StoreKind) : k.Alike f f.shown := by
  cases states <;> exact ⟨fun _ => rfl, fun _ => rfl, fun _ => rfl⟩

/-- Decimals have no length. -/
theorem no_decimal (states : States name arguments f) (length : f.maxLengthValue? ≠ none) :
    StoreType.decimalNames.contains name = false := by
  cases states with
  | length other => simpa using other
  | nothing | precision | unbounded | both => exact absurd rfl length

end Declaration.States

namespace StoreType
open Declaration

theorem text_shown (name : String) (f : Facets) :
    (⟨name, f.shown⟩ : StoreType).text = (⟨name, f⟩ : StoreType).text := by
  rw [text_eq, text_eq, Facets.shownNumbers_shown]

/-- The text of a declared type declares what can be written of it. That has the same text and
stands for the same conceptual type, or nothing for the same reason. -/
theorem ofDeclared_text_stable {declared : String} {s : StoreType}
    (understood : ofDeclared declared = .ok s) :
    let written : StoreType := ⟨s.name, s.facets.writable⟩
    ofDeclared s.text = .ok written ∧ written.text = s.text ∧
      written.conceptualType = s.conceptualType := by
  obtain @⟨name, _, _, facets, wording, -, -, states⟩ := ofDeclared_eq_ok_iff.mp understood
  have again := wording_meantName wording
  have plain : (Declaration.mk (meantName name).toList []).plainName = meantName name := by
    rw [plainName_wording again, meantName_meantName]
  have read := ofDeclared_text (s := ⟨meantName name, facets⟩) again fun length => by
    rw [plain]
    exact states.no_decimal length
  rw [plain] at read
  rw [← states.shown_eq]
  exact ⟨read, text_shown _ _, conceptualType_respelt (.refl _) fun k _ => states.alike_shown k⟩

/-- A decimal with a precision alone is written without it. -/
theorem ofDeclared_text_stable_precision :
    let s : StoreType := ⟨"decimal", { precision := some (.bounded 5) }⟩
    ofDeclared " Decimal\t( 005 )" = .ok s ∧ s.text = "decimal" ∧
      ofDeclared s.text = .ok ⟨"decimal", {}⟩ ∧
      (⟨"decimal", {}⟩ : StoreType).conceptualType = s.conceptualType := by
  intro s
  have understood : ofDeclared " Decimal\t( 005 )" = .ok s := by decide +kernel
  obtain ⟨read, -, same⟩ := ofDeclared_text_stable understood
  exact ⟨understood, rfl, read, same⟩

end StoreType
end StoreBridge
