import Mathlib
import StoreBridge.Text.Blank
import StoreBridge.Text.Letter

/-! What trimming takes away. Blanks at the ends of a text say nothing, whichever they are and
however many. No letter is blank, in either case, so a text may be trimmed before it is put into
small letters or after. -/
namespace StoreBridge.Text

/-- Nothing but blanks. -/
def Blanks (cs : List Char) : Prop :=
  ∀ c ∈ cs, isBlank c = true

/-- What holds of the code points in the table of blanks holds of every blank. -/
theorem forall_isBlank {p : Char → Bool}
    (table : ∀ range ∈ blankRanges, ∀ n < range.2 + 1 - range.1,
      p (Char.ofNat (range.1 + n)) = true) {c : Char} (blank : isBlank c = true) : p c = true := by
  simp only [isBlank, List.any_eq_true, Bool.and_eq_true, decide_eq_true_eq] at blank
  obtain ⟨range, among, least, greatest⟩ := blank
  have found := table range among (c.toNat - range.1) (by omega)
  rwa [Nat.add_sub_of_le least, Char.ofNat_toNat] at found

/-- A character that is not blank does not stand among blanks. -/
theorem not_mem_of_blanks {c : Char} (solid : isBlank c = false) {cs : List Char}
    (blank : Blanks cs) : c ∉ cs := by
  intro among
  rw [blank c among] at solid
  cases solid

section Letters
variable {c : Char}

theorem isBlank_of_isLetter (letter : isLetter c = true) : isBlank c = false := by
  by_contra blank
  have other := forall_isBlank (p := fun c => !isLetter c) (by decide) (by simpa using blank)
  simp [letter] at other

theorem isLetter_eq_isAlpha (c : Char) : isLetter c = c.isAlpha := by
  simp only [isLetter, Char.isAlpha, Char.isUpper, Char.isLower, Char.le_def, ge_iff_le,
    Bool.decide_and]
  exact Bool.or_comm ..

theorem isLetter_toLower (c : Char) : isLetter c.toLower = isLetter c := by
  rw [isLetter_eq_isAlpha, isLetter_eq_isAlpha, Char.isAlpha_toLower_eq_isAlpha]

/-- Only letters have another form. -/
theorem toLower_eq_self (noLetter : isLetter c = false) : c.toLower = c := by
  refine Char.toLower_eq_of_not_isUpper fun capital => ?_
  rw [isLetter_eq_isAlpha, Char.isAlpha, capital] at noLetter
  cases noLetter

/-- A class of characters that has every letter, or none, does not tell capitals from small
letters. -/
theorem class_toLower {p : Char → Bool} {all : Bool} (letters : ∀ d, isLetter d = true → p d = all)
    (c : Char) : p c.toLower = p c := by
  cases letter : isLetter c with
  | true => rw [letters c letter, letters _ ((isLetter_toLower c).trans letter)]
  | false => rw [toLower_eq_self letter]

theorem isBlank_toLower (c : Char) : isBlank c.toLower = isBlank c :=
  class_toLower (fun _ => isBlank_of_isLetter) c

end Letters

theorem lower_eq_empty_iff {s : String} : lower s = "" ↔ s = "" := by
  rw [← String.toList_inj, ← String.toList_inj, lower, String.toList_ofList]
  exact List.map_eq_nil_iff

theorem lower_lower (s : String) : lower (lower s) = lower s := by
  simp [lower, Function.comp_def, Char.toLower_toLower_eq_toLower]

section Ends
variable {front cs behind : List Char}

theorem trimLeft_blanks (blank : Blanks front) : trimLeft (front ++ cs) = trimLeft cs :=
  List.dropWhile_append_of_pos blank

/-- What is trimmed in front are blanks. -/
theorem exists_trimLeft (cs : List Char) : ∃ front, Blanks front ∧ cs = front ++ trimLeft cs :=
  ⟨cs.takeWhile isBlank, fun _ => List.mem_takeWhile_imp, List.takeWhile_append_dropWhile.symm⟩

theorem trimLeft_eq_nil_iff : trimLeft cs = [] ↔ Blanks cs :=
  List.dropWhile_eq_nil_iff

theorem trimLeft_solid (solid : ∀ c, cs.head? = some c → isBlank c = false) : trimLeft cs = cs := by
  cases cs with
  | nil => rfl
  | cons c cs => simp [trimLeft, solid c rfl]

/-- A text without blanks at its ends is not trimmed. -/
theorem trimChars_solid (front : ∀ c, cs.head? = some c → isBlank c = false)
    (behind : ∀ c, cs.getLast? = some c → isBlank c = false) : trimChars cs = cs := by
  have reversed : trimLeft cs.reverse = cs.reverse :=
    trimLeft_solid fun c first => behind c (by rwa [List.head?_reverse] at first)
  rw [trimChars, trimLeft_solid front, reversed, List.reverse_reverse]

theorem trimChars_padded (before : Blanks front) (after : Blanks behind) :
    trimChars (front ++ cs ++ behind) = trimChars cs := by
  have reversed : Blanks behind.reverse := fun c among => after c (List.mem_reverse.mp among)
  rw [List.append_assoc, trimChars, trimLeft_blanks before, trimChars]
  by_cases nothing : trimLeft cs = []
  · have blank : Blanks (cs ++ behind) :=
      List.forall_mem_append.mpr ⟨trimLeft_eq_nil_iff.mp nothing, after⟩
    rw [trimLeft_eq_nil_iff.mpr blank, nothing]
  · have kept : trimLeft (cs ++ behind) = trimLeft cs ++ behind := by
      have solid : (cs.dropWhile isBlank).isEmpty = false := List.isEmpty_eq_false_iff.mpr nothing
      simp only [trimLeft, List.dropWhile_append, solid, Bool.false_eq_true, if_false]
    rw [kept, List.reverse_append, trimLeft_blanks reversed]

/-- What is trimmed away at the ends are blanks. -/
theorem exists_trimChars (cs : List Char) :
    ∃ front behind, Blanks front ∧ Blanks behind ∧ cs = front ++ trimChars cs ++ behind := by
  obtain ⟨front, before, cut⟩ := exists_trimLeft cs
  obtain ⟨last, after, cutBehind⟩ := exists_trimLeft (trimLeft cs).reverse
  refine ⟨front, last.reverse, before, fun c among => after c (List.mem_reverse.mp among), ?_⟩
  have ended : trimLeft cs = trimChars cs ++ last.reverse := by
    rw [trimChars, ← List.reverse_append, ← cutBehind, List.reverse_reverse]
  rw [List.append_assoc, ← ended, ← cut]

theorem trimLeft_map_toLower (cs : List Char) :
    trimLeft (cs.map Char.toLower) = (trimLeft cs).map Char.toLower := by
  have same : isBlank ∘ Char.toLower = isBlank := funext isBlank_toLower
  rw [trimLeft, List.dropWhile_map, same, trimLeft]

theorem lower_trim (s : String) : lower (trim s) = trim (lower s) := by
  simp only [lower, trim, trimChars, String.toList_ofList, trimLeft_map_toLower, ← List.map_reverse]

end Ends

/-- A name that is written otherwise: with letters in the other case, and with more blanks at the
ends. -/
inductive Respelt (name : String) : String → Prop where
  | mk {front cs behind : List Char} (before : Blanks front) (after : Blanks behind)
      (same : sameName (String.ofList cs) name = true) :
      Respelt name (String.ofList (front ++ cs ++ behind))

theorem Respelt.refl (name : String) : Respelt name name := by
  have respelt : Respelt name (String.ofList ([] ++ name.toList ++ [])) :=
    .mk (List.forall_mem_nil _) (List.forall_mem_nil _) (by simp [sameName])
  simpa using respelt

theorem Respelt.lower_trim_eq {name other : String} (respelt : Respelt name other) :
    lower (trim other) = lower (trim name) := by
  cases respelt with
  | @mk front cs behind before after same =>
    calc lower (trim (String.ofList (front ++ cs ++ behind)))
        = lower (trim (String.ofList cs)) := by
          simp only [trim, String.toList_ofList, trimChars_padded before after]
      _ = trim (lower name) := by rw [lower_trim, (sameName_iff _ _).mp same]
      _ = lower (trim name) := (lower_trim name).symm

end StoreBridge.Text
