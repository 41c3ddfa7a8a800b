import Mathlib
import StoreBridge.Text.Split

/-! Cutting a text at a separator and putting the pieces together again. No piece has the separator
in it, and pieces without it are found again in the text that they make. -/
namespace StoreBridge.Text
variable {sep : Char} {cs piece : List Char}

/-- The pieces are those of the library's cut. -/
theorem splitAt_eq_splitOn (sep : Char) (cs : List Char) : splitAt sep cs = cs.splitOn sep := by
  induction cs with
  | nil => rfl
  | cons c cs ih =>
    rw [splitAt, ih, List.splitOn_cons_eq_if_modifyHead]
    by_cases cut : c = sep
    · simp [cut]
    · simp only [cut, if_false, beq_iff_eq]
      cases pieces : cs.splitOn sep with
      | nil => exact absurd pieces (List.splitOn_ne_nil sep cs)
      | cons piece pieces => rfl

/-- A piece has characters of the text in it, and no separator. -/
theorem mem_splitOn (among : piece ∈ cs.splitOn sep) : ∀ c ∈ piece, c ∈ cs ∧ c ≠ sep := by
  induction cs generalizing piece with
  | nil => simp_all
  | cons d cs ih =>
    have later {other : List Char} (among : other ∈ cs.splitOn sep) (c : Char)
        (inside : c ∈ other) : c ∈ d :: cs ∧ c ≠ sep :=
      (ih among c inside).imp_left (.tail d)
    rw [List.splitOn_cons_eq_if_modifyHead] at among
    split at among
    · rcases List.mem_cons.mp among with rfl | among
      · exact List.forall_mem_nil _
      · exact later among
    · rename_i kept
      cases pieces : cs.splitOn sep with
      | nil => exact absurd pieces (List.splitOn_ne_nil sep cs)
      | cons first others =>
        rw [pieces] at later
        rw [pieces, List.modifyHead_cons] at among
        rcases List.mem_cons.mp among with rfl | among
        · exact List.forall_mem_cons.mpr
            ⟨⟨List.mem_cons_self .., by simpa using kept⟩, later (List.mem_cons_self ..)⟩
        · exact later (.tail first among)

/-- A text is not cut in two exactly where it has no separator. -/
theorem splitOnce_eq_none_iff : splitOnce sep cs = none ↔ sep ∉ cs := by
  constructor
  · intro whole among
    obtain ⟨front, behind, rfl, outside⟩ := List.eq_append_cons_of_mem among
    rw [splitOnce_front outside] at whole
    cases whole
  · intro outside
    cases cut : splitOnce sep cs with
    | none => rfl
    | some parts =>
      obtain ⟨rfl, -⟩ := splitOnce_eq_some cut
      simp at outside

end StoreBridge.Text
