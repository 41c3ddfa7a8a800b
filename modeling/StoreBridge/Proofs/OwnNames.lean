import StoreBridge.Command.Generation
import StoreBridge.Proofs.DigitReading

/-! The names of a command's own parameters. They are numbered, so that different numbers give
different names, and among more numbers than there are declared names one is free: the search for a
name ends, and it ends at the first that is not declared. -/
namespace StoreBridge.Generation
open Text

theorem ownName_injective {i j : Nat} (same : ownName i = ownName j) : i = j := by
  have chars := congrArg String.toList same
  simp only [ownName, naturalText, String.toList_append, String.toList_ofList] at chars
  exact natural_injective (List.append_cancel_left chars)

/-- The names are names of parameters. -/
theorem isName_ownName (i : Nat) : Parameter.isName (ownName i).toList = true := by
  have digits : ∀ c ∈ natural i, isDigit c = true := natural_isDigit i
  have chars : (ownName i).toList = 'p' :: natural i := by
    simp [ownName, naturalText, String.toList_append]
  rw [chars]
  show ((isLetter 'p' || 'p' == '_') && (natural i).all _) = true
  rw [Bool.and_eq_true, List.all_eq_true]
  refine ⟨by decide, fun c among => ?_⟩
  simp [digits c among]

/-- The name with this index is not declared. -/
def IsFree (declared : List String) (i : Nat) : Prop :=
  ownName i ∉ declared

instance (declared : List String) : DecidablePred (IsFree declared) := fun i =>
  inferInstanceAs (Decidable (ownName i ∉ declared))

/-- The search from an index on tries one name after the other, and ends at the first free one: so
many tries, and the index found. -/
inductive Search (declared : List String) : (start tries found : Nat) → Prop where
  | ends {i : Nat} (free : IsFree declared i) : Search declared i 1 i
  | goesOn {i tries found : Nat} (taken : ¬ IsFree declared i)
      (rest : Search declared (i + 1) tries found) : Search declared i (tries + 1) found

section Searching
variable {declared : List String} {start tries found : Nat}

/-- From an index on the search takes one course only. -/
theorem Search.unique {tries' found' : Nat} (search : Search declared start tries found)
    (other : Search declared start tries' found') : tries = tries' ∧ found = found' := by
  induction search generalizing tries' with
  | ends free =>
    cases other with
    | ends => exact ⟨rfl, rfl⟩
    | goesOn taken => exact absurd free taken
  | goesOn taken rest ih =>
    cases other with
    | ends free => exact absurd free taken
    | goesOn _ rest' =>
      obtain ⟨sameTries, sameFound⟩ := ih rest'
      exact ⟨congrArg (· + 1) sameTries, sameFound⟩

theorem Search.isFree (search : Search declared start tries found) : IsFree declared found := by
  induction search with
  | ends free => exact free
  | goesOn _ _ ih => exact ih

theorem Search.le (search : Search declared start tries found) : start ≤ found := by
  induction search with
  | ends => exact Nat.le_refl _
  | goesOn _ _ ih => exact Nat.le_of_succ_le ih

/-- The search passes over names that are declared and no others. -/
theorem Search.taken (search : Search declared start tries found) {k : Nat} (reached : start ≤ k)
    (below : k < found) : ¬ IsFree declared k := by
  induction search with
  | ends => exact absurd reached (Nat.not_le_of_lt below)
  | goesOn taken _ ih =>
    rcases Nat.eq_or_lt_of_le reached with rfl | later
    · exact taken
    · exact ih later below

end Searching

/-- Among one more index than there are declared names one is free. -/
theorem exists_free (declared : List String) (i : Nat) :
    ∃ k, k ≤ declared.length ∧ IsFree declared (i + k) := by
  by_contra none
  have taken : ∀ k, k ≤ declared.length → ownName (i + k) ∈ declared := by
    intro k few
    by_contra free
    exact none ⟨k, few, free⟩
  let names := (List.range (declared.length + 1)).map fun k => ownName (i + k)
  have distinct : names.Nodup := by
    refine List.Pairwise.map _ (fun a b different same => different ?_) List.nodup_range
    exact Nat.add_left_cancel (ownName_injective same)
  have among : names ⊆ declared := by
    intro name here
    obtain ⟨k, below, rfl⟩ := List.mem_map.mp here
    exact taken k (Nat.le_of_lt_succ (List.mem_range.mp below))
  have room := distinct.length_le_of_subset among
  simp only [names, List.length_map, List.length_range] at room
  omega

/-- A search finds what there is within its tries. -/
theorem search_within {declared : List String} {tries start k : Nat} (few : k ≤ tries)
    (free : IsFree declared (start + k)) :
    ∃ n, n ≤ tries + 1 ∧ Search declared start n (freeIndex declared tries start) := by
  induction tries generalizing start k with
  | zero =>
    obtain rfl : k = 0 := Nat.le_zero.mp few
    exact ⟨1, Nat.le_refl 1, .ends free⟩
  | succ tries ih =>
    unfold freeIndex
    by_cases taken : declared.contains (ownName start) = true
    · rw [if_pos taken]
      have declaredHere : ¬ IsFree declared start := not_not_intro (List.contains_iff_mem.mp taken)
      cases k with
      | zero => exact absurd free declaredHere
      | succ k =>
        rw [Nat.add_comm k, ← Nat.add_assoc] at free
        obtain ⟨n, atMost, rest⟩ := ih (Nat.le_of_succ_le_succ few) free
        exact ⟨n + 1, Nat.succ_le_succ atMost, .goesOn declaredHere rest⟩
    · rw [if_neg taken]
      refine ⟨1, Nat.succ_le_succ (Nat.zero_le _), .ends fun here => taken ?_⟩
      exact List.contains_iff_mem.mpr here

/-- As many tries as there are declared names and one more are enough to find a free one. -/
theorem search_freeIndex (declared : List String) (start : Nat) :
    ∃ tries, tries ≤ declared.length + 1 ∧
      Search declared start tries (freeIndex declared declared.length start) := by
  obtain ⟨k, few, free⟩ := exists_free declared start
  exact search_within few free

theorem freeIndex_free (declared : List String) (i : Nat) :
    ownName (freeIndex declared declared.length i) ∉ declared := by
  obtain ⟨tries, -, search⟩ := search_freeIndex declared i
  exact search.isFree

theorem le_freeIndex (declared : List String) (i : Nat) :
    i ≤ freeIndex declared declared.length i := by
  obtain ⟨tries, -, search⟩ := search_freeIndex declared i
  exact search.le

/-- The names before the one that is found are declared. -/
theorem declared_of_lt_freeIndex {declared : List String} {i k : Nat} (reached : i ≤ k)
    (below : k < freeIndex declared declared.length i) : ownName k ∈ declared := by
  obtain ⟨tries, -, search⟩ := search_freeIndex declared i
  exact not_not.mp (search.taken reached below)

end StoreBridge.Generation
