import Mathlib
import StoreBridge.Text.Blank
import StoreBridge.Text.Digit

/-! Digits read back what they write. The digits of a number have that number as their value and are
found in front of anything that does not go on with a digit, as is any run of characters of a class;
one more digit at the end multiplies by ten. Zeros in front say nothing, and zeros at the end only
multiply. -/
namespace StoreBridge.Text

section Runs
variable {p : Char → Bool} {front rest : List Char}

theorem takeWhile_front (inside : ∀ c ∈ front, p c = true)
    (outside : ∀ c, rest.head? = some c → p c = false) : (front ++ rest).takeWhile p = front := by
  rw [List.takeWhile_append_of_pos inside]
  cases rest with
  | nil => simp
  | cons c rest => simp [outside c rfl]

theorem dropWhile_front (inside : ∀ c ∈ front, p c = true)
    (outside : ∀ c, rest.head? = some c → p c = false) : (front ++ rest).dropWhile p = rest := by
  have whole : (front ++ rest).takeWhile p ++ (front ++ rest).dropWhile p = front ++ rest :=
    List.takeWhile_append_dropWhile
  rw [takeWhile_front inside outside] at whole
  exact List.append_cancel_left whole

end Runs

theorem isDigit_digitChar {n : Nat} (small : n < 10) : isDigit (digitChar n) = true := by
  revert n
  decide

theorem digitValue_digitChar {n : Nat} (small : n < 10) : digitValue (digitChar n) = n := by
  revert n
  decide

theorem exists_digitChar {c : Char} (digit : isDigit c = true) : ∃ n, n < 10 ∧ c = digitChar n := by
  simp only [isDigit, Bool.and_eq_true, decide_eq_true_eq, Char.le_def, UInt32.le_iff_toNat_le]
    at digit
  have least : 48 ≤ c.toNat := digit.1
  have greatest : c.toNat ≤ 57 := digit.2
  refine ⟨c.toNat - 48, by omega, ?_⟩
  have code : '0'.toNat + (c.toNat - 48) = c.toNat := Nat.add_sub_of_le least
  rw [digitChar, code, Char.ofNat_toNat]

/-- What holds of the ten digits holds of every digit. -/
theorem forall_isDigit {p : Char → Bool} (ten : ∀ n < 10, p (digitChar n) = true) {c : Char}
    (digit : isDigit c = true) : p c = true := by
  obtain ⟨n, small, rfl⟩ := exists_digitChar digit
  exact ten n small

theorem isBlank_of_isDigit {c : Char} (digit : isDigit c = true) : isBlank c = false := by
  have solid := forall_isDigit (p := fun c => !isBlank c) (by decide) digit
  simpa using solid

theorem natural_small {n : Nat} (small : n < 10) : natural n = [digitChar n] := by
  rw [natural, if_pos small]

/-- One more digit behind the digits of a number. -/
theorem natural_snoc {n d : Nat} (positive : 0 < n) (small : d < 10) :
    natural (10 * n + d) = natural n ++ [digitChar d] := by
  have large : ¬ 10 * n + d < 10 := by omega
  have quotient : (10 * n + d) / 10 = n := by omega
  have remainder : (10 * n + d) % 10 = d := by omega
  rw [natural, if_neg large, quotient, remainder]

/-- Numbers are made from one digit by putting digits behind it. -/
theorem natural_induction {motive : Nat → Prop} (small : ∀ n < 10, motive n)
    (snoc : ∀ n d, 0 < n → d < 10 → motive n → motive (10 * n + d)) (n : Nat) : motive n := by
  induction n using Nat.strongRecOn with
  | ind n ih =>
    by_cases one : n < 10
    · exact small n one
    · have parts : n = 10 * (n / 10) + n % 10 := by omega
      rw [parts]
      exact snoc _ _ (by omega) (by omega) (ih _ (by omega))

theorem natural_isDigit (n : Nat) : ∀ c ∈ natural n, isDigit c = true := by
  induction n using natural_induction with
  | small n one =>
    rw [natural_small one]
    simpa using isDigit_digitChar one
  | snoc n d positive one ih =>
    rw [natural_snoc positive one]
    intro c among
    rcases List.mem_append.mp among with before | last
    · exact ih c before
    · rw [List.mem_singleton.mp last]
      exact isDigit_digitChar one

theorem natural_ne_nil (n : Nat) : natural n ≠ [] := by
  rw [natural]
  split <;> simp

theorem decimalValue_append (seed : Nat) (a b : List Char) :
    decimalValue seed (a ++ b) = decimalValue (decimalValue seed a) b :=
  List.foldl_append

/-- The digits of a number write the number. -/
theorem decimalValue_natural (n : Nat) : decimalValue 0 (natural n) = n := by
  induction n using natural_induction with
  | small n one =>
    rw [natural_small one]
    show 10 * 0 + digitValue (digitChar n) = n
    rw [digitValue_digitChar one]
    omega
  | snoc n d positive one ih =>
    rw [natural_snoc positive one, decimalValue_append, ih]
    show 10 * n + digitValue (digitChar d) = 10 * n + d
    rw [digitValue_digitChar one]

theorem natural_injective {m n : Nat} (same : natural m = natural n) : m = n := by
  rw [← decimalValue_natural m, same, decimalValue_natural]

theorem decimalValue_zeros (seed k : Nat) :
    decimalValue seed (List.replicate k '0') = seed * 10 ^ k := by
  induction k generalizing seed with
  | zero => simp [decimalValue]
  | succ k ih =>
    rw [List.replicate_succ, Nat.pow_succ]
    show decimalValue (10 * seed + 0) (List.replicate k '0') = _
    rw [ih, Nat.add_zero, Nat.mul_comm 10 seed, Nat.mul_assoc, Nat.mul_comm 10]

theorem decimalValue_padded (width n : Nat) : decimalValue 0 (padded width n) = n := by
  rw [padded, decimalValue_append, decimalValue_zeros, Nat.zero_mul, decimalValue_natural]

theorem padded_isDigit (width n : Nat) : ∀ c ∈ padded width n, isDigit c = true := by
  intro c among
  rcases List.mem_append.mp among with zeros | digits
  · rw [List.eq_of_mem_replicate zeros]
    decide
  · exact natural_isDigit n c digits

theorem padded_ne_nil (width n : Nat) : padded width n ≠ [] := by
  simp [padded, natural_ne_nil]

/-- A number lies between the powers of ten that its length tells. -/
theorem natural_length_bounds {n : Nat} (positive : 0 < n) :
    10 ^ (natural n).length ≤ 10 * n ∧ n < 10 ^ (natural n).length := by
  induction n using natural_induction with
  | small n one =>
    rw [natural_small one]
    simp only [List.length_singleton, Nat.pow_one]
    omega
  | snoc n d above one ih =>
    rw [natural_snoc above one, List.length_append, List.length_singleton, Nat.pow_succ]
    have bounds := ih above
    omega

/-- A factor of ten is one more zero at the end. -/
theorem natural_mul_ten {n : Nat} (positive : 0 < n) : natural (10 * n) = natural n ++ ['0'] :=
  natural_snoc positive (by decide : 0 < 10)

theorem natural_mul_pow_ten {n : Nat} (positive : 0 < n) (k : Nat) :
    natural (n * 10 ^ k) = natural n ++ List.replicate k '0' := by
  induction k with
  | zero => simp
  | succ k ih =>
    have above : 0 < n * 10 ^ k := Nat.mul_pos positive (Nat.pow_pos (by decide))
    rw [Nat.pow_succ, ← Nat.mul_assoc, Nat.mul_comm _ 10, natural_mul_ten above, ih,
      List.append_assoc, List.replicate_succ']

theorem hexValue?_upperHexDigit {n : Nat} (small : n < 16) :
    hexValue? (upperHexDigit n) = some n := by
  revert n
  decide

end StoreBridge.Text
