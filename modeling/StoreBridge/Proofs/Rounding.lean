import Mathlib
import StoreBridge.Binary64

/-! Rounding to floating-point numbers. The exponent of a ratio is the greatest one whose power of
two does not exceed it, so it is told by the ratio alone, and with it the nearest number: it is the
same for all numerators and denominators of one ratio, and a ratio that is a number is rounded to
that number. -/
namespace StoreBridge.Binary64

/-- A power of two is at most a ratio. -/
def Reaches (num den : Nat) (e : Int) : Prop :=
  den * 2 ^ e.toNat ≤ num * 2 ^ (-e).toNat

instance (num den : Nat) (e : Int) : Decidable (Reaches num den e) :=
  inferInstanceAs (Decidable (_ ≤ _))

/-- The exponent may be split in any way into a factor of either side. -/
theorem reaches_iff {num den : Nat} {e : Int} (a b : Nat) (parts : e = a - b) :
    Reaches num den e ↔ den * 2 ^ a ≤ num * 2 ^ b := by
  have above : a = e.toNat + min a b := by omega
  have below : b = (-e).toNat + min a b := by omega
  have positive : 0 < 2 ^ min a b := Nat.two_pow_pos _
  calc Reaches num den e
      ↔ den * 2 ^ e.toNat * 2 ^ min a b ≤ num * 2 ^ (-e).toNat * 2 ^ min a b :=
        (Nat.mul_le_mul_right_iff positive).symm
    _ ↔ den * 2 ^ a ≤ num * 2 ^ b := by
        rw [Nat.mul_assoc, Nat.mul_assoc, ← Nat.pow_add, ← Nat.pow_add, ← above, ← below]

theorem reaches_antitone {num den : Nat} {e f : Int} (order : f ≤ e) (reached : Reaches num den e) :
    Reaches num den f := by
  have bound := (reaches_iff e.toNat (-e).toNat (by omega)).mp reached
  refine (reaches_iff e.toNat ((-e).toNat + (e - f).toNat) (by omega)).mpr ?_
  rw [Nat.pow_add, ← Nat.mul_assoc]
  exact Nat.le_mul_of_pos_right _ (Nat.two_pow_pos _) |> Nat.le_trans bound

/-- The numbers of bits of the two parts leave two candidates, and the greater one is tried. -/
private theorem floorLog2_eq (num den : Nat) :
    floorLog2 num den =
      if Reaches num den (num.log2 - den.log2) then (num.log2 - den.log2 : Int)
      else num.log2 - den.log2 - 1 := by
  unfold floorLog2 Reaches
  generalize (num.log2 - den.log2 : Int) = e
  by_cases side : 0 ≤ e
  · have none : (-e).toNat = 0 := by omega
    simp [side, none]
  · have none : e.toNat = 0 := by omega
    simp [side, none]

/-- The exponent of a ratio is the greatest one whose power of two does not exceed the ratio. -/
theorem le_floorLog2_iff {num den : Nat} (number : num ≠ 0) (proper : den ≠ 0) (e : Int) :
    e ≤ floorLog2 num den ↔ Reaches num den e := by
  have lower : Reaches num den (num.log2 - den.log2 - 1) := by
    refine (reaches_iff num.log2 (den.log2 + 1) (by omega)).mpr ?_
    calc den * 2 ^ num.log2 ≤ 2 ^ (den.log2 + 1) * num :=
          Nat.mul_le_mul (Nat.le_of_lt Nat.lt_log2_self) (Nat.log2_self_le number)
      _ = num * 2 ^ (den.log2 + 1) := Nat.mul_comm ..
  have upper : ¬ Reaches num den (num.log2 - den.log2 + 1) := by
    rw [reaches_iff (num.log2 + 1) den.log2 (by omega), Nat.not_le]
    calc num * 2 ^ den.log2 ≤ num * den := Nat.mul_le_mul_left _ (Nat.log2_self_le proper)
      _ < 2 ^ (num.log2 + 1) * den :=
        Nat.mul_lt_mul_of_pos_right Nat.lt_log2_self (Nat.pos_of_ne_zero proper)
      _ = den * 2 ^ (num.log2 + 1) := Nat.mul_comm ..
  rw [floorLog2_eq]
  generalize (num.log2 - den.log2 : Int) = middle at lower upper ⊢
  split
  · rename_i reached
    constructor
    · exact fun order => reaches_antitone order reached
    · intro here
      rcases Int.lt_or_le middle e with beyond | order
      · exact absurd (reaches_antitone beyond here) upper
      · exact order
  · rename_i missed
    constructor
    · exact fun order => reaches_antitone order lower
    · intro here
      rcases Int.lt_or_le (middle - 1) e with beyond | order
      · exact absurd (reaches_antitone (by omega) here) missed
      · exact order

theorem reaches_scale {num den k : Nat} (positive : 0 < k) (e : Int) :
    Reaches (k * num) (k * den) e ↔ Reaches num den e := by
  unfold Reaches
  rw [Nat.mul_assoc, Nat.mul_assoc]
  exact Nat.mul_le_mul_left_iff positive

theorem floorLog2_scale {num den k : Nat} (number : num ≠ 0) (proper : den ≠ 0)
    (positive : 0 < k) : floorLog2 (k * num) (k * den) = floorLog2 num den := by
  have number' : k * num ≠ 0 := Nat.mul_ne_zero (by omega) number
  have proper' : k * den ≠ 0 := Nat.mul_ne_zero (by omega) proper
  refine eq_of_forall_le_iff fun e => ?_
  rw [le_floorLog2_iff number' proper', reaches_scale positive, le_floorLog2_iff number proper]

theorem nearestEven_scale {num den k : Nat} (positive : 0 < k) :
    nearestEven (k * num) (k * den) = nearestEven num den := by
  have order (a b : Nat) : 2 * (k * a) < k * b ↔ 2 * a < b := by
    rw [Nat.mul_left_comm]
    exact Nat.mul_lt_mul_left positive
  have order' (a b : Nat) : k * b < 2 * (k * a) ↔ b < 2 * a := by
    rw [Nat.mul_left_comm]
    exact Nat.mul_lt_mul_left positive
  simp only [nearestEven, Nat.mul_div_mul_left _ _ positive, Nat.mul_mod_mul_left, order, order']

/-- A whole ratio is nearest to itself. -/
theorem nearestEven_whole {n den : Nat} (proper : 0 < den) : nearestEven (n * den) den = n := by
  simp [nearestEven, Nat.mul_div_cancel _ proper, proper]

theorem inUnits_scale {num den k : Nat} (positive : 0 < k) (power : Int) :
    inUnits (k * num) (k * den) power = inUnits num den power := by
  unfold inUnits
  split <;> rw [Nat.mul_assoc, nearestEven_scale positive]

theorem ofRatio_scale {num den k : Nat} (negative : Bool) (proper : den ≠ 0) (positive : 0 < k) :
    ofRatio negative (k * num) (k * den) = ofRatio negative num den := by
  by_cases zero : num = 0
  · simp [ofRatio, zero]
  · have nonzero : k * num ≠ 0 := Nat.mul_ne_zero (by omega) zero
    simp only [ofRatio, if_neg zero, if_neg nonzero, floorLog2_scale zero proper positive,
      inUnits_scale positive]

/-- The nearest number is the same for all fractions of one value. -/
theorem ofRatio_congr {num den num' den' : Nat} (negative : Bool) (proper : den ≠ 0)
    (proper' : den' ≠ 0) (same : num * den' = num' * den) :
    ofRatio negative num den = ofRatio negative num' den' := by
  calc ofRatio negative num den = ofRatio negative (den' * num) (den' * den) :=
        (ofRatio_scale negative proper (by omega)).symm
    _ = ofRatio negative (den * num') (den * den') := by
        rw [Nat.mul_comm den' num, same, Nat.mul_comm num' den, Nat.mul_comm den' den]
    _ = ofRatio negative num' den' := ofRatio_scale negative proper' (by omega)

section Finite
variable {x : Binary64}

theorem significand_lt (x : Binary64) : x.significand < 2 ^ 53 := by
  simp only [significand, Nat.pow_eq]
  split <;> omega

theorem le_power (x : Binary64) : -1074 ≤ x.power := by
  unfold power
  omega

theorem power_le (finite : x.isFinite = true) : x.power ≤ 971 := by
  have bound : x.magnitude < infiniteMagnitude := of_decide_eq_true finite
  simp only [infiniteMagnitude, Nat.pow_eq] at bound
  simp only [power, Nat.pow_eq]
  omega

/-- Above the least power the leading bit of the significand is set. -/
theorem le_significand (above : -1074 < x.power) : 2 ^ 52 ≤ x.significand := by
  simp only [power, Nat.pow_eq] at above
  simp only [significand, Nat.pow_eq]
  split <;> omega

/-- The bits below the sign are the exponent and the significand, but for its leading bit. -/
theorem magnitude_eq (x : Binary64) :
    x.magnitude = (x.power + 1074).toNat * 2 ^ 52 + x.significand := by
  simp only [power, significand, Nat.pow_eq]
  split <;> omega

/-- A finite number is its significand times its power of two. -/
theorem ratio_eq (x : Binary64) :
    x.ratio = (x.significand * 2 ^ x.power.toNat, 2 ^ (-x.power).toNat) := by
  unfold ratio
  split
  · have none : (-x.power).toNat = 0 := by omega
    simp [none]
  · have none : x.power.toNat = 0 := by omega
    simp [none]

/-- A power of two reaches a finite number when it reaches the significand. -/
private theorem reaches_ratio (x : Binary64) (k : Nat) :
    Reaches x.ratio.1 x.ratio.2 (x.power + k) ↔ 2 ^ k ≤ x.significand := by
  have positive : 0 < 2 ^ (-x.power).toNat * 2 ^ x.power.toNat :=
    Nat.mul_pos (Nat.two_pow_pos _) (Nat.two_pow_pos _)
  have number : x.significand * 2 ^ x.power.toNat * 2 ^ (-x.power).toNat =
      2 ^ (-x.power).toNat * 2 ^ x.power.toNat * x.significand := by ac_rfl
  rw [ratio_eq, reaches_iff (x.power.toNat + k) (-x.power).toNat (by omega), number, Nat.pow_add,
    ← Nat.mul_assoc]
  exact Nat.mul_le_mul_left_iff positive

/-- The unit in which a finite number other than zero is rounded is its own power of two. -/
private theorem roundingPower_ratio (nonzero : x.significand ≠ 0) :
    max (floorLog2 x.ratio.1 x.ratio.2 - 52) (-1074) = x.power := by
  have number : x.ratio.1 ≠ 0 := by
    rw [ratio_eq]
    exact Nat.mul_ne_zero nonzero (Nat.pos_iff_ne_zero.mp (Nat.two_pow_pos _))
  have proper : x.ratio.2 ≠ 0 := by
    rw [ratio_eq]
    exact Nat.pos_iff_ne_zero.mp (Nat.two_pow_pos _)
  have exponent (k : Nat) : x.power + k ≤ floorLog2 x.ratio.1 x.ratio.2 ↔ 2 ^ k ≤ x.significand :=
    (le_floorLog2_iff number proper _).trans (reaches_ratio x k)
  have least := le_power x
  have below : ¬ x.power + 53 ≤ floorLog2 x.ratio.1 x.ratio.2 := fun reached =>
    Nat.not_le.mpr (significand_lt x) ((exponent 53).mp reached)
  by_cases above : -1074 < x.power
  · have reached := (exponent 52).mpr (le_significand above)
    omega
  · omega

private theorem inUnits_ratio (x : Binary64) :
    inUnits x.ratio.1 x.ratio.2 x.power = x.significand := by
  rw [ratio_eq]
  unfold inUnits
  split
  · have none : (-x.power).toNat = 0 := by omega
    simp [none, nearestEven_whole (Nat.two_pow_pos _)]
  · have none : x.power.toNat = 0 := by omega
    simp [none, nearestEven_whole (Nat.two_pow_pos _)]

/-- A finite number is the number nearest to itself. -/
theorem ofRatio_ratio (negative : Bool) (finite : x.isFinite = true) :
    ofRatio negative x.ratio.1 x.ratio.2 = ofMagnitude negative x.magnitude := by
  have shape := magnitude_eq x
  by_cases zero : x.significand = 0
  · have least : x.power = -1074 := by
      have bound := le_power x
      have leading := le_significand (x := x)
      omega
    have nothing : x.ratio.1 = 0 := by simp [ratio_eq, zero]
    simp [ofRatio, nothing, shape, zero, least]
  · have number : x.ratio.1 ≠ 0 := by
      rw [ratio_eq]
      exact Nat.mul_ne_zero zero (Nat.pos_iff_ne_zero.mp (Nat.two_pow_pos _))
    have bound : x.magnitude ≤ infiniteMagnitude := Nat.le_of_lt (of_decide_eq_true finite)
    simp only [ofRatio, if_neg number, roundingPower_ratio zero, inUnits_ratio]
    rw [Nat.pow_eq, ← shape, Nat.min_eq_left bound]

end Finite
end StoreBridge.Binary64
