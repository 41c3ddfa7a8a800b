import StoreBridge.Binary64.Shortest
import StoreBridge.Proofs.DigitReading
import StoreBridge.Proofs.Rounding

/-! Floating-point numbers survive their decimal texts. Zeros at the end of a decimal do not change
the number that it is read as; the shortest decimal of a finite number is read as the number, and so
is what a literal writes of it, positionally or with an exponent. -/
namespace StoreBridge
open Text

namespace Decimal

/-- The same decimal with zeros behind its digits. -/
def shift (d : Decimal) (k : Nat) : Decimal :=
  ⟨d.digits * 10 ^ k, d.exponent - k⟩

/-- Zeros behind the digits do not move the leading one. -/
theorem lead_shift {d : Decimal} (nonzero : d.digits ≠ 0) (k : Nat) :
    (d.shift k).lead = d.lead := by
  simp only [lead, shift, natural_mul_pow_ten (Nat.pos_of_ne_zero nonzero), List.length_append,
    List.length_replicate]
  omega

/-- The decimal without the zeros at its end. -/
def stripped (d : Decimal) : Decimal :=
  ⟨decimalValue 0 d.significant, d.lead - d.significant.length + 1⟩

/-- The digits of a number are the significant ones and zeros behind them. -/
theorem natural_digits (d : Decimal) :
    ∃ z, natural d.digits = d.significant ++ List.replicate z '0' := by
  let zeros := (natural d.digits).reverse.takeWhile (· == '0')
  refine ⟨zeros.length, ?_⟩
  have same : zeros = List.replicate zeros.length '0' := by
    refine List.eq_replicate_iff.mpr ⟨rfl, fun c among => ?_⟩
    have zero := List.all_eq_true.mp List.all_takeWhile c among
    exact beq_iff_eq.mp zero
  calc natural d.digits = (natural d.digits).reverse.reverse := List.reverse_reverse _ |>.symm
    _ = (zeros ++ (natural d.digits).reverse.dropWhile (· == '0')).reverse := by
        rw [List.takeWhile_append_dropWhile]
    _ = d.significant ++ zeros.reverse := List.reverse_append
    _ = d.significant ++ List.replicate zeros.length '0' := by
        rw [same, List.reverse_replicate, List.length_replicate]

theorem significant_isDigit (d : Decimal) : ∀ c ∈ d.significant, isDigit c = true := by
  obtain ⟨z, digits⟩ := natural_digits d
  intro c among
  exact natural_isDigit d.digits c (digits ▸ List.mem_append_left _ among)

theorem significant_ne_nil {d : Decimal} (nonzero : d.digits ≠ 0) : d.significant ≠ [] := by
  obtain ⟨z, digits⟩ := natural_digits d
  intro nothing
  apply nonzero
  rw [← decimalValue_natural d.digits, digits, nothing, List.nil_append, decimalValue_zeros,
    Nat.zero_mul]

/-- Only zeros are lost. -/
theorem exists_shift_stripped (d : Decimal) : ∃ z, d = d.stripped.shift z := by
  obtain ⟨z, digits⟩ := natural_digits d
  refine ⟨z, ?_⟩
  have value : d.digits = decimalValue 0 d.significant * 10 ^ z := by
    rw [← decimalValue_natural d.digits, digits, decimalValue_append, decimalValue_zeros]
  have length : (natural d.digits).length = d.significant.length + z := by
    rw [digits, List.length_append, List.length_replicate]
  have exponent : d.exponent = d.lead - d.significant.length + 1 - z := by
    simp only [lead, length]
    omega
  cases d
  simp only [shift, stripped] at value exponent ⊢
  rw [← value, ← exponent]

end Decimal

namespace Binary64
open Decimal

/-- What a decimal is read as, without the case distinction on its exponent. -/
theorem ofDecimal_eq (negative : Bool) (d : Decimal) :
    ofDecimal negative d =
      if d.digits = 0 ∨ d.lead < -330 then ofMagnitude negative 0
      else if 330 < d.lead then ofMagnitude negative infiniteMagnitude
      else ofRatio negative (d.digits * 10 ^ d.exponent.toNat) (10 ^ (-d.exponent).toNat) := by
  unfold ofDecimal
  congr 2
  split
  · have none : (-d.exponent).toNat = 0 := by omega
    simp [none]
  · have none : d.exponent.toNat = 0 := by omega
    simp [none]

private theorem ten_pow_pos (k : Nat) : 0 < 10 ^ k :=
  Nat.pow_pos (by decide)

private theorem ten_pow_ne_zero (k : Nat) : 10 ^ k ≠ 0 :=
  Nat.pos_iff_ne_zero.mp (ten_pow_pos k)

/-- Zeros behind the digits do not change the number that a decimal is read as. -/
theorem ofDecimal_shift (negative : Bool) (d : Decimal) (k : Nat) :
    ofDecimal negative (d.shift k) = ofDecimal negative d := by
  by_cases zero : d.digits = 0
  · simp [ofDecimal, shift, zero]
  · have nonzero : (d.shift k).digits ≠ 0 := Nat.mul_ne_zero zero (ten_pow_ne_zero k)
    have exponents : k + (d.exponent - k).toNat + (-d.exponent).toNat =
        d.exponent.toNat + (-(d.exponent - k)).toNat := by omega
    simp only [ofDecimal_eq, lead_shift zero, zero, nonzero]
    congr 2
    refine ofRatio_congr negative (ten_pow_ne_zero _) (ten_pow_ne_zero _) ?_
    simp only [shift, Nat.mul_assoc, ← Nat.pow_add]
    rw [exponents]

theorem ofDecimal_stripped (negative : Bool) (d : Decimal) :
    ofDecimal negative d.stripped = ofDecimal negative d := by
  obtain ⟨z, same⟩ := exists_shift_stripped d
  calc ofDecimal negative d.stripped = ofDecimal negative (d.stripped.shift z) :=
        (ofDecimal_shift negative d.stripped z).symm
    _ = ofDecimal negative d := by rw [← same]

theorem magnitude_ofMagnitude (negative : Bool) {m : Nat} (fits : m < 2 ^ 63) :
    (ofMagnitude negative m).magnitude = m := by
  cases negative <;> simp [magnitude, ofMagnitude] <;> omega

theorem ofMagnitude_magnitude (x : Binary64) : ofMagnitude x.isNegative x.magnitude = x := by
  obtain ⟨bits⟩ := x
  have fits := bits.toNat_lt
  refine congrArg Binary64.mk (UInt64.toNat_inj.mp ?_)
  rw [UInt64.toNat_ofNat']
  cases negative : (Binary64.mk bits).isNegative with
  | true =>
    have above : Nat.pow 2 63 ≤ bits.toNat := of_decide_eq_true negative
    show (bits.toNat % Nat.pow 2 63 + Nat.pow 2 63) % 2 ^ 64 = bits.toNat
    rw [Nat.pow_eq] at above ⊢
    omega
  | false =>
    have below : ¬ Nat.pow 2 63 ≤ bits.toNat := of_decide_eq_false negative
    show (bits.toNat % Nat.pow 2 63 + 0) % 2 ^ 64 = bits.toNat
    rw [Nat.pow_eq] at below ⊢
    omega

/-- The sign of a decimal and the magnitude it is read as have nothing to do with each other. -/
theorem ofDecimal_eq_ofMagnitude (d : Decimal) :
    ∃ m, m < 2 ^ 63 ∧ ∀ negative, ofDecimal negative d = ofMagnitude negative m := by
  have rational (num den : Nat) :
      ∃ m, m < 2 ^ 63 ∧ ∀ negative, ofRatio negative num den = ofMagnitude negative m := by
    by_cases zero : num = 0
    · exact ⟨0, by decide, fun negative => by rw [ofRatio, if_pos zero]⟩
    · refine ⟨_, ?_, fun negative => by rw [ofRatio, if_neg zero]⟩
      exact Nat.lt_of_le_of_lt (Nat.min_le_right _ _) (by decide)
  simp only [ofDecimal_eq]
  split
  · exact ⟨0, by decide, fun _ => rfl⟩
  · split
    · exact ⟨infiniteMagnitude, by decide, fun _ => rfl⟩
    · exact rational _ _

/-- A decimal that is read as a number without its sign is read as the number with the sign. -/
theorem ofDecimal_of_readsBack {x : Binary64} {d : Decimal} (reads : x.readsBack d = true) :
    ofDecimal x.isNegative d = x := by
  obtain ⟨m, fits, same⟩ := ofDecimal_eq_ofMagnitude d
  have read := beq_iff_eq.mp reads
  have magnitude := congrArg Binary64.magnitude read
  have bound : x.magnitude < 2 ^ 63 := Nat.mod_lt _ (by decide)
  rw [same, abs, magnitude_ofMagnitude _ fits, magnitude_ofMagnitude _ bound] at magnitude
  rw [same, magnitude, ofMagnitude_magnitude]

private theorem exactDecimal_eq (x : Binary64) :
    x.exactDecimal = ⟨x.significand * 2 ^ x.power.toNat * 5 ^ (-x.power).toNat,
      -((-x.power).toNat : Int)⟩ := by
  unfold exactDecimal
  split
  · have none : (-x.power).toNat = 0 := by omega
    simp [none]
  · have none : x.power.toNat = 0 := by omega
    simp [none]
    omega

private theorem ten_pow_eq (k : Nat) : 10 ^ k = 5 ^ k * 2 ^ k :=
  Nat.mul_pow 5 2 k

private theorem greatest_number {p k : Nat} (large : p ≤ 971) (digits : 310 ≤ k) :
    10 * (2 ^ 53 * 2 ^ p) ≤ 10 ^ k :=
  calc 10 * (2 ^ 53 * 2 ^ p) ≤ 10 * (2 ^ 53 * 2 ^ 971) := by gcongr; decide
    _ ≤ 10 ^ 310 := by decide +kernel
    _ ≤ 10 ^ k := by gcongr; decide

private theorem least_number {q k : Nat} (small : q ≤ 1074) (digits : 330 ≤ k) :
    2 ^ q ≤ 10 ^ k :=
  calc 2 ^ q ≤ 2 ^ 1074 := by gcongr; decide
    _ ≤ 10 ^ 330 := by decide +kernel
    _ ≤ 10 ^ k := by gcongr; decide

/-- No finite number is so small or so great that its exponent alone would tell what it is read as.
-/
private theorem lead_exactDecimal {x : Binary64} (finite : x.isFinite = true)
    (nonzero : x.significand ≠ 0) :
    -330 ≤ x.exactDecimal.lead ∧ x.exactDecimal.lead ≤ 330 := by
  have least := le_power x
  have greatest := power_le finite
  have small : (-x.power).toNat ≤ 1074 := by omega
  have large : x.power.toNat ≤ 971 := by omega
  have positive : 0 < x.significand * 2 ^ x.power.toNat * 5 ^ (-x.power).toNat :=
    Nat.mul_pos (Nat.mul_pos (by omega) (Nat.two_pow_pos _)) (Nat.pow_pos (by decide))
  obtain ⟨lower, upper⟩ := natural_length_bounds positive
  rw [exactDecimal_eq]
  unfold lead
  generalize (-x.power).toNat = q at *
  generalize x.power.toNat = p at *
  generalize (natural (x.significand * 2 ^ p * 5 ^ q)).length = length at *
  have short {k : Nat} (digits : 310 ≤ k) : length < k + q := by
    refine (Nat.pow_lt_pow_iff_right (by decide : 1 < 10)).mp ?_
    calc 10 ^ length ≤ 10 * (x.significand * 2 ^ p * 5 ^ q) := lower
      _ < 10 * (2 ^ 53 * 2 ^ p * 5 ^ q) := by
        gcongr
        exact significand_lt x
      _ = 10 * (2 ^ 53 * 2 ^ p) * 5 ^ q := (Nat.mul_assoc ..).symm
      _ ≤ 10 ^ k * 10 ^ q := by
        gcongr
        · exact greatest_number large digits
        · decide
      _ = 10 ^ (k + q) := (Nat.pow_add ..).symm
  have long {k : Nat} (digits : 330 ≤ k) : q < length + k := by
    refine (Nat.pow_lt_pow_iff_right (by decide : 1 < 10)).mp ?_
    calc 10 ^ q = 5 ^ q * 2 ^ q := ten_pow_eq q
      _ ≤ x.significand * 2 ^ p * 5 ^ q * 10 ^ k :=
        Nat.mul_le_mul
          (Nat.le_mul_of_pos_left _ (Nat.mul_pos (by omega) (Nat.two_pow_pos _)))
          (least_number small digits)
      _ < 10 ^ length * 10 ^ k := Nat.mul_lt_mul_of_pos_right upper (ten_pow_pos k)
      _ = 10 ^ (length + k) := (Nat.pow_add ..).symm
  have upperBound := short (Nat.le_refl _)
  have lowerBound := long (Nat.le_refl _)
  dsimp only
  omega

/-- The decimal that equals a finite number is read as the number. -/
theorem ofDecimal_exactDecimal {x : Binary64} (negative : Bool) (finite : x.isFinite = true) :
    ofDecimal negative x.exactDecimal = ofMagnitude negative x.magnitude := by
  rw [← ofRatio_ratio negative finite, ofDecimal_eq]
  by_cases zero : x.significand = 0
  · simp [exactDecimal_eq, ratio_eq, zero, ofRatio]
  · obtain ⟨least, greatest⟩ := lead_exactDecimal finite zero
    have digits : x.exactDecimal.digits ≠ 0 := by
      rw [exactDecimal_eq]
      exact Nat.mul_ne_zero
        (Nat.mul_ne_zero zero (Nat.pos_iff_ne_zero.mp (Nat.two_pow_pos _)))
        (Nat.pos_iff_ne_zero.mp (Nat.pow_pos (by decide)))
    rw [if_neg (by omega), if_neg (by omega)]
    refine ofRatio_congr negative (ten_pow_ne_zero _) ?_ ?_
    · rw [ratio_eq]
      exact Nat.pos_iff_ne_zero.mp (Nat.two_pow_pos _)
    · rw [exactDecimal_eq, ratio_eq]
      dsimp only
      have whole : (-((-x.power).toNat : Int)).toNat = 0 := by omega
      have parts : (- -((-x.power).toNat : Int)).toNat = (-x.power).toNat := by omega
      rw [whole, parts, ten_pow_eq (-x.power).toNat]
      simp only [Nat.pow_zero, Nat.mul_one]
      ac_rfl

/-- The shortest decimal of a finite number is read as the number. -/
theorem readsBack_shortest {x : Binary64} (tie : Tie) (finite : x.isFinite = true) :
    x.readsBack (x.shortest tie) = true := by
  have exactReads : x.readsBack x.exactDecimal = true :=
    beq_iff_eq.mpr (ofDecimal_exactDecimal false finite)
  unfold shortest
  split
  · rename_i zero
    have same : ofDecimal false ⟨0, 0⟩ = ofDecimal false x.exactDecimal := by
      simp [ofDecimal, exactDecimal_eq, zero]
    rw [readsBack, same]
    exact exactReads
  · cases found : (List.range 17).findSome? fun k => x.atPlaces? tie (k + 1) with
    | none => exact exactReads
    | some d =>
      obtain ⟨k, -, chosen⟩ := List.exists_of_findSome?_eq_some found
      exact List.find?_some chosen

theorem ofDecimal_shortest {x : Binary64} (tie : Tie) (finite : x.isFinite = true) :
    ofDecimal x.isNegative (x.shortest tie) = x :=
  ofDecimal_of_readsBack (readsBack_shortest tie finite)

end Binary64

/-- The parts of the text of a number: digits, digits behind a point if there is one, and an
exponent if there is one. -/
structure Numeral where
  whole : List Char
  fraction : Option (List Char)
  exponent : Option Int

namespace Numeral
open Decimal

/-- The text of the parts. -/
def chars (layout : Layout) (n : Numeral) : List Char :=
  n.whole ++ n.fraction.elim [] ('.' :: ·) ++ n.exponent.elim [] layout.exponentPart

/-- The number that the parts write. -/
def decimal (n : Numeral) : Decimal :=
  .ofParts n.whole (n.fraction.getD []) (n.exponent.getD 0)

/-- What it is for a text to be laid out of such parts and to write a decimal, up to zeros behind
its digits. A layout that shows which numbers are no integers shows it by one of the parts. -/
structure Writes (n : Numeral) (layout : Layout) (text : List Char) (d : Decimal) : Prop where
  text : text = n.chars layout
  whole_ne_nil : n.whole ≠ []
  whole_isDigit : ∀ c ∈ n.whole, isDigit c = true
  fraction_ne_nil : n.fraction ≠ some []
  fraction_isDigit : ∀ ds, n.fraction = some ds → ∀ c ∈ ds, isDigit c = true
  real : layout.pointZero = true → n.fraction ≠ none ∨ n.exponent ≠ none
  value : ∃ k, n.decimal = d.shift k

private theorem replicate_isDigit (k : Nat) : ∀ c ∈ List.replicate k '0', isDigit c = true := by
  intro c among
  rw [List.eq_of_mem_replicate among]
  decide

private theorem decimalValue_zeros_append (k : Nat) (ds : List Char) :
    decimalValue 0 (List.replicate k '0' ++ ds) = decimalValue 0 ds := by
  rw [decimalValue_append, decimalValue_zeros, Nat.zero_mul]

section Laid
variable {layout : Layout} {ds : List Char}

/-- Digits that all stand behind the point. -/
private theorem writes_fraction (digits : ∀ c ∈ ds, isDigit c = true) (someDigit : ds ≠ [])
    {e : Int} (below : e < 0) :
    Writes ⟨['0'], some (List.replicate (-e - 1).toNat '0' ++ ds), none⟩ layout
      (layout.positional ds e) ⟨decimalValue 0 ds, e - ds.length + 1⟩ where
  text := by simp [Layout.positional, below, chars]
  whole_ne_nil := List.cons_ne_nil _ _
  whole_isDigit := replicate_isDigit 1
  fraction_ne_nil := by simp [someDigit]
  fraction_isDigit := by
    intro fraction same c among
    cases same
    rcases List.mem_append.mp among with zeros | rest
    · exact replicate_isDigit _ c zeros
    · exact digits c rest
  real := by simp
  value := by
    refine ⟨0, ?_⟩
    simp only [decimal, ofParts, shift, Option.getD_some, Option.getD_none, List.length_append,
      List.length_replicate, Nat.pow_zero, Nat.mul_one, Decimal.mk.injEq]
    constructor
    · show decimalValue 0 (List.replicate 1 '0' ++ _) = _
      rw [decimalValue_zeros_append, decimalValue_zeros_append]
    · omega

/-- Digits that all stand in front of the point, and zeros up to it. -/
private theorem writes_whole (digits : ∀ c ∈ ds, isDigit c = true) (someDigit : ds ≠ [])
    {e : Int} (above : 0 ≤ e) (whole : ds.length ≤ e.toNat + 1) :
    Writes ⟨ds ++ List.replicate (e.toNat + 1 - ds.length) '0',
        if layout.pointZero then some ['0'] else none, none⟩ layout
      (layout.positional ds e) ⟨decimalValue 0 ds, e - ds.length + 1⟩ where
  text := by
    have rest : ds.drop (e.toNat + 1) = [] := List.drop_eq_nil_of_le whole
    have front : ds.take (e.toNat + 1) = ds := List.take_of_length_le whole
    cases point : layout.pointZero <;>
      simp [Layout.positional, Int.not_lt.mpr above, chars, rest, front, point]
  whole_ne_nil := by simp [someDigit]
  whole_isDigit := by
    intro c among
    rcases List.mem_append.mp among with front | zeros
    · exact digits c front
    · exact replicate_isDigit _ c zeros
  fraction_ne_nil := by cases layout.pointZero <;> simp
  fraction_isDigit := by
    intro fraction same
    cases point : layout.pointZero with
    | true =>
      rw [point] at same
      cases same
      exact replicate_isDigit 1
    | false =>
      rw [point] at same
      cases same
  real := by
    intro point
    simp [point]
  value := by
    have length : 0 < ds.length := List.length_pos_iff.mpr someDigit
    cases layout.pointZero with
    | true =>
      refine ⟨e.toNat + 1 - ds.length + 1, ?_⟩
      simp only [decimal, ofParts, shift, if_true, Option.getD_some, Option.getD_none,
        List.length_singleton, decimalValue_append, decimalValue_zeros, Nat.pow_succ,
        Decimal.mk.injEq]
      constructor
      · show 10 * _ + 0 = _
        rw [Nat.add_zero, Nat.mul_comm 10, Nat.mul_assoc]
      · omega
    | false =>
      refine ⟨e.toNat + 1 - ds.length, ?_⟩
      simp only [decimal, ofParts, shift, Bool.false_eq_true, if_false, Option.getD_none,
        List.append_nil, List.length_nil, decimalValue_append, decimalValue_zeros,
        Decimal.mk.injEq, true_and]
      omega

/-- Digits on both sides of the point. -/
private theorem writes_both (digits : ∀ c ∈ ds, isDigit c = true) {e : Int} (above : 0 ≤ e)
    (both : e.toNat + 1 < ds.length) :
    Writes ⟨ds.take (e.toNat + 1), some (ds.drop (e.toNat + 1)), none⟩ layout
      (layout.positional ds e) ⟨decimalValue 0 ds, e - ds.length + 1⟩ where
  text := by
    have none : e.toNat + 1 - ds.length = 0 := by omega
    have rest : ¬ ds.length ≤ e.toNat + 1 := by omega
    simp [Layout.positional, Int.not_lt.mpr above, chars, none, rest]
  whole_ne_nil := List.ne_nil_of_length_pos (by rw [List.length_take]; omega)
  whole_isDigit := fun c among => digits c (List.mem_of_mem_take among)
  fraction_ne_nil := by simp [both]
  fraction_isDigit := by
    intro fraction same c among
    cases same
    exact digits c (List.mem_of_mem_drop among)
  real := by simp
  value := by
    refine ⟨0, ?_⟩
    simp only [decimal, ofParts, shift, Option.getD_some, Option.getD_none,
      List.take_append_drop, List.length_drop, Nat.pow_zero, Nat.mul_one, Decimal.mk.injEq,
      true_and]
    omega

/-- One digit in front of the point, and an exponent. -/
private theorem exists_writes_scientific (digits : ∀ c ∈ ds, isDigit c = true)
    (someDigit : ds ≠ []) (e : Int) :
    ∃ n, Writes n layout (layout.scientific ds e) ⟨decimalValue 0 ds, e - ds.length + 1⟩ := by
  cases ds with
  | nil => exact absurd rfl someDigit
  | cons d ds =>
    cases ds with
    | nil =>
      refine ⟨⟨[d], if layout.leadZero then some ['0'] else none, some e⟩, ?_⟩
      exact {
        text := by cases lead : layout.leadZero <;> simp [Layout.scientific, chars, lead]
        whole_ne_nil := List.cons_ne_nil _ _
        whole_isDigit := digits
        fraction_ne_nil := by cases layout.leadZero <;> simp
        fraction_isDigit := by
          intro fraction same
          cases lead : layout.leadZero with
          | true =>
            rw [lead] at same
            cases same
            exact replicate_isDigit 1
          | false =>
            rw [lead] at same
            cases same
        real := by simp
        value := by
          cases layout.leadZero with
          | true =>
            refine ⟨1, ?_⟩
            simp only [decimal, ofParts, shift, if_true, Option.getD_some, decimalValue_append,
              List.length_singleton, Nat.pow_one, Decimal.mk.injEq]
            constructor
            · exact Nat.mul_comm 10 _
            · omega
          | false =>
            refine ⟨0, ?_⟩
            simp [decimal, ofParts, shift] }
    | cons d' rest =>
      refine ⟨⟨[d], some (d' :: rest), some e⟩, ?_⟩
      exact {
        text := by simp [Layout.scientific, chars]
        whole_ne_nil := List.cons_ne_nil _ _
        whole_isDigit := by simpa using digits d (List.mem_cons_self ..)
        fraction_ne_nil := by simp
        fraction_isDigit := by
          intro fraction same c among
          cases same
          exact digits c (List.mem_cons_of_mem _ among)
        real := by simp
        value := by
          refine ⟨0, ?_⟩
          simp only [decimal, ofParts, shift, Option.getD_some, List.singleton_append,
            List.length_cons, Nat.pow_zero, Nat.mul_one, Decimal.mk.injEq, true_and]
          omega }

/-- Digits in either form, with the exponent of the leading one. -/
private theorem exists_writes_positional (digits : ∀ c ∈ ds, isDigit c = true)
    (someDigit : ds ≠ []) (e : Int) :
    ∃ n, Writes n layout (layout.positional ds e) ⟨decimalValue 0 ds, e - ds.length + 1⟩ := by
  rcases Int.lt_or_le e 0 with below | above
  · exact ⟨_, writes_fraction digits someDigit below⟩
  · rcases Nat.lt_or_ge (e.toNat + 1) ds.length with both | whole
    · exact ⟨_, writes_both digits above both⟩
    · exact ⟨_, writes_whole digits someDigit above whole⟩

end Laid

/-- In every layout the text of a decimal other than zero writes the decimal. -/
theorem exists_writes (layout : Layout) {d : Decimal} (nonzero : d.digits ≠ 0) :
    ∃ n, Writes n layout (d.write layout) d.stripped := by
  have digits := significant_isDigit d
  have someDigit := significant_ne_nil nonzero
  unfold write stripped
  rw [if_neg nonzero]
  split
  · exact exists_writes_positional digits someDigit d.lead
  · exact exists_writes_scientific digits someDigit d.lead

/-- The text of zero writes a zero. -/
theorem exists_writes_zero (layout : Layout) {d : Decimal} (zero : d.digits = 0) :
    ∃ n, Writes n layout (d.write layout) ⟨0, 0⟩ := by
  unfold write
  rw [if_pos zero]
  exact exists_writes_positional (replicate_isDigit 1) (List.cons_ne_nil _ _) 0

end Numeral

namespace Binary64

/-- The text of a decimal in any layout has parts that are read as the decimal is. -/
theorem exists_numeral (layout : Decimal.Layout) (d : Decimal) :
    ∃ n e, Numeral.Writes n layout (d.write layout) e ∧
      ∀ negative, ofDecimal negative n.decimal = ofDecimal negative d := by
  by_cases zero : d.digits = 0
  · obtain ⟨n, written⟩ := Numeral.exists_writes_zero layout zero
    obtain ⟨k, value⟩ := written.value
    refine ⟨n, _, written, fun negative => ?_⟩
    rw [value, ofDecimal_shift]
    simp [ofDecimal, zero]
  · obtain ⟨n, written⟩ := Numeral.exists_writes layout zero
    obtain ⟨k, value⟩ := written.value
    refine ⟨n, _, written, fun negative => ?_⟩
    rw [value, ofDecimal_shift, ofDecimal_stripped]

/-- The literal of a finite number is a sign, if it is negative, and parts that with this sign are
read as the number. -/
theorem exists_literalText {x : Binary64} (finite : x.isFinite = true) :
    ∃ n d, Numeral.Writes n literalLayout ((x.shortest .up).write literalLayout) d ∧
      x.literalText.toList = (if x.isNegative then ['-'] else []) ++ n.chars literalLayout ∧
      ofDecimal x.isNegative n.decimal = x := by
  have number : x.isNaN = false := by
    have below : x.magnitude < infiniteMagnitude := of_decide_eq_true finite
    exact decide_eq_false (by omega)
  obtain ⟨n, d, written, same⟩ := exists_numeral literalLayout (x.shortest .up)
  refine ⟨n, d, written, ?_, ?_⟩
  · simp [literalText, signed, number, finite, ← written.text]
  · rw [same, ofDecimal_shortest .up finite]

end Binary64
end StoreBridge
