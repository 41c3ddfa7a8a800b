import Mathlib
import StoreBridge.DateTime.Text
import StoreBridge.Guid
import StoreBridge.Proofs.DigitReading

/-! Identifiers and date/times are read from the texts that documents write of them. The hyphens of
an identifier stand where they are looked for, between digits that write its octets. Of a date/time
every field is as wide as it may be, so that reading it stops where it ends; a leap second is
written as second 60, and found again from it. -/
namespace StoreBridge
open Text

namespace Text

theorem hexValue?_lowerHexDigit {n : Nat} (small : n < 16) :
    hexValue? (lowerHexDigit n) = some n := by
  revert n
  decide

/-- A number that fits the width is as long as the width. -/
theorem padded_length {width n : Nat} (room : 0 < width) (small : n < 10 ^ width) :
    (padded width n).length = width := by
  have short : (natural n).length ≤ width := by
    by_cases positive : 0 < n
    · have least := (natural_length_bounds positive).1
      have power : 10 ^ (natural n).length < 10 ^ (width + 1) := by
        rw [Nat.pow_succ]
        omega
      have order := (Nat.pow_lt_pow_iff_right (by decide : 1 < 10)).mp power
      omega
    · have zero : n = 0 := by omega
      rw [zero, natural_small (by decide)]
      exact room
  simp only [padded, List.length_append, List.length_replicate]
  omega

/-- There are no blanks in front of digits. -/
theorem trimLeft_digits {ds rest : List Char} (digits : ∀ c ∈ ds, isDigit c = true)
    (someDigit : ds ≠ []) : trimLeft (ds ++ rest) = ds ++ rest := by
  cases ds with
  | nil => exact absurd rfl someDigit
  | cons c ds =>
    have kept := isBlank_of_isDigit (digits c List.mem_cons_self)
    simp [trimLeft, kept]

end Text

namespace Guid

theorem digits_length (octets : List UInt8) : (digits octets).length = 2 * octets.length := by
  induction octets with
  | nil => rfl
  | cons b rest ih =>
    show (octetDigits lowerHexDigit b ++ digits rest).length = _
    rw [List.length_append, ih, List.length_cons]
    show 2 + 2 * rest.length = _
    omega

theorem readOctets?_digits (octets : List UInt8) :
    readOctets? (digits octets) = some octets := by
  induction octets with
  | nil => rfl
  | cons b rest ih =>
    have high := hexValue?_lowerHexDigit (n := b.toNat / 16) (by have := b.toNat_lt; omega)
    have low := hexValue?_lowerHexDigit (n := b.toNat % 16) (by omega)
    have both : UInt8.ofNat (16 * (b.toNat / 16) + b.toNat % 16) = b := by
      rw [Nat.div_add_mod, UInt8.ofNat_toNat]
    show readOctets? (lowerHexDigit (b.toNat / 16) :: lowerHexDigit (b.toNat % 16) ::
      digits rest) = _
    simp only [readOctets?, high, low, ih, both, Option.pure_def, Option.bind_eq_bind,
      Option.bind_some]

/-- Where a group of digits is found, the hyphen behind it is found, and what follows. -/
theorem drop_group {cs group rest : List Char} (start : Nat) {width : Nat}
    (found : cs.drop start = group ++ '-' :: rest) (wide : group.length = width) :
    (cs.drop start).take width = group ∧ cs[start + width]? = some '-' ∧
      cs.drop (start + width + 1) = rest := by
  have behind : cs.drop (start + width) = '-' :: rest := by
    rw [← List.drop_drop, found, List.drop_left' wide]
  refine ⟨by rw [found, List.take_left' wide], ?_, ?_⟩
  · rw [← List.head?_drop, behind]
    rfl
  · rw [← List.drop_drop, behind]
    rfl

/-- Five groups of digits, without the hyphens between them. -/
theorem withoutHyphens?_groups {a b c d e : List Char} (first : a.length = 8)
    (second : b.length = 4) (third : c.length = 4) (fourth : d.length = 4)
    (last : e.length = 12) :
    withoutHyphens? (a ++ '-' :: (b ++ '-' :: (c ++ '-' :: (d ++ '-' :: e)))) =
      some (a ++ b ++ c ++ d ++ e) := by
  have long : (a ++ '-' :: (b ++ '-' :: (c ++ '-' :: (d ++ '-' :: e)))).length = 36 := by
    simp only [List.length_append, List.length_cons, first, second, third, fourth, last]
  generalize written : a ++ '-' :: (b ++ '-' :: (c ++ '-' :: (d ++ '-' :: e))) = cs at long
  obtain ⟨takeA, hyphenA, fromB⟩ := drop_group 0 written.symm first
  obtain ⟨takeB, hyphenB, fromC⟩ := drop_group _ fromB second
  obtain ⟨takeC, hyphenC, fromD⟩ := drop_group _ fromC third
  obtain ⟨takeD, hyphenD, fromE⟩ := drop_group _ fromD fourth
  simp only [Nat.reduceAdd, List.drop_zero] at *
  have hyphens : [8, 13, 18, 23].all (cs[·]? == some '-') = true := by
    simp only [List.all_cons, hyphenA, hyphenB, hyphenC, hyphenD, List.all_nil]
    rfl
  rw [withoutHyphens?, if_pos ⟨long, hyphens⟩, takeA, takeB, takeC, takeD, fromE]

/-- The digits of an identifier, group by group. -/
theorem digits_groups (octets : List UInt8) (sixteen : octets.length = 16) :
    digits (octets.take 4) ++ digits ((octets.drop 4).take 2) ++ digits ((octets.drop 6).take 2) ++
      digits ((octets.drop 8).take 2) ++ digits ((octets.drop 10).take 6) = digits octets := by
  simp only [digits, ← List.flatMap_append, ← List.take_add]
  rw [List.take_of_length_le (by omega)]

/-- An identifier is read from its text. -/
theorem ofText?_text (g : Guid) : ofText? g.text = some g := by
  obtain ⟨octets, sixteen⟩ := g
  have groups := withoutHyphens?_groups
    (a := digits (octets.take 4)) (b := digits ((octets.drop 4).take 2))
    (c := digits ((octets.drop 6).take 2)) (d := digits ((octets.drop 8).take 2))
    (e := digits ((octets.drop 10).take 6))
    (by simp [digits_length, sixteen]) (by simp [digits_length, sixteen])
    (by simp [digits_length, sixteen]) (by simp [digits_length, sixteen])
    (by simp [digits_length, sixteen])
  rw [digits_groups octets sixteen] at groups
  have written : (text ⟨octets, sixteen⟩).toList = digits (octets.take 4) ++ '-' ::
      (digits ((octets.drop 4).take 2) ++ '-' :: (digits ((octets.drop 6).take 2) ++ '-' ::
        (digits ((octets.drop 8).take 2) ++ '-' :: digits ((octets.drop 10).take 6)))) := by
    simp [text]
  have long : (text ⟨octets, sixteen⟩).toList.length = 36 := by
    rw [written]
    simp [digits_length, sixteen]
  simp only [ofText?, long]
  simp only [ofHyphenated?, written, groups, ofDigits?, readOctets?_digits, sixteen,
    Option.bind_eq_bind, Option.bind_some, dite_true]

end Guid

namespace DateTime

theorem readField?_padded {width n : Nat} (room : 0 < width) (small : n < 10 ^ width)
    (rest : List Char) : readField? width (padded width n ++ rest) = some (n, rest) := by
  have digits := padded_isDigit width n
  have whole : ((padded width n ++ rest).take width).takeWhile isDigit = padded width n := by
    rw [List.take_append_of_le_length (by rw [padded_length room small]),
      List.take_of_length_le (by rw [padded_length room small])]
    exact List.takeWhile_eq_self_iff.mpr digits
  simp [readField?, trimLeft_digits digits (padded_ne_nil width n), whole, padded_ne_nil,
    decimalValue_padded]

theorem readDigits?_padded (width n : Nat) {rest : List Char}
    (outside : ∀ c, rest.head? = some c → isDigit c = false) :
    readDigits? (padded width n ++ rest) = some (n, rest) := by
  have digits := padded_isDigit width n
  simp [readDigits?, takeWhile_front digits outside, dropWhile_front digits outside,
    padded_ne_nil, decimalValue_padded]

theorem readMark?_cons (mark : Char) (solid : isBlank mark = false) (rest : List Char) :
    readMark? mark (mark :: rest) = some rest := by
  simp [readMark?, trimLeft, solid]

/-- Without a sign the year has four digits at most. -/
theorem readYear?_unsigned {c : Char} (cs : List Char) (digit : isDigit c = true) :
    readYear? (c :: cs) = (readField? 4 (c :: cs)).map fun (n, rest) => ((n : Int), rest) := by
  have solid := isBlank_of_isDigit digit
  have front : trimLeft (c :: cs) = c :: cs := by simp [trimLeft, solid]
  unfold readYear?
  rw [front]
  split
  · rename_i first
    cases first
    cases digit
  · rename_i first
    cases first
    cases digit
  · rfl

/-- A year is read up to the hyphen behind it. -/
theorem readYear?_yearText (year : Int) (rest : List Char) :
    readYear? (yearText year ++ '-' :: rest) = some (year, '-' :: rest) := by
  have outside : ∀ c, ('-' :: rest).head? = some c → isDigit c = false := by
    rintro c ⟨⟩
    rfl
  by_cases plain : 0 ≤ year ∧ year ≤ 9999
  · have small : year.toNat < 10 ^ 4 := by omega
    have back : (year.toNat : Int) = year := by omega
    have read := readField?_padded (by decide) small ('-' :: rest)
    rw [yearText, if_pos plain]
    cases digits : padded 4 year.toNat with
    | nil => exact absurd digits (padded_ne_nil _ _)
    | cons c cs =>
      have digit : isDigit c = true := padded_isDigit 4 year.toNat c (by simp [digits])
      rw [digits] at read
      rw [List.cons_append, readYear?_unsigned _ digit, ← List.cons_append, read]
      simp [back]
  · have read := readDigits?_padded 4 year.natAbs outside
    rw [yearText, if_neg plain]
    by_cases negative : year < 0
    · have back : -(year.natAbs : Int) = year := by omega
      rw [if_pos negative]
      show (readDigits? (padded 4 year.natAbs ++ '-' :: rest)).map _ = _
      rw [read]
      exact congrArg (fun n => some (n, '-' :: rest)) back
    · have back : (year.natAbs : Int) = year := by omega
      rw [if_neg negative]
      show (readDigits? (padded 4 year.natAbs ++ '-' :: rest)).map _ = _
      rw [read]
      exact congrArg (fun n => some (n, '-' :: rest)) back

/-- So many digits behind the point count the fraction in units of their last place. -/
theorem readFraction?_padded {width n : Nat} (room : 0 < width) (most : width ≤ 9)
    (small : n < 10 ^ width) :
    readFraction? ('.' :: padded width n) = some (n * 10 ^ (9 - width), []) := by
  have digits := padded_isDigit width n
  have long := padded_length room small
  have whole : (padded width n).takeWhile isDigit = padded width n :=
    List.takeWhile_eq_self_iff.mpr digits
  have nothing : (padded width n).dropWhile isDigit = [] := List.dropWhile_eq_nil_iff.mpr digits
  have short : (padded width n).take 9 = padded width n :=
    List.take_of_length_le (by omega)
  simp [readFraction?, whole, nothing, short, long, padded_ne_nil, decimalValue_padded]

/-- The fraction of a second is read to the end of the text. -/
theorem readFraction?_fractionText {nano : Nat} (small : nano < 1000000000) :
    readFraction? (fractionText nano) = some (nano, []) := by
  unfold fractionText
  split
  · rename_i zero
    rw [zero]
    rfl
  · split
    · have exact3 : nano / 1000000 * 10 ^ (9 - 3) = nano := by omega
      rw [readFraction?_padded (by decide) (by decide) (by omega), exact3]
    · split
      · have exact6 : nano / 1000 * 10 ^ (9 - 6) = nano := by omega
        rw [readFraction?_padded (by decide) (by decide) (by omega), exact6]
      · rw [readFraction?_padded (by decide) (by decide) small, Nat.sub_self, Nat.pow_zero,
          Nat.mul_one]

/-- A date/time is made again of its fields. -/
theorem make?_fields (t : DateTime) :
    make? t.year t.month t.day t.hour t.minute t.second t.nano = some t := by
  simp [make?, t.fits]

/-- The fields as they are shown are those of the date/time: second 60 is a leap second. -/
theorem make?_shown (t : DateTime) :
    (if t.shownSecond = 60 then
      make? t.year t.month t.day t.hour t.minute 59 (1000000000 + t.shownNano)
    else make? t.year t.month t.day t.hour t.minute t.shownSecond t.shownNano) = some t := by
  have fits := t.fits
  have nanos := fits.nano_lt
  have seconds := fits.second_lt
  by_cases leap : 1000000000 ≤ t.nano
  · have last := fits.leap leap
    have shown : t.shownSecond = 60 := by
      unfold shownSecond
      omega
    have nano : 1000000000 + t.shownNano = t.nano := by
      unfold shownNano
      omega
    rw [if_pos shown, nano, ← last, make?_fields]
  · have second : t.shownSecond = t.second := by
      unfold shownSecond
      omega
    have nano : t.shownNano = t.nano := by
      unfold shownNano
      omega
    have ordinary : t.shownSecond ≠ 60 := by omega
    rw [if_neg ordinary, second, nano, make?_fields]

/-- All fields but the year have two digits at most. -/
theorem two_digits (t : DateTime) : t.month < 10 ^ 2 ∧ t.day < 10 ^ 2 ∧ t.hour < 10 ^ 2 ∧
    t.minute < 10 ^ 2 ∧ t.shownSecond < 10 ^ 2 := by
  have fits := t.fits
  have months := fits.month_range
  have days := fits.day_range
  have longest : Calendar.daysInMonth t.year t.month ≤ 31 := by
    unfold Calendar.daysInMonth
    split <;> (try split) <;> omega
  have hours := fits.hour_lt
  have minutes := fits.minute_lt
  have seconds := fits.second_lt
  have nanos := fits.nano_lt
  unfold shownSecond
  omega

/-- A date/time is read from its text in documents. -/
theorem ofText?_documentText (t : DateTime) : ofText? t.documentText = some t := by
  obtain ⟨month, day, hour, minute, second⟩ := t.two_digits
  have nano : t.shownNano < 1000000000 := Nat.mod_lt _ (by decide)
  have hyphen := readMark?_cons '-' (by decide)
  have join := readMark?_cons 'T' (by decide)
  have colon := readMark?_cons ':' (by decide)
  have text : t.documentText.toList = yearText t.year ++ '-' :: (padded 2 t.month ++ '-' ::
      (padded 2 t.day ++ 'T' :: (padded 2 t.hour ++ ':' :: (padded 2 t.minute ++ ':' ::
        (padded 2 t.shownSecond ++ fractionText t.shownNano))))) := by
    simp [documentText, fullText, dateText, clockText]
  have wide : 0 < 2 := by decide
  unfold ofText?
  rw [text]
  refine Option.bind_eq_some_iff.mpr ⟨_, readYear?_yearText t.year _, ?_⟩
  refine Option.bind_eq_some_iff.mpr ⟨_, hyphen _, ?_⟩
  refine Option.bind_eq_some_iff.mpr ⟨_, readField?_padded wide month _, ?_⟩
  refine Option.bind_eq_some_iff.mpr ⟨_, hyphen _, ?_⟩
  refine Option.bind_eq_some_iff.mpr ⟨_, readField?_padded wide day _, ?_⟩
  refine Option.bind_eq_some_iff.mpr ⟨_, join _, ?_⟩
  refine Option.bind_eq_some_iff.mpr ⟨_, readField?_padded wide hour _, ?_⟩
  refine Option.bind_eq_some_iff.mpr ⟨_, colon _, ?_⟩
  refine Option.bind_eq_some_iff.mpr ⟨_, readField?_padded wide minute _, ?_⟩
  refine Option.bind_eq_some_iff.mpr ⟨_, colon _, ?_⟩
  refine Option.bind_eq_some_iff.mpr ⟨_, readField?_padded wide second _, ?_⟩
  refine Option.bind_eq_some_iff.mpr ⟨_, readFraction?_fractionText nano, ?_⟩
  exact make?_shown t

end DateTime
end StoreBridge
