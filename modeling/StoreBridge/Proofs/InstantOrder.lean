import Mathlib
import StoreBridge.Value
import StoreBridge.Store.Collation
import StoreBridge.Text.Split
import StoreBridge.Proofs.DateCounting
import StoreBridge.Proofs.InstantReading

/-! Texts of date/times sort as the date/times do. A number with zeros in front up to a fixed width
comes before another of that width exactly if it is less, and texts that are put together of fields
are compared field by field where the fields have the same lengths. From year 0 to year 9999 all
fields of a date/time do, so that the octets of the texts in the store are in the order of the
calendar and the clock, down to the second: what is dropped is the fraction, and second 60 comes
between second 59 and the next minute. -/
namespace StoreBridge
open Text

namespace Text

/-! ### Numbers of a fixed width -/

/-- Texts of parts are compared by their first parts if these are equally long, and then by what
follows. -/
theorem append_lt_append_iff {α : Type} [LinearOrder α] {a b : List α} (c d : List α)
    (wide : a.length = b.length) : a ++ c < b ++ d ↔ a < b ∨ a = b ∧ c < d := by
  induction a generalizing b with
  | nil =>
    have empty : b = [] := List.length_eq_zero_iff.mp wide.symm
    simp [empty]
  | cons x a ih =>
    obtain ⟨y, b, rfl⟩ := List.exists_cons_of_length_eq_add_one wide.symm
    rw [List.cons_append, List.cons_append, List.cons_lt_cons_iff, List.cons_lt_cons_iff,
      ih (Nat.succ.inj wide), List.cons.injEq]
    tauto

theorem digitChar_lt_iff {m n : Nat} (smallM : m < 10) (smallN : n < 10) :
    digitChar m < digitChar n ↔ m < n := by
  have table : ∀ m < 10, ∀ n < 10, digitChar m < digitChar n ↔ m < n := by decide
  exact table m smallM n smallN

theorem padded_inj {width m n : Nat} : padded width m = padded width n ↔ m = n := by
  constructor
  · intro same
    rw [← decimalValue_padded width m, same, decimalValue_padded]
  · exact congrArg (padded width)

/-- The last digit stands behind the number without it, with the zeros in front. -/
theorem padded_succ {width : Nat} (room : 0 < width) (n : Nat) :
    padded (width + 1) n = padded width (n / 10) ++ [digitChar (n % 10)] := by
  by_cases small : n < 10
  · have none : n / 10 = 0 := Nat.div_eq_of_lt small
    have zero : digitChar 0 = '0' := rfl
    have zeros : List.replicate width '0' = List.replicate (width - 1) '0' ++ ['0'] := by
      rw [← List.replicate_succ', Nat.sub_add_cancel room]
    simp [padded, natural_small, small, none, Nat.mod_eq_of_lt, zero, zeros]
  · have digits : natural n = natural (n / 10) ++ [digitChar (n % 10)] := by
      rw [natural, if_neg small]
    simp [padded, digits]

/-- Numbers of one width are in the order of their digits. -/
theorem padded_lt_iff {width m n : Nat} (room : 0 < width) (fitsM : m < 10 ^ width)
    (fitsN : n < 10 ^ width) : padded width m < padded width n ↔ m < n := by
  induction width, room using Nat.le_induction generalizing m n with
  | base =>
    have one : ∀ k < 10, padded 1 k = [digitChar k] := by
      intro k small
      simp [padded, natural_small small]
    rw [one m fitsM, one n fitsN, List.cons_lt_cons_iff, digitChar_lt_iff fitsM fitsN]
    simp
  | succ width room ih =>
    have frontM : m / 10 < 10 ^ width := Nat.div_lt_of_lt_mul (by rwa [← Nat.pow_succ'])
    have frontN : n / 10 < 10 ^ width := Nat.div_lt_of_lt_mul (by rwa [← Nat.pow_succ'])
    have wide : (padded width (m / 10)).length = (padded width (n / 10)).length := by
      rw [padded_length room frontM, padded_length room frontN]
    have last := digitChar_lt_iff (Nat.mod_lt m (by decide)) (Nat.mod_lt n (by decide))
    rw [padded_succ room, padded_succ room, append_lt_append_iff _ _ wide, ih frontM frontN,
      padded_inj, List.cons_lt_cons_iff, last]
    simp only [List.not_lt_nil, and_false, or_false]
    omega

/-- Texts that begin with a field of one width are compared by the fields, and then by what
follows behind the mark. -/
theorem field_lt_iff {width m n : Nat} (room : 0 < width) (fitsM : m < 10 ^ width)
    (fitsN : n < 10 ^ width) (mark : Char) (c d : List Char) :
    padded width m ++ mark :: c < padded width n ++ mark :: d ↔ m < n ∨ m = n ∧ c < d := by
  have wide : (padded width m).length = (padded width n).length := by
    rw [padded_length room fitsM, padded_length room fitsN]
  rw [append_lt_append_iff _ _ wide, padded_lt_iff room fitsM fitsN, padded_inj,
    List.cons_lt_cons_iff]
  simp

/-! ### Octets -/

/-- The octets of a text in UTF-8. -/
def octets (s : String) : List UInt8 :=
  s.toUTF8.data.toList

/-- A character that is written as the one octet of its code point. -/
def IsAscii (c : Char) : Prop :=
  c.val ≤ 127

instance (c : Char) : Decidable (IsAscii c) :=
  inferInstanceAs (Decidable (c.val ≤ 127))

theorem isAscii_of_isDigit {c : Char} (digit : isDigit c = true) : IsAscii c := by
  apply of_decide_eq_true
  exact forall_isDigit (p := fun c => decide (IsAscii c)) (by decide) digit

theorem octets_ofList {cs : List Char} (ascii : ∀ c ∈ cs, IsAscii c) :
    octets (String.ofList cs) = cs.map fun c => c.val.toUInt8 := by
  have encoded : octets (String.ofList cs) = cs.flatMap String.utf8EncodeChar := by
    simp [octets, List.utf8Encode]
  rw [encoded, List.map_eq_flatMap]
  apply List.flatMap_congr
  intro c among
  exact String.utf8EncodeChar_eq_singleton (Char.utf8Size_eq_one_iff.mpr (ascii c among))

theorem octet_lt_octet_iff {c d : Char} (asciiC : IsAscii c) (asciiD : IsAscii d) :
    c.val.toUInt8 < d.val.toUInt8 ↔ c < d := by
  simp only [IsAscii, UInt32.le_iff_toNat_le, UInt32.reduceToNat] at asciiC asciiD
  simp only [Char.lt_def, UInt8.lt_iff_toNat_lt, UInt32.lt_iff_toNat_lt, UInt32.toNat_toUInt8]
  omega

theorem octet_inj {c d : Char} (asciiC : IsAscii c) (asciiD : IsAscii d) :
    c.val.toUInt8 = d.val.toUInt8 ↔ c = d := by
  constructor
  · intro same
    rcases lt_trichotomy c d with before | equal | after
    · exact absurd same (UInt8.ne_of_lt ((octet_lt_octet_iff asciiC asciiD).mpr before))
    · exact equal
    · exact absurd same.symm (UInt8.ne_of_lt ((octet_lt_octet_iff asciiD asciiC).mpr after))
  · rintro rfl
    rfl

/-- The octets of texts in ASCII are in the order of the characters. -/
theorem octets_lt_octets_iff {cs ds : List Char} (asciiC : ∀ c ∈ cs, IsAscii c)
    (asciiD : ∀ d ∈ ds, IsAscii d) :
    octets (String.ofList cs) < octets (String.ofList ds) ↔ cs < ds := by
  rw [octets_ofList asciiC, octets_ofList asciiD]
  induction cs generalizing ds with
  | nil => cases ds <;> simp
  | cons c cs ih =>
    cases ds with
    | nil => simp
    | cons d ds =>
      obtain ⟨firstC, restC⟩ := List.forall_mem_cons.mp asciiC
      obtain ⟨firstD, restD⟩ := List.forall_mem_cons.mp asciiD
      rw [List.map_cons, List.map_cons, List.cons_lt_cons_iff, List.cons_lt_cons_iff,
        octet_lt_octet_iff firstC firstD, octet_inj firstC firstD, ih restC restD]

end Text

namespace DateTime

/-! ### Whole seconds -/

/-- The date/time without the fraction of its second. A leap second stays one. -/
def wholeSecond (t : DateTime) : DateTime where
  year := t.year
  month := t.month
  day := t.day
  hour := t.hour
  minute := t.minute
  second := t.second
  nano := t.nano / 1000000000 * 1000000000
  fits := {
    t.fits with
    nano_lt := by
      have nano := t.fits.nano_lt
      omega
    leap := by
      intro late
      exact t.fits.leap (by omega) }

/-- What a calendar and a clock show to the second: a leap second is second 60 of its minute. -/
def shown (t : DateTime) : Calendar.Date ×ₗ Nat ×ₗ Nat ×ₗ Nat :=
  toLex (t.date, toLex (t.hour, toLex (t.minute, t.shownSecond)))

section WholeSecond
variable (a b t : DateTime)

theorem shownSecond_wholeSecond : t.wholeSecond.shownSecond = t.shownSecond := by
  show t.second + t.nano / 1000000000 * 1000000000 / 1000000000 = t.second + t.nano / 1000000000
  rw [Nat.mul_div_cancel _ (by decide)]

theorem shownNano_wholeSecond : t.wholeSecond.shownNano = 0 :=
  Nat.mul_mod_left _ _

/-- The text in the store tells the whole second only. -/
theorem storeText_wholeSecond : t.wholeSecond.storeText = t.storeText := by
  unfold storeText clockText
  rw [shownSecond_wholeSecond]
  rfl

/-- Of the date/times without a fraction, the whole second is the last that is not later. -/
theorem le_wholeSecond_iff {u : DateTime} (whole : u.shownNano = 0) :
    u ≤ t.wholeSecond ↔ u ≤ t := by
  have nanos : t.nano / 1000000000 * 1000000000 < u.nano ↔ t.nano < u.nano := by
    unfold shownNano at whole
    omega
  have after : t.wholeSecond < u ↔ t < u := by
    rw [lt_iff, lt_iff, ← nanos]
    rfl
  rw [← not_lt, after, not_lt]

/-- Whole seconds are in the order of what is shown. -/
theorem wholeSecond_lt_iff : a.wholeSecond < b.wholeSecond ↔ a.shown < b.shown := by
  have secondA := a.fits.second_lt
  have secondB := b.fits.second_lt
  have leapA := a.fits.leap
  have leapB := b.fits.leap
  have seconds : (a.second < b.second ∨ a.second = b.second ∧
      a.nano / 1000000000 * 1000000000 < b.nano / 1000000000 * 1000000000) ↔
        a.shownSecond < b.shownSecond := by
    unfold shownSecond
    omega
  simp only [shown, Prod.Lex.toLex_lt_toLex, ← seconds]
  exact lt_iff

end WholeSecond

/-! ### The order of the texts -/

/-- The date/time that a text of the store writes: it is read like that of a document, with a `T`
for the blank. -/
def ofStoreText? (s : String) : Option DateTime :=
  match splitOnce ' ' s.toList with
  | none => none
  | some (date, clock) => ofText? (String.ofList (date ++ 'T' :: clock))

/-- The text is sent to the store for the date/time. It has nineteen characters, each an octet, and
the date/time is read from it but for the fraction. -/
structure SentAs (t : DateTime) (s : String) : Prop where
  datum : (Value.dateTime t).datum .iso8601 = .ok (.text s)
  length : s.length = 19
  octets_length : (octets s).length = 19
  returns : ofStoreText? s = some t.wholeSecond

section Text
variable {a b t : DateTime}

theorem blank_not_mem_padded (width n : Nat) : ' ' ∉ padded width n := by
  intro among
  have digit := padded_isDigit width n ' ' among
  cases digit

/-- No blank stands in the text of a date. -/
theorem blank_not_mem_dateText (t : DateTime) : ' ' ∉ t.dateText := by
  have year : ' ' ∉ yearText t.year := by
    unfold yearText
    split
    · exact blank_not_mem_padded _ _
    · split <;> simp [blank_not_mem_padded]
  simp [dateText, year, blank_not_mem_padded]

theorem ofStoreText?_storeText (t : DateTime) :
    ofStoreText? t.storeText = some t.wholeSecond := by
  have text : String.ofList (t.wholeSecond.dateText ++ 'T' :: t.wholeSecond.clockText) =
      t.wholeSecond.documentText := by
    simp [documentText, fullText, fractionText, shownNano_wholeSecond]
  rw [← storeText_wholeSecond, storeText, ofStoreText?, String.toList_ofList,
    splitOnce_front (blank_not_mem_dateText _)]
  exact (congrArg ofText? text).trans (ofText?_documentText _)

/-- The fields that are shown, each of a fixed width, and the marks between them. -/
def fields (t : DateTime) : List Char :=
  padded 4 t.year.toNat ++ '-' :: (padded 2 t.month ++ '-' :: (padded 2 t.day ++ ' ' ::
    (padded 2 t.hour ++ ':' :: (padded 2 t.minute ++ ':' :: padded 2 t.shownSecond))))

/-- A year of four digits is written without a sign. -/
theorem storeText_eq (plain : 0 ≤ t.year ∧ t.year ≤ 9999) :
    t.storeText = String.ofList t.fields := by
  simp [storeText, dateText, clockText, yearText, plain, fields]

theorem fields_length (plain : 0 ≤ t.year ∧ t.year ≤ 9999) : t.fields.length = 19 := by
  have year : t.year.toNat < 10 ^ 4 := by omega
  obtain ⟨month, day, hour, minute, second⟩ := t.two_digits
  simp only [fields, List.length_append, List.length_cons, padded_length (by decide : 0 < 4) year,
    padded_length (by decide : 0 < 2) month, padded_length (by decide : 0 < 2) day,
    padded_length (by decide : 0 < 2) hour, padded_length (by decide : 0 < 2) minute,
    padded_length (by decide : 0 < 2) second]

theorem isAscii_padded (width n : Nat) : ∀ c ∈ padded width n, IsAscii c := by
  intro c among
  exact isAscii_of_isDigit (padded_isDigit width n c among)

theorem isAscii_field (width n : Nat) {mark : Char} (markAscii : IsAscii mark) {cs : List Char}
    (ascii : ∀ c ∈ cs, IsAscii c) : ∀ c ∈ padded width n ++ mark :: cs, IsAscii c := by
  rw [List.forall_mem_append, List.forall_mem_cons]
  exact ⟨isAscii_padded width n, markAscii, ascii⟩

/-- All characters are digits and marks. -/
theorem isAscii_fields (t : DateTime) : ∀ c ∈ t.fields, IsAscii c := by
  apply isAscii_field 4 _ (by decide)
  apply isAscii_field 2 _ (by decide)
  apply isAscii_field 2 _ (by decide)
  apply isAscii_field 2 _ (by decide)
  apply isAscii_field 2 _ (by decide)
  exact isAscii_padded 2 _

/-- Dates are compared first, field by field. -/
theorem date_lt_or_iff {later : Prop} : a.date < b.date ∨ a.date = b.date ∧ later ↔
    a.year < b.year ∨ a.year = b.year ∧ (a.month < b.month ∨ a.month = b.month ∧
      (a.day < b.day ∨ a.day = b.day ∧ later)) := by
  have same : a.date = b.date ↔ a.year = b.year ∧ a.month = b.month ∧ a.day = b.day := by
    simp [date]
  rw [Calendar.Date.lt_iff, same]
  simp only [date]
  tauto

/-- The fields are in the order of what is shown. -/
theorem fields_lt_iff (plainA : 0 ≤ a.year ∧ a.year ≤ 9999) (plainB : 0 ≤ b.year ∧ b.year ≤ 9999) :
    a.fields < b.fields ↔ a.shown < b.shown := by
  have yearA : a.year.toNat < 10 ^ 4 := by omega
  have yearB : b.year.toNat < 10 ^ 4 := by omega
  have yearLess : a.year.toNat < b.year.toNat ↔ a.year < b.year := by omega
  have yearSame : a.year.toNat = b.year.toNat ↔ a.year = b.year := by omega
  obtain ⟨monthA, dayA, hourA, minuteA, secondA⟩ := a.two_digits
  obtain ⟨monthB, dayB, hourB, minuteB, secondB⟩ := b.two_digits
  have two : 0 < 2 := by decide
  unfold fields
  rw [field_lt_iff (by decide) yearA yearB, field_lt_iff two monthA monthB,
    field_lt_iff two dayA dayB, field_lt_iff two hourA hourB, field_lt_iff two minuteA minuteB,
    padded_lt_iff two secondA secondB, yearLess, yearSame, ← date_lt_or_iff]
  simp only [shown, Prod.Lex.toLex_lt_toLex]

theorem sentAs_storeText (plain : 0 ≤ t.year ∧ t.year ≤ 9999) : t.SentAs t.storeText where
  datum := rfl
  length := by rw [storeText_eq plain, String.length_ofList, fields_length plain]
  octets_length := by
    rw [storeText_eq plain, octets_ofList t.isAscii_fields, List.length_map, fields_length plain]
  returns := ofStoreText?_storeText t

/-- Texts are in the order of what they show. -/
theorem octets_storeText_lt_iff (plainA : 0 ≤ a.year ∧ a.year ≤ 9999)
    (plainB : 0 ≤ b.year ∧ b.year ≤ 9999) :
    octets a.storeText < octets b.storeText ↔ a.shown < b.shown := by
  rw [storeText_eq plainA, storeText_eq plainB,
    octets_lt_octets_iff a.isAscii_fields b.isAscii_fields, fields_lt_iff plainA plainB]

/-- The store puts the texts in the same order, if it compares them octet by octet. -/
theorem compare_storeText_eq_lt_iff (plainA : 0 ≤ a.year ∧ a.year ≤ 9999)
    (plainB : 0 ≤ b.year ∧ b.year ≤ 9999) :
    Store.Collation.binary.compare a.storeText b.storeText = .lt ↔ a.shown < b.shown := by
  rw [storeText_eq plainA, storeText_eq plainB, ← fields_lt_iff plainA plainB]
  simp only [Store.Collation.compare, String.toList_ofList]
  exact compareOfLessAndEq_eq_lt

/-- Texts are equal if they show the same. -/
theorem storeText_eq_iff (a b : DateTime) :
    a.storeText = b.storeText ↔ a.wholeSecond = b.wholeSecond := by
  constructor
  · intro same
    have read := ofStoreText?_storeText a
    rw [same, ofStoreText?_storeText b] at read
    exact (Option.some.inj read).symm
  · intro same
    rw [← storeText_wholeSecond a, same, storeText_wholeSecond]

/-- From year 0 to year 9999 date/times are sent to the store as texts of nineteen octets that are
in the order of the whole seconds, a leap second as second 60 of its minute, and are equal if the
whole seconds are; the store has them in this order as well. The whole second is read from the text;
it is the last without a fraction that is not later than the date/time. -/
theorem datum_iso8601_chronological (plainA : 0 ≤ a.year ∧ a.year ≤ 9999)
    (plainB : 0 ≤ b.year ∧ b.year ≤ 9999) :
    ∃ s t, a.SentAs s ∧ b.SentAs t ∧
      (octets s < octets t ↔ a.wholeSecond < b.wholeSecond) ∧
      (Store.Collation.binary.compare s t = .lt ↔ a.wholeSecond < b.wholeSecond) ∧
      (s = t ↔ a.wholeSecond = b.wholeSecond) ∧
      (a.wholeSecond < b.wholeSecond ↔ a.shown < b.shown) ∧
      a.wholeSecond.shownNano = 0 ∧ ∀ u, u.shownNano = 0 → (u ≤ a.wholeSecond ↔ u ≤ a) := by
  have seconds := wholeSecond_lt_iff a b
  refine ⟨a.storeText, b.storeText, sentAs_storeText plainA, sentAs_storeText plainB, ?_, ?_,
    storeText_eq_iff a b, seconds, a.shownNano_wholeSecond, ?_⟩
  · rw [octets_storeText_lt_iff plainA plainB, seconds]
  · rw [compare_storeText_eq_lt_iff plainA plainB, seconds]
  · intro u whole
    exact le_wholeSecond_iff a whole

end Text

/-- A leap second is written as second 60, which comes after second 59 and before midnight. -/
theorem datum_iso8601_chronological_leap :
    let leap : DateTime := ⟨2016, 12, 31, 23, 59, 59, 1500000000, by decide⟩
    let midnight : DateTime := ⟨2017, 1, 1, 0, 0, 0, 0, by decide⟩
    (0 ≤ leap.year ∧ leap.year ≤ 9999) ∧ (0 ≤ midnight.year ∧ midnight.year ≤ 9999) ∧
      ∃ s t, leap.SentAs s ∧ midnight.SentAs t ∧ octets s < octets t ∧ s ≠ t := by
  intro leap midnight
  have plainL : 0 ≤ leap.year ∧ leap.year ≤ 9999 := by decide
  have plainM : 0 ≤ midnight.year ∧ midnight.year ≤ 9999 := by decide
  obtain ⟨s, t, sentL, sentM, less, -, same, -⟩ := datum_iso8601_chronological plainL plainM
  have before : leap.wholeSecond < midnight.wholeSecond := by decide
  exact ⟨plainL, plainM, s, t, sentL, sentM, less.mpr before, mt same.mp (ne_of_lt before)⟩

/-- The sign of a later year comes before all digits. -/
example :
    let late : DateTime := ⟨10000, 1, 1, 0, 0, 0, 0, by decide⟩
    let early : DateTime := ⟨1, 1, 1, 0, 0, 0, 0, by decide⟩
    early < late ∧ octets late.storeText < octets early.storeText := by
  decide +kernel

end DateTime
end StoreBridge
