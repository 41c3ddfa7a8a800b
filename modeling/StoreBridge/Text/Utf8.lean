/-! Reading octets as UTF-8 when they may be ill formed. A well-formed sequence gives its character;
each maximal ill-formed part, the longest piece that begins some well-formed sequence or else a
single octet, gives one replacement character. -/
namespace StoreBridge.Text

/-- The character that stands for an ill-formed part. -/
def replacement : Char := '\ufffd'

/-- The rest of a sequence after its first octet: the bits that octet carries, and the range in
which each further octet has to lie. -/
def sequenceRest (b : Nat) : Option (Nat × List (Nat × Nat)) :=
  if b < 0x80 then some (b, [])
  else if 0xC2 ≤ b ∧ b ≤ 0xDF then some (b % 32, [(0x80, 0xBF)])
  else if b = 0xE0 then some (b % 16, [(0xA0, 0xBF), (0x80, 0xBF)])
  else if b = 0xED then some (b % 16, [(0x80, 0x9F), (0x80, 0xBF)])
  else if 0xE1 ≤ b ∧ b ≤ 0xEF then some (b % 16, [(0x80, 0xBF), (0x80, 0xBF)])
  else if b = 0xF0 then some (b % 8, [(0x90, 0xBF), (0x80, 0xBF), (0x80, 0xBF)])
  else if b = 0xF4 then some (b % 8, [(0x80, 0x8F), (0x80, 0xBF), (0x80, 0xBF)])
  else if 0xF1 ≤ b ∧ b ≤ 0xF3 then some (b % 8, [(0x80, 0xBF), (0x80, 0xBF), (0x80, 0xBF)])
  else none

/-- Takes the further octets while they lie in their ranges. The answer is the code point if none
was missing, and the octets not taken. -/
def takeRest (code : Nat) : List (Nat × Nat) → List UInt8 → Option Nat × List UInt8
  | [], octets => (some code, octets)
  | _ :: _, [] => (none, [])
  | (lo, hi) :: ranges, b :: octets =>
    if lo ≤ b.toNat ∧ b.toNat ≤ hi then takeRest (64 * code + b.toNat % 64) ranges octets
    else (none, b :: octets)

theorem takeRest_length (code : Nat) (ranges : List (Nat × Nat)) (octets : List UInt8) :
    (takeRest code ranges octets).2.length ≤ octets.length := by
  induction ranges generalizing code octets with
  | nil => simp [takeRest]
  | cons range ranges ih =>
    cases octets with
    | nil => simp [takeRest]
    | cons b octets =>
      simp only [takeRest]
      split
      · exact Nat.le_succ_of_le (ih _ octets)
      · simp

/-- The characters of the octets, with a replacement for each ill-formed part. -/
def decodeLossy : List UInt8 → List Char
  | [] => []
  | b :: octets =>
    match sequenceRest b.toNat with
    | none => replacement :: decodeLossy octets
    | some (code, ranges) =>
      have := takeRest_length code ranges octets
      ((takeRest code ranges octets).1.elim replacement Char.ofNat) ::
        decodeLossy (takeRest code ranges octets).2
termination_by octets => octets.length
decreasing_by
  · simp
  · simp only [List.length_cons]; omega

end StoreBridge.Text
