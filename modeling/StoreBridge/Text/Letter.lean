/-! Names are compared without regard to the case of ASCII letters. All other characters, letters
beyond ASCII included, stand for themselves. -/
namespace StoreBridge.Text

/-- The text with its ASCII capitals made small. -/
def lower (s : String) : String :=
  String.ofList (s.toList.map Char.toLower)

/-- The text with its small ASCII letters made capital. -/
def upper (s : String) : String :=
  String.ofList (s.toList.map Char.toUpper)

/-- Two texts agree up to the case of ASCII letters. -/
def sameName (a b : String) : Bool :=
  lower a == lower b

theorem sameName_iff (a b : String) : sameName a b = true ↔ lower a = lower b := by
  simp [sameName]

theorem sameName_refl (a : String) : sameName a a = true := by
  simp [sameName]

/-- ASCII letters. -/
def isLetter (c : Char) : Bool :=
  ('a' ≤ c && c ≤ 'z') || ('A' ≤ c && c ≤ 'Z')

/-- Letters in either case, where case is folded over all of Unicode: besides the ASCII letters
these are the long s and the Kelvin sign, which fold to `s` and `k`. -/
def isFoldedLetter (c : Char) : Bool :=
  isLetter c || c == '\u017f' || c == '\u212a'

end StoreBridge.Text
