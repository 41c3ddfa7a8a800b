/-! Decimal digits and the numbers they write. Reading and writing numbers uses the ASCII digits
only; the wider class of decimal digits of all scripts decides where a digit string ends. -/
namespace StoreBridge.Text

/-- ASCII digits. -/
def isDigit (c : Char) : Bool :=
  '0' ≤ c && c ≤ '9'

/-- The code points of the digits zero. The decimal digits of a script, Unicode category Nd, are
the ten code points from its zero on. -/
def scriptZeros : List Nat :=
  [0x30, 0x660, 0x6F0, 0x7C0, 0x966, 0x9E6, 0xA66, 0xAE6, 0xB66, 0xBE6, 0xC66, 0xCE6, 0xD66, 0xDE6,
    0xE50, 0xED0, 0xF20, 0x1040, 0x1090, 0x17E0, 0x1810, 0x1946, 0x19D0, 0x1A80, 0x1A90, 0x1B50,
    0x1BB0, 0x1C40, 0x1C50, 0xA620, 0xA8D0, 0xA900, 0xA9D0, 0xA9F0, 0xAA50, 0xABF0, 0xFF10, 0x104A0,
    0x10D30, 0x10D40, 0x11066, 0x110F0, 0x11136, 0x111D0, 0x112F0, 0x11450, 0x114D0, 0x11650,
    0x116C0, 0x116D0, 0x116DA, 0x11730, 0x118E0, 0x11950, 0x11BF0, 0x11C50, 0x11D50, 0x11DA0,
    0x11F50, 0x16130, 0x16A60, 0x16AC0, 0x16B50, 0x16D70, 0x1CCF0, 0x1D7CE, 0x1D7D8, 0x1D7E2,
    0x1D7EC, 0x1D7F6, 0x1E140, 0x1E2F0, 0x1E4F0, 0x1E5F1, 0x1E950, 0x1FBF0]

/-- A decimal digit of any script. -/
def isScriptDigit (c : Char) : Bool :=
  scriptZeros.any fun z => decide (z ≤ c.toNat) && decide (c.toNat < z + 10)

/-- The number that an ASCII digit stands for. -/
def digitValue (c : Char) : Nat :=
  c.toNat - '0'.toNat

/-- The ASCII digit for a number below ten. -/
def digitChar (n : Nat) : Char :=
  Char.ofNat ('0'.toNat + n)

/-- The number that digits write after `seed`: each digit multiplies by ten and adds its value. -/
def decimalValue (seed : Nat) (cs : List Char) : Nat :=
  cs.foldl (fun n c => 10 * n + digitValue c) seed

/-- The number written by a non-empty string of ASCII digits. -/
def readNatural? (cs : List Char) : Option Nat :=
  if !cs.isEmpty && cs.all isDigit then some (decimalValue 0 cs) else none

/-- The digits of a number, without leading zeros; zero has one digit. -/
def natural (n : Nat) : List Char :=
  if n < 10 then [digitChar n] else natural (n / 10) ++ [digitChar (n % 10)]
termination_by n

/-- The digits of a number, with zeros in front up to a least width. -/
def padded (width n : Nat) : List Char :=
  List.replicate (width - (natural n).length) '0' ++ natural n

/-- An integer: its digits, after a minus sign if it is negative. -/
def integer : Int → List Char
  | .ofNat n => natural n
  | .negSucc n => '-' :: natural (n + 1)

/-- The text of a number. -/
def naturalText (n : Nat) : String :=
  String.ofList (natural n)

/-- The text of an integer. -/
def integerText (n : Int) : String :=
  String.ofList (integer n)

/-- A number with an optional plus sign in front, at most `greatest`. -/
def readUnsigned? (greatest : Nat) (cs : List Char) : Option Nat := do
  let n ← readNatural? (match cs with
    | '+' :: rest => rest
    | _ => cs)
  if n ≤ greatest then some n else none

/-- The characters `0` to `9`, then `A` to `F`: upper-case hexadecimal digits. -/
def upperHexDigit (n : Nat) : Char :=
  if n < 10 then digitChar n else Char.ofNat ('A'.toNat + (n - 10))

/-- Lower-case hexadecimal digits. -/
def lowerHexDigit (n : Nat) : Char :=
  if n < 10 then digitChar n else Char.ofNat ('a'.toNat + (n - 10))

/-- The value of a hexadecimal digit in either case. -/
def hexValue? (c : Char) : Option Nat :=
  if isDigit c then some (digitValue c)
  else if 'a' ≤ c && c ≤ 'f' then some (c.toNat - 'a'.toNat + 10)
  else if 'A' ≤ c && c ≤ 'F' then some (c.toNat - 'A'.toNat + 10)
  else none

/-- The number written by hexadecimal digits after `seed`. -/
def hexNumber? (seed : Nat) : List Char → Option Nat
  | [] => some seed
  | c :: cs => do
    let d ← hexValue? c
    hexNumber? (16 * seed + d) cs

theorem isScriptDigit_of_isDigit (c : Char) (h : isDigit c = true) : isScriptDigit c = true := by
  simp only [isDigit, Bool.and_eq_true, decide_eq_true_eq, Char.le_def, UInt32.le_iff_toNat_le] at h
  have lo : 48 ≤ c.toNat := h.1
  have hi : c.toNat ≤ 57 := h.2
  simp only [isScriptDigit, scriptZeros, List.any_cons, Bool.or_eq_true, Bool.and_eq_true,
    decide_eq_true_eq]
  exact .inl ⟨lo, by omega⟩

end StoreBridge.Text
