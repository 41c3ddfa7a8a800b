import StoreBridge.Binary64.Shortest
import StoreBridge.Failure
import StoreBridge.Sql.Quoted
import StoreBridge.Text.Utf8

/-! The values of the store, each of one of five storage classes, and the two ways of writing them:
as a literal in a statement, and as a cell of an answer. -/
namespace StoreBridge
open Text Sql

/-- A value of the store. -/
inductive Datum where
  | null
  | integer (n : Int64)
  | real (x : Binary64)
  | text (s : String)
  | blob (octets : List UInt8)
deriving DecidableEq

namespace Datum

/-- The hexadecimal digits of octets. -/
def hexDigits (octets : List UInt8) : List Char :=
  octets.flatMap fun b => [upperHexDigit (b.toNat / 16), upperHexDigit (b.toNat % 16)]

/-- The characters of the literal. -/
def literalChars : Datum → List Char
  | null => "NULL".toList
  | integer n => Text.integer n.toInt
  | real x => x.literalText.toList
  | text s => enquote '\'' s.toList
  | blob octets => 'X' :: '\'' :: hexDigits octets ++ ['\'']

/-- Every value but a real number that is not finite has a literal. -/
def hasLiteral : Datum → Bool
  | real x => x.isFinite
  | _ => true

/-- The literal of a value, if it has one. -/
def literal (d : Datum) : Except Failure String :=
  match d with
  | real x =>
    if x.isFinite then .ok (String.ofList d.literalChars) else .error (.noLiteral x.rowText)
  | _ => .ok (String.ofList d.literalChars)

/-- The text of octets that should be UTF-8. -/
def octetsText (octets : List UInt8) : String :=
  String.ofList (decodeLossy octets)

/-- The cell of an answer that shows the value. Blobs are only counted. -/
def cell : Datum → String
  | null => "NULL"
  | integer n => integerText n.toInt
  | real x => x.rowText
  | text s => s
  | blob octets => "<BLOB: " ++ naturalText octets.length ++ " bytes>"

end Datum
end StoreBridge
