import StoreBridge.Sql.Expression
import StoreBridge.Sql.Token
import StoreBridge.Binary64.TwiceRounded

/-! Reading expressions. Operators have levels: an operator takes to its right what is bound by
operators of higher levels, and to its left what has been read before. -/
namespace StoreBridge.Sql
open Text

namespace Token

/-- The number of an exponent: a mark, a sign and digits. -/
def exponentValue : List Char → Int
  | _ :: '-' :: ds => -(Decimal.boundedExponent ds : Nat)
  | _ :: '+' :: ds => (Decimal.boundedExponent ds : Nat)
  | _ :: ds => (Decimal.boundedExponent ds : Nat)
  | [] => 0

/-- The real number that characters write. -/
def realOf (cs : List Char) : Binary64 :=
  let whole := cs.takeWhile isDigit
  let (fraction, rest) : List Char × List Char := match cs.dropWhile isDigit with
    | '.' :: rest => (rest.takeWhile isDigit, rest.dropWhile isDigit)
    | rest => ([], rest)
  .read false (.ofDigits whole fraction (exponentValue rest))

/-- The octets of a blob. -/
def blobOctets : List Char → List UInt8
  | a :: b :: rest =>
    match hexValue? a, hexValue? b with
    | some high, some low => UInt8.ofNat (16 * high + low) :: blobOctets rest
    | _, _ => []
  | _ => []

/-- The number that hexadecimal digits write, if it has no more than sixteen digits that count. -/
def bitsOf? (cs : List Char) : Option UInt64 := do
  let ds := (cs.drop 2).dropWhile (· == '0')
  if ds.length ≤ 16 then return UInt64.ofNat (← hexNumber? 0 ds) else none

/-- The variable that a token is. -/
def asVariable? (t : Token) : Option Variable :=
  match t.chars with
  | '?' :: [] => some .anonymous
  | '?' :: ds => some (.numbered (decimalValue 0 ds))
  | '#' :: c :: _ => if isDigit c then none else some .anonymous
  | c :: name =>
    (Sigil.all.find? fun s => s.char == c).map fun s => .named ⟨s, String.ofList name⟩
  | [] => none

/-- How a name is written. -/
def quoting (t : Token) : Quoting :=
  if t.kind = .word then .bare else if t.isDoubleQuoted then .double else .other

end Token

namespace Expression
open Grammar

/-- The level of logical operators. -/
def andLevel : Nat := 2

/-- The level of negation. -/
def notLevel : Nat := 3

/-- The level of equality, and of the operators that are words. -/
def equalLevel : Nat := 4

/-- The level of the escape behind a pattern. -/
def escapeLevel : Nat := 6

/-- The level of collations. -/
def collateLevel : Nat := 11

/-- The operator that a token is, and its level. -/
def binaryOperator? (t : Token) : Option (BinaryOperator × Nat) :=
  if t.kind = .mark then
    [("=", .equal, 4), ("==", .equal, 4), ("!=", .unequal, 4), ("<>", .unequal, 4),
      ("<", .less, 5), ("<=", .lessEqual, 5), (">", .greater, 5), (">=", .greaterEqual, 5),
      ("&", .bitAnd, 7), ("|", .bitOr, 7), ("<<", .shiftLeft, 7), (">>", .shiftRight, 7),
      ("+", .add, 8), ("-", .subtract, 8), ("*", .multiply, 9), ("/", .divide, 9),
      ("%", .remainder, 9), ("||", .concatenate, 10)].lookup (String.ofList t.chars)
  else [("OR", .or, 1), ("AND", .and, andLevel)].lookup t.keyword

/-- The negation of an expression, if it is negated. -/
def negatedIf (negated : Bool) (e : Expression Name) : Expression Name :=
  if negated then unary .not e else e

/-- The comparison that holds of nulls, too. With null itself it is an operator of its own. -/
def identity (negated : Bool) (a b : Expression Name) : Expression Name :=
  match b with
  | datum .null => unary (if negated then .notNull else .isNull) a
  | b => binary (if negated then .isNot else .is) a b

/-- An expression is one of some. Of none it never is; of one that is constant it is if it equals
it. -/
def amongAny (negated : Bool) (e : Expression Name) : List (Expression Name) → Expression Name
  | [] => natural (if negated then 1 else 0)
  | [item] =>
    negatedIf negated (if item.isConstant then binary .equal e (unary .plus item)
      else among e [item])
  | items => negatedIf negated (among e items)

/-- The conditions of a choice compare its subject, if it has one. -/
def comparedWith (subject : Option (Expression Name)) (e : Expression Name) : Expression Name :=
  match subject with
  | some s => binary .equal s e
  | none => e

/-- The words that are operators on texts and patterns. -/
def patternWords : List String :=
  ["LIKE", "GLOB", "REGEXP", "MATCH"]

/-- The test of a text by a pattern is a function of both. -/
def patternTest (word : String) (e pattern : Expression Name) (escape : List (Expression Name)) :
    Expression Name :=
  call word (pattern :: e :: escape)

/-- A call without arguments. Only the number of rows is a function of rows as such. -/
def callOfNothing (function : String) : Expression Name :=
  if sameName function "count" then callOfRows function else call function []

/-- The greatest number of arguments of a call. -/
def argumentLimit : Nat := 127

/-- The words of the present. -/
def presentWords : List String :=
  ["CURRENT_DATE", "CURRENT_TIME", "CURRENT_TIMESTAMP"]

/-- A literal. -/
def literal? (t : Token) : Option (Expression Name) :=
  match t.kind with
  | .text => some (datum (.text (String.ofList t.unquoted)))
  | .natural => some (natural (decimalValue 0 t.chars))
  | .hexadecimal => (Token.bitsOf? t.chars).map bits
  | .real => some (datum (.real (Token.realOf t.chars)))
  | .blob => some (datum (.blob (Token.blobOctets (t.chars.drop 2))))
  | _ => if t.keyword = "NULL" then some (datum .null)
    else if presentWords.contains t.keyword then some (call t.keyword []) else none

/-- The words of a type at the front of tokens. -/
def typeWords (ts : List Token) : List Token :=
  ts.takeWhile fun t => t.plainName?.isSome

/-- A number with a sign or without. -/
def afterSigned? (ts : List Token) : Option (List Token) :=
  let rest := match ts with
    | t :: rest => if t.isMark "-" || t.isMark "+" then rest else ts
    | [] => []
  match rest with
  | t :: rest => if [.natural, .hexadecimal, .real].contains t.kind then some rest else none
  | [] => none

/-- What is left after a type: words, and one or two numbers in parentheses. -/
def afterType? (ts : List Token) : Option (List Token) :=
  let rest := ts.drop (typeWords ts).length
  if (typeWords ts).isEmpty then some ts
  else match mark? "(" rest with
    | none => some rest
    | some rest => do
      let rest ← afterSigned? rest
      match mark? "," rest with
      | none => mark? ")" rest
      | some rest => do mark? ")" (← afterSigned? rest)

/-- A type as it is written. -/
def type? : Grammar String := fun ts => do
  let rest ← afterType? ts
  return (String.ofList (Token.sourceChars (Token.taken ts rest)), rest)

/-- A name with another in front of it, or without. -/
def name? (waiting : Nat) (t : Token) (rest : List Token) :
    Option (Expression Name × List Token) :=
  match mark? "." rest with
  | some (u :: rest) => do
    let rest ← within? (waiting + 3) rest
    let table ← t.anyName?
    let column ← u.anyName?
    match mark? "." rest with
    | some (v :: rest) =>
      let rest ← within? (waiting + 5) rest
      let _ ← v.anyName?
      return (name ⟨some column, ← v.anyName?, v.quoting⟩, rest)
    | _ => return (name ⟨some table, column, u.quoting⟩, rest)
  | _ => do return (name ⟨none, ← t.name?, t.quoting⟩, rest)

/-- How many parts of a type wait at once: its words, and two more for each number. -/
def typeParts (type : List Token) : Nat :=
  1 + 2 * type.countP fun t => [.natural, .hexadecimal, .real].contains t.kind

mutual

/-- An expression bound by operators of a least level, in at most so many steps, while so many
parts wait for it. -/
def read? : (steps waiting least : Nat) → Grammar (Expression Name)
  | 0, _, _, _ => none
  | steps + 1, waiting, least, ts => do
    let (e, rest) ← operand? steps waiting ts
    operations? steps waiting least e rest

/-- The operations on what has been read. -/
def operations? : (steps waiting least : Nat) → Expression Name → Grammar (Expression Name)
  | 0, _, _, _, _ => none
  | _ + 1, _, _, e, [] => some (e, [])
  | steps + 1, waiting, least, e, t :: rest =>
    match binaryOperator? t with
    | some (op, level) =>
      if level < least then some (e, t :: rest)
      else do
        let (b, rest) ← read? steps (waiting + 2) (level + 1) rest
        operations? steps waiting least (binary op e b) rest
    | none =>
      match t.keyword with
      | "COLLATE" =>
        if collateLevel < least then some (e, t :: rest)
        else match rest with
          | c :: rest => do
            let rest ← within? (waiting + 3) rest
            operations? steps waiting least (collate e (← c.plainName?)) rest
          | [] => none
      | "NOT" =>
        if notLevel < least then some (e, t :: rest)
        else match keyword? "NULL" rest with
          | some rest => do
            let rest ← within? (waiting + 3) rest
            operations? steps waiting least (unary .notNull e) rest
          | none => do
            let (e, rest) ← (← wordOperation? steps waiting true e rest)
            operations? steps waiting least e rest
      | _ =>
        if equalLevel < least then some (e, t :: rest)
        else match wordOperation? steps waiting false e (t :: rest) with
          | some result => do
            let (e, rest) ← result
            operations? steps waiting least e rest
          | none => some (e, t :: rest)

/-- An operation that begins with a word, if there is one, and what comes of it. -/
def wordOperation? : (steps waiting : Nat) → (negated : Bool) → Expression Name → List Token →
    Option (Option (Expression Name × List Token))
  | 0, _, _, _, _ => some none
  | _ + 1, _, _, _, [] => none
  | steps + 1, waiting, negated, e, t :: rest =>
    if t.keyword = "BETWEEN" then some do
      let (a, rest) ← read? steps (waiting + 2) notLevel rest
      let (b, rest) ← read? steps (waiting + 4) (equalLevel + 1) (← keyword? "AND" rest)
      return (negatedIf negated (between e a b), rest)
    else if t.keyword = "IN" then some do
      let rest ← within? (waiting + 5) (← mark? "(" rest)
      match mark? ")" rest with
      | some rest => return (amongAny negated e [], rest)
      | none =>
        let (items, rest) ← readAll? steps (waiting + 3) 2 rest
        return (amongAny negated e items, ← mark? ")" rest)
    else if patternWords.contains t.keyword then some do
      let (pattern, rest) ← read? steps (waiting + 2) (equalLevel + 1) rest
      match keyword? "ESCAPE" rest with
      | none => return (negatedIf negated (patternTest t.keyword e pattern []), rest)
      | some rest =>
        let (escape, rest) ← read? steps (waiting + 4) (escapeLevel + 1) rest
        return (negatedIf negated (patternTest t.keyword e pattern [escape]), rest)
    else if negated then none
    else if t.keyword = "ISNULL" then
      some ((within? (waiting + 2) rest).map fun rest => (unary .isNull e, rest))
    else if t.keyword = "NOTNULL" then
      some ((within? (waiting + 2) rest).map fun rest => (unary .notNull e, rest))
    else if t.keyword = "IS" then some do
      let (isNot, rest) := optionalKeywords ["NOT"] rest
      let (isDistinct, rest) := optionalKeywords ["DISTINCT", "FROM"] rest
      let waiting := waiting + (if isNot then 1 else 0) + (if isDistinct then 2 else 0)
      let (b, rest) ← read? steps (waiting + 2) (equalLevel + 1) rest
      return (identity (isNot != isDistinct) e b, rest)
    else none

/-- Expressions with commas between. Behind a comma so many more parts wait. -/
def readAll? : (steps waiting more : Nat) → Grammar (List (Expression Name))
  | 0, _, _, _ => none
  | steps + 1, waiting, more, ts => do
    let (e, rest) ← read? steps waiting 0 ts
    match mark? "," rest with
    | none => return ([e], rest)
    | some rest =>
      let (es, rest) ← readAll? steps (waiting + more) 0 rest
      return (e :: es, rest)

/-- What operators apply to: a literal, a variable, a name, a call, a choice, or an expression in
parentheses, with operators of one operand in front. -/
def operand? : (steps waiting : Nat) → Grammar (Expression Name)
  | 0, _, _ => none
  | _ + 1, _, [] => none
  | steps + 1, waiting, t :: rest => do
    let rest ← within? (waiting + 1) rest
    if t.isMark "-" then
      let (e, rest) ← operand? steps (waiting + 1) rest
      return (unary .minus e, rest)
    else if t.isMark "+" then
      let (e, rest) ← operand? steps (waiting + 1) rest
      return (unary .plus e, rest)
    else if t.isMark "~" then
      let (e, rest) ← operand? steps (waiting + 1) rest
      return (unary .complement e, rest)
    else if t.keyword = "NOT" then
      let (e, rest) ← read? steps (waiting + 1) notLevel rest
      return (unary .not e, rest)
    else if t.isMark "(" then
      let (e, rest) ← read? steps (waiting + 1) 0 (← within? (waiting + 3) rest)
      return (e, ← mark? ")" rest)
    else if t.kind = .variable then return (parameter (← t.asVariable?), rest)
    else if t.keyword = "CAST" then
      let (e, rest) ← read? steps (waiting + 2) 0 (← mark? "(" rest)
      let typed ← keyword? "AS" rest
      let (type, rest) ← type? typed
      let rest ← within? (waiting + 5 + typeParts (Token.taken typed rest)) rest
      return (cast e type, ← mark? ")" rest)
    else if t.keyword = "CASE" then
      let (subject, rest) ← match keyword? "WHEN" rest with
        | some _ => some (none, rest)
        | none => (read? steps (waiting + 1) 0 rest).map fun (e, rest) => (some e, rest)
      let (parts, rest) ← branches? steps (waiting + 2) 1 subject rest
      return (choice parts, rest)
    else if t.keyword = "RAISE" then none
    else match literal? t, mark? "." rest with
      | some e, none => return (e, rest)
      | _, _ =>
        match mark? "(" rest with
        | none => name? waiting t rest
        | some rest =>
          let function ← t.name?
          match mark? "*" rest with
          | some rest =>
            return (callOfNothing function, ← mark? ")" (← within? (waiting + 4) rest))
          | none =>
            let rest ← within? (waiting + 5) rest
            match mark? ")" rest with
            | some rest => return (callOfNothing function, rest)
            | none =>
              let (arguments, rest) ← readAll? steps (waiting + 3) 2 rest
              if argumentLimit < arguments.length then none
              else return (call function arguments, ← mark? ")" rest)

/-- The branches of a choice, up to its end. Behind the first one so many more parts wait. -/
def branches? : (steps waiting more : Nat) → Option (Expression Name) →
    Grammar (List (Expression Name))
  | 0, _, _, _, _ => none
  | steps + 1, waiting, more, subject, ts => do
    let (condition, rest) ← read? steps (waiting + 1) 0 (← keyword? "WHEN" ts)
    let (result, rest) ← read? steps (waiting + 3) 0 (← keyword? "THEN" rest)
    let parts := [comparedWith subject condition, result]
    match keyword? "END" rest, keyword? "ELSE" rest with
    | some rest, _ => return (parts, rest)
    | none, some rest =>
      let (otherwise, rest) ← read? steps (waiting + more + 1) 0 rest
      return (parts ++ [otherwise], ← keyword? "END" rest)
    | none, none =>
      let (others, rest) ← branches? steps (waiting + more) 0 subject rest
      return (parts ++ others, rest)

end

/-- An expression for which so many parts wait. Every step but a few for each token takes a
token. -/
def ofTokens? (waiting : Nat) : Grammar (Expression Name) := fun ts =>
  read? (8 * ts.length + 8) waiting 0 ts

end Expression
end StoreBridge.Sql
