import StoreBridge.Sql.Statement

/-! Expressions: literals, variables and names, under operators, choices and functions. What stands
for a name is left open, because a name means nothing before it has been looked up; afterwards the
expression holds what the name refers to. -/
namespace StoreBridge.Sql

/-- A variable of a statement. One that has a number instead of a name may share it with a named
one. -/
inductive Variable where
  | named (p : Placeholder)
  | numbered (n : Nat)
  | anonymous
deriving DecidableEq

/-- How a name is written. -/
inductive Quoting where
  | bare | double | other
deriving DecidableEq

/-- A name in an expression, with that of a table in front of it or without. -/
structure Name where
  qualifier : Option String
  text : String
  quoting : Quoting
deriving DecidableEq

/-- The operators with one operand. -/
inductive UnaryOperator where
  | minus | plus | complement | not | isNull | notNull
deriving DecidableEq

/-- The operators with two operands. -/
inductive BinaryOperator where
  | or | and
  | equal | unequal | is | isNot
  | less | lessEqual | greater | greaterEqual
  | bitAnd | bitOr | shiftLeft | shiftRight
  | add | subtract | multiply | divide | remainder | concatenate
deriving DecidableEq

/-- Expressions over what stands for names. -/
inductive Expression (ν : Type) where
  | datum (d : Datum)
  /-- A whole number in decimal digits, which may be too large to be an integer. -/
  | natural (n : Nat)
  /-- A whole number in hexadecimal digits: the bits of an integer. -/
  | bits (n : UInt64)
  /-- One of the words for truths. -/
  | truth (b : Bool)
  | parameter (v : Variable)
  | name (n : ν)
  | unary (op : UnaryOperator) (e : Expression ν)
  | binary (op : BinaryOperator) (a b : Expression ν)
  | between (e least greatest : Expression ν)
  | among (e : Expression ν) (items : List (Expression ν))
  /-- Conditions, each with what it leads to, and what is left otherwise. -/
  | choice (parts : List (Expression ν))
  | cast (e : Expression ν) (type : String)
  | collate (e : Expression ν) (collation : String)
  | call (function : String) (arguments : List (Expression ν))
  /-- A function of rows as such. -/
  | callOfRows (function : String)

namespace Expression

mutual

/-- How deeply an expression is nested. -/
def height {ν : Type} : Expression ν → Nat
  | unary _ e => e.height + 1
  | binary _ a b => max a.height b.height + 1
  | between e a b => max e.height (max a.height b.height) + 1
  | among e items => max e.height (greatestHeight items) + 1
  | choice parts => greatestHeight parts + 1
  | cast e _ => e.height + 1
  | collate e _ => e.height + 1
  | call _ arguments => greatestHeight arguments + 1
  | _ => 1

/-- The greatest height among expressions. -/
def greatestHeight {ν : Type} : List (Expression ν) → Nat
  | [] => 0
  | e :: rest => max e.height (greatestHeight rest)

end

/-- The greatest height that an expression may have. -/
def heightLimit : Nat := 1000

mutual

/-- Every part of an expression that has no parts of its own passes a test. -/
def all {ν : Type} (test : Expression ν → Bool) : Expression ν → Bool
  | unary _ e => e.all test
  | binary _ a b => a.all test && b.all test
  | between e a b => e.all test && a.all test && b.all test
  | among e items => e.all test && areAll test items
  | choice parts => areAll test parts
  | cast e _ => e.all test
  | collate e _ => e.all test
  | call function arguments => test (call function []) && areAll test arguments
  | e => test e

/-- Every part of some expressions passes a test. -/
def areAll {ν : Type} (test : Expression ν → Bool) : List (Expression ν) → Bool
  | [] => true
  | e :: rest => e.all test && areAll test rest

end

/-- The expression is the same for all rows: it holds neither names nor calls. -/
def isConstant {ν : Type} (e : Expression ν) : Bool :=
  e.all fun
    | name _ => false
    | call .. => false
    | callOfRows _ => false
    | _ => true

/-- The expression holds parameters. -/
def hasParameter {ν : Type} (e : Expression ν) : Bool :=
  !e.all fun
    | parameter _ => false
    | _ => true

mutual

/-- The expression with its variables and names replaced. -/
def replaceM {m : Type → Type} [Monad m] {ν μ : Type} (onVariable : Variable → Variable)
    (onName : ν → m (Expression μ)) : Expression ν → m (Expression μ)
  | datum d => pure (datum d)
  | natural n => pure (natural n)
  | bits n => pure (bits n)
  | truth b => pure (truth b)
  | parameter v => pure (parameter (onVariable v))
  | name n => onName n
  | unary op e => do return unary op (← e.replaceM onVariable onName)
  | binary op a b => do
    let a ← a.replaceM onVariable onName
    return binary op a (← b.replaceM onVariable onName)
  | between e a b => do
    let e ← e.replaceM onVariable onName
    let a ← a.replaceM onVariable onName
    return between e a (← b.replaceM onVariable onName)
  | among e items => do
    let e ← e.replaceM onVariable onName
    return among e (← replaceAllM onVariable onName items)
  | choice parts => do return choice (← replaceAllM onVariable onName parts)
  | cast e type => do return cast (← e.replaceM onVariable onName) type
  | collate e c => do return collate (← e.replaceM onVariable onName) c
  | call f arguments => do return call f (← replaceAllM onVariable onName arguments)
  | callOfRows f => pure (callOfRows f)

/-- Expressions with their variables and names replaced. -/
def replaceAllM {m : Type → Type} [Monad m] {ν μ : Type} (onVariable : Variable → Variable)
    (onName : ν → m (Expression μ)) : List (Expression ν) → m (List (Expression μ))
  | [] => pure []
  | e :: rest => do
    let e ← e.replaceM onVariable onName
    return e :: (← replaceAllM onVariable onName rest)

end

/-- The parts of an expression that have to hold together for it to hold. -/
def conjuncts {ν : Type} : Expression ν → List (Expression ν)
  | binary .and a b => a.conjuncts ++ b.conjuncts
  | e => [e]

end Expression
end StoreBridge.Sql
