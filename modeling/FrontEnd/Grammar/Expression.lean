import FrontEnd.Grammar.Reading
import FrontEnd.Text.Integer
import FrontEnd.Tree.Basic

/-!
Reading expressions by precedence climbing. An operator is taken while it binds more tightly than
the operand that is being read asks for, and its right operand is read at the operator's own power,
so that operators of one power group to the left.

Each rule takes what it needs read inside it as arguments, loops included; `Expr.read` ties the
knot, with one level less for what is inside.
-/

namespace FrontEnd

open Reads

namespace Expr

variable {m : Type → Type} [Reads m]

/-- A decimal number, which must fit in 32 bits with its sign. -/
def readNumber : m Expr := do
  let token ← expect .number
  let text ← lexeme token
  match text.int32? with
  | some value => return .number value token
  | none => failAt token (.numberOutOfRange text)

/-- What comes after a field. -/
def afterField (more : m (List (Token × Expr))) (name : Token) (content : Expr) :
    m (List (Token × Expr)) := do
  if (← kind?) = some .comma then
    skip
    return (name, content) :: (← more)
  return [(name, content)]

/-- A field `name = value` and what comes after it, or nothing before the closing brace. -/
def fieldsRound (value : m Expr) (more : m (List (Token × Expr))) : m (List (Token × Expr)) := do
  if (← kind?) = some .closeCurly then
    return []
  let name ← expect .identifier
  let _ ← expect .assignment
  let content ← value
  afterField more name content

/-- Fields, separated by commas, up to the closing brace. The first argument bounds the number of
fields; when it is used up, no token can be left, and a name is missing. -/
def readFields (value : m Expr) : Nat → m (List (Token × Expr))
  | 0 => do
      let _ ← currentOr "`Identifier`"
      return []
  | bound + 1 => fieldsRound value (readFields value bound)

/-- Fields up to the closing brace, however many there are. -/
def readAllFields (value : m Expr) : m (List (Token × Expr)) := do
  readFields value (← remaining)

/-- A struct literal `.{ name = value, ... }`, with or without a comma at the end. -/
def readStructLiteral (fields : m (List (Token × Expr))) : m Expr := do
  let dot ← expect .dot
  let _ ← expect .openCurly
  let content ← fields
  let _ ← expect .closeCurly
  return .structLiteral dot content

/-- Refuses the expression that begins here. -/
def refuse (construct : String) : m Expr := do
  let token ← currentOr "an expression"
  unsupported token construct

/-- An operand, by its rule. -/
def readOperand (fields : m (List (Token × Expr))) : OperandRule → m Expr
  | .number => readNumber
  | .structLiteral => readStructLiteral fields
  | .name => refuse "identifier expression"
  | .grouping => refuse "parenthesized expression"
  | .sign => refuse "unary expression"

/-- An operator and its right operand, joined to the left one. -/
def readBinary (expression : Power → m Expr) (left : Expr) (power : Power) : m Expr := do
  let operator ← advanceOr "an operator"
  let right ← expression power
  return .binary left operator.kind right

/-- The power of the current token, if it is an operator that binds more tightly than asked. -/
def operatorAbove? (power : Power) : m (Option Power) := do
  match ← kind? with
  | none => return none
  | some kind => return ((← rules).operator kind).filter power.below

/-- An operator with its right operand, joined to the left one, and what comes after it. -/
def operatorsRound (binary : Expr → Power → m Expr) (power : Power) (more : Expr → m Expr)
    (left : Expr) : m Expr := do
  match ← operatorAbove? power with
  | none => return left
  | some operator =>
      let joined ← binary left operator
      more joined

/-- Operators that bind more tightly than asked, with their right operands, joined to the left one
in turn. The first argument bounds the number of operators; when it is used up, no token is left. -/
def readOperators (expression : Power → m Expr) (power : Power) : Nat → Expr → m Expr
  | 0 => fun left => return left
  | bound + 1 => operatorsRound (readBinary expression) power (readOperators expression power bound)

/-- Operators and their right operands, however many there are. -/
def readAllOperators (expression : Power → m Expr) (power : Power) (left : Expr) : m Expr := do
  readOperators expression power (← remaining) left

/-- An operand, by the rule that the table has for its first token, and the operators after it. -/
def readChain (operand : OperandRule → m Expr) (operators : Expr → m Expr) : m Expr := do
  let token ← currentOr "an expression"
  match (← rules).operand token.kind with
  | none => unexpected token "expected an expression"
  | some rule =>
      let first ← operand rule
      operators first

/-- What is read inside the level of an expression. -/
def readInside (expression : Power → m Expr) (power : Power) : m Expr :=
  readChain (readOperand (readAllFields (expression .lowest))) (readAllOperators expression power)

/-- An expression whose operators all bind more tightly than asked. The first argument is the number
of levels that may still be opened; an expression opens one. -/
def read : Nat → Power → Reading Expr
  | 0, _ => Reading.tooDeep
  | room + 1, power => Reading.inLevel (readInside (read room) power)

end Expr

end FrontEnd
