import FrontEnd.Grammar.Statement

namespace FrontEnd

open Reads Reading

/-- A computation that consumes tokens, and that may have no outcome. -/
def Attempt (α : Type) : Type :=
  Setting → List Token → Option (Outcome α)

namespace Attempt

variable {α β : Type}

/-- A reading always has an outcome. -/
def ofReading (reading : Reading α) : Attempt α :=
  fun setting tokens => some (reading setting tokens)

def bind (attempt : Attempt α) (next : α → Attempt β) : Attempt β :=
  fun setting tokens =>
    match attempt setting tokens with
    | none => none
    | some (.ok value rest) => next value setting rest
    | some (.error problem rest) => some (.error problem rest)
    | some (.fault rest opened) => some (.fault rest opened)

instance : Reads Attempt where
  pure value := ofReading (Pure.pure value)
  bind := bind
  current? := ofReading Reads.current?
  peek? distance := ofReading (Reads.peek? distance)
  skip := ofReading Reads.skip
  remaining := ofReading Reads.remaining
  rules := ofReading Reads.rules
  lexeme token := ofReading (Reads.lexeme token)
  failAt token cause := ofReading (Reads.failAt token cause)
  endOfInput expected := ofReading (Reads.endOfInput expected)

/-- Goes on inside one more level, if with the levels that are open the limit allows for it. -/
def nested (depth : Nat) (attempt : Attempt α) : Attempt α :=
  fun setting tokens =>
    if setting.limit ≤ depth then
      some (tooDeep setting tokens)
    else
      match attempt setting tokens with
      | some (.fault rest opened) => some (.fault rest (opened + 1))
      | outcome => outcome

end Attempt

/-- The routines of the grammar that call one another, by what they return. The first argument of
each is the number of open levels. -/
inductive Routine : Type → Type 1
  | expression (depth : Nat) (power : Power) : Routine Expr
  | operand (depth : Nat) (rule : OperandRule) : Routine Expr
  /-- Fields up to the closing brace of a struct literal. -/
  | fields (depth : Nat) : Routine (List (Token × Expr))
  | binary (depth : Nat) (left : Expr) (power : Power) : Routine Expr
  /-- Operators above a power, with their right operands. -/
  | operators (depth : Nat) (power : Power) (left : Expr) : Routine Expr
  | statement (depth : Nat) : Routine Stmt
  | statementBy (depth : Nat) (rule : StatementRule) : Routine Stmt
  | block (depth : Nat) : Routine (List Stmt)
  /-- Statements up to the closing brace of a block. -/
  | blockStatements (depth : Nat) : Routine (List Stmt)
  /-- Statements up to the end of the tokens. -/
  | program : Routine (List Stmt)

namespace Routine

variable {α : Type}

/-- What a routine does, given how its calls are answered: the rules of the grammar, with a call
for everything that they need read. -/
def body (call : {β : Type} → Routine β → Attempt β) : Routine α → Attempt α
  | expression depth power => Attempt.nested depth
      (Expr.readChain (fun rule => call (.operand (depth + 1) rule))
        (fun first => call (.operators (depth + 1) power first)))
  | operand depth rule => Expr.readOperand (call (.fields depth)) rule
  | fields depth => Expr.fieldsRound (call (.expression depth .lowest)) (call (.fields depth))
  | binary depth left power =>
      Expr.readBinary (fun power => call (.expression depth power)) left power
  | operators depth power left =>
      Expr.operatorsRound (fun left operator => call (.binary depth left operator)) power
        (fun joined => call (.operators depth power joined)) left
  | statement depth => Attempt.nested depth
      (Stmt.readByTable fun rule => call (.statementBy (depth + 1) rule))
  | statementBy depth rule =>
      Stmt.readBy (call (.statement depth)) (call (.block depth))
        (call (.expression depth .lowest)) rule
  | block depth => Stmt.readBlock (call (.blockStatements depth))
  | blockStatements depth =>
      Stmt.blockRound (call (.statement depth)) (call (.blockStatements depth))
  | program => Stmt.programRound (call (.statement 0)) (call .program)

/-- Runs a routine with calls nested to a given depth, its own included. -/
def run : Nat → {β : Type} → Routine β → Attempt β
  | 0, _, _ => fun _ _ => none
  | calls + 1, _, routine => routine.body (run calls)

end Routine

end FrontEnd
