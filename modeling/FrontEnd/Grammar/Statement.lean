import FrontEnd.Grammar.Ascription
import FrontEnd.Grammar.Expression

namespace FrontEnd

open Reads

namespace Stmt

variable {m : Type → Type} [Reads m]

/-- A statement of a block and what comes after it, or nothing before the closing brace. -/
def blockRound (statement : m Stmt) (more : m (List Stmt)) : m (List Stmt) := do
  let token ← currentOr "`\x7d`"
  if token.kind = .closeCurly then
    return []
  return (← statement) :: (← more)

/-- Statements up to the closing brace of a block. The first argument bounds their number; when it
is used up, no token is left, and the brace is missing. -/
def readBlockStatements (statement : m Stmt) : Nat → m (List Stmt)
  | 0 => do
      let _ ← currentOr "`\x7d`"
      return []
  | bound + 1 => blockRound statement (readBlockStatements statement bound)

/-- The statements of a block, however many there are. -/
def readAllBlockStatements (statement : m Stmt) : m (List Stmt) := do
  readBlockStatements statement (← remaining)

/-- A block after its opening brace, with the closing one. -/
def readBlock (statements : m (List Stmt)) : m (List Stmt) := do
  let body ← statements
  let _ ← expect .closeCurly
  return body

/-- A return statement: `return value;`. -/
def readReturn (expression : m Expr) : m Stmt := do
  let _ ← expect .returnKeyword
  let value ← expression
  let _ ← expect .semicolon
  return .returns value

/-- The value of a declaration, if it has one, and its end. -/
def readInitial (expression : m Expr) : m (Option Expr) := do
  let token ← currentOr "`=` or `;`"
  match token.kind with
  | .assignment =>
      skip
      let value ← expression
      let _ ← expect .semicolon
      return some value
  | .semicolon =>
      skip
      return none
  | _ => unexpected token "expected `=` or `;` after the type"

/-- A declaration `name: type = value;`, where the type, the value or both may be missing. -/
def readDeclaration (expression : m Expr) : m Stmt := do
  let name ← advanceOr "an identifier"
  let _ ← expect .colon
  let ascription ← Ascription.readDeclared
  let value ← readInitial expression
  return .declaration name ascription value

/-- How a function takes the value that it is called on, if it is called on one. -/
def readReceiver : m (Option Receiver) := do
  match ← kind? with
  | some .selfKeyword =>
      skip
      return some .value
  | some .star =>
      skip
      let _ ← expect .selfKeyword
      return some .pointer
  | _ => return none

/-- The end of a parameter list. Parameters are refused. -/
def closeParameters : m Unit := do
  match ← current? with
  | some token =>
      if token.kind = .identifier ∨ token.kind = .comma then
        unsupported token "function parameters"
      else
        let _ ← expect .closeParen
  | none =>
      let _ ← expect .closeParen

/-- The result type of a function, if it is written. -/
def readResult : m (Option Ascription) := do
  if (← kind?) = some .arrow then
    skip
    return some (← Ascription.read)
  return none

/-- A definition: `name :: struct` and a block, or `name :: (receiver) -> result` and a block. -/
def readDefinition (block : m (List Stmt)) : m Stmt := do
  let name ← advanceOr "an identifier"
  let _ ← expect .colonColon
  let token ← currentOr "`struct` or `(`"
  match token.kind with
  | .structKeyword =>
      skip
      let _ ← expect .openCurly
      let body ← block
      return .structDefinition name body
  | .openParen =>
      skip
      let receiver ← readReceiver
      closeParameters
      let result ← readResult
      let _ ← expect .openCurly
      let body ← block
      return .function name receiver result body
  | _ => unexpected token "expected `struct` or `(` after `::`"

/-- A field write `receiver.field = value;`, or the same with `+=` or `-=`. -/
def readFieldWrite (expression : m Expr) : m Stmt := do
  let receiver ← advanceOr "an identifier"
  let _ ← expect .dot
  let field ← expect .identifier
  let token ← currentOr "an assignment operator"
  if token.kind = .colonColon then
    unsupported token "method reference"
  else if token.kind = .openParen then
    unsupported token "method call"
  else if token.kind.isAssignment then
    skip
    let value ← expression
    let _ ← expect .semicolon
    return .fieldWrite receiver field token.kind value
  else
    unexpected token "expected an assignment operator after the field"

/-- A statement that begins with a name. The token after the name decides what it is. -/
def readNamed (block : m (List Stmt)) (expression : m Expr) : m Stmt := do
  match ← peek? 1 with
  | some .colon => readDeclaration expression
  | some .colonColon => readDefinition block
  | some .dot => readFieldWrite expression
  | _ =>
      skip
      let token ← currentOr "`:`, `::` or `.`"
      unexpected token "expected `:`, `::` or `.` after identifier"

/-- A statement, by its rule. -/
def readBy (statement : m Stmt) (block : m (List Stmt)) (expression : m Expr) :
    StatementRule → m Stmt
  | .byTable => statement
  | .returns => readReturn expression
  | .named => readNamed block expression
  | .declaration => readDeclaration expression
  | .definition => readDefinition block
  | .fieldWrite => readFieldWrite expression

/-- A statement, by the rule that the table has for its first token. -/
def readByTable (statementBy : StatementRule → m Stmt) : m Stmt := do
  let token ← currentOr "a statement"
  match (← rules).statement token.kind with
  | none => unexpected token "expected a statement"
  | some rule => statementBy rule

/-- What is read inside the level of a statement. -/
def readInside (statement : m Stmt) (expression : m Expr) : m Stmt :=
  readByTable (readBy statement (readBlock (readAllBlockStatements statement)) expression)

/-- A statement. The argument is the number of levels that may still be opened; a statement opens
one. -/
def read : Nat → Reading Stmt
  | 0 => Reading.tooDeep
  | room + 1 => Reading.inLevel (readInside (read room) (Expr.read room .lowest))

/-- A statement of a program and what comes after it. -/
def programRound (statement : m Stmt) (more : m (List Stmt)) : m (List Stmt) := do
  match ← kind? with
  | none => return []
  | some _ => return (← statement) :: (← more)

/-- Statements up to the end of the tokens. The first argument bounds their number; when it is used
up, no token is left. -/
def readAll (statement : m Stmt) : Nat → m (List Stmt)
  | 0 => return []
  | bound + 1 => programRound statement (readAll statement bound)

/-- The statements of a program, however many there are. -/
def readAllStatements (statement : m Stmt) : m (List Stmt) := do
  readAll statement (← remaining)

end Stmt

/-- Reads a whole program under the rules of the language. -/
def readProgram (tokens : List Token) (source : Text) (limit : Nat) : Outcome (List Stmt) :=
  Stmt.readAllStatements (Stmt.read limit) (Setting.ofTokens tokens source .standard limit) tokens

end FrontEnd
