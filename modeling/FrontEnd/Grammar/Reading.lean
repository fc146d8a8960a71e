import FrontEnd.Diagnostic.Basic
import FrontEnd.Grammar.Rules

/-!
Readings: computations that consume tokens. A reading ends with a value, with a diagnostic or with
a fault, and always leaves the tokens that it did not consume. A fault means that a lexeme could
not be cut out of the text; it does not happen with the text that the tokens were read from.
-/

namespace FrontEnd

/-- What a reading can see but not change. -/
structure Setting where
  /-- The text that lexemes are cut out of. -/
  source : Text
  rules : Rules
  /-- How many statements and expressions may be open at once. -/
  limit : Nat
  /-- The line to report when no token is left. -/
  lastLine : Nat

/-- The setting for a token list: when no token is left, its last line is reported. -/
def Setting.ofTokens (tokens : List Token) (source : Text) (rules : Rules) (limit : Nat) :
    Setting :=
  ⟨source, rules, limit, (tokens.getLast?.map Token.line).getD 1⟩

/-- How a reading ends. -/
inductive Outcome (α : Type) where
  | ok (value : α) (rest : List Token)
  | error (problem : Diagnostic) (rest : List Token)
  /-- The number says how many levels had been opened and were not closed. -/
  | fault (rest : List Token) (opened : Nat)
  deriving DecidableEq, Repr

def Outcome.rest {α : Type} : Outcome α → List Token
  | ok _ rest => rest
  | error _ rest => rest
  | fault rest _ => rest

/-- A computation that consumes tokens. -/
def Reading (α : Type) : Type :=
  Setting → List Token → Outcome α

/-- The actions that the rules of the grammar are made of. A rule is written once for every monad
that has them. -/
class Reads (m : Type → Type) extends Monad m where
  /-- The current token. -/
  current? : m (Option Token)
  /-- The kind of the token that stands `distance` after the current one. -/
  peek? (distance : Nat) : m (Option Kind)
  /-- Consumes the current token, whatever it is. -/
  skip : m Unit
  /-- Number of tokens that are left. -/
  remaining : m Nat
  rules : m Rules
  /-- The spelling of a token. -/
  lexeme (token : Token) : m Text
  /-- Fails with a cause at a token. -/
  failAt {α : Type} (token : Token) (cause : Cause) : m α
  /-- Fails for want of more tokens. -/
  endOfInput {α : Type} (expected : String) : m α

namespace Reads

variable {m : Type → Type} [Reads m] {α : Type}

def kind? : m (Option Kind) := do
  return (← current?).map Token.kind

/-- Consumes the current token. -/
def advance? : m (Option Token) := do
  let token ← current?
  skip
  return token

/-- Fails at a token that cannot stand where it stands. -/
def unexpected (token : Token) (message : String) : m α := do
  let text ← lexeme token
  failAt token (.misplacedToken text message)

/-- Fails at a token that begins something the language has no rule for yet. -/
def unsupported (token : Token) (construct : String) : m α :=
  failAt token (.unsupported construct)

/-- The current token, of which there must be one. -/
def currentOr (expected : String) : m Token := do
  match ← current? with
  | some token => return token
  | none => endOfInput expected

/-- Consumes the current token, of which there must be one. -/
def advanceOr (expected : String) : m Token := do
  match ← advance? with
  | some token => return token
  | none => endOfInput expected

/-- Consumes a token of the given kind. -/
def expect (kind : Kind) : m Token := do
  let expected := "`" ++ kind.name ++ "`"
  let token ← currentOr expected
  if token.kind = kind then
    advanceOr expected
  else
    let found ← lexeme token
    failAt token (.unexpectedToken kind found)

end Reads

namespace Reading

/-- The line of the current token, or of the last one when none is left. -/
def lineAt (setting : Setting) (tokens : List Token) : Nat :=
  (tokens.head?.map Token.line).getD setting.lastLine

instance : Reads Reading where
  pure value := fun _ tokens => .ok value tokens
  bind reading next := fun setting tokens =>
    match reading setting tokens with
    | .ok value rest => next value setting rest
    | .error problem rest => .error problem rest
    | .fault rest opened => .fault rest opened
  current? := fun _ tokens => .ok tokens.head? tokens
  peek? distance := fun _ tokens => .ok (tokens[distance]?.map Token.kind) tokens
  skip := fun _ tokens => .ok () tokens.tail
  remaining := fun _ tokens => .ok tokens.length tokens
  rules := fun setting tokens => .ok setting.rules tokens
  lexeme token := fun setting tokens =>
    match token.lexeme? setting.source with
    | some text => .ok text tokens
    | none => .fault tokens 0
  failAt token cause := fun _ tokens => .error ⟨cause, token.line, some token.span⟩ tokens
  endOfInput expected := fun setting tokens =>
    .error ⟨.endOfInput expected, lineAt setting tokens, none⟩ tokens

/-- Fails because no further level may be opened. -/
def tooDeep {α : Type} : Reading α :=
  fun setting tokens =>
    .error ⟨.nestingTooDeep setting.limit, lineAt setting tokens, tokens.head?.map Token.span⟩
      tokens

/-- Reads inside one more level, which stays open if the reading faults. -/
def inLevel {α : Type} (reading : Reading α) : Reading α :=
  fun setting tokens =>
    match reading setting tokens with
    | .fault rest opened => .fault rest (opened + 1)
    | outcome => outcome

end Reading

end FrontEnd
