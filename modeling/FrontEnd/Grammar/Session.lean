import FrontEnd.Grammar.Statement

namespace FrontEnd

/-- Where a session stands. -/
structure Session where
  /-- All tokens, those that were consumed included. -/
  tokens : List Token
  source : Text
  limit : Nat
  rules : Rules
  /-- The tokens that were not consumed. -/
  rest : List Token
  /-- Number of levels that are open. -/
  depth : Nat

/-- One step of a session. -/
inductive Step where
  | current
  | kind
  | peek (distance : Nat)
  | advance
  | expect (kind : Kind)
  | lexeme
  | endOfInput (expected : String)
  | unexpected (message : String)
  | unsupported (construct : String)
  | addStandardRules
  | rulesFor (kind : Kind)
  | setOperand (kind : Kind) (rule : OperandRule)
  | setOperator (kind : Kind) (power : Power)
  | setStatement (kind : Kind) (rule : StatementRule)
  | expression (power : Power)
  | binary (left : Expr) (power : Power)
  | operand (rule : OperandRule)
  | statement (rule : StatementRule)
  | block
  | ascription
  | declaredAscription
  /-- Takes steps inside one more level. -/
  | nested (steps : List Step)

inductive Answer where
  | nothing
  | token (token : Option Token)
  | kind (kind : Option Kind)
  | text (text : Option Text)
  | rules (statement : Option StatementRule) (operand : Option OperandRule)
      (operator : Option Power)
  | expression (tree : Expr)
  | statements (trees : List Stmt)
  | ascription (type : Ascription)

namespace Step

/-- The change that a step makes to the rules, if it registers any. -/
def registration? : Step → Option (Rules → Rules)
  | addStandardRules => some Rules.addStandard
  | setOperand tokenKind rule => some (Rules.setOperand · tokenKind rule)
  | setOperator tokenKind power => some (Rules.setOperator · tokenKind power)
  | setStatement tokenKind rule => some (Rules.setStatement · tokenKind rule)
  | _ => none

variable {m : Type → Type} [Reads m]

/-- Does something with the current token, if there is one. -/
def atCurrent (action : Token → m Answer) (otherwise : Answer) : m Answer := do
  match ← Reads.current? with
  | some token => action token
  | none => return otherwise

/-- What a step does that neither registers rules nor opens a level, given how an expression and a
statement are read. -/
def action (readExpression : Power → m Expr) (readStatement : m Stmt) : Step → m Answer
  | current => return .token (← Reads.current?)
  | kind => return .kind (← Reads.kind?)
  | peek distance => return .kind (← Reads.peek? distance)
  | advance => return .token (← Reads.advance?)
  | expect tokenKind => return .token (some (← Reads.expect tokenKind))
  | lexeme => atCurrent (fun token => return .text (some (← Reads.lexeme token))) (.text none)
  | endOfInput expected => Reads.endOfInput expected
  | unexpected message => atCurrent (Reads.unexpected · message) .nothing
  | unsupported construct => atCurrent (Reads.unsupported · construct) .nothing
  | rulesFor tokenKind => do
      let rules ← Reads.rules
      return .rules (rules.statement tokenKind) (rules.operand tokenKind)
        (rules.operator tokenKind)
  | expression power => return .expression (← readExpression power)
  | binary left power => return .expression (← Expr.readBinary readExpression left power)
  | operand rule => do
      let fields := Expr.readAllFields (readExpression .lowest)
      return .expression (← Expr.readOperand fields rule)
  | statement rule => do
      let block := Stmt.readBlock (Stmt.readAllBlockStatements readStatement)
      return .statements [← Stmt.readBy readStatement block (readExpression .lowest) rule]
  | block => return .statements (← Stmt.readBlock (Stmt.readAllBlockStatements readStatement))
  | ascription => return .ascription (← Ascription.read)
  | declaredAscription => return .ascription (← Ascription.readDeclared)
  | addStandardRules | setOperand .. | setOperator .. | setStatement .. | nested _ =>
      return .nothing

end Step

/-- How a step ended, and the session after it. -/
inductive Report where
  | answered (answer : Answer) (after : Session)
  | refused (problem : Diagnostic) (after : Session)
  | fault (after : Session)
  /-- The reports of the steps that were taken inside a level. -/
  | nested (inside : List Report) (after : Session)

namespace Report

def after : Report → Session
  | answered _ after => after
  | refused _ after => after
  | fault after => after
  | nested _ after => after

/-- Whether the next step is taken after a report, with these diagnostics tolerated. -/
def goesOn (tolerated : Diagnostic → Bool) : Report → Bool
  | answered _ _ => true
  | refused problem _ => tolerated problem
  | fault _ => false
  | nested _ _ => true

end Report

namespace Session

/-- A session that has consumed nothing. -/
def start (tokens : List Token) (source : Text) (limit : Nat) (rules : Rules) : Session :=
  ⟨tokens, source, limit, rules, tokens, 0⟩

def setting (session : Session) : Setting :=
  .ofTokens session.tokens session.source session.rules session.limit

def room (session : Session) : Nat :=
  session.limit - session.depth

def current? (session : Session) : Option Token :=
  session.rest.head?

def hasTokens (session : Session) : Bool :=
  !session.rest.isEmpty

/-- The line of the current token, or of the last one when none is left. -/
def currentLine (session : Session) : Nat :=
  Reading.lineAt session.setting session.rest

/-- Carries out a reading. Levels that a fault leaves open stay open. -/
def perform (session : Session) (reading : Reading Answer) : Report :=
  match reading session.setting session.rest with
  | .ok answer rest => .answered answer { session with rest }
  | .error problem rest => .refused problem { session with rest }
  | .fault rest opened => .fault { session with rest, depth := session.depth + opened }

mutual

def take (tolerated : Diagnostic → Bool) (session : Session) : Step → Report
  | .nested steps =>
      if session.depth < session.limit then
        let (inside, after) := takeAll tolerated { session with depth := session.depth + 1 } steps
        .nested inside { after with depth := after.depth - 1 }
      else
        session.perform Reading.tooDeep
  | step =>
      match step.registration? with
      | some change => .answered .nothing { session with rules := change session.rules }
      | none => session.perform (step.action (Expr.read session.room) (Stmt.read session.room))

/-- Takes steps in turn, up to the first that the session does not go on after. -/
def takeAll (tolerated : Diagnostic → Bool) (session : Session) :
    List Step → List Report × Session
  | [] => ([], session)
  | step :: steps =>
      let report := session.take tolerated step
      if report.goesOn tolerated then
        let (reports, after) := takeAll tolerated report.after steps
        (report :: reports, after)
      else
        ([report], report.after)

end

end Session

end FrontEnd
