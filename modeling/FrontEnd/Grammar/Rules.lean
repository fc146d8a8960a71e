import FrontEnd.Token.Basic

namespace FrontEnd

/-- How tightly an operator binds. -/
inductive Power where
  /-- Looser than every operator of the language. -/
  | lowest
  | additive
  deriving DecidableEq, Repr

namespace Power

def label : Power → String
  | lowest => "Default"
  | additive => "Additive"

def rank : Power → Nat
  | lowest => 0
  | additive => 10

/-- Whether an operator of the second power binds more tightly than the first. -/
def below (power other : Power) : Bool :=
  power.rank < other.rank

end Power

/-- The ways to read an operand. The last three only refuse what they find. -/
inductive OperandRule where
  | number
  | structLiteral
  | name
  | grouping
  | sign
  deriving DecidableEq, Repr

/-- The ways to read a statement. -/
inductive StatementRule where
  /-- Whatever the table says, one level deeper. -/
  | byTable
  | returns
  /-- A declaration, a definition or a field write, by the token after the name. -/
  | named
  | declaration
  | definition
  | fieldWrite
  deriving DecidableEq, Repr

/-- Rules by the kind of the token at which they apply. Every operator joins the expression before
it and the operand after it. -/
structure Rules where
  statement : Kind → Option StatementRule
  operand : Kind → Option OperandRule
  operator : Kind → Option Power

namespace Rules

def empty : Rules :=
  ⟨fun _ => none, fun _ => none, fun _ => none⟩

def setStatement (rules : Rules) (kind : Kind) (rule : StatementRule) : Rules :=
  { rules with statement := fun other => if other = kind then some rule else rules.statement other }

def setOperand (rules : Rules) (kind : Kind) (rule : OperandRule) : Rules :=
  { rules with operand := fun other => if other = kind then some rule else rules.operand other }

def setOperator (rules : Rules) (kind : Kind) (power : Power) : Rules :=
  { rules with operator := fun other => if other = kind then some power else rules.operator other }

/-- Adds the rules of the language, in the place of rules for the same kinds. -/
def addStandard (rules : Rules) : Rules :=
  rules
    |>.setOperator .plus .additive
    |>.setOperator .dash .additive
    |>.setOperand .number .number
    |>.setOperand .dot .structLiteral
    |>.setOperand .identifier .name
    |>.setOperand .selfKeyword .name
    |>.setOperand .openParen .grouping
    |>.setOperand .dash .sign
    |>.setStatement .returnKeyword .returns
    |>.setStatement .identifier .named
    |>.setStatement .selfKeyword .named

def standard : Rules :=
  empty.addStandard

end Rules

end FrontEnd
