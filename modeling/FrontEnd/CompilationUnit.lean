import FrontEnd.Grammar.Statement
import FrontEnd.SymbolTable.Declare
import FrontEnd.Token.Scan
import FrontEnd.Tree.Equality

namespace FrontEnd

/-- Settings of the front end. -/
structure Config where
  /-- How many statements and expressions may be open at once. -/
  nestingLimit : Nat := 256
  /-- Number of slots in a fresh symbol table. -/
  tableCapacity : Nat := SymbolTable.defaultCapacity
  deriving DecidableEq, Repr

/-- How a computation that may refuse its input, or fault, ends. -/
inductive Verdict (α : Type) where
  | ok (value : α)
  | error (problem : Diagnostic)
  | fault
  deriving DecidableEq, Repr

/-- A source that was read to its end. -/
structure CompilationUnit where
  tokens : List Token
  statements : List Stmt
  deriving DecidableEq, Repr

namespace CompilationUnit

/-- Checks the types of a unit, which is not supported yet. -/
def check (_unit : CompilationUnit) (_table : SymbolTable) : Except Diagnostic Unit :=
  .error ⟨.unsupported "type checking", 1, none⟩

end CompilationUnit

/-- How far the analysis of a source came: to a stray character, or to tokens and what they were
read as. -/
inductive Analysis where
  | stray (problem : Diagnostic)
  | scanned (tokens : List Token) (outcome : Outcome (List Stmt))
  deriving DecidableEq, Repr

namespace Analysis

/-- Scans a source and reads its tokens, under a limit on the nesting. -/
def ofSource (source : Text) (limit : Nat) : Analysis :=
  match tokenize source with
  | .error problem => .stray problem
  | .ok tokens => .scanned tokens (readProgram tokens source limit)

/-- The compilation unit that an analysis ends with, or the first diagnostic. -/
def verdict : Analysis → Verdict CompilationUnit
  | stray problem => .error problem
  | scanned tokens (.ok statements _) => .ok ⟨tokens, statements⟩
  | scanned _ (.error problem _) => .error problem
  | scanned _ (.fault _ _) => .fault

end Analysis

/-- The compilation unit of a source, or the first diagnostic. -/
def analyze (source : Text) (limit : Nat) : Verdict CompilationUnit :=
  (Analysis.ofSource source limit).verdict

end FrontEnd
