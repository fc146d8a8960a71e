import FrontEnd.SymbolTable.Basic
import FrontEnd.Tree.Basic

namespace FrontEnd

/-- The kind of type that an ascription tells, if it tells one. -/
def Ascription.symbolKind? : Ascription → Option SymbolKind
  | .primitive .i32 => some .i32
  | .named _ => some .struct
  | .inferred => none

/-- The name that a statement declares, and the kind of its type. -/
def Stmt.declared? : Stmt → Option (Span × SymbolKind)
  | .declaration name ascription _ => ascription.symbolKind?.map (name.span, ·)
  | .structDefinition name _ => some (name.span, .struct)
  | _ => none

/-- The names that a program declares at its top level, in order. -/
def declaredNames (statements : List Stmt) : List (Span × SymbolKind) :=
  statements.filterMap Stmt.declared?

namespace SymbolTable

/-- Records names in order, up to the first that does not fit the source. -/
def insertAll (table : SymbolTable) : List (Span × SymbolKind) → Except SymbolTable SymbolTable
  | [] => .ok table
  | (span, kind) :: rest =>
      match table.insert span kind with
      | .ok next => next.insertAll rest
      | .error left => .error left

/-- Records the names that a program declares, and tells how many there were. -/
def declare (table : SymbolTable) (statements : List Stmt) :
    Except SymbolTable (SymbolTable × Nat) :=
  let names := declaredNames statements
  (table.insertAll names).map fun declared => (declared, names.length)

/-- The expansions that recording names brings about: for each the new capacity and the number of
symbols then in the table. -/
def expansions (table : SymbolTable) : List (Span × SymbolKind) → List (Nat × Nat)
  | [] => []
  | (span, kind) :: rest =>
      let grown :=
        if table.isHalfFull then [(table.expand.capacity, table.expand.occupied)] else []
      match table.insert span kind with
      | .ok next => grown ++ next.expansions rest
      | .error _ => grown

end SymbolTable

end FrontEnd
