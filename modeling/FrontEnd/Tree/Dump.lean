import FrontEnd.Tree.Basic

namespace FrontEnd

/-- A text to be laid out: a word, or labelled parts between an opening and a closing. -/
inductive Layout where
  | word (text : String)
  | group (opening : String) (parts : List (String × Layout)) (closing : String)

namespace Layout

def indentation (columns : Nat) : String :=
  "".pushn ' ' columns

mutual

/-- Writes a layout whose first line begins at the given column. -/
def write (column : Nat) : Layout → String
  | word text => text
  | group opening [] closing => opening ++ closing
  | group opening (first :: rest) closing =>
      opening ++ "\n" ++ writeParts (column + 4) (first :: rest) ++ indentation column ++ closing

/-- Writes parts, each beginning at the given column. -/
def writeParts (column : Nat) : List (String × Layout) → String
  | [] => ""
  | (label, part) :: rest =>
      indentation column ++ label ++ write column part ++ ",\n" ++ writeParts column rest

end

/-- A named value with positional parts. -/
def tuple (name : String) (parts : List Layout) : Layout :=
  group (name ++ "(") (parts.map ("", ·)) ")"

/-- A named value with labelled parts. -/
def record (name : String) (parts : List (String × Layout)) : Layout :=
  group (name ++ " \x7b") (parts.map fun (label, part) => (label ++ ": ", part)) "\x7d"

def list (parts : List Layout) : Layout :=
  group "[" (parts.map ("", ·)) "]"

def option : Option Layout → Layout
  | none => word "None"
  | some part => tuple "Some" [part]

end Layout

def Span.layout (span : Span) : Layout :=
  .record "Span" [("start", .word (toString span.start)), ("end", .word (toString span.stop))]

def Token.layout (token : Token) : Layout :=
  .record "Token"
    [("kind", .word token.kind.name), ("span", token.span.layout),
      ("line", .word (toString token.line))]

def Primitive.label : Primitive → String
  | .i32 => "I32"

def Ascription.layout : Ascription → Layout
  | .primitive type => .tuple "Primitive" [.word type.label]
  | .named name => .tuple "Struct" [name.layout]
  | .inferred => .word "Infer"

def Receiver.label : Receiver → String
  | .value => "Value"
  | .pointer => "Pointer"

namespace Expr

mutual

def layout : Expr → Layout
  | number value token =>
      .tuple "IntLiteral"
        [.record "NumberExpr" [("value", .word (toString value)), ("token", token.layout)]]
  | binary left operator right =>
      .tuple "Binary"
        [.record "BinaryExpr"
          [("left", left.layout), ("operator", .word operator.name), ("right", right.layout)]]
  | structLiteral dot fields =>
      .tuple "StructLiteral"
        [.record "StructLiteralExpr"
          [("fields", .list (fieldLayouts fields)), ("token", dot.layout)]]

def fieldLayouts : List (Token × Expr) → List Layout
  | [] => []
  | (name, value) :: rest => .tuple "" [name.layout, value.layout] :: fieldLayouts rest

end

end Expr

namespace Stmt

/-- Declarations and field writes are laid out as variables with a target. -/
def variableLayout (name : Token) (ascription : Ascription) (value : Option Expr)
    (target : Layout) : Layout :=
  .tuple "Expression"
    [.record "ExpressionStmt"
      [("expression",
        .tuple "Variable"
          [.record "VariableExpr"
            [("identifier", name.layout), ("var_type", ascription.layout),
              ("value", .option (value.map Expr.layout)), ("target", target)]])]]

mutual

def layout : Stmt → Layout
  | declaration name ascription value =>
      variableLayout name ascription value (.word "Declaration")
  | fieldWrite receiver field operator value =>
      variableLayout field .inferred (some value)
        (.record "FieldWrite"
          [("receiver", receiver.layout), ("operator", .word operator.name)])
  | structDefinition name body =>
      .tuple "Struct"
        [.record "StructStmt" [("identifier", name.layout), ("fields", .list (bodyLayouts body))]]
  | function name receiver result body =>
      .tuple "Function"
        [.record "FnStmt"
          [("identifier", name.layout),
            ("receiver", .option (receiver.map fun taken => .word taken.label)),
            ("return_type", .option (result.map Ascription.layout)),
            ("body", .list (bodyLayouts body))]]
  | returns value => .tuple "Return" [.record "ReturnStmt" [("value", value.layout)]]

def bodyLayouts : List Stmt → List Layout
  | [] => []
  | first :: rest => first.layout :: bodyLayouts rest

end

/-- A statement over indented lines. -/
def dump (statement : Stmt) : String :=
  statement.layout.write 0

end Stmt

end FrontEnd
