import FrontEnd.Proofs.Grammar.Numeral
import FrontEnd.Tree.Basic

namespace FrontEnd

namespace Grammar

/-- Any number of phrases, one after another. -/
inductive Repeated {α : Type} (phrase : List Token → α → Prop) : List Token → List α → Prop
  | nil : Repeated phrase [] []
  | cons {first rest : List Token} {value : α} {values : List α} :
      phrase first value → Repeated phrase rest values →
        Repeated phrase (first ++ rest) (value :: values)

/-- A token that can be declared, defined or written through. -/
def IsName (token : Token) : Prop :=
  token.kind = .identifier ∨ token.kind = .selfKeyword

inductive WrittenType (source : Text) : List Token → Ascription → Prop
  | primitive {name : Token} : name.kind = .identifier →
      name.lexeme? source = some "i32".toList → WrittenType source [name] (.primitive .i32)
  | named {name : Token} {lexeme : Text} : name.kind = .identifier →
      name.lexeme? source = some lexeme → lexeme ≠ "i32".toList →
        WrittenType source [name] (.named name)

/-- The type of a declaration, which need not be written. -/
inductive DeclaredType (source : Text) : List Token → Ascription → Prop
  | elided : DeclaredType source [] .inferred
  | written {tokens : List Token} {ascription : Ascription} :
      WrittenType source tokens ascription → DeclaredType source tokens ascription

/-- A sign and the operand to its right. -/
inductive Operation (atom : List Token → Expr → Prop) : List Token → Kind × Expr → Prop
  | mk {sign : Token} {tokens : List Token} {operand : Expr} :
      sign.kind = .plus ∨ sign.kind = .dash → atom tokens operand →
        Operation atom (sign :: tokens) (sign.kind, operand)

inductive Field (expression : List Token → Expr → Prop) : List Token → Token × Expr → Prop
  | mk {name equals : Token} {tokens : List Token} {value : Expr} :
      name.kind = .identifier → equals.kind = .assignment → expression tokens value →
        Field expression (name :: equals :: tokens) (name, value)

/-- A comma and what it separates from the phrase before. -/
inductive AfterComma {α : Type} (phrase : List Token → α → Prop) : List Token → α → Prop
  | mk {comma : Token} {tokens : List Token} {value : α} :
      comma.kind = .comma → phrase tokens value → AfterComma phrase (comma :: tokens) value

/-- A comma that may be left out. -/
inductive TrailingComma : List Token → Prop
  | none : TrailingComma []
  | some {comma : Token} : comma.kind = .comma → TrailingComma [comma]

/-- The fields of a struct literal, separated by commas. -/
inductive Fields (expression : List Token → Expr → Prop) :
    List Token → List (Token × Expr) → Prop
  | none : Fields expression [] []
  | some {first rest trailing : List Token} {field : Token × Expr} {fields : List (Token × Expr)} :
      Field expression first field → Repeated (AfterComma (Field expression)) rest fields →
        TrailingComma trailing → Fields expression (first ++ rest ++ trailing) (field :: fields)

theorem Fields.cons {expression : List Token → Expr → Prop} {first rest : List Token}
    {comma : Token} {field : Token × Expr} {fields : List (Token × Expr)}
    (hfirst : Field expression first field) (hcomma : comma.kind = .comma)
    (hrest : Fields expression rest fields) :
    Fields expression (first ++ comma :: rest) (field :: fields) := by
  cases hrest with
  | none => simpa using Fields.some hfirst .nil (.some hcomma)
  | some hsecond hothers htrailing =>
      simpa using Fields.some hfirst (.cons (.mk hcomma hsecond) hothers) htrailing

theorem Fields.uncons {expression : List Token → Expr → Prop} {tokens : List Token}
    {field : Token × Expr} {fields : List (Token × Expr)}
    (h : Fields expression tokens (field :: fields)) :
    ∃ first rest, tokens = first ++ rest ∧ Field expression first field ∧
      (rest = [] ∧ fields = [] ∨
        ∃ comma others, rest = comma :: others ∧ comma.kind = .comma ∧
          Fields expression others fields) := by
  cases h with
  | @some first rest trailing _ _ hfirst hrest htrailing =>
      refine ⟨first, rest ++ trailing, by simp, hfirst, ?_⟩
      cases hrest with
      | nil =>
          cases htrailing with
          | none => exact .inl ⟨rfl, rfl⟩
          | some hcomma => exact .inr ⟨_, [], rfl, hcomma, .none⟩
      | cons hsecond hothers =>
          cases hsecond with
          | mk hcomma hfield =>
              exact .inr ⟨_, _, by simp, hcomma, .some hfield hothers htrailing⟩

/-- Operands joined from left to right. -/
def joinLeft (first : Expr) (operations : List (Kind × Expr)) : Expr :=
  operations.foldl (fun left operation => .binary left operation.1 operation.2) first

mutual

inductive Atom (source : Text) : List Token → Expr → Prop
  | number {token : Token} {lexeme : Text} : token.kind = .number →
      token.lexeme? source = some lexeme → Scan.IsNumeral lexeme → decimal lexeme ≤ 2 ^ 31 - 1 →
        Atom source [token] (.number (decimal lexeme) token)
  | structLiteral {dot opening closing : Token} {inside : List Token}
      {fields : List (Token × Expr)} : dot.kind = .dot → opening.kind = .openCurly →
      Fields (Expression source) inside fields → closing.kind = .closeCurly →
        Atom source (dot :: opening :: (inside ++ [closing])) (.structLiteral dot fields)

inductive Expression (source : Text) : List Token → Expr → Prop
  | chain {first rest : List Token} {operand : Expr} {operations : List (Kind × Expr)} :
      Atom source first operand → Repeated (Operation (Atom source)) rest operations →
        Expression source (first ++ rest) (joinLeft operand operations)

end

/-- The value of a declaration, which may be missing. -/
inductive Initial (source : Text) : List Token → Option Expr → Prop
  | none : Initial source [] none
  | some {equals : Token} {tokens : List Token} {value : Expr} :
      equals.kind = .assignment → Expression source tokens value →
        Initial source (equals :: tokens) (some value)

/-- What stands between the parentheses of a function. -/
inductive Receives : List Token → Option Receiver → Prop
  | none : Receives [] none
  | value {token : Token} : token.kind = .selfKeyword → Receives [token] (some .value)
  | pointer {star token : Token} : star.kind = .star → token.kind = .selfKeyword →
      Receives [star, token] (some .pointer)

/-- The result type of a function, which may be missing. -/
inductive Result (source : Text) : List Token → Option Ascription → Prop
  | none : Result source [] none
  | some {arrow : Token} {tokens : List Token} {ascription : Ascription} :
      arrow.kind = .arrow → WrittenType source tokens ascription →
        Result source (arrow :: tokens) (some ascription)

inductive Statement (source : Text) : List Token → Stmt → Prop
  | returns {keyword stop : Token} {tokens : List Token} {value : Expr} :
      keyword.kind = .returnKeyword → Expression source tokens value → stop.kind = .semicolon →
        Statement source (keyword :: (tokens ++ [stop])) (.returns value)
  | declaration {name colon stop : Token} {type initial : List Token} {ascription : Ascription}
      {value : Option Expr} : IsName name → colon.kind = .colon →
      DeclaredType source type ascription → Initial source initial value →
      stop.kind = .semicolon →
        Statement source (name :: colon :: (type ++ (initial ++ [stop])))
          (.declaration name ascription value)
  | structDefinition {name colons keyword opening closing : Token} {inside : List Token}
      {body : List Stmt} : IsName name → colons.kind = .colonColon →
      keyword.kind = .structKeyword → opening.kind = .openCurly →
      Repeated (Statement source) inside body → closing.kind = .closeCurly →
        Statement source (name :: colons :: keyword :: opening :: (inside ++ [closing]))
          (.structDefinition name body)
  | function {name colons openParen closeParen opening closing : Token}
      {parameters output inside : List Token} {receiver : Option Receiver}
      {result : Option Ascription} {body : List Stmt} : IsName name →
      colons.kind = .colonColon → openParen.kind = .openParen → Receives parameters receiver →
      closeParen.kind = .closeParen → Result source output result →
      opening.kind = .openCurly → Repeated (Statement source) inside body →
      closing.kind = .closeCurly →
        Statement source
          (name :: colons :: openParen ::
            (parameters ++ closeParen :: (output ++ opening :: (inside ++ [closing]))))
          (.function name receiver result body)
  | fieldWrite {receiver dot field operator stop : Token} {tokens : List Token} {value : Expr} :
      IsName receiver → dot.kind = .dot → field.kind = .identifier →
      operator.kind ∈ [.assignment, .plusEquals, .minusEquals] →
      Expression source tokens value → stop.kind = .semicolon →
        Statement source (receiver :: dot :: field :: operator :: (tokens ++ [stop]))
          (.fieldWrite receiver field operator.kind value)

def Program (source : Text) : List Token → List Stmt → Prop :=
  Repeated (Statement source)

end Grammar

end FrontEnd
