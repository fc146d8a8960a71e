import FrontEnd.Token.Basic

namespace FrontEnd

/-- Types that are known without a definition. -/
inductive Primitive where
  | i32
  deriving DecidableEq, Repr

def Primitive.ofName? (name : Text) : Option Primitive :=
  if name = "i32".toList then some .i32 else none

/-- What a declaration or a result says about its type. -/
inductive Ascription where
  | primitive (type : Primitive)
  /-- The struct that the token names. -/
  | named (name : Token)
  /-- No type is written. -/
  | inferred
  deriving DecidableEq, Repr

def Ascription.isInferred : Ascription → Bool
  | .inferred => true
  | _ => false

/-- How a method takes the value that it is called on. -/
inductive Receiver where
  /-- As `self`. -/
  | value
  /-- As `*self`. -/
  | pointer
  deriving DecidableEq, Repr

inductive Expr where
  | number (value : Int) (token : Token)
  | binary (left : Expr) (operator : Kind) (right : Expr)
  /-- A struct literal, with its fields in the order in which they are written. -/
  | structLiteral (dot : Token) (fields : List (Token × Expr))
  deriving Repr

inductive Stmt where
  /-- The form `name: type = value;`, where the type, the value or both may be missing. -/
  | declaration (name : Token) (ascription : Ascription) (value : Option Expr)
  /-- The form `receiver.field = value;`, or the same with `+=` or `-=`. -/
  | fieldWrite (receiver field : Token) (operator : Kind) (value : Expr)
  /-- The form `name :: struct` and a block. -/
  | structDefinition (name : Token) (body : List Stmt)
  /-- The form `name :: (receiver) -> result` and a block. Receiver and result may be missing. -/
  | function (name : Token) (receiver : Option Receiver) (result : Option Ascription)
      (body : List Stmt)
  /-- The form `return value;`. -/
  | returns (value : Expr)
  deriving Repr

namespace Stmt

/-- Whether a statement writes to a field of `self`. -/
def isSelfWrite : Stmt → Bool
  | fieldWrite receiver _ _ _ => receiver.kind == .selfKeyword
  | _ => false

/-- Whether a statement defines a function that is called on a value. -/
def isMethod : Stmt → Bool
  | function _ receiver _ _ => receiver.isSome
  | _ => false

end Stmt

end FrontEnd
