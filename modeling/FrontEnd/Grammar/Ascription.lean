import FrontEnd.Grammar.Reading
import FrontEnd.Tree.Basic

namespace FrontEnd

open Reads

namespace Ascription

variable {m : Type → Type} [Reads m]

/-- An ascription that is written out. -/
def read : m Ascription := do
  let token ← currentOr "a type"
  match token.kind with
  | .identifier =>
      skip
      let name ← lexeme token
      match Primitive.ofName? name with
      | some type => return .primitive type
      | none => return .named token
  | .structKeyword => unsupported token "anonymous struct type"
  | _ => unexpected token "expected a type"

/-- The ascription of a declaration, which is missing where the value or the end follows at once. -/
def readDeclared : m Ascription := do
  match ← kind? with
  | some .assignment | some .semicolon => return .inferred
  | _ => read

end Ascription

end FrontEnd
