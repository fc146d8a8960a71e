import FrontEnd.Tree.Basic

namespace FrontEnd

namespace Expr

mutual

def decideEq : (first second : Expr) → Decidable (first = second)
  | .number value token, .number otherValue otherToken =>
      decidable_of_iff (value = otherValue ∧ token = otherToken) (by simp)
  | .binary left operator right, .binary otherLeft otherOperator otherRight =>
      have := decideEq left otherLeft
      have := decideEq right otherRight
      decidable_of_iff (left = otherLeft ∧ operator = otherOperator ∧ right = otherRight)
        (by simp)
  | .structLiteral dot fields, .structLiteral otherDot otherFields =>
      have := decideEqFields fields otherFields
      decidable_of_iff (dot = otherDot ∧ fields = otherFields) (by simp)
  | .number .., .binary .. => .isFalse nofun
  | .number .., .structLiteral .. => .isFalse nofun
  | .binary .., .number .. => .isFalse nofun
  | .binary .., .structLiteral .. => .isFalse nofun
  | .structLiteral .., .number .. => .isFalse nofun
  | .structLiteral .., .binary .. => .isFalse nofun

def decideEqFields : (first second : List (Token × Expr)) → Decidable (first = second)
  | [], [] => .isTrue rfl
  | [], _ :: _ => .isFalse nofun
  | _ :: _, [] => .isFalse nofun
  | (name, value) :: rest, (otherName, otherValue) :: otherRest =>
      have := decideEq value otherValue
      have := decideEqFields rest otherRest
      decidable_of_iff ((name = otherName ∧ value = otherValue) ∧ rest = otherRest) (by simp)

end

instance : DecidableEq Expr :=
  decideEq

end Expr

namespace Stmt

mutual

def decideEq : (first second : Stmt) → Decidable (first = second)
  | .declaration name ascription value, .declaration otherName otherAscription otherValue =>
      decidable_of_iff (name = otherName ∧ ascription = otherAscription ∧ value = otherValue)
        (by simp)
  | .fieldWrite receiver field operator value,
      .fieldWrite otherReceiver otherField otherOperator otherValue =>
      decidable_of_iff
        (receiver = otherReceiver ∧ field = otherField ∧ operator = otherOperator ∧
          value = otherValue)
        (by simp)
  | .structDefinition name body, .structDefinition otherName otherBody =>
      have := decideEqAll body otherBody
      decidable_of_iff (name = otherName ∧ body = otherBody) (by simp)
  | .function name receiver result body,
      .function otherName otherReceiver otherResult otherBody =>
      have := decideEqAll body otherBody
      decidable_of_iff
        (name = otherName ∧ receiver = otherReceiver ∧ result = otherResult ∧ body = otherBody)
        (by simp)
  | .returns value, .returns otherValue => decidable_of_iff (value = otherValue) (by simp)
  | .declaration .., .fieldWrite .. => .isFalse nofun
  | .declaration .., .structDefinition .. => .isFalse nofun
  | .declaration .., .function .. => .isFalse nofun
  | .declaration .., .returns .. => .isFalse nofun
  | .fieldWrite .., .declaration .. => .isFalse nofun
  | .fieldWrite .., .structDefinition .. => .isFalse nofun
  | .fieldWrite .., .function .. => .isFalse nofun
  | .fieldWrite .., .returns .. => .isFalse nofun
  | .structDefinition .., .declaration .. => .isFalse nofun
  | .structDefinition .., .fieldWrite .. => .isFalse nofun
  | .structDefinition .., .function .. => .isFalse nofun
  | .structDefinition .., .returns .. => .isFalse nofun
  | .function .., .declaration .. => .isFalse nofun
  | .function .., .fieldWrite .. => .isFalse nofun
  | .function .., .structDefinition .. => .isFalse nofun
  | .function .., .returns .. => .isFalse nofun
  | .returns .., .declaration .. => .isFalse nofun
  | .returns .., .fieldWrite .. => .isFalse nofun
  | .returns .., .structDefinition .. => .isFalse nofun
  | .returns .., .function .. => .isFalse nofun

def decideEqAll : (first second : List Stmt) → Decidable (first = second)
  | [], [] => .isTrue rfl
  | [], _ :: _ => .isFalse nofun
  | _ :: _, [] => .isFalse nofun
  | statement :: rest, otherStatement :: otherRest =>
      have := decideEq statement otherStatement
      have := decideEqAll rest otherRest
      decidable_of_iff (statement = otherStatement ∧ rest = otherRest) (by simp)

end

instance : DecidableEq Stmt :=
  decideEq

end Stmt

end FrontEnd
