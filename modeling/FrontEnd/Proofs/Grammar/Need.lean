import FrontEnd.Proofs.Grammar.Derivation
import Mathlib.Order.Basic

/-!
How many levels a reading has to open for a tree. The operands to the left of an operator are read
on the level of the operator, its right operand one level deeper, so that a chain of operators
needs no more than its deepest operand and one level. Every statement and every operand has a token
that it is known by, and a tree never needs more levels than it has such tokens.
-/

namespace FrontEnd

/-- The greatest of some sizes. -/
def deepest {α : Type} (size : α → Nat) : List α → Nat
  | [] => 0
  | value :: values => max (size value) (deepest size values)

namespace Expr

mutual

/-- The number of levels that an expression is read with. -/
def need : Expr → Nat
  | .number _ _ => 1
  | .binary left _ right => max left.need (1 + right.need)
  | .structLiteral _ fields => 1 + needFields fields

def needFields : List (Token × Expr) → Nat
  | [] => 0
  | (_, value) :: rest => max value.need (needFields rest)

end

@[simp]
theorem need_number (value : Int) (token : Token) : (number value token).need = 1 := by
  rw [need]

@[simp]
theorem need_binary (left : Expr) (operator : Kind) (right : Expr) :
    (binary left operator right).need = max left.need (1 + right.need) := by
  rw [need]

@[simp]
theorem need_structLiteral (dot : Token) (fields : List (Token × Expr)) :
    (structLiteral dot fields).need = 1 + needFields fields := by
  rw [need]

theorem needFields_eq_deepest (fields : List (Token × Expr)) :
    needFields fields = deepest (fun field => field.2.need) fields := by
  induction fields with
  | nil => rw [needFields, deepest]
  | cons field rest ih => rw [needFields, deepest, ih]

theorem need_joinLeft (first : Expr) (operations : List (Kind × Expr)) :
    (Grammar.joinLeft first operations).need =
      max first.need (deepest (fun operation => 1 + operation.2.need) operations) := by
  induction operations generalizing first with
  | nil => simp [Grammar.joinLeft, deepest]
  | cons operation rest ih =>
      have hstep : Grammar.joinLeft first (operation :: rest) =
          Grammar.joinLeft (.binary first operation.1 operation.2) rest := rfl
      rw [hstep, ih, need_binary, deepest, Nat.max_assoc]

/-- However long a chain of operators is, it needs one level more than its deepest operand at
most. -/
theorem need_joinLeft_le (first : Expr) (operations : List (Kind × Expr)) :
    (Grammar.joinLeft first operations).need ≤
      deepest need (first :: operations.map Prod.snd) + 1 := by
  have hoperations : deepest (fun operation : Kind × Expr => 1 + operation.2.need) operations ≤
      deepest need (operations.map Prod.snd) + 1 := by
    induction operations with
    | nil => exact Nat.zero_le _
    | cons operation rest ih =>
        rw [List.map_cons, deepest, deepest]
        omega
  rw [need_joinLeft, deepest]
  omega

end Expr

namespace Stmt

mutual

def need : Stmt → Nat
  | .declaration _ _ none => 1
  | .declaration _ _ (some value) => 1 + value.need
  | .fieldWrite _ _ _ value => 1 + value.need
  | .structDefinition _ body => 1 + needAll body
  | .function _ _ _ body => 1 + needAll body
  | .returns value => 1 + value.need

def needAll : List Stmt → Nat
  | [] => 0
  | statement :: rest => max statement.need (needAll rest)

end

theorem needAll_eq_deepest (statements : List Stmt) :
    needAll statements = deepest need statements := by
  induction statements with
  | nil => rw [needAll, deepest]
  | cons statement rest ih => rw [needAll, deepest, ih]

end Stmt

namespace Kind

/-- The kinds that a statement or an operand is known by: each has one token of such a kind for
itself. -/
def isMark : Kind → Bool
  | returnKeyword | colon | colonColon | dot | number => true
  | _ => false

def marks (kinds : List Kind) : Nat :=
  kinds.countP isMark

@[simp]
theorem marks_nil : marks [] = 0 := rfl

@[simp]
theorem marks_cons (kind : Kind) (kinds : List Kind) :
    marks (kind :: kinds) = marks kinds + kind.isMark.toNat := by
  rw [marks, List.countP_cons, marks]
  cases kind.isMark <;> rfl

@[simp]
theorem marks_append (first second : List Kind) :
    marks (first ++ second) = marks first + marks second :=
  List.countP_append

end Kind

namespace Grammar

variable {source : Text} {tokens : List Token}

def marks (tokens : List Token) : Nat :=
  Kind.marks (tokens.map Token.kind)

theorem marks_le_length (tokens : List Token) : marks tokens ≤ tokens.length := by
  calc
    marks tokens ≤ (tokens.map Token.kind).length := List.countP_le_length
    _ = tokens.length := List.length_map _

@[simp]
theorem marks_cons (token : Token) (tokens : List Token) :
    marks (token :: tokens) = marks tokens + token.kind.isMark.toNat := by
  rw [marks, List.map_cons, Kind.marks_cons, marks]

@[simp]
theorem marks_append (first second : List Token) :
    marks (first ++ second) = marks first + marks second := by
  rw [marks, List.map_append, Kind.marks_append, marks, marks]

theorem Repeated.deepest_le_marks {α : Type} {phrase : List Token → α → Prop} {size : α → Nat}
    {bound extra : Nat} (hphrase : ∀ tokens value, tokens.length ≤ bound → phrase tokens value →
      size value ≤ extra + marks tokens)
    {values : List α} (h : Repeated phrase tokens values) (hbound : tokens.length ≤ bound) :
    deepest size values ≤ extra + marks tokens := by
  induction h with
  | nil => exact Nat.zero_le _
  | cons hfirst hrest ih =>
      rw [List.length_append] at hbound
      have hfirstLe := hphrase _ _ (by omega) hfirst
      have hrestLe := ih (by omega)
      rw [deepest, marks_append]
      omega

theorem Atom.marks_pos {value : Expr} (h : Atom source tokens value) : 0 < marks tokens := by
  cases h with
  | number hkind => simp [hkind, Kind.isMark]
  | structLiteral hdot => simp [hdot, Kind.isMark]

section Bounded

variable {bound : Nat}

theorem Fields.deepest_le_marks {expression : List Token → Expr → Prop}
    (hexpression : ∀ tokens value, tokens.length ≤ bound → expression tokens value →
      value.need ≤ marks tokens)
    {fields : List (Token × Expr)} (h : Fields expression tokens fields)
    (hbound : tokens.length ≤ bound) :
    deepest (fun field => field.2.need) fields ≤ marks tokens := by
  induction fields generalizing tokens with
  | nil => exact Nat.zero_le _
  | cons field fields ih =>
      obtain ⟨first, rest, rfl, hfield, hrest⟩ := h.uncons
      rw [List.length_append] at hbound
      have hfirst : field.2.need ≤ marks first := by
        cases hfield with
        | mk _ _ hvalue =>
            have := hexpression _ _ (by simp only [List.length_cons] at hbound; omega) hvalue
            simp only [marks_cons]
            omega
      have hothers : deepest (fun field => field.2.need) fields ≤ marks rest := by
        rcases hrest with ⟨-, rfl⟩ | ⟨comma, others, rfl, -, hothers⟩
        · exact Nat.zero_le _
        · have := ih hothers (by simp only [List.length_cons] at hbound; omega)
          simp only [marks_cons]
          omega
      rw [deepest, marks_append]
      omega

theorem Atom.need_le_marks
    (hexpression : ∀ tokens value, tokens.length ≤ bound → Expression source tokens value →
      value.need ≤ marks tokens)
    {value : Expr} (h : Atom source tokens value) (hbound : tokens.length ≤ bound + 1) :
    value.need ≤ marks tokens := by
  cases h with
  | number hkind => simp [hkind, Kind.isMark]
  | structLiteral hdot _ hfields _ =>
      simp only [List.length_cons, List.length_append] at hbound
      have := hfields.deepest_le_marks hexpression (by omega)
      simp only [Expr.need_structLiteral, Expr.needFields_eq_deepest, marks_cons, marks_append,
        hdot, Kind.isMark, Bool.toNat_true]
      omega

end Bounded

theorem Expression.need_le_marks {value : Expr} (h : Expression source tokens value) :
    value.need ≤ marks tokens := by
  suffices hall : ∀ bound tokens value, tokens.length ≤ bound → Expression source tokens value →
      value.need ≤ marks tokens from hall tokens.length tokens value (Nat.le_refl _) h
  intro bound
  induction bound with
  | zero =>
      intro tokens value hbound h
      cases h with
      | @chain first _ _ _ hatom _ =>
          have hpositive := hatom.marks_pos
          have hlength := marks_le_length first
          simp only [List.length_append] at hbound
          omega
  | succ bound ih =>
      intro tokens value hbound h
      cases h with
      | chain hatom hrest =>
          simp only [List.length_append] at hbound
          have hatomLe := hatom.need_le_marks ih (by omega)
          have hoperation : ∀ tokens (operation : Kind × Expr), tokens.length ≤ bound + 1 →
              Operation (Atom source) tokens operation →
                1 + operation.2.need ≤ 1 + marks tokens := by
            intro tokens operation hlength hoperation
            cases hoperation with
            | mk _ hoperand =>
                simp only [List.length_cons] at hlength
                have := hoperand.need_le_marks ih (by omega)
                simp only [marks_cons]
                omega
          have hrestLe := hrest.deepest_le_marks hoperation (by omega)
          -- The level of the chain itself is paid for by its first operand.
          have hpositive := hatom.marks_pos
          rw [Expr.need_joinLeft, marks_append]
          omega

theorem Initial.need_le_marks {value : Option Expr} (h : Initial source tokens value) :
    ∀ content ∈ value, content.need ≤ marks tokens := by
  cases h with
  | none => simp
  | some _ hvalue =>
      have := hvalue.need_le_marks
      simp only [Option.mem_some_iff, forall_eq', marks_cons]
      omega

theorem Statement.need_le_marks {statement : Stmt} (h : Statement source tokens statement) :
    statement.need ≤ marks tokens := by
  suffices hall : ∀ bound tokens statement, tokens.length ≤ bound →
      Statement source tokens statement → statement.need ≤ marks tokens from
    hall tokens.length tokens statement (Nat.le_refl _) h
  intro bound
  induction bound with
  | zero =>
      intro tokens statement hbound h
      cases h <;> simp at hbound
  | succ bound ih =>
      intro tokens statement hbound h
      have hstatement : ∀ tokens statement, tokens.length ≤ bound →
          Statement source tokens statement → statement.need ≤ 0 + marks tokens := by
        intro tokens statement hlength h
        rw [Nat.zero_add]
        exact ih tokens statement hlength h
      cases h with
      | returns hkeyword hvalue _ =>
          have := hvalue.need_le_marks
          simp only [Stmt.need, marks_cons, marks_append, hkeyword, Kind.isMark, Bool.toNat_true]
          omega
      | fieldWrite _ hdot _ _ hvalue _ =>
          have := hvalue.need_le_marks
          simp only [Stmt.need, marks_cons, marks_append, hdot, Kind.isMark, Bool.toNat_true]
          omega
      | @declaration _ _ _ _ _ _ value _ hcolon _ hinitial _ =>
          have := hinitial.need_le_marks
          simp only [marks_cons, marks_append, hcolon, Kind.isMark, Bool.toNat_true]
          cases value with
          | none =>
              rw [Stmt.need]
              omega
          | some content =>
              have := this content rfl
              rw [Stmt.need]
              omega
      | structDefinition _ hcolons _ _ hbody _ =>
          simp only [List.length_cons, List.length_append] at hbound
          have := hbody.deepest_le_marks hstatement (by omega)
          simp only [Stmt.need, Stmt.needAll_eq_deepest, marks_cons, marks_append, hcolons,
            Kind.isMark, Bool.toNat_true]
          omega
      | function _ hcolons _ _ _ _ _ hbody _ =>
          simp only [List.length_cons, List.length_append] at hbound
          have := hbody.deepest_le_marks hstatement (by omega)
          simp only [Stmt.need, Stmt.needAll_eq_deepest, marks_cons, marks_append, hcolons,
            Kind.isMark, Bool.toNat_true]
          omega

theorem Program.needAll_le_marks {statements : List Stmt} (h : Program source tokens statements) :
    Stmt.needAll statements ≤ marks tokens := by
  have hstatement : ∀ (part : List Token) statement, part.length ≤ tokens.length →
      Statement source part statement → statement.need ≤ 0 + marks part := by
    intro part statement _ hpart
    rw [Nat.zero_add]
    exact hpart.need_le_marks
  calc
    Stmt.needAll statements = deepest Stmt.need statements := Stmt.needAll_eq_deepest statements
    _ ≤ 0 + marks tokens := h.deepest_le_marks hstatement (Nat.le_refl _)
    _ = marks tokens := Nat.zero_add _

end Grammar

end FrontEnd
