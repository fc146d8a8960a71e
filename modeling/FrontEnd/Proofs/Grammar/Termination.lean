import FrontEnd.Proofs.Grammar.Loops
import FrontEnd.Proofs.Grammar.Recursion
import Mathlib.Order.Filter.AtTopBot.Basic

/-!
The recursion of the grammar ends, whatever the tables say. A routine may call another without
having consumed a token, but then a level more is open or the other is simpler; and a loop may go
round without opening a level, but then it has consumed a token. So the induction is on the levels
that may still be opened and, for each loop, on the tokens that are left.
-/

namespace FrontEnd

open Filter Reading

namespace Attempt

variable {α β : Type}

/-- An attempt that has the outcome of a reading, and has consumed enough if it ends well. -/
inductive Ends (consumed : Nat) (tokens : List Token) (values : α → β → Prop) :
    Option (Outcome α) → Outcome β → Prop
  | ok {value : α} {other : β} {rest : List Token} : values value other → rest <:+ tokens →
      rest.length + consumed ≤ tokens.length →
        Ends consumed tokens values (some (.ok value rest)) (.ok other rest)
  | error {problem : Diagnostic} {rest : List Token} :
      Ends consumed tokens values (some (.error problem rest)) (.error problem rest)
  | fault {rest : List Token} {opened : Nat} :
      Ends consumed tokens values (some (.fault rest opened)) (.fault rest opened)

section Outcomes

variable {consumed less more : Nat} {tokens rest : List Token} {values wider : α → β → Prop}
  {attempted : Option (Outcome α)} {outcome : Outcome β}

theorem Ends.mono (h : Ends consumed tokens values attempted outcome) (hless : less ≤ consumed)
    (hwider : ∀ value other, values value other → wider value other) :
    Ends less tokens wider attempted outcome := by
  cases h with
  | ok hvalue hrest hconsumed => exact .ok (hwider _ _ hvalue) hrest (by omega)
  | error => exact .error
  | fault => exact .fault

theorem Ends.within (h : Ends more rest values attempted outcome) (hrest : rest <:+ tokens)
    (hconsumed : rest.length + consumed ≤ tokens.length) :
    Ends (consumed + more) tokens values attempted outcome := by
  cases h with
  | ok hvalue hlast hmore => exact .ok hvalue (hlast.trans hrest) (by omega)
  | error => exact .error
  | fault => exact .fault

theorem Ends.eq {outcome : Outcome α} (h : Ends consumed tokens Eq attempted outcome) :
    attempted = some outcome := by
  cases h with
  | ok hvalue => rw [hvalue]
  | error => rfl
  | fault => rfl

theorem Ends.advances {value : β} (h : Ends 1 tokens values attempted (.ok value rest)) :
    ∃ first passed, tokens = first :: passed ++ rest := by
  cases h with
  | ok _ hrest hconsumed =>
      obtain ⟨passed, rfl⟩ := hrest
      cases passed with
      | nil => exact absurd hconsumed (Nat.not_succ_le_self _)
      | cons first passed => exact ⟨first, passed, rfl⟩

end Outcomes

variable (setting : Setting)

/-- On fewer tokens than the bound the attempt has the outcome of the reading. -/
def Relates (consumed bound : Nat) (values : α → β → Prop) (attempt : Attempt α)
    (reading : Reading β) : Prop :=
  ∀ tokens, tokens.length < bound →
    Ends consumed tokens values (attempt setting tokens) (reading setting tokens)

theorem Relates.bind {γ δ : Type} {consumed more bound : Nat} {values : α → β → Prop}
    {results : γ → δ → Prop} {attempt : Attempt α} {reading : Reading β} {next : α → Attempt γ}
    {otherNext : β → Reading δ} (h : Relates setting consumed bound values attempt reading)
    (hnext : ∀ value other, values value other →
      Relates setting more (bound - consumed) results (next value) (otherNext other)) :
    Relates setting (consumed + more) bound results (attempt >>= next)
      (reading >>= otherNext) := by
  intro tokens hbound
  have hfirst := h tokens hbound
  generalize hattempt : attempt setting tokens = attempted at hfirst
  generalize hreading : reading setting tokens = outcome at hfirst
  change Ends _ _ _ (Attempt.bind attempt next setting tokens) _
  rw [Attempt.bind, hattempt]
  cases hfirst with
  | @ok value other rest hvalue hrest hconsumed =>
      rw [bind_of_ok hreading]
      exact (hnext value other hvalue rest (by omega)).within hrest hconsumed
  | error =>
      rw [bind_of_error hreading]
      exact .error
  | fault =>
      rw [bind_of_fault hreading]
      exact .fault

def correspondence : Correspondence Attempt Reading where
  tokens := Eq
  spells _ _ := True
  tables _ := True
  relates := Relates setting
  kind_eq := @Token.kind_congr
  weaken h hless hfewer hwider tokens hlength :=
    (h tokens (Nat.lt_of_lt_of_le hlength hfewer)).mono hless hwider
  pure hvalue _ _ := .ok hvalue List.suffix_rfl (Nat.le_refl _)
  bind := Relates.bind setting
  current? tokens _ := by
    refine .ok ?_ List.suffix_rfl (Nat.le_refl _)
    cases tokens with
    | nil => exact .none
    | cons token tokens => exact .some rfl
  peek? _ _ _ := .ok rfl List.suffix_rfl (Nat.le_refl _)
  skip tokens _ := .ok rfl (List.tail_suffix tokens) (by simp)
  remaining _ _ := .ok rfl List.suffix_rfl (Nat.le_refl _)
  rules _ _ := .ok ⟨rfl, trivial⟩ List.suffix_rfl (Nat.le_refl _)
  lexeme := by
    rintro _ token _ rfl tokens _
    change Ends _ _ _ (some ((Reads.lexeme token : Reading Text) setting tokens)) _
    cases hlexeme : token.lexeme? setting.source with
    | none =>
        rw [lexeme_of_none hlexeme]
        exact .fault
    | some text =>
        rw [lexeme_of_some hlexeme]
        exact .ok ⟨rfl, trivial⟩ List.suffix_rfl (Nat.le_refl _)
  failAt := by
    rintro _ _ _ _ _ token _ cause rfl _ _ tokens _
    exact .error
  currentOr _ tokens _ := by
    cases tokens with
    | nil => exact .error
    | cons token tokens => exact .ok rfl List.suffix_rfl (Nat.le_refl _)
  advanceOr _ tokens _ := by
    cases tokens with
    | nil => exact .error
    | cons token tokens => exact .ok rfl (List.suffix_cons token tokens) (Nat.le_refl _)

def trees : TreeRelation (correspondence setting).tokens :=
  .same id

variable {setting} {consumed bound : Nat} {values : α → β → Prop}

theorem relates_zero (attempt : Attempt α) (reading : Reading β) :
    (correspondence setting).relates consumed 0 values attempt reading :=
  fun _ hlength => absurd hlength (Nat.not_lt_zero _)

theorem nested_relates {depth : Nat} {attempt : Attempt α} {reading : Reading β}
    (hdepth : depth < setting.limit)
    (h : (correspondence setting).relates consumed bound values attempt reading) :
    (correspondence setting).relates consumed bound values (nested depth attempt)
      (inLevel reading) := by
  intro tokens hlength
  have hinside := h tokens hlength
  generalize hattempt : attempt setting tokens = attempted at hinside
  generalize hreading : reading setting tokens = outcome at hinside
  rw [nested, if_neg (Nat.not_le_of_lt hdepth), hattempt]
  cases hinside with
  | ok hvalue hrest hconsumed =>
      rw [inLevel_of_ok hreading]
      exact .ok hvalue hrest hconsumed
  | error =>
      rw [inLevel_of_error hreading]
      exact .error
  | fault =>
      rw [inLevel_of_fault hreading]
      exact .fault

theorem nested_relates_tooDeep {depth : Nat} (hdepth : setting.limit ≤ depth)
    (attempt : Attempt α) :
    (correspondence setting).relates consumed bound values (nested depth attempt) tooDeep := by
  intro tokens _
  rw [nested, if_pos hdepth]
  exact .error

end Attempt

namespace Routine

variable {α : Type} {setting : Setting} {depth : Nat}

theorem eventually_of_succ {property : Nat → Prop} (h : ∀ᶠ calls in atTop, property (calls + 1)) :
    ∀ᶠ calls in atTop, property calls := by
  rwa [← map_add_atTop_eq_nat 1, eventually_map]

section Expressions

variable {expressions : Power → Reading Expr} (hforward : ∀ power, Forward (expressions power))
  (hexpression : ∀ bound, ∀ᶠ calls in atTop, ∀ power,
    (Attempt.correspondence setting).relates 1 bound Eq (run calls (.expression depth power))
      (expressions power))

include hforward hexpression

theorem fields_relates (bound : Nat) : ∀ᶠ calls in atTop,
    (Attempt.correspondence setting).relates 0 bound Eq (run calls (.fields depth))
      (Expr.readAllFields (expressions .lowest)) := by
  induction bound with
  | zero => exact .of_forall fun _ => Attempt.relates_zero _ _
  | succ bound ih =>
      apply eventually_of_succ
      rw [Expr.readAllFields_eq (hforward _)]
      filter_upwards [hexpression bound, ih] with calls hvalue hmore
      exact Expr.fieldsRound_relates _ (Attempt.trees setting) (hvalue .lowest).forget hmore

theorem operand_relates (bound : Nat) : ∀ᶠ calls in atTop, ∀ rule,
    (Attempt.correspondence setting).relates 1 (bound + 1) Eq (run calls (.operand depth rule))
      (Expr.readOperand (Expr.readAllFields (expressions .lowest)) rule) := by
  apply eventually_of_succ
  filter_upwards [fields_relates hforward hexpression bound] with calls hfields rule
  exact Expr.readOperand_relates _ (Attempt.trees setting) hfields rule

theorem operators_relates (bound : Nat) : ∀ᶠ calls in atTop, ∀ power left,
    (Attempt.correspondence setting).relates 0 bound Eq (run calls (.operators depth power left))
      (Expr.readAllOperators expressions power left) := by
  induction bound with
  | zero => exact .of_forall fun _ _ _ => Attempt.relates_zero _ _
  | succ bound ih =>
      have hbinary : ∀ᶠ calls in atTop, ∀ left operator,
          (Attempt.correspondence setting).relates 1 (bound + 1) Eq
            (run calls (.binary depth left operator))
            (Expr.readBinary expressions left operator) := by
        apply eventually_of_succ
        filter_upwards [hexpression bound] with calls hexpression left operator
        rw [run, body]
        exact Expr.readBinary_relates _ (Attempt.trees setting) rfl (hexpression operator).forget
      apply eventually_of_succ
      filter_upwards [hbinary, ih] with calls hbinary hmore power left
      rw [Expr.readAllOperators_eq hforward, run, body]
      refine Expr.operatorsRound_relates _ (Attempt.trees setting) ?_ ?_ power rfl
      · rintro left _ operator rfl
        exact hbinary left operator
      · rintro left _ rfl
        exact hmore power left

end Expressions

theorem expression_relates {room : Nat} (hroom : setting.limit - depth = room) (bound : Nat) :
    ∀ᶠ calls in atTop, ∀ power,
      (Attempt.correspondence setting).relates 1 bound Eq (run calls (.expression depth power))
        (Expr.read room power) := by
  induction room generalizing depth bound with
  | zero =>
      refine eventually_of_succ (.of_forall fun calls power => ?_)
      exact Attempt.nested_relates_tooDeep (Nat.le_of_sub_eq_zero hroom) _
  | succ room ih =>
      have hexpression := fun bound => @ih (depth + 1) (by omega) bound
      apply eventually_of_succ
      filter_upwards [operand_relates (Expr.read_forward room) hexpression bound,
        operators_relates (Expr.read_forward room) hexpression bound]
        with calls hoperand hoperators power
      rw [run, body]
      refine Attempt.nested_relates (by omega) ?_
      refine (Expr.readChain_relates _ (Attempt.trees setting) hoperand ?_).fewer
        (Nat.le_succ bound)
      rintro left _ rfl
      exact hoperators power left

section Statements

variable {statements : Reading Stmt} {expression : Reading Expr}
  (hstatement : ∀ bound, ∀ᶠ calls in atTop,
    (Attempt.correspondence setting).relates 1 bound Eq (run calls (.statement depth)) statements)
  (hprogressive : Progressive statements)

include hstatement hprogressive

theorem blockStatements_relates (bound : Nat) : ∀ᶠ calls in atTop,
    (Attempt.correspondence setting).relates 0 bound Eq (run calls (.blockStatements depth))
      (Stmt.readAllBlockStatements statements) := by
  induction bound with
  | zero => exact .of_forall fun _ => Attempt.relates_zero _ _
  | succ bound ih =>
      apply eventually_of_succ
      rw [Stmt.readAllBlockStatements_eq hprogressive]
      filter_upwards [hstatement (bound + 1), ih] with calls hstatement hmore
      exact Stmt.blockRound_relates _ (Attempt.trees setting) hstatement hmore

theorem block_relates (bound : Nat) : ∀ᶠ calls in atTop,
    (Attempt.correspondence setting).relates 1 bound Eq (run calls (.block depth))
      (Stmt.readBlock (Stmt.readAllBlockStatements statements)) := by
  apply eventually_of_succ
  filter_upwards [blockStatements_relates hstatement hprogressive bound] with calls hstatements
  exact Stmt.readBlock_relates _ (Attempt.trees setting) hstatements

variable (hexpression : ∀ bound, ∀ᶠ calls in atTop,
  (Attempt.correspondence setting).relates 1 bound Eq (run calls (.expression depth .lowest))
    expression)

include hexpression

theorem statementBy_relates (bound : Nat) : ∀ᶠ calls in atTop, ∀ rule,
    (Attempt.correspondence setting).relates 1 (bound + 1) Eq (run calls (.statementBy depth rule))
      (Stmt.readBy statements (Stmt.readBlock (Stmt.readAllBlockStatements statements)) expression
        rule) := by
  apply eventually_of_succ
  filter_upwards [hstatement (bound + 1), block_relates hstatement hprogressive bound,
    hexpression bound] with calls hstatement hblock hexpression rule
  exact Stmt.readBy_relates _ (Attempt.trees setting) hblock.forget hexpression.forget
    fun _ => hstatement

end Statements

theorem statement_relates {room : Nat} (hroom : setting.limit - depth = room) (bound : Nat) :
    ∀ᶠ calls in atTop, (Attempt.correspondence setting).relates 1 bound Eq
      (run calls (.statement depth)) (Stmt.read room) := by
  induction room generalizing depth bound with
  | zero =>
      refine eventually_of_succ (.of_forall fun calls => ?_)
      exact Attempt.nested_relates_tooDeep (Nat.le_of_sub_eq_zero hroom) _
  | succ room ih =>
      have hdepth : setting.limit - (depth + 1) = room := by omega
      have hexpression (bound : Nat) := (expression_relates hdepth bound).mono fun _ h => h .lowest
      apply eventually_of_succ
      filter_upwards [statementBy_relates (fun bound => ih hdepth bound)
        (Stmt.read_progressive room) hexpression bound] with calls hstatementBy
      rw [run, body]
      refine Attempt.nested_relates (by omega) ?_
      exact (Stmt.readByTable_relates _ (Attempt.trees setting)
        fun _ _ rule _ _ => hstatementBy rule).fewer (Nat.le_succ bound)

theorem program_relates (bound : Nat) : ∀ᶠ calls in atTop,
    (Attempt.correspondence setting).relates 0 bound Eq (run calls .program)
      (Stmt.readAllStatements (Stmt.read setting.limit)) := by
  induction bound with
  | zero => exact .of_forall fun _ => Attempt.relates_zero _ _
  | succ bound ih =>
      apply eventually_of_succ
      rw [Stmt.readAllStatements_eq (Stmt.read_progressive _)]
      filter_upwards [statement_relates (Nat.sub_zero _) (bound + 1), ih]
        with calls hstatement hmore
      exact Stmt.programRound_relates _ (Attempt.trees setting) hstatement hmore

/-- Attempts that have the outcome of a reading if their calls may be nested deeply enough. -/
def Settles (setting : Setting) (tokens : List Token) (attempt : Nat → Attempt α)
    (reading : Reading α) : Prop :=
  ∃ calls, ∀ more, calls ≤ more → attempt more setting tokens = some (reading setting tokens)

/-- A routine that ends on all tokens, with the outcome of a reading, and that has consumed at least
one token if it ends well. -/
structure Advances (setting : Setting) (routine : Routine α) (reading : Reading α) : Prop where
  ends : ∀ tokens, Settles setting tokens (fun calls => run calls routine) reading
  advances : ∀ tokens value rest, reading setting tokens = .ok value rest →
    ∃ first passed, tokens = first :: passed ++ rest

theorem Settles.of_relates {routine : Routine α} {reading : Reading α} {consumed : Nat}
    (h : ∀ bound, ∀ᶠ calls in atTop,
      (Attempt.correspondence setting).relates consumed bound Eq (run calls routine) reading)
    (tokens : List Token) : Settles setting tokens (fun calls => run calls routine) reading := by
  obtain ⟨calls, hcalls⟩ := eventually_atTop.mp (h (tokens.length + 1))
  exact ⟨calls, fun more hmore => (hcalls more hmore tokens (Nat.lt_succ_self _)).eq⟩

theorem Advances.of_relates {routine : Routine α} {reading : Reading α}
    (h : ∀ bound, ∀ᶠ calls in atTop,
      (Attempt.correspondence setting).relates 1 bound Eq (run calls routine) reading) :
    Advances setting routine reading where
  ends := .of_relates h
  advances := by
    intro tokens value rest hok
    obtain ⟨calls, hcalls⟩ := (h (tokens.length + 1)).exists
    have hends := hcalls tokens (Nat.lt_succ_self _)
    rw [hok] at hends
    exact hends.advances

/-- Under any tables and any limit, with any number of levels open, every statement, expression,
block and rule ends, and has got ahead if it ends well; so every loop ends, and a program is read to
the last token. -/
theorem recursion_ends (setting : Setting) (depth : Nat) :
    let statements := Stmt.read (setting.limit - depth)
    let expressions := Expr.read (setting.limit - depth)
    let block := Stmt.readBlock (Stmt.readAllBlockStatements statements)
    Advances setting (.statement depth) statements ∧
      (∀ power, Advances setting (.expression depth power) (expressions power)) ∧
      Advances setting (.block depth) block ∧
      (∀ rule, Advances setting (.statementBy depth rule)
        (Stmt.readBy statements block (expressions .lowest) rule)) ∧
      (∀ rule, Advances setting (.operand depth rule)
        (Expr.readOperand (Expr.readAllFields (expressions .lowest)) rule)) ∧
      ∀ tokens,
        Settles setting tokens (fun calls => run calls (.fields depth))
          (Expr.readAllFields (expressions .lowest)) ∧
        (∀ power left, Settles setting tokens (fun calls => run calls (.operators depth power left))
          (Expr.readAllOperators expressions power left)) ∧
        Settles setting tokens (fun calls => run calls (.blockStatements depth))
          (Stmt.readAllBlockStatements statements) ∧
        Settles setting tokens (fun calls => run calls .program)
          (Stmt.readAllStatements (Stmt.read setting.limit)) ∧
        ∀ trees rest, Stmt.readAllStatements (Stmt.read setting.limit) setting tokens =
          .ok trees rest → rest = [] := by
  intro statements expressions block
  have hstatement := @statement_relates setting depth _ rfl
  have hexpression := @expression_relates setting depth _ rfl
  have hprogressive : Progressive statements := Stmt.read_progressive _
  have hforward : ∀ power, Forward (expressions power) := Expr.read_forward _
  refine ⟨.of_relates hstatement, fun power => .of_relates fun bound => ?_,
    .of_relates (block_relates hstatement hprogressive), fun rule => .of_relates fun bound => ?_,
    fun rule => .of_relates fun bound => ?_, fun tokens =>
      ⟨.of_relates (fields_relates hforward hexpression) tokens, fun power left => ?_,
        .of_relates (blockStatements_relates hstatement hprogressive) tokens,
        .of_relates program_relates tokens, fun trees rest hread => ?_⟩⟩
  · exact (hexpression bound).mono fun _ h => h power
  · have hlowest := fun bound => (hexpression bound).mono fun _ h => h Power.lowest
    filter_upwards [statementBy_relates hstatement hprogressive hlowest bound] with calls h
    exact (h rule).fewer (Nat.le_succ bound)
  · filter_upwards [operand_relates hforward hexpression bound] with calls h
    exact (h rule).fewer (Nat.le_succ bound)
  · have hoperators := fun bound =>
      (operators_relates hforward hexpression bound).mono fun _ h => h power left
    exact .of_relates hoperators tokens
  · exact Stmt.rest_eq_nil_of_readAllStatements (Stmt.read_progressive _) hread

end Routine

end FrontEnd
