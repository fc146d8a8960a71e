import FrontEnd.Grammar.Session
import FrontEnd.Proofs.Grammar.Correspondence
import FrontEnd.Proofs.Grammar.ReadingLaws

namespace FrontEnd

open Reading

/-- What is read one level deeper. -/
inductive Nonterminal where
  | expression (power : Power)
  | statement

namespace Nonterminal

def Tree : Nonterminal → Type
  | expression _ => Expr
  | statement => Stmt

def read (room : Nat) : (nonterminal : Nonterminal) → Reading nonterminal.Tree
  | expression power => Expr.read room power
  | statement => Stmt.read room

end Nonterminal

/-- Actions that lead to a value. -/
inductive Script (α : Type) where
  | done (value : α)
  /-- Looks at the rules and at the tokens that are left. -/
  | look (next : Rules → List Token → Script α)
  /-- Passes over the current token, if there is one. -/
  | pass (next : Script α)
  /-- Cuts the lexeme of a token out of the text. -/
  | cut (token : Token) (next : Text → Script α)
  | refuse (token : Token) (cause : Cause)
  /-- Fails for want of more tokens. -/
  | missing (expected : String)
  | call (nonterminal : Nonterminal) (next : nonterminal.Tree → Script α)

namespace Script

variable {α β : Type}

def bind (script : Script α) (next : α → Script β) : Script β :=
  match script with
  | done value => next value
  | look more => .look fun rules tokens => (more rules tokens).bind next
  | pass more => .pass (more.bind next)
  | cut token more => .cut token fun text => (more text).bind next
  | refuse token cause => .refuse token cause
  | missing expected => .missing expected
  | call nonterminal more => .call nonterminal fun tree => (more tree).bind next

instance : Reads Script where
  pure := done
  bind := bind
  current? := .look fun _ tokens => .done tokens.head?
  peek? distance := .look fun _ tokens => .done (tokens[distance]?.map Token.kind)
  skip := .pass (.done ())
  remaining := .look fun _ tokens => .done tokens.length
  rules := .look fun rules _ => .done rules
  lexeme token := .cut token .done
  failAt := .refuse
  endOfInput := .missing

def expression (power : Power) : Script Expr :=
  .call (.expression power) .done

def statement : Script Stmt :=
  .call .statement .done

variable (answer : (nonterminal : Nonterminal) → Reading nonterminal.Tree)

/-- The reading that a script gives with the readings that its calls are answered by. -/
def reading : Script α → Reading α
  | done value => Pure.pure value
  | look next => fun setting tokens => (next setting.rules tokens).reading setting tokens
  | pass next => Reads.skip >>= fun _ => next.reading
  | cut token next => Reads.lexeme token >>= fun text => (next text).reading
  | refuse token cause => Reads.failAt token cause
  | missing expected => Reads.endOfInput expected
  | call nonterminal next => answer nonterminal >>= fun tree => (next tree).reading

theorem reading_bind (script : Script α) (next : α → Script β) :
    (script >>= next).reading answer =
      script.reading answer >>= fun value => (next value).reading answer := by
  induction script with
  | done value => rfl
  | look more ih =>
      funext setting tokens
      exact congrFun (congrFun (ih setting.rules tokens) setting) tokens
  | pass more ih =>
      change (Reads.skip >>= fun _ => (more >>= next).reading answer) = _
      rw [ih]
      exact (bind_assoc ..).symm
  | cut token more ih =>
      change (Reads.lexeme token >>= fun text => (more text >>= next).reading answer) = _
      rw [funext ih]
      exact (bind_assoc ..).symm
  | refuse token cause => rfl
  | missing expected => rfl
  | call nonterminal more ih =>
      change (answer nonterminal >>= fun tree => (more tree >>= next).reading answer) = _
      rw [funext ih]
      exact (bind_assoc ..).symm

/-- A script and a reading correspond if the script gives that reading. -/
def correspondence : Correspondence Script Reading where
  tokens := Eq
  spells _ _ := True
  tables _ := True
  relates _ _ values script other :=
    ∀ setting tokens, (script.reading answer setting tokens).Alike values (other setting tokens)
  kind_eq := @Token.kind_congr
  weaken h _ _ hwider setting tokens := (h setting tokens).mono hwider
  pure hvalue _ _ := .ok hvalue
  bind h hnext setting tokens := by
    rw [reading_bind]
    exact bind_alike (h setting tokens) fun _ _ rest _ hvalue => hnext _ _ hvalue setting rest
  current? _ tokens := by
    cases tokens with
    | nil => exact .ok .none
    | cons token tokens => exact .ok (.some rfl)
  peek? _ _ _ := .ok rfl
  skip _ _ := .ok rfl
  remaining _ _ := .ok rfl
  rules _ _ := .ok ⟨rfl, trivial⟩
  lexeme := by
    rintro _ token _ rfl setting tokens
    change (((Reads.lexeme token : Reading Text) >>= fun text => Pure.pure text) setting
      tokens).Alike _ _
    cases hlexeme : token.lexeme? setting.source with
    | none =>
        rw [bind_of_fault (lexeme_of_none hlexeme), lexeme_of_none hlexeme]
        exact .fault
    | some text =>
        rw [lexeme_bind hlexeme, lexeme_of_some hlexeme]
        exact .ok ⟨rfl, trivial⟩
  failAt := by
    rintro _ _ _ _ _ token _ cause rfl _ _ setting tokens
    exact .error
  currentOr _ _ tokens := by
    cases tokens with
    | nil => exact .error
    | cons token tokens => exact .ok rfl
  advanceOr _ _ tokens := by
    cases tokens with
    | nil => exact .error
    | cons token tokens => exact .ok rfl

def trees : TreeRelation (correspondence answer).tokens :=
  .same id

variable {answer} {consumed bound : Nat}

theorem relates_iff {script : Script α} {other : Reading α} :
    (correspondence answer).relates consumed bound Eq script other ↔
      script.reading answer = other := by
  constructor
  · intro h
    funext setting tokens
    exact (h setting tokens).eq
  · rintro rfl setting tokens
    exact .refl _

theorem call_relates (nonterminal : Nonterminal) :
    (correspondence answer).relates consumed bound Eq (.call nonterminal .done)
      (answer nonterminal) := by
  intro setting tokens
  change ((answer nonterminal >>= fun tree => Pure.pure tree) setting tokens).Alike _ _
  rw [bind_apply]
  cases answer nonterminal setting tokens with
  | ok tree rest => exact .ok rfl
  | error problem rest => exact .error
  | fault rest opened => exact .fault

end Script

namespace Nonterminal

/-- What is done inside the level that a nonterminal opens. -/
def script : (nonterminal : Nonterminal) → Script nonterminal.Tree
  | expression power => Expr.readInside Script.expression power
  | statement => Stmt.readInside Script.statement (Script.expression .lowest)

theorem read_zero (nonterminal : Nonterminal) : nonterminal.read 0 = tooDeep := by
  cases nonterminal <;> rfl

theorem expression_relates (room bound : Nat) (power : Power) :
    (Script.correspondence (read room)).relates 0 bound Eq (Script.expression power)
      (Expr.read room power) :=
  Script.call_relates (expression power)

theorem statement_relates (room consumed bound : Nat) :
    (Script.correspondence (read room)).relates consumed bound Eq Script.statement
      (Stmt.read room) :=
  Script.call_relates statement

theorem read_succ (room : Nat) (nonterminal : Nonterminal) :
    nonterminal.read (room + 1) = inLevel (nonterminal.script.reading (read room)) := by
  have hexpression (power : Power) := expression_relates room 0 power
  have hstatement := statement_relates room 1 1
  cases nonterminal with
  | expression power =>
      have hinside := Expr.readInside_relates _ (Script.trees _) hexpression power
      exact congrArg inLevel (Script.relates_iff.mp hinside).symm
  | statement =>
      have hinside := Stmt.readInside_relates _ (Script.trees _)
        (hstatement.forget.fewer (Nat.zero_le 1)) (hexpression .lowest) fun _ _ _ _ => hstatement
      exact congrArg inLevel (Script.relates_iff.mp hinside).symm

end Nonterminal

namespace Step

def script (step : Step) : Script Answer :=
  step.action Script.expression Script.statement

theorem atCurrent_relates {m n : Type → Type} [Reads m] [Reads n] (alike : Correspondence m n)
    {bound : Nat} {action : Token → m Answer} {other : Token → n Answer}
    (h : ∀ token otherToken, alike.tokens token otherToken →
      alike.relates 0 bound Eq (action token) (other otherToken)) (otherwise : Answer) :
    alike.relates 0 bound Eq (atCurrent action otherwise) (atCurrent other otherwise) := by
  refine alike.current?.bind fun current otherCurrent hcurrent => ?_
  cases hcurrent with
  | none => exact alike.pure rfl
  | some htoken => exact h _ _ htoken

theorem script_relates (room : Nat) (step : Step) :
    (Script.correspondence (Nonterminal.read room)).relates 0 1 Eq step.script
      (step.action (Expr.read room) (Stmt.read room)) := by
  let alike := Script.correspondence (Nonterminal.read room)
  let trees := Script.trees (Nonterminal.read room)
  have hexpression (power : Power) := Nonterminal.expression_relates room 0 power
  have hstatement := Nonterminal.statement_relates room 1 1
  have hstatements := Stmt.readBlock_relates alike trees
    (Stmt.readAllBlockStatements_relates alike trees (hstatement.forget.fewer (Nat.zero_le 1)))
  cases step with
  | current =>
      refine alike.current?.bind fun token other htoken => alike.pure ?_
      rw [eq_of_rel id htoken]
  | kind => exact alike.kind?.bind_eq fun _ => alike.pure rfl
  | peek distance => exact (alike.peek? distance).bind_eq fun _ => alike.pure rfl
  | advance =>
      refine alike.advance?.bind fun token other htoken => alike.pure ?_
      rw [eq_of_rel id htoken]
  | expect kind => exact (alike.expect kind).forget.bind_eq fun _ => alike.pure rfl
  | lexeme =>
      refine atCurrent_relates alike (fun token other htoken => (alike.lexeme htoken).bind ?_) _
      rintro text _ ⟨rfl, -⟩
      exact alike.pure rfl
  | endOfInput expected => exact Script.relates_iff.mpr rfl
  | unexpected message =>
      refine atCurrent_relates alike (fun token _ htoken => Script.relates_iff.mpr ?_) _
      rw [htoken]
      rfl
  | unsupported construct =>
      refine atCurrent_relates alike (fun token _ htoken => Script.relates_iff.mpr ?_) _
      rw [htoken]
      rfl
  | rulesFor kind =>
      refine alike.rules.bind ?_
      rintro rules _ ⟨rfl, -⟩
      exact alike.pure rfl
  | expression power =>
      exact (Nonterminal.expression_relates room 1 power).bind_eq fun _ => alike.pure rfl
  | binary left power =>
      exact (Expr.readBinary_relates alike trees rfl (hexpression power)).forget.bind_eq
        fun _ => alike.pure rfl
  | operand rule =>
      have hfields := Expr.readAllFields_relates alike trees (hexpression .lowest)
      exact (Expr.readOperand_relates alike trees hfields rule).forget.bind_eq
        fun _ => alike.pure rfl
  | statement rule =>
      exact (Stmt.readBy_relates alike trees hstatements.forget (hexpression .lowest)
        fun _ => hstatement).forget.bind_eq fun _ => alike.pure rfl
  | block => exact hstatements.forget.bind_eq fun _ => alike.pure rfl
  | ascription =>
      refine (Ascription.read_relates alike).bind fun type other htype => alike.pure ?_
      rw [htype.eq id]
  | declaredAscription =>
      refine (Ascription.readDeclared_relates alike).bind fun type other htype => alike.pure ?_
      rw [htype.eq id]
  | addStandardRules | setOperand | setOperator | setStatement | nested => exact alike.pure rfl

end Step

end FrontEnd
