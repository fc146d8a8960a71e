import FrontEnd.Tree.Equality
import FrontEnd.Proofs.Grammar.Acceptance

/-!
Precedence climbing under any rules. Whatever kinds begin an operand and whatever kinds are
operators, an expression that is read consists of operands with additive operators between them,
joined from left to right, and it ends only where no operator could be taken.

The operators may include the comma and the braces, which also delimit the fields of a struct
literal. What keeps the operands apart is that an operand is read in the same way whatever comes
after it; inside a struct literal this needs that an expression looks at one more token only.
-/

namespace FrontEnd

open Reads

namespace Reading

variable {α β : Type} {setting : Setting} {tokens rest : List Token}

theorem ok_of_inLevel {reading : Reading α} {value : α}
    (h : inLevel reading setting tokens = .ok value rest) :
    reading setting tokens = .ok value rest := by
  cases hreading : reading setting tokens with
  | ok first middle => rwa [inLevel_of_ok hreading] at h
  | error problem middle => simp [inLevel_of_error hreading] at h
  | fault middle opened => simp [inLevel, hreading] at h

theorem lexeme?_of_lexeme {token : Token} {text : Text}
    (h : (lexeme token : Reading Text) setting tokens = .ok text rest) :
    token.lexeme? setting.source = some text := by
  cases hlexeme : token.lexeme? setting.source with
  | none => cases (lexeme_of_none hlexeme).symm.trans h
  | some found =>
      cases (lexeme_of_some hlexeme).symm.trans h
      rfl

/-- A reading that depends on the tokens it leaves only through the first of them. -/
def Local (setting : Setting) (reading : Reading α) : Prop :=
  ∀ tokens value rest, reading setting tokens = .ok value rest →
    ∃ passed, tokens = passed ++ rest ∧
      ∀ other, other.head? = rest.head? → reading setting (passed ++ other) = .ok value other

/-- A reading that passes over some tokens and depends on no others. -/
def Enclosed (setting : Setting) (reading : Reading α) : Prop :=
  ∀ tokens value rest, reading setting tokens = .ok value rest →
    ∃ first passed, tokens = first :: passed ++ rest ∧
      ∀ other, reading setting (first :: passed ++ other) = .ok value other

namespace Enclosed

variable {reading : Reading α}

theorem toLocal (h : Enclosed setting reading) : Local setting reading := by
  intro tokens value rest hok
  obtain ⟨first, passed, hsplit, hother⟩ := h tokens value rest hok
  exact ⟨first :: passed, hsplit, fun other _ => hother other⟩

theorem failAt (token : Token) (cause : Cause) :
    Enclosed setting (Reads.failAt token cause : Reading α) := by
  intro tokens value rest hok
  cases hok

theorem tooDeep : Enclosed setting (tooDeep : Reading α) := by
  intro tokens value rest hok
  cases hok

theorem unexpected (token : Token) (message : String) :
    Enclosed setting (Reads.unexpected token message : Reading α) := by
  intro tokens value rest hok
  obtain ⟨_, _, _, hfails⟩ := bind_eq_ok_iff.mp hok
  cases hfails

theorem expect (kind : Kind) : Enclosed setting (Reads.expect kind) := by
  intro tokens token rest hok
  obtain ⟨hkind, htokens⟩ := expect_eq_ok_iff.mp hok
  exact ⟨token, [], htokens, fun other => expect_cons hkind⟩

theorem advanceOr (expected : String) : Enclosed setting (Reads.advanceOr expected) := by
  intro tokens token rest hok
  cases tokens with
  | nil => cases hok
  | cons first tokens =>
      cases hok
      exact ⟨_, [], rfl, fun _ => rfl⟩

theorem map (h : Enclosed setting reading) (f : α → β) :
    Enclosed setting (reading >>= fun value => Pure.pure (f value)) := by
  intro tokens value rest hok
  obtain ⟨before, _, hreading, hpure⟩ := bind_eq_ok_iff.mp hok
  cases hpure
  obtain ⟨first, passed, hsplit, hother⟩ := h tokens before rest hreading
  exact ⟨first, passed, hsplit, fun other => bind_of_ok (hother other) _⟩

end Enclosed

namespace Local

variable {reading : Reading α} {next : α → Reading β}

theorem pure (value : α) : Local setting (Pure.pure value : Reading α) := by
  intro tokens value rest hok
  cases hok
  exact ⟨[], rfl, fun _ _ => rfl⟩

theorem kind? : Local setting Reads.kind? := by
  intro tokens kind rest hok
  cases hok
  refine ⟨[], rfl, fun other hother => ?_⟩
  rw [← hother]
  rfl

theorem rules : Local setting Reads.rules := by
  intro tokens rules rest hok
  cases hok
  exact ⟨[], rfl, fun _ _ => rfl⟩

theorem currentOr (expected : String) : Local setting (Reads.currentOr expected) := by
  intro tokens token rest hok
  cases tokens with
  | nil => cases hok
  | cons first tokens =>
      cases hok
      refine ⟨[], rfl, fun other hother => ?_⟩
      obtain ⟨others, rfl⟩ := List.head?_eq_some_iff.mp hother
      rfl

theorem skip : Local setting Reads.skip := by
  intro tokens _ rest hok
  cases hok
  cases tokens with
  | nil =>
      refine ⟨[], rfl, fun other hother => ?_⟩
      obtain rfl := List.head?_eq_none_iff.mp hother
      rfl
  | cons token tokens => exact ⟨[token], rfl, fun _ _ => rfl⟩

theorem bind (hreading : Local setting reading) (hnext : ∀ value, Local setting (next value)) :
    Local setting (reading >>= next) := by
  intro tokens value rest hok
  obtain ⟨first, middle, hfirst, hsecond⟩ := bind_eq_ok_iff.mp hok
  obtain ⟨passed, rfl, hpassed⟩ := hreading tokens first middle hfirst
  obtain ⟨more, rfl, hmore⟩ := hnext first middle value rest hsecond
  refine ⟨passed ++ more, (List.append_assoc passed more rest).symm, fun other hother => ?_⟩
  have hhead : (more ++ other).head? = (more ++ rest).head? := by
    rw [List.head?_append, List.head?_append, hother]
  rw [List.append_assoc, bind_of_ok (hpassed _ hhead), hmore other hother]

/-- What comes after a reading shields it from the tokens after both. -/
theorem bind_enclosed (hreading : Local setting reading)
    (hnext : ∀ value, Enclosed setting (next value)) : Enclosed setting (reading >>= next) := by
  intro tokens value rest hok
  obtain ⟨before, middle, hfirst, hsecond⟩ := bind_eq_ok_iff.mp hok
  obtain ⟨passed, rfl, hpassed⟩ := hreading tokens before middle hfirst
  obtain ⟨first, more, rfl, hmore⟩ := hnext before middle value rest hsecond
  have hreads : ∀ other, (reading >>= next) setting (passed ++ (first :: more ++ other)) =
      .ok value other := by
    intro other
    rw [bind_of_ok (hpassed (first :: more ++ other) rfl), hmore other]
  cases passed with
  | nil => exact ⟨first, more, rfl, hreads⟩
  | cons start passed =>
      refine ⟨start, passed ++ first :: more, by simp, fun other => ?_⟩
      simpa using hreads other

theorem inLevel (h : Local setting reading) : Local setting (inLevel reading) := by
  intro tokens value rest hok
  obtain ⟨passed, hsplit, hother⟩ := h tokens value rest (ok_of_inLevel hok)
  exact ⟨passed, hsplit, fun other hhead => inLevel_of_ok (hother other hhead)⟩

/-- A loop may be given as many rounds as there are tokens if it has no use for more. -/
theorem remaining_bind {loop : Nat → Reading α} (hloop : ∀ bound, Local setting (loop bound))
    (hbound : ∀ tokens bound, tokens.length ≤ bound →
      loop bound setting tokens = (remaining >>= loop) setting tokens) :
    Local setting (remaining >>= loop) := by
  intro tokens value rest hok
  obtain ⟨passed, rfl, -⟩ := hloop tokens.length tokens value rest hok
  refine ⟨passed, rfl, fun other hother => ?_⟩
  have hleft := hbound (passed ++ rest) _
    (Nat.le_max_left (passed ++ rest).length (passed ++ other).length)
  have hright := hbound (passed ++ other) _
    (Nat.le_max_right (passed ++ rest).length (passed ++ other).length)
  obtain ⟨run, hrun, hreads⟩ := hloop _ (passed ++ rest) value rest (hleft.trans hok)
  obtain rfl := List.append_cancel_right hrun
  rw [← hright]
  exact hreads other hother

end Local

end Reading

open Reading Grammar

theorem Power.eq_of_below {power operator : Power} (h : power.below operator) :
    power = .lowest ∧ operator = .additive := by
  revert h
  cases power <;> cases operator <;> decide

namespace Expr

variable {setting : Setting} {value : Reading Expr} {expression : Power → Reading Expr}

theorem readNumber_enclosed : Enclosed setting readNumber := by
  intro tokens tree rest hok
  obtain ⟨token, middle, htoken, hnumber⟩ := bind_eq_ok_iff.mp hok
  obtain ⟨text, after, htext, -⟩ := bind_eq_ok_iff.mp hnumber
  obtain ⟨hkind, htokens⟩ := expect_eq_ok_iff.mp htoken
  have hlexeme := lexeme?_of_lexeme htext
  rw [lexeme_bind hlexeme] at hnumber
  cases hint : text.int32? with
  | none => simp [hint] at hnumber
  | some number =>
      simp only [hint, pure_apply, Outcome.ok.injEq] at hnumber
      obtain ⟨rfl, rfl⟩ := hnumber
      refine ⟨token, [], htokens, fun other => ?_⟩
      simp [readNumber, expect_bind_cons hkind, lexeme_bind hlexeme, hint]

theorem readFields_local (hvalue : Local setting value) (bound : Nat) :
    Local setting (readFields value bound) := by
  induction bound with
  | zero => exact (Local.currentOr _).bind fun _ => .pure _
  | succ bound ih =>
      refine Local.kind?.bind fun kind => ?_
      split
      · exact .pure _
      · refine (Enclosed.expect _).toLocal.bind fun name =>
          (Enclosed.expect _).toLocal.bind fun _ => hvalue.bind fun content =>
            Local.kind?.bind fun next => ?_
        split
        · exact Local.skip.bind fun _ => ih.bind fun _ => .pure _
        · exact .pure _

theorem readStructLiteral_enclosed (hforward : Forward value) (hvalue : Local setting value) :
    Enclosed setting (readStructLiteral (readAllFields value)) := by
  have hfields : Local setting (readAllFields value) :=
    .remaining_bind (readFields_local hvalue) fun _ _ => readFields_of_length_le hforward
  exact (Enclosed.expect _).toLocal.bind_enclosed fun _ =>
    (Enclosed.expect _).toLocal.bind_enclosed fun _ =>
      hfields.bind_enclosed fun _ => (Enclosed.expect _).map _

theorem refuse_enclosed (construct : String) : Enclosed setting (refuse construct) :=
  (Local.currentOr _).bind_enclosed fun token => .failAt token _

theorem readOperand_enclosed (hforward : Forward value) (hvalue : Local setting value)
    (rule : OperandRule) : Enclosed setting (readOperand (readAllFields value) rule) := by
  cases rule with
  | number => exact readNumber_enclosed
  | structLiteral => exact readStructLiteral_enclosed hforward hvalue
  | name | grouping | sign => exact refuse_enclosed _

theorem operatorAbove?_local (power : Power) : Local setting (operatorAbove? power) := by
  refine Local.kind?.bind fun kind => ?_
  cases kind with
  | none => exact .pure _
  | some kind => exact Local.rules.bind fun _ => .pure _

theorem readOperators_local (hexpression : ∀ power, Local setting (expression power))
    (power : Power) (bound : Nat) (left : Expr) :
    Local setting (readOperators expression power bound left) := by
  induction bound generalizing left with
  | zero => exact .pure left
  | succ bound ih =>
      refine (operatorAbove?_local power).bind fun operator => ?_
      cases operator with
      | none => exact .pure left
      | some operator =>
          have hbinary : Local setting (readBinary expression left operator) :=
            (Enclosed.advanceOr _).toLocal.bind fun _ => (hexpression operator).bind fun _ =>
              .pure _
          exact hbinary.bind ih

theorem read_local (room : Nat) (power : Power) : Local setting (read room power) := by
  induction room generalizing power with
  | zero => exact Enclosed.tooDeep.toLocal
  | succ room ih =>
      refine ((Local.currentOr _).bind fun token => Local.rules.bind fun rules => ?_).inLevel
      split
      · exact (Enclosed.unexpected token _).toLocal
      · refine (readOperand_enclosed (read_forward room _) (ih _) _).toLocal.bind fun first => ?_
        exact .remaining_bind (fun bound => readOperators_local ih power bound first)
          fun _ _ => readOperators_of_length_le (read_forward room) power first

/-- Tokens that are read as an operand, whatever comes after them. -/
structure OperandRun (setting : Setting) (run : List Token) (operand : Expr) : Prop where
  reads : ∃ token ∈ run.head?, ∃ rule, setting.rules.operand token.kind = some rule ∧
    ∃ room, ∀ rest, readOperand (readAllFields (read room .lowest)) rule setting (run ++ rest) =
      .ok operand rest
  literal : (∃ value token, operand = .number value token) ∨
    ∃ dot fields, operand = .structLiteral dot fields

/-- An additive operator and the operand to its right. -/
inductive OperationRun (setting : Setting) : List Token → Kind × Expr → Prop
  | mk {operator : Token} {run : List Token} {operand : Expr} :
      setting.rules.operator operator.kind = some .additive → OperandRun setting run operand →
        OperationRun setting (operator :: run) (operator.kind, operand)

/-- Tokens that do not begin with an operator above a power. -/
def StopsAt (setting : Setting) (power : Power) (tokens : List Token) : Prop :=
  ∀ token ∈ tokens.head?, ∀ operator ∈ setting.rules.operator token.kind, ¬power.below operator

variable {tokens rest : List Token} {tree left : Expr} {power : Power} {room : Nat}

theorem literal_of_readOperand {fields : Reading (List (Token × Expr))} {rule : OperandRule}
    (h : readOperand fields rule setting tokens = .ok tree rest) :
    (∃ value token, tree = .number value token) ∨
      ∃ dot fields, tree = .structLiteral dot fields := by
  cases rule with
  | number =>
      obtain ⟨token, _, _, hnumber⟩ := bind_eq_ok_iff.mp h
      obtain ⟨text, _, _, hvalue⟩ := bind_eq_ok_iff.mp hnumber
      cases hint : text.int32? with
      | none => simp [hint] at hvalue
      | some number =>
          simp only [hint, pure_apply, Outcome.ok.injEq] at hvalue
          exact .inl ⟨number, token, hvalue.1.symm⟩
  | structLiteral =>
      obtain ⟨dot, _, _, hopening⟩ := bind_eq_ok_iff.mp h
      obtain ⟨_, _, _, hfields⟩ := bind_eq_ok_iff.mp hopening
      obtain ⟨fields, _, _, hclosing⟩ := bind_eq_ok_iff.mp hfields
      obtain ⟨_, _, _, hliteral⟩ := bind_eq_ok_iff.mp hclosing
      cases hliteral
      exact .inr ⟨dot, fields, rfl⟩
  | name | grouping | sign =>
      obtain ⟨_, _, _, hrefuses⟩ := bind_eq_ok_iff.mp h
      cases hrefuses

theorem exists_operandRun {token : Token} {rule : OperandRule} (htoken : token ∈ tokens.head?)
    (hrule : setting.rules.operand token.kind = some rule)
    (h : readOperand (readAllFields (read room .lowest)) rule setting tokens = .ok tree rest) :
    ∃ run, tokens = run ++ rest ∧ OperandRun setting run tree := by
  obtain ⟨first, run, rfl, hreads⟩ :=
    readOperand_enclosed (read_forward room .lowest) (read_local room .lowest) rule _ _ _ h
  obtain rfl := Option.some.inj htoken
  exact ⟨first :: run, rfl, ⟨first, rfl, rule, hrule, room, hreads⟩, literal_of_readOperand h⟩

theorem exists_operationRuns
    (hright : ∀ tokens tree rest, expression .additive setting tokens = .ok tree rest →
      ∃ run, tokens = run ++ rest ∧ OperandRun setting run tree)
    {bound : Nat} (hbound : tokens.length ≤ bound)
    (h : readOperators expression power bound left setting tokens = .ok tree rest) :
    ∃ others operations, tokens = others ++ rest ∧
      Repeated (OperationRun setting) others operations ∧ tree = joinLeft left operations ∧
        (power = .additive → operations = []) ∧ StopsAt setting power rest := by
  induction bound generalizing tokens left with
  | zero =>
      obtain rfl := List.length_eq_zero_iff.mp (Nat.le_zero.mp hbound)
      cases h
      exact ⟨[], [], rfl, .nil, rfl, fun _ => rfl, fun _ htoken => absurd htoken (by simp)⟩
  | succ bound ih =>
      rw [readOperators, operatorsRound, operatorAbove?_bind] at h
      cases hoperator : (tokens.head?.bind fun token =>
          setting.rules.operator token.kind).filter power.below with
      | none =>
          rw [hoperator] at h
          cases h
          refine ⟨[], [], rfl, .nil, rfl, fun _ => rfl, ?_⟩
          intro token htoken operator hregistered
          exact Option.filter_eq_none_iff.mp hoperator operator
            (Option.bind_eq_some_iff.mpr ⟨token, htoken, hregistered⟩)
      | some operator =>
          rw [hoperator] at h
          obtain ⟨joined, middle, hjoined, hmore⟩ := bind_eq_ok_iff.mp h
          obtain ⟨hregistered, hbelow⟩ := Option.filter_eq_some_iff.mp hoperator
          obtain ⟨token, htoken, hregistered⟩ := Option.bind_eq_some_iff.mp hregistered
          obtain ⟨rfl, rfl⟩ := Power.eq_of_below hbelow
          obtain ⟨tail, rfl⟩ := List.head?_eq_some_iff.mp htoken
          rw [readBinary, advanceOr_bind_cons] at hjoined
          obtain ⟨right, _, hread, hbinary⟩ := bind_eq_ok_iff.mp hjoined
          cases hbinary
          obtain ⟨run, rfl, hrun⟩ := hright _ _ _ hread
          have hlength : middle.length ≤ bound := by
            simp only [List.length_cons, List.length_append] at hbound
            omega
          obtain ⟨others, operations, rfl, hothers, rfl, -, hstops⟩ := ih hlength hmore
          refine ⟨token :: run ++ others, (token.kind, right) :: operations, by simp,
            .cons (.mk hregistered hrun) hothers, rfl, Power.noConfusion, hstops⟩

theorem exists_operand_of_readInside
    (h : readInside expression power setting tokens = .ok tree rest) :
    ∃ token ∈ tokens.head?, ∃ rule, setting.rules.operand token.kind = some rule ∧
      ∃ first middle,
        readOperand (readAllFields (expression .lowest)) rule setting tokens = .ok first middle ∧
        readOperators expression power middle.length first setting middle = .ok tree rest := by
  cases tokens with
  | nil => cases h
  | cons token tokens =>
      rw [readInside, readChain, currentOr_bind_cons, rules_bind] at h
      cases hrule : setting.rules.operand token.kind with
      | none =>
          rw [hrule] at h
          obtain ⟨_, _, _, hfails⟩ := bind_eq_ok_iff.mp h
          cases hfails
      | some rule =>
          rw [hrule] at h
          obtain ⟨first, middle, hfirst, hoperators⟩ := bind_eq_ok_iff.mp h
          exact ⟨token, rfl, rule, hrule, first, middle, hfirst, hoperators⟩

/-- Under any rules, what is read is a chain of operands and additive operators, joined from left to
right, which ends only before a token that is no operator above the power asked for. -/
theorem read_eq_joinLeft (h : read room power setting tokens = .ok tree rest) :
    ∃ first operand others operations, tokens = first ++ others ++ rest ∧
      OperandRun setting first operand ∧ Repeated (OperationRun setting) others operations ∧
        tree = joinLeft operand operations ∧ (power = .additive → operations = []) ∧
          StopsAt setting power rest := by
  induction room generalizing power tokens tree rest with
  | zero => cases h
  | succ room ih =>
      have hright : ∀ tokens tree rest, read room .additive setting tokens = .ok tree rest →
          ∃ run, tokens = run ++ rest ∧ OperandRun setting run tree := by
        intro tokens tree rest hread
        obtain ⟨run, operand, others, operations, hsplit, hrun, hothers, htree, hnone, -⟩ :=
          ih hread
        obtain rfl := hnone rfl
        cases hothers
        obtain rfl : tree = operand := htree
        exact ⟨run, by simpa using hsplit, hrun⟩
      obtain ⟨token, htoken, rule, hrule, operand, middle, hoperand, hoperators⟩ :=
        exists_operand_of_readInside (ok_of_inLevel h)
      obtain ⟨first, rfl, hfirst⟩ := exists_operandRun htoken hrule hoperand
      obtain ⟨others, operations, rfl, hothers, htree, hnone, hstops⟩ :=
        exists_operationRuns hright (Nat.le_refl _) hoperators
      exact ⟨first, operand, others, operations, (List.append_assoc ..).symm, hfirst, hothers,
        htree, hnone, hstops⟩

/-- With the comma as an operator, the fields of a struct literal are not separated by it; and a
brace of the lowest power joins nothing. -/
theorem read_eq_joinLeft_comma :
    let rules := (Rules.standard.setOperator .comma .additive).setOperator .closeCurly .lowest
    let setting : Setting := ⟨".\x7ba=1,2\x7d+3,4\x7d".toList, rules, 3, 1⟩
    let token := fun (kind : Kind) (start : Nat) => (⟨kind, ⟨start, start + 1⟩, 1⟩ : Token)
    let number := fun (value start : Nat) => Expr.number value (token .number start)
    let tokens := [token .dot 0, token .openCurly 1, token .identifier 2, token .assignment 3,
      token .number 4, token .comma 5, token .number 6, token .closeCurly 7, token .plus 8,
      token .number 9, token .comma 10, token .number 11, token .closeCurly 12]
    let literal := Expr.structLiteral (token .dot 0)
      [(token .identifier 2, .binary (number 1 4) .comma (number 2 6))]
    let tree := Expr.binary (.binary literal .plus (number 3 9)) .comma (number 4 11)
    read 3 .lowest setting tokens = .ok tree [token .closeCurly 12] ∧
      (∃ first operand others operations, tokens = first ++ others ++ [token .closeCurly 12] ∧
        OperandRun setting first operand ∧ Repeated (OperationRun setting) others operations ∧
          tree = joinLeft operand operations) ∧
        StopsAt setting .lowest [token .closeCurly 12] := by
  intro rules setting token number tokens literal tree
  have hread : read 3 .lowest setting tokens = .ok tree [token .closeCurly 12] := by
    decide +kernel
  obtain ⟨first, operand, others, operations, hsplit, hfirst, hothers, htree, -, hstops⟩ :=
    read_eq_joinLeft hread
  exact ⟨hread, ⟨first, operand, others, operations, hsplit, hfirst, hothers, htree⟩, hstops⟩

end Expr

end FrontEnd
