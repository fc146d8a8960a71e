import FrontEnd.Proofs.Grammar.Correspondence
import FrontEnd.Proofs.Grammar.ReadingLaws
import FrontEnd.Proofs.Tree.Related
import Mathlib.Data.List.Forall2

namespace FrontEnd

/-- Two runs to be compared, with the tokens of the second that stand for tokens of the first. -/
structure Comparison where
  first : Setting
  second : Setting
  relation : Token → Token → Prop
  /-- Whether the limit may stop the first run where the second goes on. -/
  mayStop : Prop
  rules_eq : first.rules = second.rules
  limit_eq : first.limit = second.limit ∨ mayStop
  kind_eq : ∀ {token other : Token}, relation token other → token.kind = other.kind
  lexeme?_eq : ∀ {token other : Token}, relation token other →
    token.lexeme? first.source = other.lexeme? second.source

namespace Comparison

open Reads Reading

/-- The comparison of two token lists that are read by the rules of the language. -/
def ofTokens (tokens others : List Token) (source other : Text) (limit otherLimit : Nat)
    (mayStop : Prop) (relation : Token → Token → Prop) (limit_eq : limit = otherLimit ∨ mayStop)
    (kind_eq : ∀ {token image : Token}, relation token image → token.kind = image.kind)
    (lexeme?_eq : ∀ {token image : Token}, relation token image →
      token.lexeme? source = image.lexeme? other) : Comparison where
  first := .ofTokens tokens source .standard limit
  second := .ofTokens others other .standard otherLimit
  relation := relation
  mayStop := mayStop
  rules_eq := rfl
  limit_eq := limit_eq
  kind_eq := kind_eq
  lexeme?_eq := lexeme?_eq

variable {α β γ δ : Type}

/-- Diagnostics for one cause, at related tokens or after the last ones. -/
inductive SamePlace (comparison : Comparison) : Diagnostic → Diagnostic → Prop
  | token {cause : Cause} {token other : Token} : comparison.relation token other →
      SamePlace comparison ⟨cause, token.line, some token.span⟩ ⟨cause, other.line, some other.span⟩
  | ending {cause : Cause} :
      SamePlace comparison ⟨cause, comparison.first.lastLine, none⟩
        ⟨cause, comparison.second.lastLine, none⟩

/-- How the two runs may end. -/
inductive Follows (comparison : Comparison) (values : α → β → Prop) :
    Outcome α → Outcome β → Prop
  | ok {value : α} {other : β} {rest others : List Token} : values value other →
      List.Forall₂ comparison.relation rest others →
        Follows comparison values (.ok value rest) (.ok other others)
  | error {problem otherProblem : Diagnostic} {rest others : List Token} :
      comparison.SamePlace problem otherProblem → List.Forall₂ comparison.relation rest others →
        Follows comparison values (.error problem rest) (.error otherProblem others)
  | fault {rest others : List Token} {opened : Nat} :
      List.Forall₂ comparison.relation rest others →
        Follows comparison values (.fault rest opened) (.fault others opened)
  | stopped {line : Nat} {span : Option Span} {rest : List Token} {outcome : Outcome β} :
      comparison.mayStop →
        Follows comparison values
          (.error ⟨.nestingTooDeep comparison.first.limit, line, span⟩ rest) outcome

/-- Readings that end alike on tokens that stand for one another. -/
def Simulates (comparison : Comparison) (values : α → β → Prop) (reading : Reading α)
    (other : Reading β) : Prop :=
  ∀ tokens others, List.Forall₂ comparison.relation tokens others →
    comparison.Follows values (reading comparison.first tokens) (other comparison.second others)

variable {comparison : Comparison} {values : α → β → Prop} {results : γ → δ → Prop}
  {tokens others : List Token}

theorem Follows.mono {wider : α → β → Prop} {outcome : Outcome α} {other : Outcome β}
    (h : comparison.Follows values outcome other)
    (hwider : ∀ value otherValue, values value otherValue → wider value otherValue) :
    comparison.Follows wider outcome other := by
  cases h with
  | ok hvalue hrest => exact .ok (hwider _ _ hvalue) hrest
  | error hplace hrest => exact .error hplace hrest
  | fault hrest => exact .fault hrest
  | stopped hstop => exact .stopped hstop

theorem Simulates.bind {reading : Reading α} {other : Reading β} {next : α → Reading γ}
    {otherNext : β → Reading δ} (h : comparison.Simulates values reading other)
    (hnext : ∀ value otherValue, values value otherValue →
      comparison.Simulates results (next value) (otherNext otherValue)) :
    comparison.Simulates results (reading >>= next) (other >>= otherNext) := by
  intro tokens others htokens
  have hfollows := h tokens others htokens
  generalize houtcome : reading comparison.first tokens = outcome at hfollows
  generalize hother : other comparison.second others = otherOutcome at hfollows
  cases hfollows with
  | ok hvalue hrest =>
      rw [bind_of_ok houtcome, bind_of_ok hother]
      exact hnext _ _ hvalue _ _ hrest
  | error hplace hrest =>
      rw [bind_of_error houtcome, bind_of_error hother]
      exact .error hplace hrest
  | fault hrest =>
      rw [bind_of_fault houtcome, bind_of_fault hother]
      exact .fault hrest
  | stopped hstop =>
      rw [bind_of_error houtcome]
      exact .stopped hstop

theorem getElem?_map_kind (h : List.Forall₂ comparison.relation tokens others) (index : Nat) :
    tokens[index]?.map Token.kind = others[index]?.map Token.kind := by
  induction h generalizing index with
  | nil => rfl
  | cons hfirst _ ih =>
      cases index with
      | zero => exact congrArg some (comparison.kind_eq hfirst)
      | succ index => exact ih index

def correspondence (comparison : Comparison) : Correspondence Reading Reading where
  tokens := comparison.relation
  spells _ _ := True
  tables _ := True
  relates _ _ := comparison.Simulates
  kind_eq := comparison.kind_eq
  weaken h _ _ hwider tokens others htokens := (h tokens others htokens).mono hwider
  pure hvalue _ _ htokens := .ok hvalue htokens
  bind := .bind
  current? _ _ htokens := by
    cases htokens with
    | nil => exact .ok .none .nil
    | cons hfirst hrest => exact .ok (.some hfirst) (.cons hfirst hrest)
  peek? distance _ _ htokens := .ok (getElem?_map_kind htokens distance) htokens
  skip _ _ htokens := by
    cases htokens with
    | nil => exact .ok rfl .nil
    | cons _ hrest => exact .ok rfl hrest
  remaining _ _ htokens := .ok htokens.length_eq htokens
  rules _ _ htokens := .ok ⟨comparison.rules_eq, trivial⟩ htokens
  lexeme := by
    intro _ token other hrelated tokens others htokens
    have heq := comparison.lexeme?_eq hrelated
    cases hlexeme : other.lexeme? comparison.second.source with
    | none =>
        rw [lexeme_of_none hlexeme, lexeme_of_none (heq.trans hlexeme)]
        exact .fault htokens
    | some text =>
        rw [lexeme_of_some hlexeme, lexeme_of_some (heq.trans hlexeme)]
        exact .ok ⟨rfl, trivial⟩ htokens
  failAt hrelated _ _ _ _ htokens := .error (.token hrelated) htokens
  currentOr _ _ _ htokens := by
    cases htokens with
    | nil => exact .error .ending .nil
    | cons hfirst hrest => exact .ok hfirst (.cons hfirst hrest)
  advanceOr _ _ _ htokens := by
    cases htokens with
    | nil => exact .error .ending .nil
    | cons hfirst hrest => exact .ok hfirst hrest

def trees (comparison : Comparison) : TreeRelation comparison.correspondence.tokens where
  inner := Expr.Related comparison.relation
  outer := Expr.Related comparison.relation
  fields := Expr.RelatedFields comparison.relation
  innerStatement := Stmt.Related comparison.relation
  outerStatement := Stmt.Related comparison.relation
  body := Stmt.RelatedAll comparison.relation
  number := .number
  binary := .binary
  structLiteral := .structLiteral
  fields_nil := .nil
  fields_cons := .cons
  declaration := .declaration
  fieldWrite := .fieldWrite
  structDefinition := .structDefinition
  function := .function
  returns := .returns
  outer_of_inner := id
  body_nil := .nil
  body_cons := .cons

theorem Simulates.inLevel {reading : Reading α} {other : Reading β}
    (h : comparison.Simulates values reading other) :
    comparison.Simulates values (inLevel reading) (inLevel other) := by
  intro tokens others htokens
  have hfollows := h tokens others htokens
  rw [Reading.inLevel, Reading.inLevel]
  generalize reading comparison.first tokens = outcome at hfollows
  generalize other comparison.second others = otherOutcome at hfollows
  cases hfollows with
  | ok hvalue hrest => exact .ok hvalue hrest
  | error hplace hrest => exact .error hplace hrest
  | fault hrest => exact .fault hrest
  | stopped hstop => exact .stopped hstop

theorem Simulates.tooDeep (hlimit : comparison.first.limit = comparison.second.limit) :
    comparison.Simulates values tooDeep tooDeep := by
  intro tokens others htokens
  rw [Reading.tooDeep, Reading.tooDeep, hlimit]
  cases htokens with
  | nil => exact .error .ending .nil
  | cons hfirst hrest => exact .error (.token hfirst) (.cons hfirst hrest)

/-- Numbers of levels that the two runs may have left. -/
def Fits (comparison : Comparison) (room other : Nat) : Prop :=
  room ≤ other ∧ (room = other ∨ comparison.mayStop)

theorem Fits.pred {room other : Nat} (h : comparison.Fits (room + 1) (other + 1)) :
    comparison.Fits room other := by
  obtain ⟨hle, hstop⟩ := h
  exact ⟨Nat.le_of_succ_le_succ hle, hstop.imp_left Nat.succ.inj⟩

/-- A run that has no level left is stopped, and so is the other if it need not have more. -/
theorem simulates_of_fits_zero {reading : Reading β} {room : Nat} (h : comparison.Fits 0 room)
    (hreading : room = 0 → reading = tooDeep) :
    comparison.Simulates values tooDeep reading := by
  obtain ⟨-, heq | hstop⟩ := h
  · rcases comparison.limit_eq with hlimit | hstop
    · rw [hreading heq.symm]
      exact .tooDeep hlimit
    · exact fun _ _ _ => .stopped hstop
  · exact fun _ _ _ => .stopped hstop

end Comparison

variable {comparison : Comparison} {room other : Nat}

theorem Expr.read_simulates (hfits : comparison.Fits room other) (power : Power) :
    comparison.Simulates (Related comparison.relation) (read room power) (read other power) := by
  induction room generalizing other power with
  | zero =>
      refine Comparison.simulates_of_fits_zero hfits ?_
      rintro rfl
      rfl
  | succ room ih =>
      obtain ⟨other, rfl⟩ := Nat.exists_eq_add_one_of_ne_zero (Nat.ne_zero_of_lt hfits.1)
      have hexpression : ∀ power, comparison.correspondence.relates 0 0 comparison.trees.inner
          (read room power) (read other power) := ih hfits.pred
      exact .inLevel (readInside_relates _ comparison.trees hexpression power)

theorem Stmt.read_simulates (hfits : comparison.Fits room other) :
    comparison.Simulates (Related comparison.relation) (read room) (read other) := by
  induction room generalizing other with
  | zero =>
      refine Comparison.simulates_of_fits_zero hfits ?_
      rintro rfl
      rfl
  | succ room ih =>
      obtain ⟨other, rfl⟩ := Nat.exists_eq_add_one_of_ne_zero (Nat.ne_zero_of_lt hfits.1)
      have hstatement : comparison.correspondence.relates 0 0 comparison.trees.innerStatement
          (read room) (read other) := ih hfits.pred
      exact .inLevel (readInside_relates _ comparison.trees hstatement
        (Expr.read_simulates hfits.pred .lowest) fun _ _ _ _ => ih hfits.pred)

theorem Stmt.readAllStatements_simulates (hfits : comparison.Fits room other) :
    comparison.Simulates (RelatedAll comparison.relation) (readAllStatements (read room))
      (readAllStatements (read other)) := by
  have hstatement : comparison.correspondence.relates 0 0 comparison.trees.innerStatement
      (read room) (read other) := read_simulates hfits
  exact readAllStatements_relates _ comparison.trees hstatement

end FrontEnd
