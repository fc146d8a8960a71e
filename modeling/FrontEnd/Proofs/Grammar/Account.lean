import FrontEnd.Proofs.Grammar.Correspondence
import FrontEnd.Proofs.Grammar.ReadingLaws

/-!
Accounts of how readings end. A reading leaves an end of the tokens it was given, and what can be
said of the problem that it reports is said once for all readings: it stands at a token that was
read, with the line and the span of the token and no other text than its spelling, or it stands at
the end, with the line of the last token and no span. A fault means that some token is not spelled
in the text. Besides, the limit may stop a reading; but with a level for each token there is always
one left, since a rule consumes a token before it opens a level.
-/

namespace FrontEnd

open Reads Reading

/-- What may be said of the readings of some tokens. -/
structure Account where
  setting : Setting
  tokens : List Token
  problem : Diagnostic → Prop
  fault : Prop
  refused {token : Token} {cause : Cause} : token ∈ tokens → cause.OneLine →
    cause.Quotes (token.lexeme? setting.source = some ·) →
      problem ⟨cause, token.line, some token.span⟩
  missing {expected : String} : '\n' ∉ expected.toList →
    problem ⟨.endOfInput expected, setting.lastLine, none⟩
  unspelled {token : Token} : token ∈ tokens → token.lexeme? setting.source = none → fault

namespace Account

variable {α β : Type}

/-- How a reading of some of the tokens may end. -/
inductive Ends (account : Account) (consumed : Nat) (tokens : List Token) : Outcome α → Prop
  | ok {value : α} {rest : List Token} : rest <:+ tokens → rest.length + consumed ≤ tokens.length →
      Ends account consumed tokens (.ok value rest)
  | error {problem : Diagnostic} {rest : List Token} : rest <:+ tokens → account.problem problem →
      Ends account consumed tokens (.error problem rest)
  | fault {rest : List Token} {opened : Nat} : rest <:+ tokens → account.fault →
      Ends account consumed tokens (.fault rest opened)

theorem Ends.rest {account : Account} {consumed : Nat} {tokens : List Token} {outcome : Outcome α}
    (h : account.Ends consumed tokens outcome) : outcome.rest <:+ tokens := by
  cases h with
  | ok hrest => exact hrest
  | error hrest => exact hrest
  | fault hrest => exact hrest

theorem Ends.mono {account : Account} {consumed less : Nat} {tokens : List Token}
    {outcome : Outcome α} (h : account.Ends consumed tokens outcome) (hless : less ≤ consumed) :
    account.Ends less tokens outcome := by
  cases h with
  | ok hrest hconsumed => exact .ok hrest (by omega)
  | error hrest hproblem => exact .error hrest hproblem
  | fault hrest hfault => exact .fault hrest hfault

theorem Ends.within {account : Account} {consumed more : Nat} {tokens rest : List Token}
    {outcome : Outcome α} (h : account.Ends more rest outcome) (hrest : rest <:+ tokens)
    (hconsumed : rest.length + consumed ≤ tokens.length) :
    account.Ends (consumed + more) tokens outcome := by
  cases h with
  | ok hlast hlength => exact .ok (hlast.trans hrest) (by omega)
  | error hlast hproblem => exact .error (hlast.trans hrest) hproblem
  | fault hlast hfault => exact .fault (hlast.trans hrest) hfault

variable (account : Account)

/-- Readings of at most so many tokens end alike, and as accounted for. -/
def Relates (consumed bound : Nat) (values : α → β → Prop) (first : Reading α)
    (second : Reading β) : Prop :=
  ∀ tokens, tokens <:+ account.tokens → tokens.length < bound →
    (first account.setting tokens).Alike values (second account.setting tokens) ∧
      account.Ends consumed tokens (first account.setting tokens)

theorem Relates.bind {γ δ : Type} {consumed more bound : Nat} {values : α → β → Prop}
    {results : γ → δ → Prop} {first : Reading α} {second : Reading β} {next : α → Reading γ}
    {otherNext : β → Reading δ} (h : account.Relates consumed bound values first second)
    (hnext : ∀ value other, values value other →
      account.Relates more (bound - consumed) results (next value) (otherNext other)) :
    account.Relates (consumed + more) bound results (first >>= next) (second >>= otherNext) := by
  intro tokens hsuffix hbound
  obtain ⟨halike, hends⟩ := h tokens hsuffix hbound
  generalize hfirst : first account.setting tokens = outcome at halike hends
  generalize hsecond : second account.setting tokens = other at halike
  cases halike with
  | ok hvalue =>
      obtain ⟨hrest, hconsumed⟩ | _ := hends
      obtain ⟨hlast, hlastEnds⟩ := hnext _ _ hvalue _ (hrest.trans hsuffix) (by omega)
      rw [bind_of_ok hfirst, bind_of_ok hsecond]
      exact ⟨hlast, hlastEnds.within hrest hconsumed⟩
  | error =>
      obtain _ | ⟨hrest, hproblem⟩ := hends
      rw [bind_of_error hfirst, bind_of_error hsecond]
      exact ⟨.error, .error hrest hproblem⟩
  | fault =>
      obtain _ | _ | ⟨hrest, hfault⟩ := hends
      rw [bind_of_fault hfirst, bind_of_fault hsecond]
      exact ⟨.fault, .fault hrest hfault⟩

def correspondence : Correspondence Reading Reading where
  tokens token other := token = other ∧ token ∈ account.tokens
  spells token text := token.lexeme? account.setting.source = some text
  tables rules := rules = account.setting.rules
  relates := account.Relates
  kind_eq h := by rw [h.1]
  weaken := by
    intro _ _ consumed less bound fewer values wider first second h hless hfewer hwider tokens
      hsuffix hlength
    obtain ⟨halike, hends⟩ := h tokens hsuffix (Nat.lt_of_lt_of_le hlength hfewer)
    exact ⟨halike.mono hwider, hends.mono hless⟩
  pure hvalue tokens _ _ := ⟨.ok hvalue, .ok List.suffix_rfl (Nat.le_refl _)⟩
  bind := Relates.bind account
  current? tokens hsuffix _ := by
    refine ⟨.ok ?_, .ok List.suffix_rfl (Nat.le_refl _)⟩
    cases tokens with
    | nil => exact .none
    | cons token tokens => exact .some ⟨rfl, hsuffix.mem List.mem_cons_self⟩
  peek? _ tokens _ _ := ⟨.ok rfl, .ok List.suffix_rfl (Nat.le_refl _)⟩
  skip tokens _ _ := ⟨.ok rfl, .ok (List.tail_suffix tokens) (by simp)⟩
  remaining tokens _ _ := ⟨.ok rfl, .ok List.suffix_rfl (Nat.le_refl _)⟩
  rules tokens _ _ := ⟨.ok ⟨rfl, rfl⟩, .ok List.suffix_rfl (Nat.le_refl _)⟩
  lexeme := by
    rintro bound token _ ⟨rfl, htoken⟩ tokens _ _
    cases hlexeme : token.lexeme? account.setting.source with
    | none =>
        rw [lexeme_of_none hlexeme]
        exact ⟨.fault, .fault List.suffix_rfl (account.unspelled htoken hlexeme)⟩
    | some text =>
        rw [lexeme_of_some hlexeme]
        exact ⟨.ok ⟨rfl, rfl⟩, .ok List.suffix_rfl (Nat.le_refl _)⟩
  failAt := by
    rintro _ _ _ _ _ token _ cause ⟨rfl, htoken⟩ hwords hquotes tokens _ _
    exact ⟨.error, .error List.suffix_rfl (account.refused htoken hwords hquotes)⟩
  currentOr := by
    intro bound expected hwords tokens hsuffix _
    cases tokens with
    | nil => exact ⟨.error, .error List.suffix_rfl (account.missing hwords)⟩
    | cons token tokens =>
        exact ⟨.ok ⟨rfl, hsuffix.mem List.mem_cons_self⟩, .ok List.suffix_rfl (Nat.le_refl _)⟩
  advanceOr := by
    intro bound expected hwords tokens hsuffix _
    cases tokens with
    | nil => exact ⟨.error, .error List.suffix_rfl (account.missing hwords)⟩
    | cons token tokens =>
        exact ⟨.ok ⟨rfl, hsuffix.mem List.mem_cons_self⟩,
          .ok (List.suffix_cons token tokens) (Nat.le_refl _)⟩

def trees : TreeRelation account.correspondence.tokens :=
  .same fun h => h.1

/-- The account allows for a stop by the limit. -/
structure Stops : Prop where
  atToken {token : Token} : token ∈ account.tokens →
    account.problem ⟨.nestingTooDeep account.setting.limit, token.line, some token.span⟩
  atEnd : account.problem ⟨.nestingTooDeep account.setting.limit, account.setting.lastLine, none⟩

variable {account} {consumed bound : Nat} {values : α → β → Prop}

theorem Relates.zero (first : Reading α) (second : Reading β) :
    account.Relates consumed 0 values first second :=
  fun _ _ hlength => absurd hlength (Nat.not_lt_zero _)

theorem Relates.inLevel {first : Reading α} {second : Reading β}
    (h : account.Relates consumed bound values first second) :
    account.Relates consumed bound values (inLevel first) (inLevel second) := by
  intro tokens hsuffix hlength
  obtain ⟨halike, hends⟩ := h tokens hsuffix hlength
  generalize hfirst : first account.setting tokens = outcome at halike hends
  generalize hsecond : second account.setting tokens = other at halike
  cases halike with
  | ok hvalue =>
      rw [inLevel_of_ok hfirst, inLevel_of_ok hsecond]
      obtain ⟨hrest, hconsumed⟩ | _ := hends
      exact ⟨.ok hvalue, .ok hrest hconsumed⟩
  | error =>
      rw [inLevel_of_error hfirst, inLevel_of_error hsecond]
      exact ⟨.error, hends⟩
  | fault =>
      rw [inLevel_of_fault hfirst, inLevel_of_fault hsecond]
      obtain _ | _ | ⟨hrest, hfault⟩ := hends
      exact ⟨.fault, .fault hrest hfault⟩

theorem Relates.tooDeep (hstops : account.Stops) :
    account.Relates consumed bound values tooDeep tooDeep := by
  intro tokens hsuffix _
  refine ⟨.error, .error List.suffix_rfl ?_⟩
  cases tokens with
  | nil => exact hstops.atEnd
  | cons token tokens => exact hstops.atToken (hsuffix.mem List.mem_cons_self)

end Account

section Levels

variable {account : Account} (trees : Nat → TreeRelation account.correspondence.tokens)
  {bound room : Nat}

theorem Expr.read_accounted
    (hinner : ∀ room tree other, (trees room).outer tree other →
      (trees (room + 1)).inner tree other)
    (hroom : bound ≤ room ∨ account.Stops) (power : Power) :
    account.correspondence.relates 1 bound (trees room).inner (read room power)
      (read room power) := by
  induction room generalizing bound power with
  | zero =>
      rcases hroom with hroom | hstops
      · obtain rfl := Nat.le_zero.mp hroom
        exact Account.Relates.zero _ _
      · exact Account.Relates.tooDeep hstops
  | succ room ih =>
      cases bound with
      | zero => exact Account.Relates.zero _ _
      | succ bound =>
          have hexpression := fun power => (ih (hroom.imp_left Nat.le_of_succ_le_succ) power).forget
          have hinside := readInside_relates account.correspondence (trees room) hexpression power
          exact Account.Relates.inLevel (account.correspondence.weaken hinside (Nat.le_refl _)
            (Nat.le_refl _) (hinner room))

theorem Stmt.read_accounted
    (hinner : ∀ room tree other, (trees room).outer tree other →
      (trees (room + 1)).inner tree other)
    (hinnerStatement : ∀ room tree other, (trees room).outerStatement tree other →
      (trees (room + 1)).innerStatement tree other)
    (hroom : bound ≤ room ∧ account.setting.rules = .standard ∨ account.Stops) :
    account.correspondence.relates 1 bound (trees room).innerStatement (read room)
      (read room) := by
  induction room generalizing bound with
  | zero =>
      rcases hroom with ⟨hroom, -⟩ | hstops
      · obtain rfl := Nat.le_zero.mp hroom
        exact Account.Relates.zero _ _
      · exact Account.Relates.tooDeep hstops
  | succ room ih =>
      cases bound with
      | zero => exact Account.Relates.zero _ _
      | succ bound =>
          have hless := hroom.imp_left (And.imp_left Nat.le_of_succ_le_succ)
          have hexpression := Expr.read_accounted trees hinner (hless.imp_left And.left) .lowest
          have hinside := readInside_relates account.correspondence (trees room) (ih hless).forget
            hexpression.forget ?_
          · exact Account.Relates.inLevel (account.correspondence.weaken hinside (Nat.le_refl _)
              (Nat.le_refl _) (hinnerStatement room))
          rintro _ kind rfl hrule
          rcases hroom with ⟨-, hrules⟩ | hstops
          · rw [hrules] at hrule
            cases kind <;> cases hrule
          · exact ih (.inr hstops)

end Levels

end FrontEnd
