import FrontEnd.Grammar.Session
import FrontEnd.Proofs.Grammar.Script

/-!
A machine for scripts: it holds a position in the tokens and a counter of the levels that are open,
and it raises and lowers the counter around each call. A run of the machine keeps a record of every
state that it passes through.

Two facts are proved of all runs. A run is steady: wherever it is, it has not moved back, it has not
passed the end of the tokens or the limit of levels, it has changed nothing else, and unless it
faults it leaves the counter as it found it. And a run ends as the reading that its script gives.
-/

namespace FrontEnd

structure Machine where
  tokens : List Token
  source : Text
  /-- How many levels may be open at once. -/
  limit : Nat
  rules : Rules
  /-- Number of tokens that were passed over. -/
  position : Nat
  /-- Number of levels that are open. -/
  depth : Nat

inductive Ending (α : Type) where
  | value (value : α)
  | problem (problem : Diagnostic)
  | fault

structure Run (α : Type) where
  ending : Ending α
  after : Machine
  /-- The states that the machine was in, in their order. -/
  moments : List Machine

namespace Machine

def start (tokens : List Token) (source : Text) (limit : Nat) (rules : Rules) : Machine :=
  ⟨tokens, source, limit, rules, 0, 0⟩

def rest (machine : Machine) : List Token :=
  machine.tokens.drop machine.position

def current? (machine : Machine) : Option Token :=
  machine.tokens[machine.position]?

def currentLine (machine : Machine) : Nat :=
  ((machine.current?.or machine.tokens.getLast?).map Token.line).getD 1

/-- Passes over the current token, if there is one. -/
def advance (machine : Machine) : Machine :=
  match machine.current? with
  | some _ => { machine with position := machine.position + 1 }
  | none => machine

theorem rules_advance (machine : Machine) : machine.advance.rules = machine.rules := by
  unfold advance
  split <;> rfl

theorem depth_advance (machine : Machine) : machine.advance.depth = machine.depth := by
  unfold advance
  split <;> rfl

def raised (machine : Machine) : Machine :=
  { machine with depth := machine.depth + 1 }

def lowered (machine : Machine) : Machine :=
  { machine with depth := machine.depth - 1 }

end Machine

/-- Closes the level that a run was inside of, which was opened by the state given. The level stays
open if the run faults. -/
def Run.closed {α : Type} (opener : Machine) (run : Run α) : Run α :=
  match run.ending with
  | .fault => ⟨.fault, run.after, opener :: run.moments⟩
  | ending => ⟨ending, run.after.lowered, opener :: run.moments ++ [run.after.lowered]⟩

namespace Machine

variable {α : Type}

def stop (machine : Machine) (ending : Ending α) : Run α :=
  ⟨ending, machine, [machine]⟩

/-- Runs a body inside one more level. -/
def nested (body : Machine → Run α) (machine : Machine) : Run α :=
  if machine.depth < machine.limit then
    (body machine.raised).closed machine
  else
    machine.stop (.problem ⟨.nestingTooDeep machine.limit, machine.currentLine,
      machine.current?.map Token.span⟩)

end Machine

/-- Goes on from where a run ended, if it ended with a value. -/
def Run.andThen {α β : Type} (run : Run α) (next : α → Machine → Run β) : Run β :=
  match run.ending with
  | .value value =>
      let later := next value run.after
      { later with moments := run.moments ++ later.moments }
  | .problem problem => ⟨.problem problem, run.after, run.moments⟩
  | .fault => ⟨.fault, run.after, run.moments⟩

/-- Runs a script on a machine, with the runs that its calls are answered by. -/
def Script.run {α : Type}
    (answer : (nonterminal : Nonterminal) → Machine → Run nonterminal.Tree) :
    Script α → Machine → Run α
  | done value, machine => machine.stop (.value value)
  | look next, machine => (next machine.rules machine.rest).run answer machine
  | pass next, machine =>
      let later := next.run answer machine.advance
      { later with moments := machine :: later.moments }
  | cut token next, machine =>
      match token.lexeme? machine.source with
      | some text => (next text).run answer machine
      | none => machine.stop .fault
  | refuse token cause, machine => machine.stop (.problem ⟨cause, token.line, some token.span⟩)
  | missing expected, machine =>
      machine.stop (.problem ⟨.endOfInput expected, machine.currentLine, none⟩)
  | call nonterminal next, machine =>
      (answer nonterminal machine).andThen fun tree => (next tree).run answer

/-- Runs the script of a nonterminal inside one more level. The first argument bounds the number of
levels; when it is used up, no further level may be opened. -/
def Machine.read : Nat → (nonterminal : Nonterminal) → Machine → Run nonterminal.Tree
  | 0, _ => nested (stop · .fault)
  | levels + 1, nonterminal => nested (nonterminal.script.run (read levels))

section Steady

variable {α β : Type}

/-- What holds between the state before a run and each state on the way: nothing was passed over
that is not there, and no level was opened that may not be. -/
structure Machine.Reaches (before after : Machine) : Prop where
  tokens_eq : after.tokens = before.tokens
  source_eq : after.source = before.source
  limit_eq : after.limit = before.limit
  position_le : before.position ≤ after.position
  position_le_length :
    before.position ≤ before.tokens.length → after.position ≤ before.tokens.length
  depth_le : before.depth ≤ after.depth
  depth_le_limit : before.depth ≤ before.limit → after.depth ≤ before.limit

namespace Machine.Reaches

variable {before middle after machine : Machine}

theorem refl (machine : Machine) : machine.Reaches machine :=
  ⟨rfl, rfl, rfl, Nat.le_refl _, id, Nat.le_refl _, id⟩

theorem trans (first : before.Reaches middle) (second : middle.Reaches after) :
    before.Reaches after where
  tokens_eq := second.tokens_eq.trans first.tokens_eq
  source_eq := second.source_eq.trans first.source_eq
  limit_eq := second.limit_eq.trans first.limit_eq
  position_le := Nat.le_trans first.position_le second.position_le
  position_le_length h := by
    have hlength := second.position_le_length
    rw [first.tokens_eq] at hlength
    exact hlength (first.position_le_length h)
  depth_le := Nat.le_trans first.depth_le second.depth_le
  depth_le_limit h := by
    have hlimit := second.depth_le_limit
    rw [first.limit_eq] at hlimit
    exact hlimit (first.depth_le_limit h)

theorem advance (machine : Machine) : machine.Reaches machine.advance := by
  unfold Machine.advance
  split
  case h_1 token htoken =>
    obtain ⟨hposition, -⟩ := List.getElem?_eq_some_iff.mp htoken
    exact ⟨rfl, rfl, rfl, Nat.le_succ _, fun _ => hposition, Nat.le_refl _, id⟩
  case h_2 => exact refl machine

theorem raised (h : machine.depth < machine.limit) : machine.Reaches machine.raised :=
  ⟨rfl, rfl, rfl, Nat.le_refl _, id, Nat.le_succ _, fun _ => h⟩

theorem lowered (hdepth : machine.depth < machine.limit) (h : machine.raised.Reaches after) :
    machine.Reaches after.lowered where
  tokens_eq := h.tokens_eq
  source_eq := h.source_eq
  limit_eq := h.limit_eq
  position_le := h.position_le
  position_le_length := h.position_le_length
  depth_le := Nat.le_sub_one_of_lt h.depth_le
  depth_le_limit _ := Nat.le_trans (Nat.sub_le ..) (h.depth_le_limit hdepth)

end Machine.Reaches

/-- All states of a run are reached from the one before it. -/
structure Run.Within (before : Machine) (run : Run α) : Prop where
  reaches : ∀ moment ∈ run.moments, before.Reaches moment
  after_mem : run.after ∈ run.moments

/-- A run that keeps the rules, and unless it faults closes the levels that it opens. -/
structure Run.Steady (before : Machine) (run : Run α) : Prop extends run.Within before where
  rules_eq : ∀ moment ∈ run.moments, moment.rules = before.rules
  depth_eq : run.ending ≠ .fault → run.after.depth = before.depth

namespace Run

variable {before machine : Machine} {run : Run α}

theorem Within.reaches_after (h : run.Within before) : before.Reaches run.after :=
  h.reaches run.after h.after_mem

theorem of_mem_closed {moment : Machine} (h : moment ∈ (run.closed machine).moments) :
    moment = machine ∨ moment ∈ run.moments ∨ moment = run.after.lowered := by
  unfold Run.closed at h
  split at h
  · exact (List.mem_cons.mp h).imp_right .inl
  · simpa using h

theorem Within.closed (hdepth : machine.depth < machine.limit) (h : run.Within machine.raised) :
    (run.closed machine).Within machine := by
  refine ⟨fun moment hmoment => ?_, ?_⟩
  · rcases of_mem_closed hmoment with rfl | hmoment | rfl
    · exact .refl moment
    · exact (Machine.Reaches.raised hdepth).trans (h.reaches moment hmoment)
    · exact .lowered hdepth h.reaches_after
  · unfold Run.closed
    split
    · exact List.mem_cons_of_mem _ h.after_mem
    · simp

theorem Within.stop (machine : Machine) (ending : Ending α) :
    (machine.stop ending).Within machine where
  reaches moment hmoment := by
    rw [List.mem_singleton.mp hmoment]
    exact .refl machine
  after_mem := List.mem_singleton_self machine

theorem Steady.stop (machine : Machine) (ending : Ending α) :
    (machine.stop ending).Steady machine where
  toWithin := .stop machine ending
  rules_eq moment hmoment := by rw [List.mem_singleton.mp hmoment]
  depth_eq _ := rfl

theorem Steady.closed (hdepth : machine.depth < machine.limit) (h : run.Steady machine.raised) :
    (run.closed machine).Steady machine := by
  refine { h.toWithin.closed hdepth with rules_eq := ?_, depth_eq := ?_ }
  · intro moment hmoment
    rcases of_mem_closed hmoment with rfl | hmoment | rfl
    · rfl
    · exact h.rules_eq moment hmoment
    · exact h.rules_eq run.after h.after_mem
  · unfold Run.closed
    split
    case h_1 => exact fun hending => absurd rfl hending
    case h_2 hending =>
      have hafter : run.after.depth = machine.depth + 1 := h.depth_eq hending
      intro
      change run.after.depth - 1 = machine.depth
      rw [hafter, Nat.add_sub_cancel]

theorem Steady.nested {body : Machine → Run α}
    (h : machine.depth < machine.limit → (body machine.raised).Steady machine.raised) :
    (machine.nested body).Steady machine := by
  unfold Machine.nested
  split
  case isTrue hdepth => exact (h hdepth).closed hdepth
  case isFalse => exact .stop machine _

theorem Steady.advance (h : run.Steady machine.advance) :
    Steady machine ⟨run.ending, run.after, machine :: run.moments⟩ := by
  have hadvance := Machine.Reaches.advance machine
  constructor
  · refine ⟨?_, List.mem_cons_of_mem _ h.after_mem⟩
    simpa using ⟨.refl machine, fun moment hmoment => hadvance.trans (h.reaches moment hmoment)⟩
  · simpa using fun moment hmoment => (h.rules_eq moment hmoment).trans machine.rules_advance
  · exact fun hending => (h.depth_eq hending).trans machine.depth_advance

theorem Steady.andThen {next : α → Machine → Run β} (h : run.Steady before)
    (hnext : ∀ value, (next value run.after).Steady run.after) :
    (run.andThen next).Steady before := by
  unfold Run.andThen
  split
  case h_1 value hending =>
    have hafter : run.after.depth = before.depth := h.depth_eq (by simp [hending])
    have hlater := hnext value
    constructor
    · refine ⟨fun moment hmoment => ?_, List.mem_append_right _ hlater.after_mem⟩
      rcases List.mem_append.mp hmoment with hmoment | hmoment
      · exact h.reaches moment hmoment
      · exact h.reaches_after.trans (hlater.reaches moment hmoment)
    · intro moment hmoment
      rcases List.mem_append.mp hmoment with hmoment | hmoment
      · exact h.rules_eq moment hmoment
      · exact (hlater.rules_eq moment hmoment).trans (h.rules_eq _ h.after_mem)
    · exact fun hlast => (hlater.depth_eq hlast).trans hafter
  case h_2 problem hending =>
    exact ⟨⟨h.reaches, h.after_mem⟩, h.rules_eq, fun _ => h.depth_eq (by simp [hending])⟩
  case h_3 =>
    exact ⟨⟨h.reaches, h.after_mem⟩, h.rules_eq, fun hending => absurd rfl hending⟩

end Run

theorem Script.steady_run {answer : (nonterminal : Nonterminal) → Machine → Run nonterminal.Tree}
    (hanswer : ∀ nonterminal machine, (answer nonterminal machine).Steady machine)
    (script : Script α) (machine : Machine) : (script.run answer machine).Steady machine := by
  induction script generalizing machine with
  | done value => exact .stop machine _
  | look next ih => exact ih machine.rules machine.rest machine
  | pass next ih => exact (ih machine.advance).advance
  | cut token next ih =>
      rw [run]
      split
      case h_1 text _ => exact ih text machine
      case h_2 => exact .stop machine _
  | refuse token cause => exact .stop machine _
  | missing expected => exact .stop machine _
  | call nonterminal next ih =>
      exact (hanswer nonterminal machine).andThen fun tree => ih tree _

theorem Machine.steady_read (levels : Nat) (nonterminal : Nonterminal) (machine : Machine) :
    (read levels nonterminal machine).Steady machine := by
  induction levels generalizing nonterminal machine with
  | zero => exact .nested fun _ => .stop _ _
  | succ levels ih => exact .nested fun _ => Script.steady_run ih nonterminal.script _

end Steady

section Agreement

variable {α β : Type}

/-- The outcome of a run that began with some levels open. -/
def Run.outcome (depth : Nat) (run : Run α) : Outcome α :=
  match run.ending with
  | .value value => .ok value run.after.rest
  | .problem problem => .error problem run.after.rest
  | .fault => .fault run.after.rest (run.after.depth - depth)

namespace Machine

/-- The session that stands where the machine stands. -/
def session (machine : Machine) : Session :=
  ⟨machine.tokens, machine.source, machine.limit, machine.rules, machine.rest, machine.depth⟩

def setting (machine : Machine) : Setting :=
  machine.session.setting

theorem head?_rest (machine : Machine) : machine.rest.head? = machine.current? := by
  rw [rest, List.head?_drop, current?]

theorem rest_advance (machine : Machine) : machine.advance.rest = machine.rest.tail := by
  unfold advance
  split
  case h_1 => rw [rest, rest, List.tail_drop]
  case h_2 h =>
    have hrest : machine.rest = [] := List.drop_eq_nil_iff.mpr (List.getElem?_eq_none_iff.mp h)
    rw [hrest, List.tail_nil]

theorem lineAt_rest (machine : Machine) :
    Reading.lineAt machine.setting machine.rest = machine.currentLine := by
  rw [Reading.lineAt, head?_rest, currentLine]
  cases machine.current? <;> rfl

theorem setting_eq {before after : Machine} (h : before.Reaches after)
    (hrules : after.rules = before.rules) : after.setting = before.setting := by
  simp only [setting, session, Session.setting, h.tokens_eq, h.source_eq, h.limit_eq, hrules]

end Machine

theorem Run.outcome_andThen (run : Run α) (next : α → Machine → Run β) (depth : Nat) :
    (run.andThen next).outcome depth =
      match run.outcome depth with
      | .ok value _ => (next value run.after).outcome depth
      | .error problem rest => .error problem rest
      | .fault rest opened => .fault rest opened := by
  unfold andThen outcome
  cases run.ending <;> rfl

/-- A steady run inside a level ends as it does outside, except that a fault leaves one more level
open. -/
theorem Machine.outcome_nested {machine : Machine} {body : Machine → Run α} {reading : Reading α}
    (hdepth : machine.depth < machine.limit)
    (hsteady : (body machine.raised).Steady machine.raised)
    (h : (body machine.raised).outcome machine.raised.depth =
      reading machine.setting machine.rest) :
    (machine.nested body).outcome machine.depth =
      Reading.inLevel reading machine.setting machine.rest := by
  have hafter : machine.depth + 1 ≤ (body machine.raised).after.depth :=
    hsteady.reaches_after.depth_le
  rw [nested, if_pos hdepth, Reading.inLevel, ← h]
  unfold Run.closed Run.outcome
  cases (body machine.raised).ending with
  | value value => rfl
  | problem problem => rfl
  | fault =>
      have hopened : (body machine.raised).after.depth - machine.depth =
          (body machine.raised).after.depth - (machine.depth + 1) + 1 := by omega
      exact congrArg (Outcome.fault _) hopened

theorem Script.run_cut_of_some
    {answer : (nonterminal : Nonterminal) → Machine → Run nonterminal.Tree} {token : Token}
    {machine : Machine} {text : Text} (h : token.lexeme? machine.source = some text)
    (next : Text → Script α) :
    (cut token next).run answer machine = (next text).run answer machine := by
  simp only [run, h]

theorem Script.run_cut_of_none
    {answer : (nonterminal : Nonterminal) → Machine → Run nonterminal.Tree} {token : Token}
    {machine : Machine} (h : token.lexeme? machine.source = none) (next : Text → Script α) :
    (cut token next).run answer machine = machine.stop .fault := by
  simp only [run, h]

/-- One script: if its calls are answered alike, then its run ends as its reading. -/
theorem Script.outcome_run {levels : Nat}
    (hread : ∀ nonterminal machine, machine.depth + levels = machine.limit →
      (Machine.read levels nonterminal machine).outcome machine.depth =
        nonterminal.read levels machine.setting machine.rest)
    (script : Script α) (machine : Machine) (hlevels : machine.depth + levels = machine.limit) :
    (script.run (Machine.read levels) machine).outcome machine.depth =
      script.reading (Nonterminal.read levels) machine.setting machine.rest := by
  induction script generalizing machine with
  | done value => rfl
  | look next ih => exact ih machine.rules machine.rest machine hlevels
  | pass next ih =>
      have hadvance := Machine.Reaches.advance machine
      have hdepth : machine.advance.depth = machine.depth := Machine.depth_advance machine
      have hsetting := Machine.setting_eq hadvance (Machine.rules_advance machine)
      have hnext := ih machine.advance (by rw [hdepth, hlevels, hadvance.limit_eq])
      rw [hdepth, hsetting, Machine.rest_advance] at hnext
      exact hnext
  | cut token next ih =>
      cases hlexeme : token.lexeme? machine.setting.source with
      | some text =>
          rw [run_cut_of_some hlexeme, ih text machine hlevels]
          exact (Reading.lexeme_bind hlexeme fun text =>
            (next text).reading (Nonterminal.read levels)).symm
      | none =>
          rw [run_cut_of_none hlexeme]
          refine Eq.trans ?_ (Reading.bind_of_fault (Reading.lexeme_of_none hlexeme) _).symm
          exact congrArg (Outcome.fault machine.rest) (Nat.sub_self machine.depth)
  | refuse token cause => rfl
  | missing expected =>
      exact congrArg (fun line => Outcome.error ⟨.endOfInput expected, line, none⟩ machine.rest)
        machine.lineAt_rest.symm
  | call nonterminal next ih =>
      have hsteady := Machine.steady_read levels nonterminal machine
      have hafter := hsteady.reaches_after
      have hsetting := Machine.setting_eq hafter (hsteady.rules_eq _ hsteady.after_mem)
      change ((Machine.read levels nonterminal machine).andThen _).outcome _ =
        (nonterminal.read levels >>= _) _ _
      rw [Run.outcome_andThen, Reading.bind_apply, ← hread nonterminal machine hlevels]
      unfold Run.outcome
      cases hending : (Machine.read levels nonterminal machine).ending with
      | value tree =>
          have hdepth := hsteady.depth_eq (by simp [hending])
          have hnext := ih tree _ (by rw [hdepth, hlevels, hafter.limit_eq])
          rw [hdepth, hsetting] at hnext
          exact hnext
      | problem problem => rfl
      | fault => rfl

theorem Machine.outcome_read (levels : Nat) (nonterminal : Nonterminal) (machine : Machine)
    (hlevels : machine.depth + levels = machine.limit) :
    (read levels nonterminal machine).outcome machine.depth =
      nonterminal.read levels machine.setting machine.rest := by
  induction levels generalizing nonterminal machine with
  | zero =>
      have hdepth : ¬machine.depth < machine.limit := by omega
      rw [read, nested, if_neg hdepth, Nonterminal.read_zero, Reading.tooDeep, head?_rest,
        lineAt_rest]
      rfl
  | succ levels ih =>
      rw [read, Nonterminal.read_succ]
      refine outcome_nested (by omega) (Script.steady_run (steady_read levels) _ _) ?_
      refine Script.outcome_run ih nonterminal.script machine.raised ?_
      change machine.depth + 1 + levels = machine.limit
      omega

end Agreement

end FrontEnd
