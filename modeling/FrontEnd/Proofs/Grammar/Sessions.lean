import FrontEnd.Proofs.Grammar.Transitions

namespace FrontEnd

open Script

section Reports

mutual

def Transition.report : Transition → Report
  | ⟨_, step, run, inside⟩ =>
      match run.ending with
      | .value answer =>
          match step with
          | .nested _ => .nested (Transition.reports inside) run.after.session
          | _ => .answered answer run.after.session
      | .problem problem => .refused problem run.after.session
      | .fault => .fault run.after.session

def Transition.reports : List Transition → List Report
  | [] => []
  | transition :: transitions => transition.report :: Transition.reports transitions

end

namespace Transition

variable {before : Machine} {step : Step} {run : Run Answer} {inside : List Transition}

theorem report_of_value {answer : Answer} (hstep : ∀ steps, step = .nested steps → False)
    (h : run.ending = .value answer) :
    report ⟨before, step, run, inside⟩ = .answered answer run.after.session := by
  rw [report]
  simp only [h]

theorem report_of_problem {problem : Diagnostic} (h : run.ending = .problem problem) :
    report ⟨before, step, run, inside⟩ = .refused problem run.after.session := by
  rw [report]
  simp only [h]

theorem report_of_fault (h : run.ending = .fault) :
    report ⟨before, step, run, inside⟩ = .fault run.after.session := by
  rw [report]
  simp only [h]

theorem after_report (transition : Transition) :
    transition.report.after = transition.run.after.session := by
  obtain ⟨before, step, run, inside⟩ := transition
  rw [report]
  cases run.ending with
  | value answer => cases step <;> rfl
  | problem problem => rfl
  | fault => rfl

theorem goesOn_report (tolerated : Diagnostic → Bool) (transition : Transition) :
    transition.report.goesOn tolerated = transition.run.ending.goesOn tolerated := by
  obtain ⟨before, step, run, inside⟩ := transition
  rw [report]
  cases run.ending with
  | value answer => cases step <;> rfl
  | problem problem => rfl
  | fault => rfl

end Transition

namespace Run

variable {α : Type} {run : Run α} {depth opened : Nat} {rest : List Token}

theorem of_outcome_ok {value : α} (h : run.outcome depth = .ok value rest) :
    run.ending = .value value ∧ run.after.rest = rest := by
  unfold outcome at h
  split at h <;> cases h
  exact ⟨‹_›, rfl⟩

theorem of_outcome_error {problem : Diagnostic} (h : run.outcome depth = .error problem rest) :
    run.ending = .problem problem ∧ run.after.rest = rest := by
  unfold outcome at h
  split at h <;> cases h
  exact ⟨‹_›, rfl⟩

theorem of_outcome_fault (h : run.outcome depth = .fault rest opened) :
    run.ending = .fault ∧ run.after.rest = rest ∧ run.after.depth - depth = opened := by
  unfold outcome at h
  split at h <;> cases h
  exact ⟨‹_›, rfl, rfl⟩

end Run

namespace Session

variable {tolerated : Diagnostic → Bool} {session : Session} {step : Step} {steps : List Step}

theorem take_nested_of_lt {inside : List Report} {after : Session}
    (h : session.depth < session.limit)
    (hsteps : takeAll tolerated { session with depth := session.depth + 1 } steps =
      (inside, after)) :
    session.take tolerated (.nested steps) =
      .nested inside { after with depth := after.depth - 1 } := by
  rw [take, if_pos h, hsteps]

theorem take_nested_of_not_lt (h : ¬session.depth < session.limit) :
    session.take tolerated (.nested steps) =
      session.perform Reading.tooDeep := by
  rw [take, if_neg h]

theorem takeAll_cons_of_goesOn (h : (session.take tolerated step).goesOn tolerated) :
    session.takeAll tolerated (step :: steps) =
      (session.take tolerated step ::
          ((session.take tolerated step).after.takeAll tolerated steps).1,
        ((session.take tolerated step).after.takeAll tolerated steps).2) := by
  rw [takeAll]
  exact if_pos h

theorem takeAll_cons_of_not_goesOn (h : ¬(session.take tolerated step).goesOn tolerated) :
    session.takeAll tolerated (step :: steps) =
      ([session.take tolerated step], (session.take tolerated step).after) := by
  rw [takeAll]
  exact if_neg h

end Session

namespace Machine

variable {machine : Machine} {step : Step} {steps : List Step} {tolerated : Diagnostic → Bool}

theorem session_eq {before after : Machine} (h : before.Reaches after)
    (hrules : after.rules = before.rules) :
    after.session = { before.session with rest := after.rest, depth := after.depth } := by
  simp only [session, h.tokens_eq, h.source_eq, h.limit_eq, hrules]

theorem report_script {script : Script Answer} (hdepth : machine.depth ≤ machine.limit)
    (hstep : ∀ steps, step = .nested steps → False) :
    Transition.report ⟨machine, step, script.run (read machine.session.room) machine, []⟩ =
      machine.session.perform (script.reading (Nonterminal.read machine.session.room)) := by
  have hroom : machine.depth + machine.session.room = machine.limit :=
    Nat.add_sub_of_le hdepth
  have hsteady := Script.steady_run (steady_read machine.session.room) script machine
  have hsession := session_eq hsteady.reaches_after (hsteady.rules_eq _ hsteady.after_mem)
  have houtcome := Script.outcome_run (outcome_read machine.session.room) script machine hroom
  change _ = script.reading _ machine.session.setting machine.session.rest at houtcome
  unfold Session.perform
  cases hreading : script.reading (Nonterminal.read machine.session.room) machine.session.setting
      machine.session.rest with
  | ok value rest =>
      rw [hreading] at houtcome
      obtain ⟨hending, hrest⟩ := Run.of_outcome_ok houtcome
      have hafter := hsteady.depth_eq (by simp [hending])
      rw [Transition.report_of_value hstep hending, hsession, hrest, hafter]
      rfl
  | error problem rest =>
      rw [hreading] at houtcome
      obtain ⟨hending, hrest⟩ := Run.of_outcome_error houtcome
      have hafter := hsteady.depth_eq (by simp [hending])
      rw [Transition.report_of_problem hending, hsession, hrest, hafter]
      rfl
  | fault rest opened =>
      rw [hreading] at houtcome
      obtain ⟨hending, hrest, hopened⟩ := Run.of_outcome_fault houtcome
      have hafter := Nat.add_sub_of_le hsteady.reaches_after.depth_le
      rw [Transition.report_of_fault hending, hsession, hrest, ← hopened]
      exact congrArg (fun depth => Report.fault { machine.session with rest, depth }) hafter.symm

theorem report_perform (hdepth : machine.depth ≤ machine.limit)
    (hstep : ∀ steps, step = .nested steps → False) :
    (machine.perform step).report = machine.session.take tolerated step := by
  rw [perform, Session.take.eq_2 _ _ step hstep]
  cases hregistration : step.registration? with
  | some change => exact Transition.report_of_value hstep rfl
  | none =>
      rw [← Script.relates_iff.mp (step.script_relates machine.session.room)]
      exact report_script hdepth hstep

theorem report_opening {inside : Machine → List Transition}
    (h : machine.depth < machine.limit →
      (Transition.reports (inside machine.raised),
        (machine.raised.through (inside machine.raised)).after.session) =
          machine.raised.session.takeAll tolerated steps) :
    (machine.opening steps (machine.nested fun raised => raised.through (inside raised))).report =
      machine.session.take tolerated (.nested steps) := by
  unfold nested
  split
  case isTrue hdepth =>
    rw [Session.take_nested_of_lt hdepth (h hdepth).symm]
    rfl
  case isFalse hdepth =>
    rw [Session.take_nested_of_not_lt hdepth, Session.perform, Reading.tooDeep]
    change Transition.report ⟨machine, .nested steps, machine.stop (.problem
      ⟨.nestingTooDeep machine.limit, machine.currentLine,
        machine.current?.map Token.span⟩), []⟩ = _
    rw [Transition.report_of_problem rfl, ← lineAt_rest, ← head?_rest]
    rfl

theorem reports_takeAll (tolerated : Diagnostic → Bool) (machine : Machine) (steps : List Step)
    (hdepth : machine.depth ≤ machine.limit) :
    (Transition.reports (machine.takeAll tolerated steps),
      (machine.through (machine.takeAll tolerated steps)).after.session) =
        machine.session.takeAll tolerated steps := by
  refine (take.mutual_induct tolerated
    (fun machine step => machine.depth ≤ machine.limit →
      (machine.take tolerated step).report = machine.session.take tolerated step)
    (fun machine steps => machine.depth ≤ machine.limit →
      (Transition.reports (machine.takeAll tolerated steps),
        (machine.through (machine.takeAll tolerated steps)).after.session) =
          machine.session.takeAll tolerated steps)
    ?nested ?performed ?nil ?goesOn ?stops).2 machine steps hdepth
  case nested =>
    intro machine steps ih hdepth
    rw [take]
    exact report_opening fun hlt => ih machine.raised hlt
  case performed =>
    intro machine step hstep hdepth
    rw [take.eq_2 _ machine step hstep]
    exact report_perform hdepth hstep
  case nil =>
    intro machine hdepth
    rw [takeAll, Session.takeAll]
    rfl
  case goesOn =>
    intro machine step steps transition hgoesOn hstep hsteps hdepth
    have hreport := hstep hdepth
    have hreaches := (steady_take tolerated machine step).within.reaches_after
    rw [before_take] at hreaches
    have hlater := hsteps (by rw [hreaches.limit_eq]; exact hreaches.depth_le_limit hdepth)
    have hsession : (machine.session.take tolerated step).goesOn tolerated := by
      rwa [← hreport, Transition.goesOn_report]
    rw [takeAll, if_pos hgoesOn, Session.takeAll_cons_of_goesOn hsession, ← hreport,
      Transition.after_report, ← hlater, after_through_cons]
    rfl
  case stops =>
    intro machine step steps transition hgoesOn hstep hdepth
    have hreport := hstep hdepth
    have hsession : ¬(machine.session.take tolerated step).goesOn tolerated := by
      rwa [← hreport, Transition.goesOn_report]
    rw [takeAll, if_neg hgoesOn, Session.takeAll_cons_of_not_goesOn hsession, ← hreport,
      Transition.after_report]
    rfl

end Machine

end Reports

/-- What a step keeps in a session on these tokens. The first fields are about every state on the
way, whatever readings were called for. -/
structure Transition.Keeps (tokens : List Token) (source : Text) (limit : Nat)
    (transition : Transition) : Prop where
  frame : ∀ moment ∈ transition.run.moments,
    moment.tokens = tokens ∧ moment.source = source ∧ moment.limit = limit
  position_le : ∀ moment ∈ transition.run.moments,
    transition.before.position ≤ moment.position ∧ moment.position ≤ tokens.length
  depth_le : ∀ moment ∈ transition.run.moments, moment.depth ≤ limit
  rules_eq : ¬transition.step.Registers →
    ∀ moment ∈ transition.run.moments, moment.rules = transition.before.rules
  after_mem : transition.run.after ∈ transition.run.moments
  depth_eq : transition.Faultless → transition.run.after.depth = transition.before.depth

theorem Transition.Steady.keeps {tokens : List Token} {source : Text} {limit : Nat} {rules : Rules}
    {transition : Transition} (h : transition.Steady)
    (hbefore : (Machine.start tokens source limit rules).Reaches transition.before) :
    transition.Keeps tokens source limit := by
  have hreaches (moment) (hmoment : moment ∈ transition.run.moments) :
      (Machine.start tokens source limit rules).Reaches moment :=
    hbefore.trans (h.within.reaches moment hmoment)
  constructor
  case frame =>
    intro moment hmoment
    have hmoment := hreaches moment hmoment
    exact ⟨hmoment.tokens_eq, hmoment.source_eq, hmoment.limit_eq⟩
  case position_le =>
    intro moment hmoment
    exact ⟨(h.within.reaches moment hmoment).position_le,
      (hreaches moment hmoment).position_le_length (Nat.zero_le _)⟩
  case depth_le =>
    intro moment hmoment
    exact (hreaches moment hmoment).depth_le_limit (Nat.zero_le _)
  case rules_eq => exact h.rules_eq
  case after_mem => exact h.within.after_mem
  case depth_eq => exact h.depth_eq

/-- A session reports the transitions of the machine. Every transition, at any depth and whichever
diagnostics are tolerated, keeps the tokens, the text and the limit, never goes back, stays within
the tokens and the limit, and leaves as many levels open as it found; and it keeps the rules unless
it registers some. -/
theorem Session.takeAll_keeps_state (tokens : List Token) (source : Text) (limit : Nat)
    (rules : Rules) (tolerated : Diagnostic → Bool) (steps : List Step) :
    let machine := Machine.start tokens source limit rules
    let taken := machine.takeAll tolerated steps
    (Session.start tokens source limit rules).takeAll tolerated steps =
        (Transition.reports taken, (machine.through taken).after.session) ∧
      ∀ transition : Transition, transition.Occurs taken →
        transition.Keeps tokens source limit := by
  intro machine taken
  refine ⟨?_, fun transition htransition => ?_⟩
  · exact (machine.reports_takeAll tolerated steps (Nat.zero_le _)).symm
  · obtain ⟨hbefore, hsteady⟩ :=
      (machine.steadyThrough_takeAll tolerated steps).each transition htransition
    exact hsteady.keeps hbefore

/-- The text is `(` and two levels may be open. The expression inside the level is refused at the
second level, and the session goes on at the first. -/
theorem Session.takeAll_keeps_state_refused :
    let tokens : List Token := [⟨.openParen, ⟨0, 1⟩, 1⟩]
    let machine := Machine.start tokens "(".toList 2 .standard
    let steps : List Step :=
      [.nested [.expression .lowest, .setOperand .openParen .number], .expression .lowest]
    let refused := machine.raised.take (fun _ => true) (.expression .lowest)
    refused.Occurs (machine.takeAll (fun _ => true) steps) ∧
      refused.run.ending =
        .problem ⟨.unsupported "parenthesized expression", 1, some ⟨0, 1⟩⟩ ∧
      refused.run.moments.map Machine.depth = [1, 2, 1] ∧
      refused.Faultless ∧ refused.Keeps tokens "(".toList 2 := by
  intro tokens machine steps refused
  have houter : machine.take (fun _ => true)
      (.nested [.expression .lowest, .setOperand .openParen .number]) ∈
        machine.takeAll (fun _ => true) steps := List.mem_cons_self
  have hrefused : refused.Occurs (machine.takeAll (fun _ => true) steps) :=
    .inside houter (.here List.mem_cons_self)
  have hending : refused.run.ending =
      .problem ⟨.unsupported "parenthesized expression", 1, some ⟨0, 1⟩⟩ := rfl
  have hfaultless : refused.Faultless :=
    ⟨by simp [hending], fun _ hinner => absurd hinner Transition.not_occurs_nil⟩
  refine ⟨hrefused, hending, rfl, hfaultless, ?_⟩
  exact (Session.takeAll_keeps_state tokens "(".toList 2 .standard (fun _ => true) steps).2
    refused hrefused

end FrontEnd
