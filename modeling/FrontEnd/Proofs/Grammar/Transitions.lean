import FrontEnd.Proofs.Grammar.Machine

namespace FrontEnd

open Script

namespace Step

/-- The step registers rules, or a step inside it does. -/
inductive Registers : Step → Prop where
  | here {step : Step} (h : step.registration?.isSome) : Registers step
  | inside {step : Step} {steps : List Step} (hmem : step ∈ steps) (h : Registers step) :
      Registers (nested steps)

end Step

/-- A step that was taken. -/
structure Transition where
  before : Machine
  step : Step
  run : Run Answer
  /-- The steps that were taken inside it, if it opened a level. -/
  inside : List Transition

namespace Transition

/-- A transition among others or, at any depth, inside one of them. -/
inductive Occurs (transition : Transition) : List Transition → Prop where
  | here {transitions : List Transition} (h : transition ∈ transitions) :
      Occurs transition transitions
  | inside {outer : Transition} {transitions : List Transition} (hmem : outer ∈ transitions)
      (h : Occurs transition outer.inside) : Occurs transition transitions

theorem not_occurs_nil {transition : Transition} : ¬transition.Occurs [] := by
  rintro (h | ⟨h, _⟩) <;> cases h

theorem occurs_cons {transition first : Transition} {later : List Transition} :
    transition.Occurs (first :: later) ↔
      transition = first ∨ transition.Occurs first.inside ∨ transition.Occurs later := by
  constructor
  · rintro (h | ⟨hmem, h⟩)
    · rcases List.mem_cons.mp h with rfl | h
      · exact .inl rfl
      · exact .inr (.inr (.here h))
    · rcases List.mem_cons.mp hmem with rfl | hmem
      · exact .inr (.inl h)
      · exact .inr (.inr (.inside hmem h))
  · rintro (rfl | h | h | ⟨hmem, h⟩)
    · exact .here List.mem_cons_self
    · exact .inside List.mem_cons_self h
    · exact .here (List.mem_cons_of_mem _ h)
    · exact .inside (List.mem_cons_of_mem _ hmem) h

/-- Neither the step nor one that was taken inside it faulted. -/
def Faultless (transition : Transition) : Prop :=
  transition.run.ending ≠ .fault ∧
    ∀ inner, Occurs inner transition.inside → inner.run.ending ≠ .fault

end Transition

namespace Ending

variable {α β : Type}

/-- Whether a session goes on after a step that ended in this way. -/
def goesOn (tolerated : Diagnostic → Bool) : Ending α → Bool
  | value _ => true
  | problem found => tolerated found
  | fault => false

def value? : Ending α → Option α
  | value result => some result
  | _ => none

def map (f : α → β) : Ending α → Ending β
  | value result => value (f result)
  | problem found => problem found
  | fault => fault

end Ending

namespace Machine

/-- The run through transitions that were made one after another. -/
def through (machine : Machine) (transitions : List Transition) : Run (List Transition) where
  ending := .value transitions
  after := (transitions.getLast?.map (·.run.after)).getD machine
  moments := machine :: transitions.flatMap (·.run.moments)

def opening (machine : Machine) (steps : List Step) (run : Run (List Transition)) : Transition where
  before := machine
  step := .nested steps
  run := ⟨run.ending.map fun _ => .nothing, run.after, run.moments⟩
  inside := run.ending.value?.getD []

def register (machine : Machine) (change : Rules → Rules) : Run Answer :=
  let after := { machine with rules := change machine.rules }
  ⟨.value .nothing, after, [machine, after]⟩

def perform (machine : Machine) (step : Step) : Transition where
  before := machine
  step := step
  run :=
    match step.registration? with
    | some change => machine.register change
    | none => step.script.run (read (machine.limit - machine.depth)) machine
  inside := []

mutual

/-- Takes one step. The first argument says after which diagnostics a session goes on. -/
def take (tolerated : Diagnostic → Bool) (machine : Machine) : Step → Transition
  | .nested steps =>
      machine.opening steps (machine.nested fun raised =>
        raised.through (takeAll tolerated raised steps))
  | step => machine.perform step

def takeAll (tolerated : Diagnostic → Bool) (machine : Machine) : List Step → List Transition
  | [] => []
  | step :: steps =>
      let transition := take tolerated machine step
      if transition.run.ending.goesOn tolerated then
        transition :: takeAll tolerated transition.run.after steps
      else
        [transition]

end

end Machine

section Steady

/-- What one transition keeps. -/
structure Transition.Steady (transition : Transition) : Prop where
  within : transition.run.Within transition.before
  depth_eq : transition.Faultless → transition.run.after.depth = transition.before.depth
  rules_eq : ¬transition.step.Registers →
    ∀ moment ∈ transition.run.moments, moment.rules = transition.before.rules

/-- What transitions keep that are made one after another, with all that are made inside them. -/
structure Machine.SteadyThrough (machine : Machine) (transitions : List Transition) : Prop where
  within : (machine.through transitions).Within machine
  depth_eq :
    (∀ transition : Transition, transition.Occurs transitions → transition.run.ending ≠ .fault) →
      (machine.through transitions).after.depth = machine.depth
  rules_eq : (∀ transition ∈ transitions, ¬transition.step.Registers) →
    ∀ moment ∈ (machine.through transitions).moments, moment.rules = machine.rules
  each : ∀ transition : Transition, transition.Occurs transitions →
    machine.Reaches transition.before ∧ transition.Steady

namespace Machine

variable {machine : Machine} {transition : Transition} {later : List Transition}
  {tolerated : Diagnostic → Bool} {step : Step} {steps : List Step}

theorem after_through_cons (machine : Machine) (transition : Transition)
    (later : List Transition) :
    (machine.through (transition :: later)).after =
      (transition.run.after.through later).after := by
  rw [through, through, List.getLast?_cons]
  cases later.getLast? <;> rfl

theorem SteadyThrough.nil (machine : Machine) : machine.SteadyThrough [] where
  within := .stop machine (.value [])
  depth_eq _ := rfl
  rules_eq _ moment hmoment := by rw [List.mem_singleton.mp hmoment]
  each _ h := absurd h Transition.not_occurs_nil

theorem mem_moments_through_cons (h : transition.run.after ∈ transition.run.moments)
    (machine : Machine) (later : List Transition) (moment : Machine) :
    moment ∈ (machine.through (transition :: later)).moments ↔
      moment = machine ∨ moment ∈ transition.run.moments ∨
        moment ∈ (transition.run.after.through later).moments := by
  simp only [through, List.flatMap_cons, List.mem_cons, List.mem_append]
  constructor
  · rintro (rfl | hmoment | hmoment)
    · exact .inl rfl
    · exact .inr (.inl hmoment)
    · exact .inr (.inr (.inr hmoment))
  · rintro (rfl | hmoment | rfl | hmoment)
    · exact .inl rfl
    · exact .inr (.inl hmoment)
    · exact .inr (.inl h)
    · exact .inr (.inr hmoment)

theorem SteadyThrough.cons (hbefore : transition.before = machine) (h : transition.Steady)
    (hinside : ∀ inner : Transition, inner.Occurs transition.inside →
      machine.Reaches inner.before ∧ inner.Steady)
    (hlater : transition.run.after.SteadyThrough later) :
    machine.SteadyThrough (transition :: later) := by
  subst hbefore
  have hmoments := mem_moments_through_cons h.within.after_mem transition.before later
  have hreaches := h.within.reaches_after
  constructor
  case within =>
    refine ⟨fun moment hmoment => ?_, ?_⟩
    · rcases (hmoments moment).mp hmoment with rfl | hmoment | hmoment
      · exact .refl _
      · exact h.within.reaches moment hmoment
      · exact hreaches.trans (hlater.within.reaches moment hmoment)
    · rw [hmoments, after_through_cons]
      exact .inr (.inr hlater.within.after_mem)
  case depth_eq =>
    intro hfault
    have hfirst := h.depth_eq ⟨hfault transition (.here List.mem_cons_self), fun inner hinner =>
      hfault inner (.inside List.mem_cons_self hinner)⟩
    rw [after_through_cons, ← hfirst]
    exact hlater.depth_eq fun inner hinner =>
      hfault inner (Transition.occurs_cons.mpr (.inr (.inr hinner)))
  case rules_eq =>
    intro hregisters moment hmoment
    have hfirst := h.rules_eq (hregisters transition List.mem_cons_self)
    rcases (hmoments moment).mp hmoment with rfl | hmoment | hmoment
    · rfl
    · exact hfirst moment hmoment
    · rw [hlater.rules_eq (fun inner hinner => hregisters inner (List.mem_cons_of_mem _ hinner))
        moment hmoment]
      exact hfirst _ h.within.after_mem
  case each =>
    intro inner hinner
    rcases Transition.occurs_cons.mp hinner with rfl | hinner | hinner
    · exact ⟨.refl _, h⟩
    · exact hinside inner hinner
    · obtain ⟨hbefore, hsteady⟩ := hlater.each inner hinner
      exact ⟨hreaches.trans hbefore, hsteady⟩

theorem steady_register (machine : Machine) (change : Rules → Rules) :
    (machine.register change).Within machine := by
  refine ⟨fun moment hmoment => ?_, by simp [register]⟩
  have hmoment : moment = machine ∨ moment = { machine with rules := change machine.rules } := by
    simpa [register] using hmoment
  rcases hmoment with rfl | rfl
  · exact .refl moment
  · exact ⟨rfl, rfl, rfl, Nat.le_refl _, id, Nat.le_refl _, id⟩

theorem steady_perform (machine : Machine) (step : Step) : (machine.perform step).Steady := by
  unfold perform
  cases hregistration : step.registration? with
  | some change =>
      refine ⟨steady_register machine change, fun _ => rfl, fun hregisters => ?_⟩
      exact absurd (.here (by rw [hregistration]; rfl)) hregisters
  | none =>
      have hsteady := step.script.steady_run (steady_read (machine.limit - machine.depth)) machine
      exact ⟨hsteady.toWithin, fun hfault => hsteady.depth_eq hfault.1, fun _ => hsteady.rules_eq⟩

theorem steady_opening {inside : Machine → List Transition}
    (hsteps : ∀ transition ∈ inside machine.raised, transition.step ∈ steps)
    (h : machine.raised.SteadyThrough (inside machine.raised)) :
    (machine.opening steps
      (machine.nested fun raised => raised.through (inside raised))).Steady := by
  unfold nested
  split
  case isTrue hdepth =>
    refine ⟨?_, ?_, ?_⟩
    · have hwithin := h.within.closed hdepth
      exact ⟨hwithin.reaches, hwithin.after_mem⟩
    · intro hfault
      have hafter := h.depth_eq hfault.2
      change (machine.raised.through (inside machine.raised)).after.depth - 1 = machine.depth
      rw [hafter]
      rfl
    · intro hregisters
      have hrules := h.rules_eq fun inner hinner hinside =>
        hregisters (.inside (hsteps inner hinner) hinside)
      intro moment hmoment
      change moment ∈ ((machine.raised.through (inside machine.raised)).closed machine).moments
        at hmoment
      rcases Run.of_mem_closed hmoment with rfl | hmoment | rfl
      · rfl
      · exact hrules moment hmoment
      · exact hrules (machine.raised.through (inside machine.raised)).after h.within.after_mem
  case isFalse =>
    have hstop := Run.Steady.stop machine (.fault : Ending Unit)
    exact ⟨⟨hstop.reaches, hstop.after_mem⟩, fun _ => rfl, fun _ => hstop.rules_eq⟩

theorem occurs_opening {inside : Machine → List Transition}
    (h : transition.Occurs (machine.opening steps
      (machine.nested fun raised => raised.through (inside raised))).inside) :
    machine.depth < machine.limit ∧ transition.Occurs (inside machine.raised) := by
  unfold nested at h
  split at h
  case isTrue hdepth => exact ⟨hdepth, h⟩
  case isFalse => exact absurd h Transition.not_occurs_nil

theorem step_take (tolerated : Diagnostic → Bool) (machine : Machine) (step : Step) :
    (machine.take tolerated step).step = step := by
  cases step <;> rfl

theorem before_take (tolerated : Diagnostic → Bool) (machine : Machine) (step : Step) :
    (machine.take tolerated step).before = machine := by
  cases step <;> rfl

theorem step_mem_of_mem_takeAll (h : transition ∈ machine.takeAll tolerated steps) :
    transition.step ∈ steps := by
  induction steps generalizing machine with
  | nil => cases h
  | cons step steps ih =>
      rw [takeAll] at h
      split at h
      · rcases List.mem_cons.mp h with rfl | h
        · rw [step_take]
          exact List.mem_cons_self
        · exact List.mem_cons_of_mem _ (ih h)
      · rw [List.mem_singleton.mp h, step_take]
        exact List.mem_cons_self

/-- The run lemma. The first motive is about one step, with all that is taken inside it. -/
theorem steadyThrough_takeAll (tolerated : Diagnostic → Bool) (machine : Machine)
    (steps : List Step) : machine.SteadyThrough (machine.takeAll tolerated steps) := by
  refine (take.mutual_induct tolerated
    (fun machine step => (machine.take tolerated step).Steady ∧
      ∀ inner : Transition, inner.Occurs (machine.take tolerated step).inside →
        machine.Reaches inner.before ∧ inner.Steady)
    (fun machine steps => machine.SteadyThrough (machine.takeAll tolerated steps))
    ?nested ?performed ?nil ?goesOn ?stops).2 machine steps
  case nested =>
    intro machine steps ih
    rw [take]
    refine ⟨steady_opening (fun _ => step_mem_of_mem_takeAll) (ih machine.raised), ?_⟩
    intro inner hinner
    obtain ⟨hdepth, hinner⟩ := occurs_opening hinner
    obtain ⟨hbefore, hsteady⟩ := (ih machine.raised).each inner hinner
    exact ⟨(Reaches.raised hdepth).trans hbefore, hsteady⟩
  case performed =>
    intro machine step hstep
    rw [take.eq_2 tolerated machine step hstep]
    exact ⟨steady_perform machine step, fun _ hinner => absurd hinner Transition.not_occurs_nil⟩
  case nil => exact fun machine => .nil machine
  case goesOn =>
    intro machine step steps transition hgoesOn hstep hsteps
    rw [takeAll, if_pos hgoesOn]
    exact .cons (before_take tolerated machine step) hstep.1 hstep.2 hsteps
  case stops =>
    intro machine step steps transition hgoesOn hstep
    rw [takeAll, if_neg hgoesOn]
    exact .cons (before_take tolerated machine step) hstep.1 hstep.2 (.nil _)

theorem steady_take (tolerated : Diagnostic → Bool) (machine : Machine) (step : Step) :
    (machine.take tolerated step).Steady := by
  have htransition : machine.takeAll tolerated [step] = [machine.take tolerated step] := by
    rw [takeAll, takeAll, ite_self]
  have hsteady := steadyThrough_takeAll tolerated machine [step]
  rw [htransition] at hsteady
  exact (hsteady.each _ (.here List.mem_cons_self)).2

end Machine

end Steady

end FrontEnd
