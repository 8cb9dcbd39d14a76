import Mathlib.Data.List.Induction

/-! Runs of a deterministic labelled system. A label carries every choice the
environment makes, so a run is a list of labels and quantifying over lists of
labels quantifies over all interleavings and all answers. The rules below turn
what one step preserves into what every run preserves. -/
namespace Transition

variable {State : Type u} {Label : Type v} {Abstract : Type w} {AbstractLabel : Type x}

/-- Executes labels from left to right; a label that is not enabled refuses
the whole run. -/
def run (step : State → Label → Option State) (s : State) : List Label → Option State
  | [] => some s
  | label :: rest => (step s label).bind fun next => run step next rest

/-- Some run from `start` ends in `finish`. -/
def Reachable (step : State → Label → Option State) (start finish : State) : Prop :=
  ∃ labels, run step start labels = some finish

/-- Every label of a run meets a condition on the state it is taken in. -/
def Along (step : State → Label → Option State) (cond : State → Label → Prop) :
    State → List Label → Prop
  | _, [] => True
  | s, label :: rest => cond s label ∧ ∀ next, step s label = some next → Along step cond next rest

/-- Conditions that can be checked can be checked along a concrete run. -/
instance decidableAlong {step : State → Label → Option State} {cond : State → Label → Prop}
    [∀ s label, Decidable (cond s label)] :
    (s : State) → (labels : List Label) → Decidable (Along step cond s labels)
  | _, [] => isTrue trivial
  | s, label :: rest =>
    match stepped : step s label with
    | none => decidable_of_iff (cond s label)
        ⟨fun met => ⟨met, fun _ other => nomatch stepped.symm.trans other⟩, And.left⟩
    | some next =>
      have : Decidable (Along step cond next rest) := decidableAlong next rest
      decidable_of_iff (cond s label ∧ Along step cond next rest)
        ⟨fun met => ⟨met.1, fun _ same => Option.some.inj (stepped.symm.trans same) ▸ met.2⟩,
          fun met => ⟨met.1, met.2 next stepped⟩⟩

/-- Some step of a run met a condition on its label and the state it was taken in. -/
def Happened (step : State → Label → Option State) (event : State → Label → Prop) (start : State)
    (labels : List Label) : Prop :=
  ∃ before label after s, labels = before ++ label :: after ∧
    run step start before = some s ∧ event s label

section Runs

variable {step : State → Label → Option State} {start s t finish : State}
  {labels more : List Label}

@[simp] theorem run_nil : run step s [] = some s := rfl

theorem run_cons_iff {label : Label} :
    run step s (label :: labels) = some finish ↔
      ∃ next, step s label = some next ∧ run step next labels = some finish := by
  simp [run, Option.bind_eq_some_iff]

theorem run_append_iff :
    run step s (labels ++ more) = some finish ↔
      ∃ middle, run step s labels = some middle ∧ run step middle more = some finish := by
  induction labels generalizing s with
  | nil => simp [run]
  | cons label rest ih =>
    simp only [List.cons_append, run_cons_iff, ih]
    constructor
    · rintro ⟨next, stepped, middle, first, second⟩
      exact ⟨middle, ⟨next, stepped, first⟩, second⟩
    · rintro ⟨middle, ⟨next, stepped, first⟩, second⟩
      exact ⟨next, stepped, middle, first, second⟩

theorem Reachable.refl : Reachable step s s := ⟨[], rfl⟩

theorem Reachable.trans (first : Reachable step s t) (second : Reachable step t finish) :
    Reachable step s finish := by
  obtain ⟨before, ranBefore⟩ := first
  obtain ⟨after, ranAfter⟩ := second
  exact ⟨before ++ after, run_append_iff.mpr ⟨t, ranBefore, ranAfter⟩⟩

theorem Reachable.next {label : Label} (before : Reachable step s t)
    (stepped : step t label = some finish) : Reachable step s finish :=
  before.trans ⟨[label], by simp [run, stepped]⟩

/-- The invariant rule: what every step preserves holds after every run. -/
theorem run_preserves (inv : State → Prop)
    (preserved : ∀ s label next, inv s → step s label = some next → inv next)
    (start : inv s) (ran : run step s labels = some finish) : inv finish := by
  induction labels generalizing s with
  | nil => cases ran; exact start
  | cons label rest ih =>
    obtain ⟨next, stepped, ranRest⟩ := run_cons_iff.mp ran
    exact ih (preserved s label next start stepped) ranRest

theorem Reachable.invariant (inv : State → Prop)
    (preserved : ∀ s label next, inv s → step s label = some next → inv next)
    (start : inv s) (reached : Reachable step s finish) : inv finish :=
  reached.elim fun _ ran => run_preserves inv preserved start ran

/-- The invariant rule for runs whose steps all meet a condition. -/
theorem run_preserves_along (inv : State → Prop) {cond : State → Label → Prop}
    (preserved : ∀ s label next, inv s → cond s label → step s label = some next → inv next)
    (start : inv s) (met : Along step cond s labels)
    (ran : run step s labels = some finish) : inv finish := by
  induction labels generalizing s with
  | nil => cases ran; exact start
  | cons label rest ih =>
    obtain ⟨next, stepped, ranRest⟩ := run_cons_iff.mp ran
    exact ih (preserved s label next start met.1 stepped) (met.2 next stepped) ranRest

/-- The invariant rule for properties of a state and of the run that led to it. -/
theorem run_preserves_history (inv : List Label → State → Prop)
    (preserved : ∀ past s label next, run step start past = some s → inv past s →
      step s label = some next → inv (past ++ [label]) next)
    (first : inv [] start) (ran : run step start labels = some finish) : inv labels finish := by
  induction labels using List.reverseRecOn generalizing finish with
  | nil => cases ran; exact first
  | append_singleton past label ih =>
    obtain ⟨middle, ranPast, ranLast⟩ := run_append_iff.mp ran
    obtain ⟨next, stepped, ended⟩ := run_cons_iff.mp ranLast
    cases ended
    exact preserved past middle label _ ranPast (ih ranPast) stepped

theorem Happened.now {event : State → Label → Prop} {label : Label}
    (ran : run step start labels = some s) (here : event s label) :
    Happened step event start (labels ++ [label]) :=
  ⟨labels, label, [], s, rfl, ran, here⟩

theorem Happened.later {event : State → Label → Prop} (happened : Happened step event start labels)
    (more : List Label) : Happened step event start (labels ++ more) := by
  obtain ⟨before, label, after, s, rfl, ran, there⟩ := happened
  exact ⟨before, label, after ++ more, s, by simp, ran, there⟩

theorem Along.cons {cond : State → Label → Prop} {label : Label} (met : cond s label)
    (stepped : step s label = some t) (rest : Along step cond t labels) :
    Along step cond s (label :: labels) := by
  refine ⟨met, fun next other => ?_⟩
  cases stepped.symm.trans other
  exact rest

theorem along_of_forall {cond : State → Label → Prop} (met : ∀ label ∈ labels, ∀ s, cond s label) :
    Along step cond s labels := by
  induction labels generalizing s with
  | nil => trivial
  | cons label rest ih =>
    exact ⟨met label List.mem_cons_self s,
      fun _ _ => ih fun other member => met other (List.mem_cons_of_mem _ member)⟩

theorem along_congr {cond other : State → Label → Prop} (same : ∀ s label, cond s label ↔ other s label) :
    Along step cond s labels ↔ Along step other s labels := by
  induction labels generalizing s with
  | nil => exact Iff.rfl
  | cons label rest ih => simp only [Along, same, ih]

/-- Conditions that say the same where an invariant holds which they keep. -/
theorem along_congr_of_inv {cond other : State → Label → Prop} (inv : State → Prop)
    (same : ∀ s label, label ∈ labels → inv s → (cond s label ↔ other s label))
    (kept : ∀ s label next, inv s → cond s label → step s label = some next → inv next)
    (start : inv s) : Along step cond s labels ↔ Along step other s labels := by
  induction labels generalizing s with
  | nil => exact Iff.rfl
  | cons label rest ih =>
    have goesOn (next : State) (after : inv next) :=
      ih (fun s label member => same s label (List.mem_cons_of_mem _ member)) after
    have here := same s label List.mem_cons_self start
    constructor
    · rintro ⟨met, later⟩
      exact ⟨here.mp met, fun next stepped =>
        (goesOn next (kept s label next start met stepped)).mp (later next stepped)⟩
    · rintro ⟨met, later⟩
      exact ⟨here.mpr met, fun next stepped =>
        (goesOn next (kept s label next start (here.mpr met) stepped)).mpr (later next stepped)⟩

/-- A condition along a run holds along both of its parts. -/
theorem along_append_iff {cond : State → Label → Prop} (ran : run step s labels = some t) :
    Along step cond s (labels ++ more) ↔ Along step cond s labels ∧ Along step cond t more := by
  induction labels generalizing s with
  | nil =>
    cases ran
    exact ⟨fun met => ⟨trivial, met⟩, And.right⟩
  | cons label rest ih =>
    obtain ⟨next, stepped, ranRest⟩ := run_cons_iff.mp ran
    have tail := ih ranRest
    simp only [List.cons_append, Along, stepped, Option.some.injEq, forall_eq', tail, and_assoc]

end Runs

/-- Forward simulation: every concrete step is answered by some abstract run
from a related state, and the relation survives. A stutter is the empty run. -/
def Simulates (step : State → Label → Option State)
    (abstractStep : Abstract → AbstractLabel → Option Abstract)
    (related : State → Abstract → Prop) : Prop :=
  ∀ s label next a, related s a → step s label = some next →
    ∃ a', Reachable abstractStep a a' ∧ related next a'

/-- A simulated run ends in a state related to some abstract reachable state,
so every abstract invariant speaks about every concrete run. -/
theorem Simulates.run {step : State → Label → Option State}
    {abstractStep : Abstract → AbstractLabel → Option Abstract}
    {related : State → Abstract → Prop} {s finish : State} {a : Abstract} {labels : List Label}
    (simulates : Simulates step abstractStep related) (start : related s a)
    (ran : run step s labels = some finish) :
    ∃ a', Reachable abstractStep a a' ∧ related finish a' := by
  induction labels generalizing s a with
  | nil => cases ran; exact ⟨a, .refl, start⟩
  | cons label rest ih =>
    obtain ⟨next, stepped, ranRest⟩ := run_cons_iff.mp ran
    obtain ⟨middle, reached, relatedNext⟩ := simulates s label next a start stepped
    obtain ⟨last, reachedLast, relatedLast⟩ := ih relatedNext ranRest
    exact ⟨last, reached.trans reachedLast, relatedLast⟩

end Transition
