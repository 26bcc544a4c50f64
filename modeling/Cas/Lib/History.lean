import Mathlib

set_option autoImplicit false

namespace History

variable {State Event Abstract : Type}

def run (step : State → Event → State) (start : State) (events : List Event) : State := events.foldl step start

def Reached (step : State → Event → State) (start : State) (events : List Event) (good : State → Prop) : Prop :=
  ∀ seen, seen <+: events → good (run step start seen)

def Taken (step : State → Event → State) (start : State) (events : List Event) (fine : State → Event → Prop) : Prop :=
  ∀ seen event, seen ++ [event] <+: events → fine (run step start seen) event

section Rules

variable (step : State → Event → State)

theorem run_cons (start : State) (event : Event) (events : List Event) :
    run step start (event :: events) = run step (step start event) events := rfl

theorem run_append (start : State) (first second : List Event) :
    run step start (first ++ second) = run step (run step start first) second := List.foldl_append

theorem reached_nil (start : State) (good : State → Prop) : Reached step start [] good ↔ good start := by
  simp [Reached, run]

theorem reached_cons (start : State) (event : Event) (events : List Event) (good : State → Prop) :
    Reached step start (event :: events) good ↔ good start ∧ Reached step (step start event) events good := by
  constructor
  · intro reached
    refine ⟨reached [] List.nil_prefix, fun seen before => ?_⟩
    exact reached (event :: seen) (List.cons_prefix_cons.mpr ⟨rfl, before⟩)
  · intro given seen before
    obtain ⟨first, later⟩ := given
    rcases List.prefix_cons_iff.mp before with rfl | ⟨rest, rfl, inside⟩
    · exact first
    · exact later rest inside

theorem taken_nil (start : State) (fine : State → Event → Prop) : Taken step start [] fine := by
  intro seen event before
  simp at before

theorem taken_cons (start : State) (event : Event) (events : List Event) (fine : State → Event → Prop) :
    Taken step start (event :: events) fine ↔ fine start event ∧ Taken step (step start event) events fine := by
  constructor
  · intro taken
    refine ⟨taken [] event (by simp), fun seen next before => ?_⟩
    exact taken (event :: seen) next (List.cons_prefix_cons.mpr ⟨rfl, before⟩)
  · intro given seen next before
    obtain ⟨first, later⟩ := given
    cases seen with
    | nil =>
        obtain ⟨rfl, -⟩ := List.cons_prefix_cons.mp before
        exact first
    | cons head rest =>
        obtain ⟨rfl, inside⟩ := List.cons_prefix_cons.mp before
        exact later rest next inside

theorem taken_snoc (start : State) (events : List Event) (event : Event) (fine : State → Event → Prop) :
    Taken step start (events ++ [event]) fine ↔ Taken step start events fine ∧ fine (run step start events) event := by
  constructor
  · intro taken
    exact ⟨fun seen next before => taken seen next (before.trans (List.prefix_append events [event])),
      taken events event (List.prefix_refl _)⟩
  · intro given seen next before
    obtain ⟨earlier, last⟩ := given
    rcases List.prefix_concat_iff.mp before with whole | inside
    · obtain ⟨rfl, same⟩ := List.append_inj' whole rfl
      rw [List.singleton_inj.mp same]
      exact last
    · exact earlier seen next inside

theorem run_invariant (good : State → Prop) (allowed : Event → Prop)
    (keep : ∀ state event, allowed event → good state → good (step state event)) (start : State) (events : List Event)
    (permitted : ∀ event ∈ events, allowed event) (initial : good start) : good (run step start events) := by
  induction events generalizing start with
  | nil => exact initial
  | cons event events ih =>
      exact ih (step start event) (fun next member => permitted next (by simp [member]))
        (keep start event (permitted event (by simp)) initial)

-- An exact step criterion becomes an exact criterion for whole runs. The
-- background facts hold throughout every permitted run and may be used at each step.
theorem reached_iff_taken (background good : State → Prop) (allowed : Event → Prop) (fine : State → Event → Prop)
    (stay : ∀ state event, allowed event → background state → background (step state event))
    (exact' : ∀ state event, allowed event → background state → good state → (good (step state event) ↔ fine state event))
    (start : State) (events : List Event) (permitted : ∀ event ∈ events, allowed event)
    (base : background start) (initial : good start) :
    Reached step start events good ↔ Taken step start events fine := by
  induction events generalizing start with
  | nil => simp [reached_nil, taken_nil, initial]
  | cons event events ih =>
      have first := permitted event (by simp)
      have later : ∀ next ∈ events, allowed next := fun next member => permitted next (by simp [member])
      rw [reached_cons, taken_cons]
      have stepwise := exact' start event first base initial
      constructor
      · intro given
        obtain ⟨-, reached⟩ := given
        have kept : good (step start event) := reached [] List.nil_prefix
        exact ⟨stepwise.mp kept, (ih _ later (stay start event first base) kept).mp reached⟩
      · intro given
        obtain ⟨here, taken⟩ := given
        have kept := stepwise.mpr here
        exact ⟨initial, (ih _ later (stay start event first base) kept).mpr taken⟩

theorem final_iff_taken (background good : State → Prop) (allowed : Event → Prop) (fine : State → Event → Prop)
    (stay : ∀ state event, allowed event → background state → background (step state event))
    (exact' : ∀ state event, allowed event → background state → good state → (good (step state event) ↔ fine state event))
    (lost : ∀ state event, allowed event → background state → ¬ good state → ¬ good (step state event))
    (start : State) (events : List Event) (permitted : ∀ event ∈ events, allowed event)
    (base : background start) (initial : good start) :
    good (run step start events) ↔ Taken step start events fine := by
  induction events generalizing start with
  | nil => simp [run, taken_nil, initial]
  | cons event events ih =>
      have first := permitted event (by simp)
      have later : ∀ next ∈ events, allowed next := fun next member => permitted next (by simp [member])
      have next := stay start event first base
      rw [run_cons, taken_cons, ← exact' start event first base initial]
      by_cases kept : good (step start event)
      · simp only [kept, true_and, ih _ later next kept]
      · have gone : ¬ good (run step (step start event) events) :=
          (run_invariant step (fun state => background state ∧ ¬ good state) allowed
            (fun state next permit both => ⟨stay state next permit both.1, lost state next permit both.1 both.2⟩)
            (step start event) events later ⟨next, kept⟩).2
        simp only [kept, gone, false_and]

theorem run_simulates (abstractStep : Abstract → Event → Abstract) (related : State → Abstract → Prop)
    (simulate : ∀ state shadow event, related state shadow → related (step state event) (abstractStep shadow event))
    (start : State) (shadow : Abstract) (events : List Event) (initial : related start shadow) :
    related (run step start events) (run abstractStep shadow events) := by
  induction events generalizing start shadow with
  | nil => exact initial
  | cons event events ih => exact ih _ _ (simulate start shadow event initial)

theorem run_pair (other : Abstract → Event → Abstract) (start : State) (shadow : Abstract) (events : List Event) :
    run (fun (both : State × Abstract) event => (step both.1 event, other both.2 event)) (start, shadow) events =
      (run step start events, run other shadow events) := by
  induction events generalizing start shadow with
  | nil => rfl
  | cons event events ih => exact ih (step start event) (other shadow event)

end Rules

theorem reachable_invariant (step : State → State → Prop) (good : State → Prop) (keep : ∀ state next, good state → step state next → good next)
    (start state : State) (reached : Relation.ReflTransGen step start state) (initial : good start) : good state := by
  induction reached with
  | refl => exact initial
  | tail _ taken ih => exact keep _ _ ih taken

end History
