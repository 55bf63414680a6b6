import Mathlib.Logic.Basic

/-!
# Runs of a step function

A system is a step function on states; a run applies a list of actions from the
left. A guard is a relation between the state before a step and its action, and
`Guarded` says that every step of a run meets it. Nothing here fixes what the
states or the actions are.
-/

set_option autoImplicit false

namespace Talko.Library

variable {State Action : Type*}

def run (step : State → Action → State) (start : State) (actions : List Action) : State :=
  actions.foldl step start

@[simp] theorem run_nil (step : State → Action → State) (start : State) :
    run step start [] = start := rfl

@[simp] theorem run_cons (step : State → Action → State) (start : State)
    (action : Action) (rest : List Action) :
    run step start (action :: rest) = run step (step start action) rest := rfl

theorem run_append (step : State → Action → State) (start : State)
    (first second : List Action) :
    run step start (first ++ second) = run step (run step start first) second :=
  List.foldl_append

/-- A run of actions each of which is a step of a part of the state. -/
theorem run_map {Part PartAction : Type*} {step : State → Action → State}
    {partStep : Part → PartAction → Part} (embed : Part → State) (act : PartAction → Action)
    (moves : ∀ part action, step (embed part) (act action) = embed (partStep part action))
    (start : Part) (actions : List PartAction) :
    run step (embed start) (actions.map act) = embed (run partStep start actions) := by
  induction actions generalizing start with
  | nil => rfl
  | cons action rest ih =>
      rw [List.map_cons, run_cons, moves, ih]
      rfl

/-- An action that commutes with the actions before it can be taken first. -/
theorem run_take_first {step : State → Action → State} {action : Action}
    {first : List Action}
    (commutes : ∀ state, ∀ other ∈ first,
      step (step state other) action = step (step state action) other)
    (start : State) (rest : List Action) :
    run step start (first ++ action :: rest) = run step start (action :: (first ++ rest)) := by
  induction first generalizing start with
  | nil => rfl
  | cons other first ih =>
      have later := fun state earlier member =>
        commutes state earlier (List.mem_cons_of_mem other member)
      rw [List.cons_append, run_cons, ih later, run_cons, commutes start other List.mem_cons_self]
      rfl

/-- Every action of the run meets the guard in the state it is taken in. -/
def Guarded (step : State → Action → State) (guard : State → Action → Prop) :
    State → List Action → Prop
  | _, [] => True
  | start, action :: rest =>
      guard start action ∧ Guarded step guard (step start action) rest

@[simp] theorem guarded_nil (step : State → Action → State)
    (guard : State → Action → Prop) (start : State) :
    Guarded step guard start [] := trivial

@[simp] theorem guarded_cons (step : State → Action → State)
    (guard : State → Action → Prop) (start : State) (action : Action)
    (rest : List Action) :
    Guarded step guard start (action :: rest) ↔
      guard start action ∧ Guarded step guard (step start action) rest := Iff.rfl

instance decidableGuarded (step : State → Action → State)
    (guard : State → Action → Prop) [∀ state action, Decidable (guard state action)] :
    ∀ start actions, Decidable (Guarded step guard start actions)
  | _, [] => isTrue trivial
  | start, action :: rest =>
      have := decidableGuarded step guard (step start action) rest
      inferInstanceAs (Decidable (guard start action ∧ Guarded step guard (step start action) rest))

theorem guarded_of_forall {step : State → Action → State}
    {guard : State → Action → Prop} (always : ∀ state action, guard state action)
    (start : State) (actions : List Action) : Guarded step guard start actions := by
  induction actions generalizing start with
  | nil => trivial
  | cons action rest ih => exact ⟨always start action, ih (step start action)⟩

theorem guarded_of_mem {step : State → Action → State} {allowed : Action → Prop}
    {actions : List Action} (all : ∀ action ∈ actions, allowed action) (start : State) :
    Guarded step (fun _ action => allowed action) start actions := by
  induction actions generalizing start with
  | nil => trivial
  | cons action rest ih =>
      obtain ⟨here, later⟩ := List.forall_mem_cons.mp all
      exact ⟨here, ih later (step start action)⟩

theorem guarded_append {step : State → Action → State}
    {guard : State → Action → Prop} {start : State} {first second : List Action} :
    Guarded step guard start (first ++ second) ↔
      Guarded step guard start first ∧
        Guarded step guard (run step start first) second := by
  induction first generalizing start with
  | nil => simp
  | cons action rest ih => simp only [List.cons_append, guarded_cons, run_cons, ih, and_assoc]

theorem Guarded.and {step : State → Action → State} {first second : State → Action → Prop}
    {start : State} {actions : List Action} (meetsFirst : Guarded step first start actions)
    (meetsSecond : Guarded step second start actions) :
    Guarded step (fun state action => first state action ∧ second state action) start actions := by
  induction actions generalizing start with
  | nil => trivial
  | cons action rest ih =>
      exact ⟨⟨meetsFirst.1, meetsSecond.1⟩, ih meetsFirst.2 meetsSecond.2⟩

/-- The invariant rule: what every guarded step preserves holds after every
guarded run. -/
theorem run_invariant {step : State → Action → State}
    {guard : State → Action → Prop} (invariant : State → Prop)
    (preserved : ∀ state action, invariant state → guard state action →
      invariant (step state action))
    {start : State} {actions : List Action} (initial : invariant start)
    (guarded : Guarded step guard start actions) :
    invariant (run step start actions) := by
  induction actions generalizing start with
  | nil => exact initial
  | cons action rest ih => exact ih (preserved start action initial guarded.1) guarded.2

theorem run_invariant_always {step : State → Action → State} (invariant : State → Prop)
    (preserved : ∀ state action, invariant state → invariant (step state action))
    {start : State} (initial : invariant start) (actions : List Action) :
    invariant (run step start actions) := by
  have guarded : Guarded step (fun _ _ => True) start actions :=
    guarded_of_forall (fun _ _ => trivial) start actions
  exact run_invariant invariant (fun state action holds _ => preserved state action holds)
    initial guarded

/-- Guards that agree wherever an invariant holds are met by the same runs. -/
theorem guarded_congr {step : State → Action → State} {first second : State → Action → Prop}
    (invariant : State → Prop)
    (kept : ∀ state action, invariant state → invariant (step state action))
    (agree : ∀ state action, invariant state → (first state action ↔ second state action))
    {start : State} (initial : invariant start) (actions : List Action) :
    Guarded step first start actions ↔ Guarded step second start actions := by
  induction actions generalizing start with
  | nil => exact Iff.rfl
  | cons action rest ih =>
      exact and_congr (agree start action initial) (ih (kept start action initial))

/-- The exactness rule: where an invariant gives a property, a guard keeps the invariant and
every other step breaks the property, a run has the property at every point exactly when every
step meets the guard. The steps may be assumed to meet a second guard. -/
theorem forall_prefix_iff_guarded_of {step : State → Action → State}
    {assumed guard : State → Action → Prop} {invariant property : State → Prop}
    (gives : ∀ state, invariant state → property state)
    (kept : ∀ state action, invariant state → assumed state action → guard state action →
      invariant (step state action))
    (breaks : ∀ state action, invariant state → assumed state action →
      property (step state action) → guard state action)
    {start : State} (initial : invariant start) {actions : List Action}
    (assumption : Guarded step assumed start actions) :
    (∀ first, first <+: actions → property (run step start first)) ↔
      Guarded step guard start actions := by
  induction actions generalizing start with
  | nil =>
      refine ⟨fun _ => trivial, fun _ first within => ?_⟩
      rw [List.prefix_nil.mp within]
      exact gives start initial
  | cons action rest ih =>
      obtain ⟨assumedNow, assumedLater⟩ := assumption
      constructor
      · intro always
        have next : property (step start action) := always [action] ⟨rest, rfl⟩
        have met := breaks start action initial assumedNow next
        have initial' := kept start action initial assumedNow met
        refine ⟨met, (ih initial' assumedLater).mp ?_⟩
        intro first within
        exact always (action :: first) (List.prefix_cons_inj action |>.mpr within)
      · intro guarded first within
        have initial' := kept start action initial assumedNow guarded.1
        cases first with
        | nil => exact gives start initial
        | cons action' first =>
            obtain ⟨same, within'⟩ := List.cons_prefix_cons.mp within
            rw [same]
            exact (ih initial' assumedLater).mpr guarded.2 first within'

/-- The rule for an invariant that no step breaks. -/
theorem forall_prefix_iff_guarded {step : State → Action → State}
    {guard : State → Action → Prop} (invariant property : State → Prop)
    (kept : ∀ state action, invariant state → invariant (step state action))
    (decides : ∀ state action, invariant state → property state →
      (property (step state action) ↔ guard state action))
    {start : State} (initial : invariant start) (holds : property start)
    (actions : List Action) :
    (∀ first, first <+: actions → property (run step start first)) ↔
      Guarded step guard start actions := by
  have assumption : Guarded step (fun _ _ => True) start actions :=
    guarded_of_forall (fun _ _ => trivial) start actions
  have both : invariant start ∧ property start := ⟨initial, holds⟩
  have gives : ∀ state, invariant state ∧ property state → property state := fun _ both => both.2
  refine forall_prefix_iff_guarded_of gives ?_ ?_ both assumption
  · intro state action both _ met
    exact ⟨kept state action both.1, (decides state action both.1 both.2).mpr met⟩
  · intro state action both _ next
    exact (decides state action both.1 both.2).mp next

/-- A property that no step restores holds at the end of a run exactly when every step meets
the guard that decides it. -/
theorem run_iff_guarded {step : State → Action → State} {guard : State → Action → Prop}
    (property : State → Prop)
    (decides : ∀ state action, property state → (property (step state action) ↔ guard state action))
    (stays : ∀ state action, ¬ property state → ¬ property (step state action))
    {start : State} (holds : property start) (actions : List Action) :
    property (run step start actions) ↔ Guarded step guard start actions := by
  induction actions generalizing start with
  | nil => exact iff_of_true holds trivial
  | cons action rest ih =>
      by_cases met : guard start action
      · have next := (decides start action holds).mpr met
        exact (ih next).trans (and_iff_right met).symm
      · refine iff_of_false ?_ (fun guarded => met guarded.1)
        have lost : ¬ property (step start action) :=
          fun next => met ((decides start action holds).mp next)
        exact run_invariant_always (fun state => ¬ property state) stays lost rest

/-!
## Infinite sequences
-/

/-- The first values of a sequence. -/
def firstOf {Value : Type*} (sequence : Nat → Value) (count : Nat) : List Value :=
  (List.range count).map sequence

theorem firstOf_succ {Value : Type*} (sequence : Nat → Value) (count : Nat) :
    firstOf sequence (count + 1) = firstOf sequence count ++ [sequence count] := by
  simp [firstOf, List.range_succ]

theorem mem_firstOf {Value : Type*} {sequence : Nat → Value} {count : Nat} {value : Value} :
    value ∈ firstOf sequence count ↔ ∃ place < count, sequence place = value := by
  simp [firstOf]

end Talko.Library
