import Talko.Library.Run

/-!
# Systems that answer, and simulation between them

A system that answers returns a reply with each step. The specification of such a
system is a relation between a state, an action, the reply and the next state; it
may leave open what the implementation decides. `Behaves` is the relation over whole
runs, and the simulation rule carries a step-by-step abstraction to it.
-/

set_option autoImplicit false

namespace Talko.Library

variable {State Abstract Action Reply : Type*}

def replies (perform : State → Action → State × Reply) : State → List Action → List Reply
  | _, [] => []
  | state, action :: rest =>
      (perform state action).2 :: replies perform (perform state action).1 rest

/-- A specification relation along a list of actions and their replies. -/
inductive Behaves (relation : Abstract → Action → Reply → Abstract → Prop) :
    Abstract → List Action → List Reply → Abstract → Prop where
  | nil (state : Abstract) : Behaves relation state [] [] state
  | cons {state middle final : Abstract} {action : Action} {reply : Reply}
      {actions : List Action} {rest : List Reply} :
      relation state action reply middle → Behaves relation middle actions rest final →
      Behaves relation state (action :: actions) (reply :: rest) final

/-- The simulation rule: if from every state that meets the invariant each guarded
step keeps the invariant and is a specified step under the abstraction, then every
guarded run is a specified run with the same replies. -/
theorem behaves_of_simulation {perform : State → Action → State × Reply}
    {relation : Abstract → Action → Reply → Abstract → Prop}
    {guard : State → Action → Prop} {invariant : State → Prop} (view : State → Abstract)
    (kept : ∀ state action, invariant state → guard state action →
      invariant (perform state action).1)
    (simulated : ∀ state action, invariant state → guard state action →
      relation (view state) action (perform state action).2 (view (perform state action).1))
    {start : State} {actions : List Action} (initial : invariant start)
    (guarded : Guarded (fun state action => (perform state action).1) guard start actions) :
    Behaves relation (view start) actions (replies perform start actions)
      (view (run (fun state action => (perform state action).1) start actions)) := by
  induction actions generalizing start with
  | nil => exact .nil (view start)
  | cons action rest ih =>
      exact .cons (simulated start action initial guarded.1)
        (ih (kept start action initial guarded.1) guarded.2)

/-- Every action of a specified run is a specified step, from a state with a property that the
steps keep. -/
theorem Behaves.step_at {relation : Abstract → Action → Reply → Abstract → Prop}
    (property : Abstract → Prop)
    (kept : ∀ {state action reply next}, property state → relation state action reply next →
      property next)
    {start final : Abstract} {actions : List Action} {all : List Reply}
    (behaves : Behaves relation start actions all final) (initial : property start)
    {position : Nat} {action : Action} (here : actions[position]? = some action) :
    ∃ before reply after, all[position]? = some reply ∧ property before ∧
      relation before action reply after ∧
      Behaves relation after (actions.drop (position + 1)) (all.drop (position + 1)) final := by
  induction behaves generalizing position with
  | nil state => cases here
  | cons step rest ih =>
      cases position with
      | zero =>
          cases here
          exact ⟨_, _, _, rfl, initial, step, rest⟩
      | succ position => exact ih (kept initial step) here

end Talko.Library
