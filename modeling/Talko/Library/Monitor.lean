import Talko.Library.Run

/-!
# Monitors

A state under a mutex, and callers that wait at a condition variable for something to become
available in it. A caller that finds nothing goes to sleep; it wakes at a notification, when its
time is up or for no reason, takes the mutex and looks again. With its time up it does not go
back to sleep. The other sections under the mutex change the state, and some notify one sleeper.
-/

set_option autoImplicit false

namespace Talko.Library

/-- What is guarded: how much of it is available, what serving a call does, and the other
sections. A call that is served where nothing is available gets nothing. -/
structure MonitorCode (State Call Change : Type*) where
  available : State → Nat
  serve : State → Call → State
  apply : State → Change → State
  notifies : Change → Bool

/-- The callers in their sleep, and those on their way back to the mutex, with whether their
time is up. -/
structure Monitor (State Call : Type*) where
  state : State
  asleep : List Call
  woken : List (Call × Bool)
  deriving DecidableEq, Repr

inductive MonitorStep (Call Change : Type*) where
  | enter (call : Call)
  | recheck (index : Nat)
  | wake (index : Nat) (timeIsUp : Bool)
  | change (change : Change) (choice : Nat)
  deriving DecidableEq, Repr

namespace Monitor

variable {State Call Change : Type*}

def start (state : State) : Monitor State Call where
  state := state
  asleep := []
  woken := []

/-- A sleeper leaves its sleep. -/
def rouse (m : Monitor State Call) (index : Nat) (timeIsUp : Bool) : Monitor State Call :=
  match m.asleep[index]? with
  | none => m
  | some call =>
      { m with
        asleep := m.asleep.eraseIdx index
        woken := m.woken ++ [(call, timeIsUp)] }

/-- One of the sleepers, if there is any. -/
def notifyOne (m : Monitor State Call) (choice : Nat) : Monitor State Call :=
  m.rouse (choice % m.asleep.length) false

end Monitor

namespace MonitorCode

variable {State Call Change : Type*} (code : MonitorCode State Call Change)

/-- A caller with the mutex, which is served or goes to sleep. -/
def look (m : Monitor State Call) (call : Call) (timeIsUp : Bool) : Monitor State Call :=
  if 0 < code.available m.state ∨ timeIsUp = true then
    { m with state := code.serve m.state call }
  else { m with asleep := m.asleep ++ [call] }

def step (m : Monitor State Call) : MonitorStep Call Change → Monitor State Call
  | .enter call => code.look m call false
  | .recheck index =>
      match m.woken[index]? with
      | none => m
      | some (call, timeIsUp) =>
          code.look { m with woken := m.woken.eraseIdx index } call timeIsUp
  | .wake index timeIsUp => m.rouse index timeIsUp
  | .change change choice =>
      let changed := { m with state := code.apply m.state change }
      if code.notifies change then changed.notifyOne choice else changed

/-- Nobody sleeps, or as many are awake as can be served. -/
def Attentive (m : Monitor State Call) : Prop :=
  m.asleep = [] ∨ code.available m.state ≤ m.woken.length

/-- The notification of a change is enough for what it makes available. -/
def Announced (m : Monitor State Call) : MonitorStep Call Change → Prop
  | .change change _ =>
      m.asleep.length ≤ (code.notifies change).toNat ∨
        code.available (code.apply m.state change) ≤
          m.woken.length + (code.notifies change).toNat
  | _ => True

/-- A call that is served takes one of what is available. -/
def Takes : Prop :=
  ∀ state call, code.available (code.serve state call) ≤ code.available state - 1

end MonitorCode

/-!
## Sleepers
-/

namespace Monitor

variable {State Call : Type*}

theorem rouse_state (m : Monitor State Call) (index : Nat) (timeIsUp : Bool) :
    (m.rouse index timeIsUp).state = m.state := by
  unfold rouse
  split <;> rfl

theorem rouse_lengths (m : Monitor State Call) (index : Nat) (timeIsUp : Bool) :
    (m.rouse index timeIsUp).asleep.length = m.asleep.length ∧
        (m.rouse index timeIsUp).woken.length = m.woken.length ∧ m.asleep.length ≤ index ∨
      (m.rouse index timeIsUp).asleep.length + 1 = m.asleep.length ∧
        (m.rouse index timeIsUp).woken.length = m.woken.length + 1 := by
  unfold rouse
  cases here : m.asleep[index]? with
  | none => exact .inl ⟨rfl, rfl, List.getElem?_eq_none_iff.mp here⟩
  | some call =>
      obtain ⟨inside, -⟩ := List.getElem?_eq_some_iff.mp here
      refine .inr ⟨?_, by simp⟩
      dsimp only
      rw [List.length_eraseIdx_of_lt inside]
      omega

/-- A notification reaches a sleeper, if there is one. -/
theorem notifyOne_lengths (m : Monitor State Call) (choice : Nat) :
    (m.notifyOne choice).asleep.length = m.asleep.length - 1 ∧
      (m.notifyOne choice).woken.length = m.woken.length + min 1 m.asleep.length := by
  unfold notifyOne
  rcases m.rouse_lengths (choice % m.asleep.length) false with ⟨asleep, woken, out⟩ | roused
  · rcases Nat.eq_zero_or_pos m.asleep.length with none | some
    · omega
    · have below := Nat.mod_lt choice some
      omega
  · omega

end Monitor

/-!
## Steps and runs
-/

namespace MonitorCode

variable {State Call Change : Type*} {code : MonitorCode State Call Change}

theorem attentive_iff (m : Monitor State Call) :
    code.Attentive m ↔ m.asleep.length = 0 ∨ code.available m.state ≤ m.woken.length := by
  rw [Attentive, List.length_eq_zero_iff]

/-- The caller with the mutex counts as one that is awake. -/
theorem look_attentive (takes : code.Takes) {m : Monitor State Call}
    (enough : m.asleep.length = 0 ∨ code.available m.state ≤ m.woken.length + 1) (call : Call)
    (timeIsUp : Bool) : code.Attentive (code.look m call timeIsUp) := by
  rw [attentive_iff]
  unfold look
  split
  · have less := takes m.state call
    dsimp only
    omega
  · next nothing =>
      have empty : ¬ 0 < code.available m.state := (not_or.mp nothing).1
      refine .inr ?_
      dsimp only
      omega

theorem change_attentive_iff (m : Monitor State Call) (change : Change) (choice : Nat) :
    code.Attentive (code.step m (.change change choice)) ↔
      code.Announced m (.change change choice) := by
  rw [attentive_iff]
  dsimp only [step, Announced]
  cases code.notifies change with
  | false =>
      simp only [Bool.false_eq_true, if_false, Bool.toNat_false, Nat.add_zero, Nat.le_zero]
  | true =>
      obtain ⟨asleep, woken⟩ :=
        Monitor.notifyOne_lengths { m with state := code.apply m.state change } choice
      have state : (Monitor.notifyOne { m with state := code.apply m.state change } choice).state =
          code.apply m.state change := Monitor.rouse_state _ _ _
      simp only [if_true, Bool.toNat_true]
      rw [asleep, woken, state]
      dsimp only
      omega

/-- From an attentive state, a step leads to one exactly when a change is announced. -/
theorem step_attentive_iff (takes : code.Takes) {m : Monitor State Call}
    (attentive : code.Attentive m) (action : MonitorStep Call Change) :
    code.Attentive (code.step m action) ↔ code.Announced m action := by
  have lengths := (attentive_iff m).mp attentive
  cases action with
  | enter call =>
      refine iff_of_true (look_attentive takes ?_ call false) trivial
      omega
  | recheck index =>
      refine iff_of_true ?_ trivial
      dsimp only [step]
      cases here : m.woken[index]? with
      | none => exact attentive
      | some caller =>
          obtain ⟨inside, -⟩ := List.getElem?_eq_some_iff.mp here
          have fewer := List.length_eraseIdx_of_lt inside
          refine look_attentive takes ?_ caller.1 caller.2
          dsimp only
          omega
  | wake index timeIsUp =>
      refine iff_of_true ?_ trivial
      dsimp only [step]
      rw [attentive_iff, Monitor.rouse_state]
      rcases m.rouse_lengths index timeIsUp with ⟨asleep, woken, -⟩ | ⟨asleep, woken⟩
      · omega
      · omega
  | change change choice => exact change_attentive_iff m change choice

/-- A change that makes no more available than it announces. -/
theorem announced_of_le {m : Monitor State Call} (attentive : code.Attentive m) {change : Change}
    (few : code.available (code.apply m.state change) ≤
      code.available m.state + (code.notifies change).toNat) (choice : Nat) :
    code.Announced m (.change change choice) := by
  rcases (attentive_iff m).mp attentive with none | awake
  · exact .inl (by omega)
  · exact .inr (by omega)

/-- Where every change is of that kind, every run is attentive. -/
theorem run_attentive (takes : code.Takes)
    (few : ∀ state change, code.available (code.apply state change) ≤
      code.available state + (code.notifies change).toNat)
    (state : State) (actions : List (MonitorStep Call Change)) :
    code.Attentive (run code.step (Monitor.start state) actions) := by
  refine run_invariant_always code.Attentive ?_ (.inl rfl) actions
  intro m action attentive
  refine (step_attentive_iff takes attentive action).mpr ?_
  cases action with
  | change change choice => exact announced_of_le attentive (few m.state change) choice
  | _ => trivial

/-!
## The sections of a run
-/

/-- The sections under the mutex, without the waits. -/
def serveOrApply (code : MonitorCode State Call Change) (state : State) :
    Call ⊕ Change → State
  | .inl call => code.serve state call
  | .inr change => code.apply state change

/-- What a run with its waits does to the state, a run of the sections does. -/
theorem run_sections (code : MonitorCode State Call Change) (m : Monitor State Call)
    (actions : List (MonitorStep Call Change)) :
    ∃ sections, (run code.step m actions).state = run code.serveOrApply m.state sections := by
  have looks : ∀ (m : Monitor State Call) (call : Call) (timeIsUp : Bool),
      ∃ sections, (code.look m call timeIsUp).state = run code.serveOrApply m.state sections := by
    intro m call timeIsUp
    unfold look
    split
    · exact ⟨[.inl call], rfl⟩
    · exact ⟨[], rfl⟩
  have one : ∀ (m : Monitor State Call) (action : MonitorStep Call Change),
      ∃ sections, (code.step m action).state = run code.serveOrApply m.state sections := by
    intro m action
    cases action with
    | enter call => exact looks m call false
    | recheck index =>
        dsimp only [step]
        cases m.woken[index]? with
        | none => exact ⟨[], rfl⟩
        | some caller => exact looks _ caller.1 caller.2
    | wake index timeIsUp => exact ⟨[], m.rouse_state index timeIsUp⟩
    | change change choice =>
        refine ⟨[.inr change], ?_⟩
        dsimp only [step]
        split
        · exact Monitor.rouse_state _ _ _
        · rfl
  induction actions generalizing m with
  | nil => exact ⟨[], rfl⟩
  | cons action rest ih =>
      obtain ⟨first, here⟩ := one m action
      obtain ⟨later, there⟩ := ih (code.step m action)
      refine ⟨first ++ later, ?_⟩
      rw [run_cons, there, here, run_append]

end MonitorCode

end Talko.Library
