import Talko.Library.Run
import Talko.Network.TimerQueueEdits

/-!
# The loop of `do_timer`, step by step

A pass of `do_timer` stands on an entry of `timers_` while the callback of that entry's timer
runs, and the callback may edit the queue in the same thread. Here each iteration of the loop
is a step, with the edits of its callback; between the passes the loop thread makes other
edits. The loop steps of one pass are those of `doTimerLoop`.
-/

set_option autoImplicit false

namespace Talko.Network

open Talko.Library

/-- One call of a callback, in a pass and at the clock value of that pass. -/
structure Invocation (Callback : Type) where
  timer : TimerAddress
  callback : Callback
  pass : Nat
  now : Int64
  deriving DecidableEq, Repr

/-- Where the loop thread stands: outside `do_timer`, at the head of its loop with `iter`, or
behind the use of an `iter` whose element was erased. -/
inductive TimerPlace where
  | outside
  | walking (now : Int64) (iter : Option TimerEntry)
  | broken
  deriving DecidableEq, Repr

/-- The queue with the passes begun so far and the callbacks invoked, in their order. -/
structure TimerLoop (Callback : Type) where
  queue : TimerQueue Callback
  place : TimerPlace
  passes : Nat
  log : List (Invocation Callback)

/-- A step of the loop thread; `iterate` has the edits that the callback makes if the iteration
invokes one. -/
inductive TimerStep (Callback : Type) where
  | edit (change : TimerEdit Callback)
  | doTimer (now : Int64)
  | iterate (edits : List (TimerEdit Callback))
  deriving DecidableEq, Repr

namespace TimerLoop

variable {Callback : Type}

def empty : TimerLoop Callback where
  queue := .empty
  place := .outside
  passes := 0
  log := []

def invocations (loop : TimerLoop Callback) (now : Int64)
    (calls : List (TimerAddress × Callback)) : List (Invocation Callback) :=
  calls.map fun call => ⟨call.1, call.2, loop.passes, now⟩

/-- An iteration that has run the timer of `entry`. -/
def advance (loop : TimerLoop Callback) (now : Int64) (entry : TimerEntry)
    (ran : TimerQueue Callback × List (TimerAddress × Callback)) : TimerLoop Callback :=
  let called := { loop with log := loop.log ++ loop.invocations now ran.2 }
  if entry ∈ ran.1.timers then
    { called with
      queue := ran.1.retire entry
      place := .walking now (orderedSetNext ran.1.timers entry) }
  else { called with queue := ran.1, place := .broken }

def iterate (loop : TimerLoop Callback) (edits : List (TimerEdit Callback)) :
    TimerLoop Callback :=
  match loop.place with
  | .outside | .broken => loop
  | .walking _ none => { loop with place := .outside }
  | .walking now (some entry) =>
      match loop.queue.objects entry.timer with
      | none => { loop with place := .broken }
      | some timer =>
          if timer.expiration ≤ now then
            loop.advance now entry (loop.queue.runTimer entry.timer timer edits)
          else { loop with place := .outside }

def step (loop : TimerLoop Callback) : TimerStep Callback → TimerLoop Callback
  | .edit change =>
      if loop.place = .outside then { loop with queue := loop.queue.edit change } else loop
  | .doTimer now =>
      if loop.place = .outside then
        { loop with
          place := .walking now loop.queue.timers.head?
          passes := loop.passes + 1 }
      else loop
  | .iterate edits => loop.iterate edits

theorem advance_of_mem (loop : TimerLoop Callback) (now : Int64) {entry : TimerEntry}
    {ran : TimerQueue Callback × List (TimerAddress × Callback)} (still : entry ∈ ran.1.timers) :
    loop.advance now entry ran =
      ⟨ran.1.retire entry, .walking now (orderedSetNext ran.1.timers entry), loop.passes,
        loop.log ++ loop.invocations now ran.2⟩ := by
  simp only [advance, still, if_true]

theorem advance_of_not_mem (loop : TimerLoop Callback) (now : Int64) {entry : TimerEntry}
    {ran : TimerQueue Callback × List (TimerAddress × Callback)} (gone : entry ∉ ran.1.timers) :
    loop.advance now entry ran =
      ⟨ran.1, .broken, loop.passes, loop.log ++ loop.invocations now ran.2⟩ := by
  simp only [advance, gone, if_false]

theorem step_iterate_of_due {loop : TimerLoop Callback} {now : Int64} {entry : TimerEntry}
    (place : loop.place = .walking now (some entry)) {timer : Timer Callback}
    (found : loop.queue.objects entry.timer = some timer) (due : timer.expiration ≤ now)
    (edits : List (TimerEdit Callback)) :
    loop.step (.iterate edits) =
      loop.advance now entry (loop.queue.runTimer entry.timer timer edits) := by
  simp only [step, iterate, place, found, due, if_true]

/-!
## The steps of a pass
-/

theorem run_iterate_of_rests {loop : TimerLoop Callback}
    (rests : loop.place = .outside ∨ loop.place = .broken)
    (script : List (List (TimerEdit Callback))) :
    run step loop (script.map .iterate) = loop := by
  induction script with
  | nil => rfl
  | cons edits script ih =>
      have idle : loop.step (.iterate edits) = loop := by
        obtain outside | broken := rests
        · simp only [step, iterate, outside]
        · simp only [step, iterate, broken]
      rw [List.map_cons, run_cons, idle, ih]

/-- How the loop stands after a pass that ended so. -/
def Follows (loop after : TimerLoop Callback) (now : Int64)
    (invoked : List (TimerAddress × Callback)) : TimerPass Callback → Prop
  | .done queue calls => ∃ rest, calls = invoked ++ rest ∧
      after = ⟨queue, .outside, loop.passes, loop.log ++ loop.invocations now rest⟩
  | .invalid => after.place = .broken
  | .unfinished => ∃ iter, after.place = .walking now iter

theorem follows_of_advanced {loop advanced after : TimerLoop Callback} {now : Int64}
    {invoked calls : List (TimerAddress × Callback)} {pass : TimerPass Callback}
    (passes : advanced.passes = loop.passes)
    (log : advanced.log = loop.log ++ loop.invocations now calls)
    (follows : Follows advanced after now (invoked ++ calls) pass) :
    Follows loop after now invoked pass := by
  cases pass with
  | done queue all =>
      obtain ⟨rest, split, rfl⟩ := follows
      refine ⟨calls ++ rest, by rw [split, List.append_assoc], ?_⟩
      simp [log, passes, invocations]
  | invalid => exact follows
  | unfinished => exact follows

/-- The iterations of one pass, as steps and as `doTimerLoop`. -/
theorem run_iterate_follows (now : Int64) (loop : TimerLoop Callback) (iter : Option TimerEntry)
    (here : loop.place = .walking now iter) (invoked : List (TimerAddress × Callback))
    (script : List (List (TimerEdit Callback))) :
    Follows loop (run step loop (script.map .iterate)) now invoked
      (TimerQueue.doTimerLoop now loop.queue iter invoked script) := by
  induction script generalizing loop iter invoked with
  | nil => exact ⟨iter, here⟩
  | cons edits script ih =>
      rw [List.map_cons, run_cons]
      cases iter with
      | none =>
          have ended : loop.step (.iterate edits) = { loop with place := .outside } := by
            simp only [step, iterate, here]
          rw [ended, run_iterate_of_rests (.inl rfl)]
          exact ⟨[], (List.append_nil invoked).symm, by simp [invocations]⟩
      | some entry =>
          cases found : loop.queue.objects entry.timer with
          | none =>
              have broken : loop.step (.iterate edits) = { loop with place := .broken } := by
                simp only [step, iterate, here, found]
              rw [broken, run_iterate_of_rests (.inr rfl)]
              simp only [TimerQueue.doTimerLoop, found]
              exact rfl
          | some timer =>
              by_cases due : timer.expiration ≤ now
              · rw [step_iterate_of_due here found due]
                by_cases still : entry ∈ (loop.queue.runTimer entry.timer timer edits).1.timers
                · have same := advance_of_mem loop now still
                  have later := ih _ _ (congrArg place same)
                    (invoked ++ (loop.queue.runTimer entry.timer timer edits).2)
                  rw [TimerQueue.doTimerLoop_due found due still]
                  rw [same] at later ⊢
                  refine follows_of_advanced ?_ ?_ later
                  · rfl
                  · rfl
                · rw [advance_of_not_mem loop now still, run_iterate_of_rests (.inr rfl)]
                  simp only [TimerQueue.doTimerLoop, found, due, if_true, still, if_false]
                  exact rfl
              · have ended : loop.step (.iterate edits) = { loop with place := .outside } := by
                  simp only [step, iterate, here, found, due, if_false]
                rw [ended, run_iterate_of_rests (.inl rfl)]
                simp only [TimerQueue.doTimerLoop, found, due, if_false]
                exact ⟨[], (List.append_nil invoked).symm, by simp [invocations]⟩

/-!
## Where `iter` stands
-/

/-- The queue is well formed and `iter` stands on one of its entries. -/
structure Stands (loop : TimerLoop Callback) : Prop where
  formed : loop.queue.WellFormed
  inside : ∀ now entry, loop.place = .walking now (some entry) → entry ∈ loop.queue.timers

theorem empty_stands : (empty : TimerLoop Callback).Stands where
  formed := TimerQueue.wellFormed_empty
  inside := nofun

theorem orderedSetNext_mem_retire {queue : TimerQueue Callback} {entry next : TimerEntry}
    (follows : orderedSetNext queue.timers entry = some next) :
    next ∈ (queue.retire entry).timers := by
  have member : next ∈ queue.timers := List.mem_of_find?_eq_some follows
  have above : entry < next := by simpa using List.find?_some follows
  unfold TimerQueue.retire
  split
  · exact (List.mem_erase_of_ne above.ne').mpr member
  · exact member

theorem advance_stands {loop : TimerLoop Callback} (stands : loop.Stands) (now : Int64)
    (entry : TimerEntry) (timer : Timer Callback) (edits : List (TimerEdit Callback)) :
    (loop.advance now entry (loop.queue.runTimer entry.timer timer edits)).Stands := by
  have ran := stands.formed.runTimer entry.timer timer edits
  by_cases still : entry ∈ (loop.queue.runTimer entry.timer timer edits).1.timers
  · rw [advance_of_mem loop now still]
    refine ⟨ran.retire entry, fun now' next place => ?_⟩
    injection place with _ follows
    exact orderedSetNext_mem_retire follows
  · rw [advance_of_not_mem loop now still]
    exact ⟨ran, nofun⟩

theorem step_stands (loop : TimerLoop Callback) (action : TimerStep Callback)
    (stands : loop.Stands) : (loop.step action).Stands := by
  cases action with
  | edit change =>
      simp only [step]
      split
      · rename_i outside
        refine ⟨stands.formed.edit change, fun now entry place => ?_⟩
        rw [outside] at place
        cases place
      · exact stands
  | doTimer now =>
      simp only [step]
      split
      · refine ⟨stands.formed, fun now' entry place => ?_⟩
        injection place with _ first
        exact List.mem_of_mem_head? first
      · exact stands
  | iterate edits =>
      simp only [step, iterate]
      split
      · exact stands
      · exact stands
      · exact ⟨stands.formed, nofun⟩
      · rename_i now entry place
        split
        · exact ⟨stands.formed, nofun⟩
        · split
          · exact advance_stands stands now entry _ edits
          · exact ⟨stands.formed, nofun⟩

/-- A callback that the iteration invokes does not remove the timer it is called for. -/
def KeepsCurrent (loop : TimerLoop Callback) : TimerStep Callback → Prop
  | .iterate edits => ∀ now entry timer, loop.place = .walking now (some entry) →
      loop.queue.objects entry.timer = some timer → timer.expiration ≤ now →
      timer.canceled = false → ∀ change ∈ edits, TimerQueue.removes entry.timer change = false
  | _ => True

theorem mem_runTimer_iff {queue : TimerQueue Callback} (formed : queue.WellFormed)
    {entry : TimerEntry} (inside : entry ∈ queue.timers) (timer : Timer Callback)
    (edits : List (TimerEdit Callback)) :
    entry ∈ (queue.runTimer entry.timer timer edits).1.timers ↔
      (timer.canceled = false →
        ∀ change ∈ edits, TimerQueue.removes entry.timer change = false) := by
  unfold TimerQueue.runTimer
  cases timer.canceled with
  | true => simp [inside]
  | false =>
      rw [← formed.mem_edits_iff inside edits]
      simp only [Bool.false_eq_true, if_false, true_implies]
      exact Iff.rfl

theorem advance_place (loop : TimerLoop Callback) (now : Int64) (entry : TimerEntry)
    (ran : TimerQueue Callback × List (TimerAddress × Callback)) :
    (loop.advance now entry ran).place ≠ .broken ↔ entry ∈ ran.1.timers := by
  by_cases still : entry ∈ ran.1.timers
  · rw [advance_of_mem loop now still]
    exact iff_of_true nofun still
  · rw [advance_of_not_mem loop now still]
    exact iff_of_false (fun whole => whole rfl) still

theorem step_not_broken_iff (loop : TimerLoop Callback) (action : TimerStep Callback)
    (stands : loop.Stands) (whole : loop.place ≠ .broken) :
    (loop.step action).place ≠ .broken ↔ loop.KeepsCurrent action := by
  cases action with
  | edit change =>
      refine iff_of_true ?_ trivial
      simp only [step]
      split
      · exact whole
      · exact whole
  | doTimer now =>
      refine iff_of_true ?_ trivial
      simp only [step]
      split
      · nofun
      · exact whole
  | iterate edits =>
      simp only [step, iterate, KeepsCurrent]
      cases place : loop.place with
      | outside => exact iff_of_true (by simp [place]) nofun
      | broken => exact absurd place whole
      | walking now iter =>
          cases iter with
          | none => exact iff_of_true nofun nofun
          | some entry =>
              have inside := stands.inside now entry place
              obtain ⟨timer, found⟩ :=
                Option.isSome_iff_exists.mp (stands.formed.present entry inside)
              simp only [found]
              by_cases due : timer.expiration ≤ now
              · rw [if_pos due, advance_place, mem_runTimer_iff stands.formed inside]
                constructor
                · intro keeps now' entry' timer' same found' _
                  cases same
                  cases found.symm.trans found'
                  exact keeps
                · intro keeps
                  exact keeps now entry timer rfl found due
              · rw [if_neg due]
                refine iff_of_true nofun ?_
                intro now' entry' timer' same found' due'
                cases same
                cases found.symm.trans found'
                exact absurd due' due

/-- Whatever the callbacks do, `do_timer` uses no `iter` whose element was erased exactly when
no callback removes the timer it is called for. -/
theorem iter_valid_iff (actions : List (TimerStep Callback)) :
    (∀ first, first <+: actions → (run step (empty : TimerLoop Callback) first).place ≠ .broken) ↔
      Guarded step KeepsCurrent (empty : TimerLoop Callback) actions :=
  forall_prefix_iff_guarded Stands (fun loop => loop.place ≠ .broken) step_stands
    step_not_broken_iff empty_stands nofun actions

/-- A timer whose callback removes it. -/
theorem self_removal_breaks_iter :
    (run step (empty : TimerLoop Unit)
      [.edit (.addTimerMoved 1 () 100 10 5), .doTimer 100,
        .iterate [.removeTimer ⟨1, 1⟩]]).place = .broken := by
  decide

end TimerLoop

end Talko.Network
