import Talko.Network.TimerQueue

/-!
# Laws of the timer queue

Every queue that calls and passes lead to is well formed, whatever its callbacks do. A
pass whose callbacks leave the queue alone walks the entries in the order they were
inserted for and stops at the first one that is not due; `Timer::run` moves the
expiration of a timer and not its entry, so a due timer can stand behind that one.
-/

set_option autoImplicit false

namespace Talko.Network

open Talko.Library

namespace TimerQueue

variable {Callback : Type}

/-- Each entry once and in order, each timer in one entry, and its object there. -/
structure WellFormed (queue : TimerQueue Callback) : Prop where
  ascending : Ascending queue.timers
  unique : (queue.timers.map (·.timer)).Nodup
  present : ∀ entry ∈ queue.timers, (queue.objects entry.timer).isSome

/-! ## The operations keep the queue well formed -/

theorem wellFormed_empty : (empty : TimerQueue Callback).WellFormed where
  ascending := List.Pairwise.nil
  unique := List.nodup_nil
  present := fun _ inside => absurd inside List.not_mem_nil

theorem WellFormed.sublist {queue : TimerQueue Callback} (formed : queue.WellFormed)
    {timers : List TimerEntry} (kept : timers.Sublist queue.timers) :
    ({ queue with timers := timers } : TimerQueue Callback).WellFormed where
  ascending := List.Pairwise.sublist kept formed.ascending
  unique := formed.unique.sublist (kept.map _)
  present := fun entry inside => formed.present entry (kept.subset inside)

theorem modifyTimer_objects_of_ne (queue : TimerQueue Callback) {address other : TimerAddress}
    (change : Timer Callback → Timer Callback) (different : other ≠ address) :
    (queue.modifyTimer address change).objects other = queue.objects other :=
  Function.update_of_ne different _ _

theorem modifyTimer_isSome (queue : TimerQueue Callback) (address other : TimerAddress)
    (change : Timer Callback → Timer Callback) :
    ((queue.modifyTimer address change).objects other).isSome =
      (queue.objects other).isSome := by
  by_cases same : other = address
  · subst same
    simp [modifyTimer]
  · rw [modifyTimer_objects_of_ne queue change same]

theorem WellFormed.modifyTimer {queue : TimerQueue Callback} (formed : queue.WellFormed)
    (address : TimerAddress) (change : Timer Callback → Timer Callback) :
    (queue.modifyTimer address change).WellFormed where
  ascending := formed.ascending
  unique := formed.unique
  present := fun entry inside => by
    rw [modifyTimer_isSome]
    exact formed.present entry inside

theorem WellFormed.not_mem_of_isFree {queue : TimerQueue Callback} (formed : queue.WellFormed)
    {address : TimerAddress} (free : queue.IsFree address) :
    ∀ entry ∈ queue.timers, entry.timer ≠ address := by
  intro entry inside same
  have present := formed.present entry inside
  rw [same, free.2] at present
  cases present

theorem WellFormed.newTimer {queue : TimerQueue Callback} (formed : queue.WellFormed)
    {address : TimerAddress} (free : queue.IsFree address) (callback : Callback)
    (when interval repeatCount : Int64) :
    ((queue.newTimer address callback when interval repeatCount).addTimerInLoop
      address).WellFormed := by
  have elsewhere := formed.not_mem_of_isFree free
  have absent : (⟨when, address⟩ : TimerEntry) ∉ queue.timers := fun inside =>
    elsewhere _ inside rfl
  have inserted : ((queue.newTimer address callback when interval repeatCount).addTimerInLoop
      address).timers = orderedSetInsert ⟨when, address⟩ queue.timers := by
    simp [addTimerInLoop, insert, TimerQueue.newTimer, Timer.new]
  have created : ((queue.newTimer address callback when interval repeatCount).addTimerInLoop
      address).objects = Function.update queue.objects address
        (some (Timer.new callback when interval repeatCount (queue.createdNum + 1))) := by
    simp [addTimerInLoop, insert, TimerQueue.newTimer]
  constructor
  case ascending =>
    rw [inserted]
    exact formed.ascending.insert _
  case unique =>
    rw [inserted, ((orderedSetInsert_perm absent).map _).nodup_iff, List.map_cons,
      List.nodup_cons]
    refine ⟨fun inside => ?_, formed.unique⟩
    obtain ⟨entry, member, same⟩ := List.mem_map.mp inside
    exact elsewhere entry member same
  case present =>
    intro entry inside
    rw [inserted, mem_orderedSetInsert] at inside
    rw [created]
    rcases inside with rfl | inside
    · simp
    · rw [Function.update_of_ne (elsewhere entry inside)]
      exact formed.present entry inside

theorem WellFormed.edit {queue : TimerQueue Callback} (formed : queue.WellFormed)
    (change : TimerEdit Callback) : (queue.edit change).WellFormed := by
  cases change with
  | addTimer address callback when interval repeatCount =>
      simp only [TimerQueue.edit]
      split
      · rename_i free
        exact formed.newTimer free callback when interval (-1)
      · exact formed
  | addTimerMoved address callback when interval repeatCount =>
      simp only [TimerQueue.edit]
      split
      · rename_i free
        exact formed.newTimer free callback when interval repeatCount
      · exact formed
  | removeTimer timerId =>
      exact formed.sublist List.eraseP_sublist
  | cancel timerId off =>
      simp only [TimerQueue.edit, cancelTimerInLoop]
      split
      · exact formed.modifyTimer timerId.timer _
      · exact formed

theorem WellFormed.edits {queue : TimerQueue Callback} (formed : queue.WellFormed)
    (changes : List (TimerEdit Callback)) : (changes.foldl TimerQueue.edit queue).WellFormed := by
  induction changes generalizing queue with
  | nil => exact formed
  | cons change rest ih => exact ih (formed.edit change)

theorem WellFormed.runTimer {queue : TimerQueue Callback} (formed : queue.WellFormed)
    (address : TimerAddress) (timer : Timer Callback) (edits : List (TimerEdit Callback)) :
    (queue.runTimer address timer edits).1.WellFormed := by
  unfold TimerQueue.runTimer
  split
  · exact formed
  · exact (formed.edits edits).modifyTimer address _

/-- The queue after an iteration that ran the entry's timer: the entry goes once the
count of the timer is used up. -/
def retire (queue : TimerQueue Callback) (entry : TimerEntry) : TimerQueue Callback :=
  if queue.repeatCount entry.timer = some 0 then
    { queue with timers := queue.timers.erase entry }
  else queue

theorem WellFormed.retire {queue : TimerQueue Callback} (formed : queue.WellFormed)
    (entry : TimerEntry) : (queue.retire entry).WellFormed := by
  unfold TimerQueue.retire
  split
  · exact formed.sublist List.erase_sublist
  · exact formed

@[simp] theorem retire_objects (queue : TimerQueue Callback) (entry : TimerEntry) :
    (queue.retire entry).objects = queue.objects := by
  unfold retire
  split <;> rfl

theorem doTimerLoop_due {now : Int64} {queue : TimerQueue Callback} {entry : TimerEntry}
    {timer : Timer Callback} {invoked : List (TimerAddress × Callback)}
    {edits : List (TimerEdit Callback)} {script : List (List (TimerEdit Callback))}
    (found : queue.objects entry.timer = some timer) (due : timer.expiration ≤ now)
    (still : entry ∈ (queue.runTimer entry.timer timer edits).1.timers) :
    doTimerLoop now queue (some entry) invoked (edits :: script) =
      doTimerLoop now ((queue.runTimer entry.timer timer edits).1.retire entry)
        (orderedSetNext (queue.runTimer entry.timer timer edits).1.timers entry)
        (invoked ++ (queue.runTimer entry.timer timer edits).2) script := by
  simp only [doTimerLoop, found, due, if_true, still, retire]
  split <;> rfl

theorem WellFormed.doTimerLoop {now : Int64} {queue after : TimerQueue Callback}
    {iter : Option TimerEntry} {invoked calls : List (TimerAddress × Callback)}
    {script : List (List (TimerEdit Callback))} (formed : queue.WellFormed)
    (ended : TimerQueue.doTimerLoop now queue iter invoked script = .done after calls) :
    after.WellFormed := by
  induction script generalizing queue iter invoked with
  | nil => cases ended
  | cons edits script ih =>
      cases iter with
      | none =>
          cases ended
          exact formed
      | some entry =>
          cases found : queue.objects entry.timer with
          | none => simp [TimerQueue.doTimerLoop, found] at ended
          | some timer =>
              by_cases due : timer.expiration ≤ now
              · by_cases still : entry ∈ (queue.runTimer entry.timer timer edits).1.timers
                · rw [doTimerLoop_due found due still] at ended
                  exact ih ((formed.runTimer entry.timer timer edits).retire entry) ended
                · simp [TimerQueue.doTimerLoop, found, due, still] at ended
              · simp only [TimerQueue.doTimerLoop, found, due, if_false] at ended
                cases ended
                exact formed

theorem Reachable.wellFormed {queue : TimerQueue Callback} (reachable : Reachable queue) :
    queue.WellFormed := by
  induction reachable with
  | empty => exact wellFormed_empty
  | edit change _ ih => exact ih.edit change
  | pass now script _ ended ih => exact ih.doTimerLoop ended

/-! ## A pass whose callbacks leave the queue alone -/

def isDue (queue : TimerQueue Callback) (now : Int64) (entry : TimerEntry) : Bool :=
  match queue.objects entry.timer with
  | some timer => decide (timer.expiration ≤ now)
  | none => false

def callOf (queue : TimerQueue Callback) (entry : TimerEntry) : Option (TimerAddress × Callback) :=
  match queue.objects entry.timer with
  | some timer => if timer.canceled then none else some (entry.timer, timer.callback)
  | none => none

def walkCalls (queue : TimerQueue Callback) (now : Int64) (entries : List TimerEntry) :
    List (TimerAddress × Callback) :=
  (entries.takeWhile (queue.isDue now)).filterMap queue.callOf

theorem walkCalls_congr {queue other : TimerQueue Callback} {now : Int64}
    {entries : List TimerEntry}
    (agree : ∀ entry ∈ entries, other.objects entry.timer = queue.objects entry.timer) :
    other.walkCalls now entries = queue.walkCalls now entries := by
  induction entries with
  | nil => rfl
  | cons entry rest ih =>
      have here := agree entry List.mem_cons_self
      have later := ih fun entry inside => agree entry (List.mem_cons_of_mem _ inside)
      have sameDue : other.isDue now entry = queue.isDue now entry := by
        simp only [isDue, here]
      have sameCall : other.callOf entry = queue.callOf entry := by
        simp only [callOf, here]
      unfold walkCalls at later ⊢
      simp only [List.takeWhile_cons, sameDue]
      split
      · simp only [List.filterMap_cons, sameCall, later]
      · rfl

theorem runTimer_quiet (queue : TimerQueue Callback) (entry : TimerEntry)
    {timer : Timer Callback} (found : queue.objects entry.timer = some timer) :
    (queue.runTimer entry.timer timer []).2 = (queue.callOf entry).toList ∧
      (queue.runTimer entry.timer timer []).1.timers = queue.timers ∧
      ∀ address, address ≠ entry.timer →
        (queue.runTimer entry.timer timer []).1.objects address = queue.objects address := by
  unfold runTimer callOf
  rw [found]
  by_cases isCanceled : timer.canceled = true
  · simp [isCanceled]
  · simp only [isCanceled, Bool.false_eq_true, if_false, List.foldl_nil]
    exact ⟨rfl, rfl, fun address different => modifyTimer_objects_of_ne queue _ different⟩

theorem retire_split {queue : TimerQueue Callback} {front rest : List TimerEntry}
    {entry : TimerEntry} (ascending : Ascending queue.timers)
    (split : queue.timers = front ++ entry :: rest) :
    ∃ kept, (queue.retire entry).timers = kept ++ rest := by
  unfold retire
  split
  · refine ⟨front, ?_⟩
    rw [split] at ascending ⊢
    exact ascending.erase_split
  · exact ⟨front ++ [entry], by simp [split]⟩

theorem walkCalls_cons_of_due {queue : TimerQueue Callback} {now : Int64} {entry : TimerEntry}
    (due : queue.isDue now entry = true) (rest : List TimerEntry) :
    queue.walkCalls now (entry :: rest) =
      (queue.callOf entry).toList ++ queue.walkCalls now rest := by
  cases call : queue.callOf entry <;> simp [walkCalls, due, call]

/-- The loop from an entry on, the entries before it being `front`: it comes to its end
and makes the calls of the walk over the rest. -/
theorem doTimerLoop_quiet (now : Int64) {queue : TimerQueue Callback}
    {front rest : List TimerEntry} {iterations : Nat} (formed : queue.WellFormed)
    (split : queue.timers = front ++ rest) (enough : rest.length < iterations)
    (invoked : List (TimerAddress × Callback)) :
    ∃ after, doTimerLoop now queue rest.head? invoked (List.replicate iterations []) =
      .done after (invoked ++ queue.walkCalls now rest) := by
  induction rest generalizing queue front iterations invoked with
  | nil =>
      obtain ⟨iterations, rfl⟩ := Nat.exists_eq_succ_of_ne_zero (Nat.ne_of_gt enough)
      exact ⟨queue, by simp [List.replicate_succ, doTimerLoop, walkCalls]⟩
  | cons entry rest ih =>
      obtain ⟨iterations, rfl⟩ :=
        Nat.exists_eq_succ_of_ne_zero (Nat.ne_of_gt (Nat.zero_lt_of_lt enough))
      have inside : entry ∈ queue.timers := by simp [split]
      obtain ⟨timer, found⟩ := Option.isSome_iff_exists.mp (formed.present entry inside)
      by_cases due : timer.expiration ≤ now
      · obtain ⟨calls, sameTimers, others⟩ := runTimer_quiet queue entry found
        have ran := formed.runTimer entry.timer timer []
        have ranSplit := sameTimers.trans split
        obtain ⟨kept, keptSplit⟩ := retire_split ran.ascending ranSplit
        obtain ⟨after, ended⟩ := ih (ran.retire entry) keptSplit (Nat.lt_of_succ_lt_succ enough)
          (invoked ++ (queue.callOf entry).toList)
        have elsewhere : ∀ other ∈ rest, other.timer ≠ entry.timer := by
          intro other member same
          have unique := formed.unique
          rw [split, List.map_append, List.map_cons, List.nodup_append, List.nodup_cons] at unique
          exact unique.2.1.1 (List.mem_map.mpr ⟨other, member, same⟩)
        have sameWalk : ((queue.runTimer entry.timer timer []).1.retire entry).walkCalls now rest =
            queue.walkCalls now rest :=
          walkCalls_congr fun other member => by
            rw [retire_objects]
            exact others other.timer (elsewhere other member)
        have isDue : queue.isDue now entry = true := by simp [isDue, found, due]
        refine ⟨after, ?_⟩
        rw [List.replicate_succ, List.head?_cons,
          doTimerLoop_due found due (sameTimers ▸ inside), ranSplit,
          orderedSetNext_split (ranSplit ▸ ran.ascending), calls, ended, sameWalk,
          walkCalls_cons_of_due isDue, List.append_assoc]
      · have notDue : queue.isDue now entry = false := by simp [isDue, found, due]
        exact ⟨queue, by simp [List.replicate_succ, doTimerLoop, found, due, walkCalls, notDue]⟩

theorem doTimer_quiet (now : Int64) {queue : TimerQueue Callback} {iterations : Nat}
    (formed : queue.WellFormed) (enough : queue.timers.length < iterations) :
    ∃ after, queue.doTimer now (List.replicate iterations []) =
      .done after (queue.walkCalls now queue.timers) :=
  doTimerLoop_quiet now formed (List.nil_append _).symm enough []

/-! ## Which timers a pass runs -/

def Owed (queue : TimerQueue Callback) (now : Int64) (entry : TimerEntry) : Prop :=
  ∃ timer, queue.objects entry.timer = some timer ∧
    timer.canceled = false ∧ timer.expiration ≤ now

/-- A pass at `now` whose callbacks leave the queue alone comes to its end, and the
callbacks it invokes are those of the due timers that are not cancelled. -/
def RunsEveryDue (queue : TimerQueue Callback) (now : Int64) : Prop :=
  ∀ iterations, queue.timers.length < iterations →
    ∃ after invoked,
      queue.doTimer now (List.replicate iterations []) = .done after invoked ∧
      ∀ address callback, (address, callback) ∈ invoked ↔
        ∃ entry ∈ queue.timers, entry.timer = address ∧
          ∃ timer, queue.objects address = some timer ∧ timer.callback = callback ∧
            timer.canceled = false ∧ timer.expiration ≤ now

/-- No timer that is not due stands, in the order of `timers_`, before one that is due
and not cancelled. -/
def InOrder (queue : TimerQueue Callback) (now : Int64) : Prop :=
  queue.timers.Pairwise fun earlier later =>
    queue.Owed now later → queue.isDue now earlier = true

theorem isDue_of_owed {queue : TimerQueue Callback} {now : Int64} {entry : TimerEntry}
    (owed : queue.Owed now entry) : queue.isDue now entry = true := by
  obtain ⟨timer, found, _, due⟩ := owed
  simp [isDue, found, due]

theorem callOf_eq_some {queue : TimerQueue Callback} {entry : TimerEntry}
    {address : TimerAddress} {callback : Callback} :
    queue.callOf entry = some (address, callback) ↔
      entry.timer = address ∧ ∃ timer, queue.objects address = some timer ∧
        timer.callback = callback ∧ timer.canceled = false := by
  unfold callOf
  cases found : queue.objects entry.timer with
  | none =>
      constructor
      · intro impossible
        cases impossible
      · rintro ⟨rfl, timer, there, _⟩
        rw [found] at there
        cases there
  | some timer =>
      constructor
      · intro called
        simp only [Option.ite_none_left_eq_some, Option.some.injEq, Prod.mk.injEq,
          Bool.not_eq_true] at called
        obtain ⟨notCanceled, rfl, rfl⟩ := called
        exact ⟨rfl, timer, found, rfl, notCanceled⟩
      · rintro ⟨rfl, other, there, rfl, notCanceled⟩
        rw [found] at there
        cases there
        simp [notCanceled]

theorem WellFormed.entry_eq {queue : TimerQueue Callback} (formed : queue.WellFormed)
    {left right : TimerEntry} (leftInside : left ∈ queue.timers)
    (rightInside : right ∈ queue.timers) (same : left.timer = right.timer) : left = right :=
  List.inj_on_of_nodup_map formed.unique leftInside rightInside same

theorem mem_walkCalls {queue : TimerQueue Callback} {now : Int64} {entries : List TimerEntry}
    {address : TimerAddress} {callback : Callback} :
    (address, callback) ∈ queue.walkCalls now entries ↔
      ∃ entry ∈ entries.takeWhile (queue.isDue now), entry.timer = address ∧
        ∃ timer, queue.objects address = some timer ∧ timer.callback = callback ∧
          timer.canceled = false := by
  simp only [walkCalls, List.mem_filterMap, callOf_eq_some]

theorem WellFormed.runsEveryDue_iff {queue : TimerQueue Callback} (formed : queue.WellFormed)
    (now : Int64) : queue.RunsEveryDue now ↔ queue.InOrder now := by
  have unique : queue.timers.Nodup := formed.ascending.imp ne_of_lt
  unfold InOrder
  rw [← reached_iff_pairwise (fun _ => isDue_of_owed) unique]
  constructor
  · rintro runs entry inside ⟨timer, found, notCanceled, due⟩
    obtain ⟨after, invoked, ended, exactly⟩ := runs _ (Nat.lt_succ_self _)
    obtain ⟨_, walked⟩ := doTimer_quiet now formed (Nat.lt_succ_self _)
    rw [walked] at ended
    cases ended
    have called := (exactly entry.timer timer.callback).mpr
      ⟨entry, inside, rfl, timer, found, rfl, notCanceled, due⟩
    obtain ⟨other, walkedTo, same, _⟩ := mem_walkCalls.mp called
    have otherInside := (List.takeWhile_sublist _).subset walkedTo
    exact formed.entry_eq otherInside inside same ▸ walkedTo
  · intro reached iterations enough
    obtain ⟨after, ended⟩ := doTimer_quiet now formed enough
    refine ⟨after, _, ended, fun address callback => ?_⟩
    rw [mem_walkCalls]
    constructor
    · rintro ⟨entry, walkedTo, rfl, timer, found, calls, notCanceled⟩
      have due := List.all_eq_true.mp List.all_takeWhile entry walkedTo
      simp only [isDue, found, decide_eq_true_eq] at due
      exact ⟨entry, (List.takeWhile_sublist _).subset walkedTo, rfl, timer, found, calls,
        notCanceled, due⟩
    · rintro ⟨entry, inside, rfl, timer, found, calls, notCanceled, due⟩
      exact ⟨entry, reached entry inside ⟨timer, found, notCanceled, due⟩, rfl, timer, found,
        calls, notCanceled⟩

/-- In every queue that calls and passes lead to, a pass runs every due timer and no other
if and only if the due ones stand in front. -/
theorem pass_runs_every_due_iff {queue : TimerQueue Callback} (reachable : Reachable queue)
    (now : Int64) : queue.RunsEveryDue now ↔ queue.InOrder now :=
  reachable.wellFormed.runsEveryDue_iff now

def twoPeriods : TimerQueue Unit :=
  (empty.edit (.addTimer 1 () 100 100 (-1))).edit (.addTimer 2 () 105 10 (-1))

theorem twoPeriods_reachable : Reachable twoPeriods :=
  .edit _ (.edit _ .empty)

theorem twoPeriods_runs : twoPeriods.RunsEveryDue 105 := by
  refine (pass_runs_every_due_iff twoPeriods_reachable 105).mpr ?_
  have timers : twoPeriods.timers = [⟨100, 1⟩, ⟨105, 2⟩] := rfl
  have firstDue : twoPeriods.isDue 105 ⟨100, 1⟩ = true := rfl
  simp [InOrder, timers, firstDue]

/-- After a pass at 105 the first timer is due at 200 and the second, behind it, at 115:
a pass at 115 runs neither. -/
theorem shorter_period_missed :
    ¬ ∀ queue : TimerQueue Unit, Reachable queue → ∀ now, queue.RunsEveryDue now := by
  intro always
  have ended : ∃ after, twoPeriods.doTimer 105 [[], [], []] =
      .done after [(1, ()), (2, ())] ∧
      after.timers = [⟨100, 1⟩, ⟨105, 2⟩] ∧
      (∃ timer, after.objects 2 = some timer ∧ timer.canceled = false ∧ timer.expiration = 115) ∧
      ∃ later, after.doTimer 115 (List.replicate 3 []) = .done later [] :=
    ⟨_, rfl, rfl, ⟨_, rfl, rfl, rfl⟩, _, rfl⟩
  obtain ⟨after, ended, timers, ⟨timer, found, notCanceled, expiration⟩, later, missed⟩ := ended
  have runs := always after (.pass 105 [[], [], []] twoPeriods_reachable ended) 115
  obtain ⟨_, invoked, again, exactly⟩ := runs 3 (by simp [timers])
  rw [missed] at again
  cases again
  have owed := (exactly 2 ()).mpr
    ⟨⟨105, 2⟩, by simp [timers], rfl, timer, found, rfl, notCanceled, Int64.le_of_eq expiration⟩
  exact List.not_mem_nil owed

end TimerQueue

end Talko.Network
