import Talko.Log.WhispLog

/-!
# Shutting the log down

`log_uninit` sets `exit_flag_`, notifies and joins. The write thread tests the list and the
flag and waits, all under `write_mutex_`, which `log_uninit` does not take. Between the test
and the wait the flag can be set and the notification spent.
-/

set_option autoImplicit false

namespace Talko.Log

open Talko.Library

/-- Where the write thread stands between the top of its loop and its next line: it wants the
mutex, holds it, has found the list empty, has found `exit_flag_` unset, or is blocked in
`wait`. -/
inductive WaitPlace where
  | locking
  | holding
  | emptied
  | deciding
  | waiting
  deriving DecidableEq, Repr

/-- The next statement of `log_uninit`: none yet, `notify_one`, `join`, or none any more. -/
inductive UninitPlace where
  | outside
  | flagged
  | joining
  | returned
  deriving DecidableEq, Repr

structure SharedLog where
  log : WhispLog
  writer : WaitPlace
  uninit : UninitPlace
  deriving DecidableEq, Repr

/-- A step of any thread. `wake` is a wake-up without a notification. -/
inductive SharedStep where
  | logOutput (level : LogLevel) (pieces : LinePieces) (clock : Nat) (opens : Bool)
  | logOutputBinary (text : List UInt8)
  | logSetLevel (level : LogLevel)
  | writeThreadProc (clock : Nat) (opens : Bool)
  | wake
  | logUninit
  deriving DecidableEq, Repr

namespace SharedLog

def init (logFileName logId : List UInt8) (truncateFlag : Bool) (rollSize : Int) : SharedLog where
  log := .logInit logFileName logId truncateFlag rollSize
  writer := .locking
  uninit := .outside

def changeLog (s : SharedLog) (log : WhispLog) : SharedLog :=
  { s with log := log }

def moveWriter (s : SharedLog) (place : WaitPlace) : SharedLog :=
  { s with writer := place }

def moveUninit (s : SharedLog) (place : UninitPlace) : SharedLog :=
  { s with uninit := place }

/-- The write thread has the mutex. Every other section under it is one step. -/
def holdsMutex (s : SharedLog) : Bool :=
  match s.writer with
  | .holding | .emptied | .deciding => true
  | .locking | .waiting => false

def notifyOne (s : SharedLog) : SharedLog :=
  if s.writer = .waiting then s.moveWriter .locking else s

/-- `log_output` gets as far as the mutex. -/
def queues (s : SharedLog) (level : LogLevel) (pieces : LinePieces) : Bool :=
  ¬ (level.value < s.log.curLevel.value ∧ level ≠ .critical) ∧ pieces.message.isSome ∧
    level ≠ .fatal

/-- A call that has to wait for the mutex has not made its step yet. -/
def logOutput (s : SharedLog) (level : LogLevel) (pieces : LinePieces) (timef : List UInt8)
    (opens : Bool) : SharedLog :=
  let after := s.changeLog (s.log.logOutput level pieces timef opens)
  if s.queues level pieces then
    if s.holdsMutex then s else after.notifyOne
  else after

def logOutputBinary (s : SharedLog) (text : List UInt8) : SharedLog :=
  if s.holdsMutex then s else (s.changeLog (s.log.logOutputBinary text)).notifyOne

/-- The next step of `write_thread_proc`. The pop of a line, its write and the release of the
mutex are one. -/
def writeThreadProc (s : SharedLog) (timef : List UInt8) (opens : Bool) : SharedLog :=
  match s.log.place with
  | .top => (s.changeLog (s.log.turn timef opens)).moveWriter .locking
  | .ended => s
  | .queue =>
      match s.writer with
      | .locking => s.moveWriter .holding
      | .holding =>
          if s.log.writeWaitingLists = [] then s.moveWriter .emptied
          else (s.changeLog s.log.take).moveWriter .locking
      | .emptied =>
          if s.log.exitFlag then (s.changeLog s.log.take).moveWriter .locking
          else s.moveWriter .deciding
      | .deciding => s.moveWriter .waiting
      | .waiting => s

/-- The last statements of `log_uninit` close the file. -/
def closeFile (log : WhispLog) : WhispLog :=
  { log with closedFiles := log.closedFiles ++ log.logFile.toList, logFile := none }

def logUninit (s : SharedLog) : SharedLog :=
  match s.uninit with
  | .outside => (s.changeLog { s.log with exitFlag := true }).moveUninit .flagged
  | .flagged => s.notifyOne.moveUninit .joining
  | .joining =>
      if s.log.place = .ended then (s.changeLog (closeFile s.log)).moveUninit .returned else s
  | .returned => s

def step (timef : Nat → List UInt8) (s : SharedLog) : SharedStep → SharedLog
  | .logOutput level pieces clock opens => s.logOutput level pieces (timef clock) opens
  | .logOutputBinary text => s.logOutputBinary text
  | .logSetLevel level => s.changeLog (s.log.logSetLevel level)
  | .writeThreadProc clock opens => s.writeThreadProc (timef clock) opens
  | .wake => s.notifyOne
  | .logUninit => s.logUninit

/-- The notification of `log_uninit` is behind. -/
def Notified (s : SharedLog) : Prop :=
  s.uninit = .joining ∨ s.uninit = .returned

/-- The write thread waits for a notification that does not come. -/
structure Stuck (s : SharedLog) : Prop where
  exit : s.log.exitFlag = true
  empty : s.log.writeWaitingLists = []
  place : s.log.place = .queue
  waits : s.writer = .waiting
  notified : s.Notified

/-- The write thread does not go to sleep behind the notification of `log_uninit`. -/
def WaitsInTime (s : SharedLog) : SharedStep → Prop
  | .writeThreadProc _ _ => s.log.place = .queue → s.writer = .deciding → ¬ s.Notified
  | _ => True

instance (s : SharedLog) : Decidable s.Notified :=
  inferInstanceAs (Decidable (_ ∨ _))

instance (s : SharedLog) : Decidable s.Stuck :=
  decidable_of_iff
    (s.log.exitFlag = true ∧ s.log.writeWaitingLists = [] ∧ s.log.place = .queue ∧
      s.writer = .waiting ∧ s.Notified)
    ⟨fun ⟨exit, empty, place, waits, notified⟩ => ⟨exit, empty, place, waits, notified⟩,
      fun ⟨exit, empty, place, waits, notified⟩ => ⟨exit, empty, place, waits, notified⟩⟩

instance (s : SharedLog) (action : SharedStep) : Decidable (s.WaitsInTime action) :=
  match action with
  | .writeThreadProc _ _ =>
      inferInstanceAs (Decidable (s.log.place = .queue → s.writer = .deciding → ¬ s.Notified))
  | .logOutput .. | .logOutputBinary _ | .logSetLevel _ | .wake | .logUninit =>
      inferInstanceAs (Decidable True)

/-!
## What the two threads agree on
-/

/-- A writer behind its test of the list holds the mutex, so the list is still empty, and a
`log_uninit` on its way has set the flag. -/
structure Agrees (s : SharedLog) : Prop where
  found : s.log.place = .queue → s.writer = .emptied ∨ s.writer = .deciding →
    s.log.writeWaitingLists = []
  flagged : s.uninit ≠ .outside → s.log.exitFlag = true

theorem init_agrees (logFileName logId : List UInt8) (truncateFlag : Bool) (rollSize : Int) :
    (init logFileName logId truncateFlag rollSize).Agrees where
  found place := by cases place
  flagged inside := absurd rfl inside

theorem init_not_stuck (logFileName logId : List UInt8) (truncateFlag : Bool) (rollSize : Int) :
    ¬ (init logFileName logId truncateFlag rollSize).Stuck := by
  intro stuck
  cases stuck.place

/-- The parts of the log that the two threads wait for. -/
structure SameSignals (log after : WhispLog) : Prop where
  exitFlag : after.exitFlag = log.exitFlag
  place : after.place = log.place
  lists : after.writeWaitingLists = log.writeWaitingLists

theorem sameSignals_refl (log : WhispLog) : SameSignals log log := ⟨rfl, rfl, rfl⟩

theorem outputFatal_sameSignals (log : WhispLog) (line timef : List UInt8) (opens : Bool) :
    SameSignals log (log.outputFatal line timef opens) := by
  unfold WhispLog.outputFatal
  split
  · exact sameSignals_refl log
  · split
    · exact ⟨rfl, rfl, rfl⟩
    · cases opens with
      | true => exact ⟨rfl, rfl, rfl⟩
      | false => exact ⟨rfl, rfl, rfl⟩

theorem logOutput_sameSignals {s : SharedLog} {level : LogLevel} {pieces : LinePieces}
    (quiet : s.queues level pieces = false) (timef : List UInt8) (opens : Bool) :
    SameSignals s.log (s.log.logOutput level pieces timef opens) := by
  unfold WhispLog.logOutput
  split
  · exact sameSignals_refl s.log
  · rename_i passes
    cases text : pieces.message with
    | none => exact sameSignals_refl s.log
    | some message =>
        have fatal : level = .fatal := by simpa [queues, passes, text] using quiet
        simp only [fatal, ne_eq, not_true_eq_false, if_false]
        exact outputFatal_sameSignals s.log _ timef opens

/-- A call that gets to the mutex adds a line and leaves the rest. -/
theorem logOutput_adds {s : SharedLog} {level : LogLevel} {pieces : LinePieces}
    (queues : s.queues level pieces = true) (timef : List UInt8) (opens : Bool) :
    ∃ line, s.log.logOutput level pieces timef opens =
      { s.log with writeWaitingLists := s.log.writeWaitingLists ++ [line] } := by
  simp only [SharedLog.queues, decide_eq_true_eq] at queues
  obtain ⟨passes, formatted, queued⟩ := queues
  obtain ⟨message, text⟩ := Option.isSome_iff_exists.mp formatted
  exact ⟨s.log.outLine pieces message, by simp [WhispLog.logOutput, passes, text, queued]⟩

@[simp] theorem notifyOne_log (s : SharedLog) : s.notifyOne.log = s.log := by
  unfold notifyOne
  split <;> rfl

@[simp] theorem notifyOne_uninit (s : SharedLog) : s.notifyOne.uninit = s.uninit := by
  unfold notifyOne
  split <;> rfl

theorem notifyOne_cases (s : SharedLog) :
    s.notifyOne.writer = .locking ∨ s.notifyOne.writer = s.writer ∧ s.writer ≠ .waiting := by
  unfold notifyOne
  split
  · exact .inl rfl
  · rename_i awake
    exact .inr ⟨rfl, awake⟩

theorem notifyOne_awake (s : SharedLog) : s.notifyOne.writer ≠ .waiting := by
  obtain locking | ⟨same, awake⟩ := s.notifyOne_cases
  · rw [locking]
    nofun
  · rwa [same]

theorem not_stuck_of_awake {s : SharedLog} (awake : s.writer ≠ .waiting) : ¬ s.Stuck :=
  fun stuck => awake stuck.waits

theorem notifyOne_agrees {s : SharedLog} (agrees : s.Agrees) : s.notifyOne.Agrees := by
  refine ⟨fun place behind => ?_, fun inside => ?_⟩
  · rw [notifyOne_log] at place ⊢
    refine agrees.found place ?_
    obtain locking | ⟨same, -⟩ := s.notifyOne_cases
    · simp [locking] at behind
    · rwa [same] at behind
  · rw [notifyOne_log]
    exact agrees.flagged (by rwa [notifyOne_uninit] at inside)

/-- A writer with the mutex in its hands is not found by a change of the list. -/
theorem free_of_not_holdsMutex {s : SharedLog} (free : s.holdsMutex = false) :
    ¬ (s.writer = .emptied ∨ s.writer = .deciding) := by
  intro behind
  unfold holdsMutex at free
  obtain emptied | deciding := behind
  · simp [emptied] at free
  · simp [deciding] at free

theorem addLine_agrees {s : SharedLog} (agrees : s.Agrees) (free : s.holdsMutex = false)
    (line : List UInt8) :
    (s.changeLog { s.log with
      writeWaitingLists := s.log.writeWaitingLists ++ [line] }).notifyOne.Agrees :=
  notifyOne_agrees ⟨fun _ behind => absurd behind (free_of_not_holdsMutex free), agrees.flagged⟩

theorem changeLog_agrees {s : SharedLog} (agrees : s.Agrees) {log : WhispLog}
    (same : SameSignals s.log log) : (s.changeLog log).Agrees where
  found place behind := same.lists.trans (agrees.found (same.place.symm.trans place) behind)
  flagged inside := same.exitFlag.trans (agrees.flagged inside)

theorem changeLog_stuck_iff (s : SharedLog) {log : WhispLog} (same : SameSignals s.log log) :
    (s.changeLog log).Stuck ↔ s.Stuck := by
  constructor
  · rintro ⟨exit, empty, place, waits, notified⟩
    exact ⟨same.exitFlag.symm.trans exit, same.lists.symm.trans empty,
      same.place.symm.trans place, waits, notified⟩
  · rintro ⟨exit, empty, place, waits, notified⟩
    exact ⟨same.exitFlag.trans exit, same.lists.trans empty, same.place.trans place, waits,
      notified⟩

theorem logSetLevel_sameSignals (log : WhispLog) (level : LogLevel) :
    SameSignals log (log.logSetLevel level) := by
  unfold WhispLog.logSetLevel
  split
  · exact sameSignals_refl log
  · exact ⟨rfl, rfl, rfl⟩

theorem turn_exitFlag (log : WhispLog) (timef : List UInt8) (opens : Bool) :
    (log.turn timef opens).exitFlag = log.exitFlag := by
  unfold WhispLog.turn
  split
  · cases opens with
    | true => rfl
    | false => rfl
  · rfl

theorem take_exitFlag (log : WhispLog) : log.take.exitFlag = log.exitFlag := by
  unfold WhispLog.take
  split
  · split <;> rfl
  · split <;> rfl

/-!
## One step
-/

theorem locking_agrees {s : SharedLog} (agrees : s.Agrees) {log : WhispLog}
    (same : log.exitFlag = s.log.exitFlag) : ((s.changeLog log).moveWriter .locking).Agrees where
  found _ behind := by simp [moveWriter] at behind
  flagged inside := same.trans (agrees.flagged inside)

theorem moveWriter_agrees {s : SharedLog} (agrees : s.Agrees) {place : WaitPlace}
    (found : place = .emptied ∨ place = .deciding → s.log.writeWaitingLists = []) :
    (s.moveWriter place).Agrees where
  found _ behind := found behind
  flagged := agrees.flagged

theorem logOutput_agrees {s : SharedLog} (agrees : s.Agrees) (level : LogLevel)
    (pieces : LinePieces) (timef : List UInt8) (opens : Bool) :
    (s.logOutput level pieces timef opens).Agrees := by
  unfold logOutput
  cases queued : s.queues level pieces with
  | false => exact changeLog_agrees agrees (logOutput_sameSignals queued timef opens)
  | true =>
      cases held : s.holdsMutex with
      | true => exact agrees
      | false =>
          obtain ⟨line, adds⟩ := logOutput_adds queued timef opens
          simp only [adds]
          exact addLine_agrees agrees held line

theorem writeThreadProc_agrees {s : SharedLog} (agrees : s.Agrees) (timef : List UInt8)
    (opens : Bool) : (s.writeThreadProc timef opens).Agrees := by
  unfold writeThreadProc
  cases place : s.log.place with
  | top => exact locking_agrees agrees (turn_exitFlag s.log timef opens)
  | ended => exact agrees
  | queue =>
      cases writer : s.writer with
      | locking => exact moveWriter_agrees agrees (by simp)
      | holding =>
          by_cases empty : s.log.writeWaitingLists = []
          · simp only [empty, if_true]
            exact moveWriter_agrees agrees fun _ => empty
          · simp only [empty, if_false]
            exact locking_agrees agrees (take_exitFlag s.log)
      | emptied =>
          cases s.log.exitFlag with
          | true => exact locking_agrees agrees (take_exitFlag s.log)
          | false => exact moveWriter_agrees agrees fun _ => agrees.found place (.inl writer)
      | deciding => exact moveWriter_agrees agrees (by simp)
      | waiting => exact agrees

theorem logUninit_agrees {s : SharedLog} (agrees : s.Agrees) : s.logUninit.Agrees := by
  unfold logUninit
  cases uninit : s.uninit with
  | outside => exact ⟨agrees.found, fun _ => rfl⟩
  | flagged =>
      have kept := notifyOne_agrees agrees
      have flag : s.log.exitFlag = true := agrees.flagged (by simp [uninit])
      exact ⟨kept.found, fun _ => by simpa [moveUninit] using flag⟩
  | joining =>
      have flag : s.log.exitFlag = true := agrees.flagged (by simp [uninit])
      by_cases ended : s.log.place = .ended
      · simp only [ended, if_true]
        exact ⟨agrees.found, fun _ => flag⟩
      · simp only [ended, if_false]
        exact agrees
  | returned => exact agrees

theorem step_agrees (timef : Nat → List UInt8) (s : SharedLog) (action : SharedStep)
    (agrees : s.Agrees) : (s.step timef action).Agrees := by
  cases action with
  | logOutput level pieces clock opens =>
      exact logOutput_agrees agrees level pieces (timef clock) opens
  | logOutputBinary text =>
      simp only [step, logOutputBinary]
      cases held : s.holdsMutex with
      | true => exact agrees
      | false => exact addLine_agrees agrees held text
  | logSetLevel level => exact changeLog_agrees agrees (logSetLevel_sameSignals s.log level)
  | writeThreadProc clock opens => exact writeThreadProc_agrees agrees (timef clock) opens
  | wake => exact notifyOne_agrees agrees
  | logUninit => exact logUninit_agrees agrees

theorem logOutput_not_stuck {s : SharedLog} (moves : ¬ s.Stuck) (level : LogLevel)
    (pieces : LinePieces) (timef : List UInt8) (opens : Bool) :
    ¬ (s.logOutput level pieces timef opens).Stuck := by
  unfold logOutput
  cases queued : s.queues level pieces with
  | false =>
      have same := changeLog_stuck_iff s (logOutput_sameSignals queued timef opens)
      exact fun stuck => moves (same.mp stuck)
  | true =>
      cases s.holdsMutex with
      | true => exact moves
      | false => exact not_stuck_of_awake (notifyOne_awake _)

/-- The one step into a state that nothing ends. -/
theorem writeThreadProc_not_stuck_iff {s : SharedLog} (agrees : s.Agrees) (moves : ¬ s.Stuck)
    (timef : List UInt8) (opens : Bool) :
    ¬ (s.writeThreadProc timef opens).Stuck ↔
      (s.log.place = .queue → s.writer = .deciding → ¬ s.Notified) := by
  unfold writeThreadProc
  cases place : s.log.place with
  | top => simp [not_stuck_of_awake, moveWriter]
  | ended => simp [moves]
  | queue =>
      cases writer : s.writer with
      | locking => simp [not_stuck_of_awake, moveWriter]
      | holding =>
          by_cases empty : s.log.writeWaitingLists = []
          · simp [empty, not_stuck_of_awake, moveWriter]
          · simp [empty, not_stuck_of_awake, moveWriter]
      | emptied =>
          cases s.log.exitFlag with
          | true => simp [not_stuck_of_awake, moveWriter]
          | false => simp [not_stuck_of_awake, moveWriter]
      | deciding =>
          have empty := agrees.found place (.inr writer)
          have late : (s.moveWriter .waiting).Stuck ↔ s.Notified := by
            refine ⟨fun stuck => stuck.notified, fun notified => ?_⟩
            have inside : s.uninit ≠ .outside := by
              obtain joining | returned := notified
              · simp [joining]
              · simp [returned]
            exact ⟨agrees.flagged inside, empty, place, rfl, notified⟩
          simp [late]
      | waiting => simp [moves]

theorem logUninit_not_stuck {s : SharedLog} (moves : ¬ s.Stuck) : ¬ s.logUninit.Stuck := by
  unfold logUninit
  cases uninit : s.uninit with
  | outside =>
      intro stuck
      have notified := stuck.notified
      simp [Notified, moveUninit] at notified
  | flagged => exact not_stuck_of_awake (notifyOne_awake s)
  | joining =>
      by_cases ended : s.log.place = .ended
      · simp only [ended, if_true]
        intro stuck
        have place : s.log.place = .queue := stuck.place
        simp [ended] at place
      · simp only [ended, if_false]
        exact moves
  | returned => exact moves

theorem step_not_stuck_iff (timef : Nat → List UInt8) (s : SharedLog) (action : SharedStep)
    (agrees : s.Agrees) (moves : ¬ s.Stuck) :
    ¬ (s.step timef action).Stuck ↔ s.WaitsInTime action := by
  cases action with
  | logOutput level pieces clock opens =>
      exact iff_of_true (logOutput_not_stuck moves level pieces (timef clock) opens) trivial
  | logOutputBinary text =>
      refine iff_of_true ?_ trivial
      simp only [step, logOutputBinary]
      cases s.holdsMutex with
      | true => exact moves
      | false => exact not_stuck_of_awake (notifyOne_awake _)
  | logSetLevel level =>
      have same := changeLog_stuck_iff s (logSetLevel_sameSignals s.log level)
      exact iff_of_true (fun stuck => moves (same.mp stuck)) trivial
  | writeThreadProc clock opens =>
      exact writeThreadProc_not_stuck_iff agrees moves (timef clock) opens
  | wake => exact iff_of_true (not_stuck_of_awake (notifyOne_awake s)) trivial
  | logUninit => exact iff_of_true (logUninit_not_stuck moves) trivial

/-!
## Runs
-/

/-- No point of a run leaves the write thread asleep for good exactly when it never goes to
sleep behind the notification of `log_uninit`. -/
theorem never_stuck_iff (timef : Nat → List UInt8) (logFileName logId : List UInt8)
    (truncateFlag : Bool) (rollSize : Int) (actions : List SharedStep) :
    (∀ first, first <+: actions →
      ¬ (run (step timef) (init logFileName logId truncateFlag rollSize) first).Stuck) ↔
      Guarded (step timef) WaitsInTime (init logFileName logId truncateFlag rollSize) actions :=
  forall_prefix_iff_guarded Agrees (fun s => ¬ s.Stuck) (step_agrees timef)
    (step_not_stuck_iff timef) (init_agrees logFileName logId truncateFlag rollSize)
    (init_not_stuck logFileName logId truncateFlag rollSize) actions

/-- The flag is set and the notification sent between the test of the flag and the wait. -/
theorem notify_before_wait_sticks :
    (run (step fun _ => []) (init [] [] false 0)
      [.writeThreadProc 0 true, .writeThreadProc 0 true, .writeThreadProc 0 true,
        .writeThreadProc 0 true, .logUninit, .logUninit, .writeThreadProc 0 true]).Stuck := by
  decide

end SharedLog

end Talko.Log
