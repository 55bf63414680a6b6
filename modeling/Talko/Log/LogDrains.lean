import Talko.Library.Simulation
import Talko.Log.LogShutdown

/-!
# What is left at shutdown

Every line that a call of `log_output` has put into the list comes out of it once and in its
order, whatever the threads do in between. The write thread tests the list before it tests
`exit_flag_`: when `log_uninit` returns, what was in the list before the flag was set has been
written.
-/

set_option autoImplicit false

namespace Talko.Log

open Talko.Library

namespace SharedLog

/-- The line that a step adds to the list. -/
def accepts (s : SharedLog) : SharedStep → List (List UInt8)
  | .logOutput level pieces _ _ =>
      if s.queues level pieces ∧ s.holdsMutex = false then
        pieces.message.toList.map (s.log.outLine pieces)
      else []
  | .logOutputBinary text => if s.holdsMutex then [] else [text]
  | .logSetLevel _ | .writeThreadProc _ _ | .wake | .logUninit => []

/-- A step together with what it adds. -/
def perform (timef : Nat → List UInt8) (s : SharedLog) (action : SharedStep) :
    SharedLog × List (List UInt8) :=
  (s.step timef action, s.accepts action)

/-- The lines that a run adds, oldest first. -/
def accepted (timef : Nat → List UInt8) (s : SharedLog) (actions : List SharedStep) :
    List (List UInt8) :=
  (replies (perform timef) s actions).flatten

/-- The lines that have come out of the list, and those that are in it. -/
def passed (s : SharedLog) : List (List UInt8) :=
  s.log.popped ++ s.log.writeWaitingLists

/-- The write thread gets the file that it needs. -/
def Opens (s : SharedLog) : SharedStep → Prop
  | .writeThreadProc _ opens =>
      s.log.place = .top → s.log.logName ≠ [] → s.log.rolls = true → opens = true
  | _ => True

instance (s : SharedLog) (action : SharedStep) : Decidable (s.Opens action) :=
  match action with
  | .writeThreadProc _ opens =>
      inferInstanceAs
        (Decidable (s.log.place = .top → s.log.logName ≠ [] → s.log.rolls = true → opens = true))
  | .logOutput .. | .logOutputBinary _ | .logSetLevel _ | .wake | .logUninit =>
      inferInstanceAs (Decidable True)

/-!
## One step
-/

/-- The lists of two logs. -/
structure SameLists (log after : WhispLog) : Prop where
  popped : after.popped = log.popped
  waiting : after.writeWaitingLists = log.writeWaitingLists

theorem SameLists.passed {log after : WhispLog} (same : SameLists log after) :
    after.popped ++ after.writeWaitingLists = log.popped ++ log.writeWaitingLists := by
  rw [same.popped, same.waiting]

theorem outputFatal_sameLists (log : WhispLog) (line timef : List UInt8) (opens : Bool) :
    SameLists log (log.outputFatal line timef opens) := by
  unfold WhispLog.outputFatal
  split
  · exact ⟨rfl, rfl⟩
  · split
    · exact ⟨rfl, rfl⟩
    · cases opens with
      | true => exact ⟨rfl, rfl⟩
      | false => exact ⟨rfl, rfl⟩

theorem turn_sameLists (log : WhispLog) (timef : List UInt8) (opens : Bool) :
    SameLists log (log.turn timef opens) := by
  unfold WhispLog.turn
  split
  · cases opens with
    | true => exact ⟨rfl, rfl⟩
    | false => exact ⟨rfl, rfl⟩
  · exact ⟨rfl, rfl⟩

/-- The line at the front moves over; the thread ends only at an empty list. -/
theorem take_passed (log : WhispLog) :
    log.take.popped ++ log.take.writeWaitingLists = log.popped ++ log.writeWaitingLists ∧
      log.popped <+: log.take.popped := by
  unfold WhispLog.take
  cases waiting : log.writeWaitingLists with
  | nil =>
      dsimp only
      split
      · exact ⟨rfl, List.prefix_refl _⟩
      · rw [waiting]
        exact ⟨rfl, List.prefix_refl _⟩
  | cons line rest =>
      have moved : log.popped ++ [line] ++ rest = log.popped ++ line :: rest :=
        List.append_assoc _ _ _
      dsimp only
      split
      · exact ⟨moved, List.prefix_append _ _⟩
      · exact ⟨moved, List.prefix_append _ _⟩

private theorem prefix_of_eq {lines after : List (List UInt8)} (same : after = lines) :
    lines <+: after := same ▸ List.prefix_refl _

theorem notifyOne_passed (s : SharedLog) : s.notifyOne.passed = s.passed := by
  rw [passed, notifyOne_log, passed]

/-- The call adds its line, unless it is left at the level, at the format or at the mutex. -/
theorem logOutput_passed (s : SharedLog) (level : LogLevel) (pieces : LinePieces) (clock : Nat)
    (timef : List UInt8) (opens : Bool) :
    (s.logOutput level pieces timef opens).passed =
        s.passed ++ s.accepts (.logOutput level pieces clock opens) ∧
      (s.logOutput level pieces timef opens).log.popped = s.log.popped := by
  unfold logOutput accepts
  dsimp only
  cases queued : s.queues level pieces with
  | true =>
      cases held : s.holdsMutex with
      | true => exact ⟨(List.append_nil _).symm, rfl⟩
      | false =>
          simp only [queues, decide_eq_true_eq] at queued
          obtain ⟨passes, formatted, ordinary⟩ := queued
          obtain ⟨message, text⟩ := Option.isSome_iff_exists.mp formatted
          have adds : s.log.logOutput level pieces timef opens =
              { s.log with writeWaitingLists :=
                  s.log.writeWaitingLists ++ [s.log.outLine pieces message] } := by
            simp [WhispLog.logOutput, passes, text, ordinary]
          simp only [if_true, Bool.false_eq_true, if_false, and_self, text, Option.toList_some,
            List.map_singleton]
          rw [notifyOne_passed, notifyOne_log, adds]
          exact ⟨(List.append_assoc _ _ _).symm, rfl⟩
  | false =>
      simp only [Bool.false_eq_true, if_false, false_and, List.append_nil]
      have same : SameLists s.log (s.log.logOutput level pieces timef opens) := by
        unfold WhispLog.logOutput
        split
        · exact ⟨rfl, rfl⟩
        · rename_i passes
          cases text : pieces.message with
          | none => exact ⟨rfl, rfl⟩
          | some message =>
              have fatal : level = .fatal := by simpa [queues, passes, text] using queued
              simp only [fatal, ne_eq, not_true_eq_false, if_false]
              exact outputFatal_sameLists s.log _ timef opens
      exact ⟨same.passed, same.popped⟩

/-- The write thread takes lines from the front and puts them behind those it has taken. -/
theorem writeThreadProc_passed (s : SharedLog) (timef : List UInt8) (opens : Bool) :
    (s.writeThreadProc timef opens).passed = s.passed ∧
      s.log.popped <+: (s.writeThreadProc timef opens).log.popped := by
  have still : ∀ place, (s.moveWriter place).passed = s.passed ∧
      s.log.popped <+: (s.moveWriter place).log.popped := fun _ => ⟨rfl, List.prefix_refl _⟩
  have takes : ((s.changeLog s.log.take).moveWriter .locking).passed = s.passed ∧
      s.log.popped <+: ((s.changeLog s.log.take).moveWriter .locking).log.popped :=
    take_passed s.log
  unfold writeThreadProc
  cases s.log.place with
  | top =>
      have same := turn_sameLists s.log timef opens
      exact ⟨same.passed, prefix_of_eq same.popped⟩
  | ended => exact ⟨rfl, List.prefix_refl _⟩
  | queue =>
      cases s.writer with
      | locking => exact still .holding
      | holding =>
          dsimp only
          split
          · exact still .emptied
          · exact takes
      | emptied =>
          dsimp only
          split
          · exact takes
          · exact still .deciding
      | deciding => exact still .waiting
      | waiting => exact ⟨rfl, List.prefix_refl _⟩

/-- A step adds its line at the back and takes nothing back that has come out. -/
theorem step_passed (timef : Nat → List UInt8) (s : SharedLog) (action : SharedStep) :
    (s.step timef action).passed = s.passed ++ s.accepts action ∧
      s.log.popped <+: (s.step timef action).log.popped := by
  have still : s.passed = s.passed ++ [] ∧ s.log.popped <+: s.log.popped :=
    ⟨(List.append_nil _).symm, List.prefix_refl _⟩
  cases action with
  | logOutput level pieces clock opens =>
      have added := s.logOutput_passed level pieces clock (timef clock) opens
      exact ⟨added.1, prefix_of_eq added.2⟩
  | logOutputBinary text =>
      simp only [step, logOutputBinary, accepts]
      cases s.holdsMutex with
      | true => exact still
      | false =>
          simp only [Bool.false_eq_true, if_false]
          rw [notifyOne_passed, notifyOne_log]
          exact ⟨(List.append_assoc _ _ _).symm, List.prefix_refl _⟩
  | logSetLevel level =>
      have same : SameLists s.log (s.log.logSetLevel level) := by
        unfold WhispLog.logSetLevel
        split <;> exact ⟨rfl, rfl⟩
      refine ⟨?_, prefix_of_eq same.popped⟩
      exact same.passed.trans still.1
  | writeThreadProc clock opens =>
      have moved := s.writeThreadProc_passed (timef clock) opens
      exact ⟨moved.1.trans still.1, moved.2⟩
  | wake =>
      refine ⟨(notifyOne_passed s).trans still.1, ?_⟩
      exact prefix_of_eq (congrArg WhispLog.popped (notifyOne_log s))
  | logUninit =>
      simp only [step, logUninit, accepts]
      cases s.uninit with
      | outside => exact still
      | flagged =>
          change s.notifyOne.passed = _ ∧ s.log.popped <+: s.notifyOne.log.popped
          rw [notifyOne_passed, notifyOne_log]
          exact still
      | joining =>
          dsimp only
          split
          · exact still
          · exact still
      | returned => exact still

theorem run_passed (timef : Nat → List UInt8) (s : SharedLog) (actions : List SharedStep) :
    (run (step timef) s actions).passed = s.passed ++ accepted timef s actions := by
  induction actions generalizing s with
  | nil => exact (List.append_nil _).symm
  | cons action rest ih =>
      rw [run_cons, ih, (step_passed timef s action).1, List.append_assoc]
      rfl

/-!
## The end of the write thread
-/

/-- What holds from the point on at which `target` was in the list or had come out of it: a
write thread that is done has taken it out, and `log_uninit` returns only then. -/
structure Draining (target : List (List UInt8)) (s : SharedLog) : Prop extends Agrees s where
  flag : s.log.place = .ended → s.log.exitFlag = true
  joined : s.uninit = .returned → s.log.place = .ended
  reached : target <+: s.passed
  done : s.log.place = .ended → target <+: s.log.popped

theorem logOutput_sameEnd (s : SharedLog) (level : LogLevel) (pieces : LinePieces)
    (timef : List UInt8) (opens : Bool) :
    (s.logOutput level pieces timef opens).log.place = s.log.place ∧
      (s.logOutput level pieces timef opens).log.exitFlag = s.log.exitFlag ∧
      (s.logOutput level pieces timef opens).uninit = s.uninit := by
  unfold logOutput
  cases queued : s.queues level pieces with
  | false =>
      have same := logOutput_sameSignals queued timef opens
      exact ⟨same.place, same.exitFlag, rfl⟩
  | true =>
      cases s.holdsMutex with
      | true => exact ⟨rfl, rfl, rfl⟩
      | false =>
          obtain ⟨line, adds⟩ := logOutput_adds queued timef opens
          simp only [if_true, Bool.false_eq_true, if_false]
          rw [notifyOne_log, notifyOne_uninit, adds]
          exact ⟨rfl, rfl, rfl⟩

/-- The write thread ends with the flag set and nothing left in the list. -/
theorem writeThreadProc_ended {s : SharedLog} (agrees : s.Agrees) {timef : List UInt8}
    {opens : Bool} (opened : s.log.place = .top → s.log.logName ≠ [] → s.log.rolls = true →
      opens = true)
    (running : s.log.place ≠ .ended)
    (ended : (s.writeThreadProc timef opens).log.place = .ended) :
    s.log.exitFlag = true ∧ (s.writeThreadProc timef opens).log.writeWaitingLists = [] := by
  unfold writeThreadProc at ended ⊢
  cases place : s.log.place with
  | ended => exact absurd place running
  | top =>
      rw [place] at ended
      change (s.log.turn timef opens).place = .ended at ended
      unfold WhispLog.turn at ended
      split at ended
      · next due =>
          rw [opened place due.1 due.2] at ended
          cases ended
      · cases ended
  | queue =>
      rw [place] at ended
      cases writer : s.writer with
      | locking => rw [writer] at ended; exact absurd (place.symm.trans ended) nofun
      | holding =>
          simp only [writer] at ended ⊢
          split at ended
          · exact absurd (place.symm.trans ended) nofun
          · next filled =>
              obtain ⟨line, rest, waiting⟩ := List.exists_cons_of_ne_nil filled
              change s.log.take.place = .ended at ended
              unfold WhispLog.take at ended
              rw [waiting] at ended
              dsimp only at ended
              split at ended
              · cases ended
              · cases ended
      | emptied =>
          have empty := agrees.found place (.inl writer)
          simp only [writer] at ended ⊢
          split at ended
          · next flag =>
              rw [if_pos flag]
              refine ⟨flag, ?_⟩
              change s.log.take.writeWaitingLists = []
              unfold WhispLog.take
              rw [empty]
              dsimp only
              rw [if_pos flag]
          · exact absurd (place.symm.trans ended) nofun
      | deciding => rw [writer] at ended; exact absurd (place.symm.trans ended) nofun
      | waiting => rw [writer] at ended; exact absurd (place.symm.trans ended) nofun

/-- A step that leaves the place of the write thread, the flag and `log_uninit` as they are. -/
theorem Draining.of_same {target : List (List UInt8)} {s after : SharedLog}
    (draining : s.Draining target) (agrees : after.Agrees)
    (place : after.log.place = s.log.place) (exitFlag : after.log.exitFlag = s.log.exitFlag)
    (uninit : after.uninit = s.uninit) (reached : target <+: after.passed)
    (popped : s.log.popped <+: after.log.popped) : after.Draining target where
  toAgrees := agrees
  flag ended := exitFlag.trans (draining.flag (place.symm.trans ended))
  joined returned := place.trans (draining.joined (uninit.symm.trans returned))
  reached := reached
  done ended := (draining.done (place.symm.trans ended)).trans popped

theorem writeThreadProc_uninit (s : SharedLog) (timef : List UInt8) (opens : Bool) :
    (s.writeThreadProc timef opens).uninit = s.uninit := by
  unfold writeThreadProc
  cases s.log.place with
  | top => rfl
  | ended => rfl
  | queue =>
      cases s.writer with
      | holding => dsimp only; split <;> rfl
      | emptied => dsimp only; split <;> rfl
      | _ => rfl

theorem writeThreadProc_exitFlag (s : SharedLog) (timef : List UInt8) (opens : Bool) :
    (s.writeThreadProc timef opens).log.exitFlag = s.log.exitFlag := by
  unfold writeThreadProc
  cases s.log.place with
  | top => exact turn_exitFlag s.log timef opens
  | ended => rfl
  | queue =>
      cases s.writer with
      | holding =>
          dsimp only
          split
          · rfl
          · exact take_exitFlag s.log
      | emptied =>
          dsimp only
          split
          · exact take_exitFlag s.log
          · rfl
      | _ => rfl

theorem writeThreadProc_of_ended {s : SharedLog} (ended : s.log.place = .ended)
    (timef : List UInt8) (opens : Bool) : s.writeThreadProc timef opens = s := by
  unfold writeThreadProc
  rw [ended]

theorem Draining.writeThreadProc {target : List (List UInt8)} {s : SharedLog}
    (draining : s.Draining target) {timef : List UInt8} {opens : Bool}
    (opened : s.log.place = .top → s.log.logName ≠ [] → s.log.rolls = true → opens = true) :
    (s.writeThreadProc timef opens).Draining target := by
  by_cases finished : s.log.place = .ended
  · rw [writeThreadProc_of_ended finished]
    exact draining
  · have agrees := writeThreadProc_agrees draining.toAgrees timef opens
    have reached : target <+: (s.writeThreadProc timef opens).passed := by
      rw [(writeThreadProc_passed s timef opens).1]
      exact draining.reached
    refine ⟨agrees, ?_, ?_, reached, ?_⟩
    · intro ended
      rw [writeThreadProc_exitFlag]
      exact (writeThreadProc_ended draining.toAgrees opened finished ended).1
    · intro returned
      have before := (writeThreadProc_uninit s timef opens).symm.trans returned
      exact absurd (draining.joined before) finished
    · intro ended
      rw [passed, (writeThreadProc_ended draining.toAgrees opened finished ended).2,
        List.append_nil] at reached
      exact reached

theorem Draining.logUninit {target : List (List UInt8)} {s : SharedLog}
    (draining : s.Draining target) : s.logUninit.Draining target := by
  have agrees := logUninit_agrees draining.toAgrees
  unfold SharedLog.logUninit at agrees ⊢
  cases uninit : s.uninit with
  | outside =>
      rw [uninit] at agrees
      exact ⟨agrees, fun _ => rfl, nofun, draining.reached, draining.done⟩
  | flagged =>
      rw [uninit] at agrees
      refine ⟨agrees, ?_, nofun, ?_, ?_⟩
      · change s.notifyOne.log.place = .ended → s.notifyOne.log.exitFlag = true
        rw [notifyOne_log]
        exact draining.flag
      · change target <+: s.notifyOne.passed
        rw [notifyOne_passed]
        exact draining.reached
      · change s.notifyOne.log.place = .ended → target <+: s.notifyOne.log.popped
        rw [notifyOne_log]
        exact draining.done
  | joining =>
      rw [uninit] at agrees
      dsimp only at agrees ⊢
      split
      · next ended =>
          rw [if_pos ended] at agrees
          exact ⟨agrees, draining.flag, fun _ => ended, draining.reached, draining.done⟩
      · exact draining
  | returned => exact draining

theorem step_draining (timef : Nat → List UInt8) {target : List (List UInt8)} {s : SharedLog}
    (draining : s.Draining target) {action : SharedStep} (opens : s.Opens action) :
    (s.step timef action).Draining target := by
  have agrees := step_agrees timef s action draining.toAgrees
  obtain ⟨added, popped⟩ := step_passed timef s action
  have reached : target <+: (s.step timef action).passed := by
    rw [added]
    exact draining.reached.trans (List.prefix_append _ _)
  cases action with
  | logOutput level pieces clock opens' =>
      obtain ⟨place, exitFlag, uninit⟩ := s.logOutput_sameEnd level pieces (timef clock) opens'
      exact draining.of_same agrees place exitFlag uninit reached popped
  | logOutputBinary text =>
      simp only [step, logOutputBinary] at agrees reached popped ⊢
      cases held : s.holdsMutex with
      | true => exact draining
      | false =>
          simp only [held, Bool.false_eq_true, if_false] at agrees reached popped ⊢
          refine draining.of_same agrees ?_ ?_ ?_ reached popped
          · rw [notifyOne_log]
            rfl
          · rw [notifyOne_log]
            rfl
          · rw [notifyOne_uninit]
            rfl
  | logSetLevel level =>
      have same := logSetLevel_sameSignals s.log level
      exact draining.of_same agrees same.place same.exitFlag rfl reached popped
  | writeThreadProc clock opens' => exact draining.writeThreadProc opens
  | wake =>
      refine draining.of_same agrees ?_ ?_ s.notifyOne_uninit reached popped
      · exact congrArg WhispLog.place s.notifyOne_log
      · exact congrArg WhispLog.exitFlag s.notifyOne_log
  | logUninit => exact draining.logUninit

/-- In every run the lines that have come out of the list and those that are in it are the lines
that were added, once and in their order. When every file can be made, the lines that were added
before `log_uninit` set the flag have come out, and so are in the files or on the console, by the
time it returns. -/
theorem shutdown_drains (timef : Nat → List UInt8) (logFileName logId : List UInt8)
    (truncateFlag : Bool) (rollSize : Int) (before after : List SharedStep) :
    let start := init logFileName logId truncateFlag rollSize
    let final := run (step timef) start (before ++ after)
    final.log.popped ++ final.log.writeWaitingLists =
        accepted timef start (before ++ after) ∧
      (Guarded (step timef) Opens start (before ++ after) →
        (run (step timef) start before).log.exitFlag = false → final.uninit = .returned →
          accepted timef start before <+: final.log.popped) := by
  intro start final
  refine ⟨run_passed timef start (before ++ after), fun opens unset returned => ?_⟩
  obtain ⟨first, second⟩ := guarded_append.mp opens
  have begun : start.Draining [] := by
    refine ⟨init_agrees logFileName logId truncateFlag rollSize, nofun, nofun, ?_, nofun⟩
    exact List.nil_prefix
  have reached : (run (step timef) start before).Draining [] :=
    run_invariant (Draining []) (fun _ _ draining opens => step_draining timef draining opens)
      begun first
  have running : (run (step timef) start before).log.place ≠ .ended := by
    intro ended
    exact absurd (unset.symm.trans (reached.flag ended)) nofun
  have middle : (run (step timef) start before).Draining (accepted timef start before) := by
    refine ⟨reached.toAgrees, reached.flag, reached.joined, ?_, fun ended => absurd ended running⟩
    rw [run_passed]
    exact List.prefix_refl _
  have drained : final.Draining (accepted timef start before) := by
    change (run (step timef) start (before ++ after)).Draining _
    rw [run_append]
    exact run_invariant (Draining (accepted timef start before))
      (fun _ _ draining opens => step_draining timef draining opens) middle second
  exact drained.done (drained.joined returned)

private def oneLineLogged : List SharedStep :=
  [.logOutput .info ⟨asciiText "[INFO]", some (asciiText "[main.cpp:7]"), some (asciiText "up")⟩
    0 true]

private def shutDown : List SharedStep :=
  [.writeThreadProc 0 true, .logUninit, .logUninit, .writeThreadProc 0 true,
    .writeThreadProc 0 true, .writeThreadProc 0 true, .writeThreadProc 0 true,
    .writeThreadProc 0 true, .writeThreadProc 0 true, .logUninit]

/-- The write thread finds the line when the flag is set already. -/
theorem logged_before_shutdown_written :
    accepted (fun _ => []) (init [] [] false 0) oneLineLogged <+:
      (run (step fun _ => []) (init [] [] false 0) (oneLineLogged ++ shutDown)).log.popped :=
  (shutdown_drains (fun _ => []) [] [] false 0 oneLineLogged shutDown).2 (by decide) rfl
    (by decide)

end SharedLog

end Talko.Log
