import Mathlib.Data.List.Flatten
import Talko.Log.WhispLog

/-!
# Log rolling

The lines that the write thread has popped are all in the files of the process, once and in
their order, exactly as long as no file is created under the name of an earlier one.
-/

set_option autoImplicit false

namespace Talko.Log

open Talko.Library

theorem length_filter_lines_le (files : List LogFile) (name : List UInt8) :
    ((files.filter (·.name ≠ name)).flatMap (·.lines)).length ≤
      (files.flatMap (·.lines)).length :=
  (List.filter_sublist.flatMap _).length_le

/-- Taking out the files of one name loses nothing exactly when there is none. -/
theorem filter_lines_eq_iff {files : List LogFile} (filled : ∀ file ∈ files, file.lines ≠ [])
    (name : List UInt8) :
    (files.filter (·.name ≠ name)).flatMap (·.lines) = files.flatMap (·.lines) ↔
      ∀ file ∈ files, file.name ≠ name := by
  constructor
  · intro same file member used
    obtain ⟨before, behind, rfl⟩ := List.append_of_mem member
    have early := length_filter_lines_le before name
    have late := length_filter_lines_le behind name
    have lines := List.length_pos_of_ne_nil (filled file member)
    have lengths := congrArg List.length same
    simp only [List.filter_append, List.filter_cons, used, ne_eq, not_true_eq_false, decide_false,
      Bool.false_eq_true, if_false, List.flatMap_append, List.flatMap_cons,
      List.length_append] at lengths early late
    omega
  · intro fresh
    rw [List.filter_eq_self.mpr]
    simpa using fresh

theorem created_lines (files : List LogFile) (name : List UInt8) :
    (files ++ [({ name, lines := [] } : LogFile)]).flatMap (·.lines) =
      files.flatMap (·.lines) := by
  simp

theorem written_lines (closed : List LogFile) (file : LogFile) (line : List UInt8) :
    (closed ++ [{ file with lines := file.lines ++ [line] }]).flatMap LogFile.lines =
      (closed ++ [file]).flatMap LogFile.lines ++ [line] := by
  simp

namespace WhispLog

def files (log : WhispLog) : List LogFile :=
  log.closedFiles ++ log.logFile.toList

/-- The lines popped are those in the files, in this order. -/
def Kept (log : WhispLog) : Prop :=
  log.files.flatMap (·.lines) = log.popped

instance (log : WhispLog) : Decidable log.Kept :=
  inferInstanceAs (Decidable (log.files.flatMap (·.lines) = log.popped))

/-- File logging is on; no file is left before a line is written to it, and the write thread
has a file when it waits for a line. -/
structure Writing (log : WhispLog) : Prop where
  enabled : log.logName ≠ []
  closed : ∀ file ∈ log.closedFiles, file.lines ≠ []
  atTop : log.place = .top → ∀ file ∈ log.logFile, file.lines ≠ []
  atQueue : log.place = .queue → log.logFile ≠ none

/-- A file that is created has a name of its own. -/
def NewName (timef : Nat → List UInt8) (log : WhispLog) : LogStep → Prop
  | .advance clock opens =>
      log.place = .top → log.rolls = true → opens = true →
        ∀ file ∈ log.files, file.name ≠ log.newLogFile (timef clock)
  | _ => True

instance decidableNewName (timef : Nat → List UInt8) (log : WhispLog) :
    ∀ action, Decidable (NewName timef log action)
  | .logOutput .. => isTrue trivial
  | .logOutputBinary _ => isTrue trivial
  | .logSetLevel _ => isTrue trivial
  | .exit => isTrue trivial
  | .advance clock opens =>
      inferInstanceAs (Decidable (log.place = .top → log.rolls = true → opens = true →
        ∀ file ∈ log.files, file.name ≠ log.newLogFile (timef clock)))

theorem logInit_writing {logName : List UInt8} (enabled : logName ≠ []) (logId : List UInt8)
    (truncateFlag : Bool) (rollSize : Int) :
    (logInit logName logId truncateFlag rollSize).Writing :=
  ⟨enabled, nofun, fun _ => nofun, nofun⟩

theorem logInit_kept (logName logId : List UInt8) (truncateFlag : Bool) (rollSize : Int) :
    (logInit logName logId truncateFlag rollSize).Kept := rfl

theorem logOutput_queues (log : WhispLog) {level : LogLevel} (queued : level ≠ .fatal)
    (pieces : LinePieces) (timef : List UInt8) (opens : Bool) :
    ∃ lines, log.logOutput level pieces timef opens =
      { log with writeWaitingLists := log.writeWaitingLists ++ lines } := by
  have unchanged : log = { log with writeWaitingLists := log.writeWaitingLists ++ [] } := by
    rw [List.append_nil]
  unfold logOutput
  split
  · exact ⟨[], unchanged⟩
  · cases pieces.message with
    | none => exact ⟨[], unchanged⟩
    | some message =>
        exact ⟨[log.outLine pieces message], rfl⟩

theorem turn_of_rolls {log : WhispLog} (enabled : log.logName ≠ []) (due : log.rolls = true)
    (timef : List UInt8) (opens : Bool) :
    log.turn timef opens =
      { ({ log with writenSize := 0 }).createFile (log.newLogFile timef) opens with
        place := if opens then .queue else .ended } := by
  unfold turn
  rw [if_pos ⟨enabled, due⟩]

theorem turn_of_not_rolls {log : WhispLog} (full : log.rolls = false) (timef : List UInt8)
    (opens : Bool) : log.turn timef opens = { log with place := .queue } := by
  unfold turn
  rw [if_neg (by simp [full])]

theorem logFile_of_not_rolls {log : WhispLog} (full : log.rolls = false) : log.logFile ≠ none := by
  intro missing
  simp [rolls, missing] at full

theorem Writing.filled {log : WhispLog} (writing : log.Writing) (place : log.place = .top) :
    ∀ file ∈ log.files, file.lines ≠ [] := by
  intro file member
  rcases List.mem_append.mp member with closed | current
  · exact writing.closed file closed
  · exact writing.atTop place file (Option.mem_toList.mp current)

theorem turn_writing {log : WhispLog} (writing : log.Writing) (place : log.place = .top)
    (timef : List UInt8) (opens : Bool) : (log.turn timef opens).Writing := by
  have filled := writing.filled place
  cases due : log.rolls with
  | false =>
      rw [turn_of_not_rolls due]
      exact ⟨writing.enabled, writing.closed, nofun, fun _ => logFile_of_not_rolls due⟩
  | true =>
      rw [turn_of_rolls writing.enabled due]
      cases opens with
      | true =>
          refine ⟨writing.enabled, fun file member => ?_, nofun, nofun⟩
          exact filled file (List.mem_of_mem_filter member)
      | false => exact ⟨writing.enabled, filled, nofun, nofun⟩

theorem take_of_cons {log : WhispLog} (enabled : log.logName ≠ []) {file : LogFile}
    (current : log.logFile = some file) {line : List UInt8} {rest : List (List UInt8)}
    (waiting : log.writeWaitingLists = line :: rest) :
    log.take =
      { log with
        writeWaitingLists := rest
        popped := log.popped ++ [line]
        place := .top
        logFile := some { file with lines := file.lines ++ [line] }
        writenSize := (log.writenSize + line.length) % 2 ^ 64 } := by
  unfold take
  rw [waiting]
  dsimp only
  rw [if_neg enabled]
  simp [write2file, current]

theorem take_writing {log : WhispLog} (writing : log.Writing)
    (place : log.place = .queue) : log.take.Writing := by
  cases waiting : log.writeWaitingLists with
  | nil =>
      unfold take
      rw [waiting]
      dsimp only
      split
      · exact ⟨writing.enabled, writing.closed, nofun, nofun⟩
      · exact writing
  | cons line rest =>
      obtain ⟨file, current⟩ := Option.ne_none_iff_exists'.mp (writing.atQueue place)
      rw [take_of_cons writing.enabled current waiting]
      refine ⟨writing.enabled, writing.closed, fun _ file' same => ?_, nofun⟩
      cases same
      simp

theorem step_writing (timef : Nat → List UInt8) (log : WhispLog) (action : LogStep)
    (writing : log.Writing) : (log.step timef action).Writing := by
  cases action with
  | logOutput level queued pieces clock opens =>
      obtain ⟨lines, same⟩ := log.logOutput_queues queued pieces (timef clock) opens
      change (log.logOutput level pieces (timef clock) opens).Writing
      rw [same]
      exact ⟨writing.enabled, writing.closed, writing.atTop, writing.atQueue⟩
  | logOutputBinary text =>
      exact ⟨writing.enabled, writing.closed, writing.atTop, writing.atQueue⟩
  | logSetLevel level =>
      change (log.logSetLevel level).Writing
      unfold logSetLevel
      split
      · exact writing
      · exact ⟨writing.enabled, writing.closed, writing.atTop, writing.atQueue⟩
  | exit => exact ⟨writing.enabled, writing.closed, writing.atTop, writing.atQueue⟩
  | advance clock opens =>
      change (log.advance (timef clock) opens).Writing
      unfold advance
      cases place : log.place with
      | top => exact turn_writing writing place (timef clock) opens
      | queue => exact take_writing writing place
      | ended => exact writing

/-- At the top of the loop the lines stay exactly when no file of the new name is there. -/
theorem turn_kept_iff {log : WhispLog} (writing : log.Writing) (kept : log.Kept)
    (place : log.place = .top) (timef : List UInt8) (opens : Bool) :
    (log.turn timef opens).Kept ↔
      (log.rolls = true → opens = true → ∀ file ∈ log.files, file.name ≠ log.newLogFile timef) := by
  cases due : log.rolls with
  | false =>
      rw [turn_of_not_rolls due]
      exact iff_of_true kept nofun
  | true =>
      rw [turn_of_rolls writing.enabled due]
      cases opens with
      | false =>
          refine iff_of_true ?_ (fun _ => nofun)
          change (log.files ++ []).flatMap LogFile.lines = log.popped
          rw [List.append_nil]
          exact kept
      | true =>
          unfold Kept
          refine (Eq.congr (created_lines _ _) kept.symm).trans ?_
          refine (filter_lines_eq_iff (writing.filled place) (log.newLogFile timef)).trans ?_
          exact ⟨fun fresh _ _ => fresh, fun fresh => fresh rfl rfl⟩

/-- The line that is popped goes to the end of the file. -/
theorem take_kept {log : WhispLog} (writing : log.Writing) (kept : log.Kept)
    (place : log.place = .queue) : log.take.Kept := by
  cases waiting : log.writeWaitingLists with
  | nil =>
      unfold take
      rw [waiting]
      dsimp only
      split
      · exact kept
      · exact kept
  | cons line rest =>
      obtain ⟨file, current⟩ := Option.ne_none_iff_exists'.mp (writing.atQueue place)
      have before : (log.closedFiles ++ [file]).flatMap LogFile.lines = log.popped := by
        rw [← kept, files, current]
        rfl
      rw [take_of_cons writing.enabled current waiting]
      refine (written_lines log.closedFiles file line).trans ?_
      rw [before]

/-- A step keeps the lines exactly when a file that it creates has a name of its own. -/
theorem step_kept_iff (timef : Nat → List UInt8) (log : WhispLog) (action : LogStep)
    (writing : log.Writing) (kept : log.Kept) :
    (log.step timef action).Kept ↔ NewName timef log action := by
  cases action with
  | logOutput level queued pieces clock opens =>
      obtain ⟨lines, same⟩ := log.logOutput_queues queued pieces (timef clock) opens
      refine iff_of_true ?_ trivial
      change (log.logOutput level pieces (timef clock) opens).Kept
      rw [same]
      exact kept
  | logOutputBinary text => exact iff_of_true kept trivial
  | logSetLevel level =>
      refine iff_of_true ?_ trivial
      change (log.logSetLevel level).Kept
      unfold logSetLevel
      split
      · exact kept
      · exact kept
  | exit => exact iff_of_true kept trivial
  | advance clock opens =>
      change (log.advance (timef clock) opens).Kept ↔ _
      unfold advance NewName
      cases place : log.place with
      | ended => exact iff_of_true kept nofun
      | queue => exact iff_of_true (take_kept writing kept place) nofun
      | top =>
          refine (turn_kept_iff writing kept place (timef clock) opens).trans ?_
          exact ⟨fun fresh _ => fresh, fun fresh => fresh rfl⟩

/-- In every run the lines popped stay in the files, once and in their order, exactly when
every file is created under a name that no earlier file has. -/
theorem lines_survive_iff (timef : Nat → List UInt8) {logName : List UInt8}
    (enabled : logName ≠ []) (logId : List UInt8) (truncateFlag : Bool) (rollSize : Int)
    (actions : List LogStep) :
    (∀ first, first <+: actions →
      (run (step timef) (logInit logName logId truncateFlag rollSize) first).Kept) ↔
        Guarded (step timef) (NewName timef) (logInit logName logId truncateFlag rollSize)
          actions :=
  forall_prefix_iff_guarded Writing Kept (step_writing timef)
    (fun log action writing kept => step_kept_iff timef log action writing kept)
    (logInit_writing enabled logId truncateFlag rollSize)
    (logInit_kept logName logId truncateFlag rollSize) actions

/-- What `strftime` writes for the seconds of the first minute. -/
def firstMinute (clock : Nat) : List UInt8 :=
  decimalText (19700101000000 + clock)

def oneLine : LinePieces where
  prefixStr := asciiText "[INFO]"
  fileInfo := some (asciiText "[main.cpp:7]")
  message := some (asciiText "started")

/-- A file that is full after one line is followed by one of the next second. -/
theorem roll_in_next_second_keeps :
    asciiText "talko" ≠ [] ∧
      ∀ first,
        first <+: [.logOutput .info nofun oneLine 0 true, .advance 0 true, .advance 0 true,
          .advance 1 true] →
          (run (step firstMinute) (logInit (asciiText "talko") (asciiText "00042") false 1)
            first).Kept :=
  ⟨by decide,
    (lines_survive_iff firstMinute (by decide) (asciiText "00042") false 1 _).mpr (by decide +kernel)⟩

/-- A file that is full within the second it was made in is emptied for its successor. -/
theorem roll_in_same_second_loses :
    ¬ (run (step firstMinute) (logInit (asciiText "talko") (asciiText "00042") false 1)
        [.logOutput .info nofun oneLine 0 true, .advance 0 true, .advance 0 true,
          .advance 0 true]).Kept := by
  decide +kernel

end WhispLog

end Talko.Log
