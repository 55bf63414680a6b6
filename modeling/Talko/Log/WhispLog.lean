import Talko.Library.Decimal
import Talko.Library.Run

/-!
# The log

`WhispLog` with its queue of lines, the thread that writes them and the files it makes. The
callers of `log_output` and the write thread share the queue under `write_mutex_`; the pop of
a line and its write are one step under it. The texts that `strftime`, `vsnprintf`,
`set_line_perfix` and `form_log` make are arguments.
-/

set_option autoImplicit false

namespace Talko.Log

open Talko.Library

inductive LogLevel where
  | trace
  | debug
  | info
  | warning
  | error
  | syserror
  | fatal
  | critical
  deriving DecidableEq, Repr

/-- The number of a level in its enumeration. -/
def LogLevel.value : LogLevel → Nat
  | .trace => 0
  | .debug => 1
  | .info => 2
  | .warning => 3
  | .error => 4
  | .syserror => 5
  | .fatal => 6
  | .critical => 7

def MAX_LOG_LINE_LENGTH : Nat := 256

/-- A file that the process has created, with the lines it holds. -/
structure LogFile where
  name : List UInt8
  lines : List (List UInt8)
  deriving DecidableEq, Repr

/-- Where the write thread stands: at the top of its loop, at the queue, or behind the
`return`. -/
inductive WriterPlace where
  | top
  | queue
  | ended
  deriving DecidableEq, Repr

/-- The log with the files that were closed, oldest first, and the lines popped so far. -/
structure WhispLog where
  logName : List UInt8
  logId : List UInt8
  truncateFlag : Bool
  curLevel : LogLevel
  rollSize : Nat
  writenSize : Nat
  writeWaitingLists : List (List UInt8)
  exitFlag : Bool
  logFile : Option LogFile
  closedFiles : List LogFile
  popped : List (List UInt8)
  place : WriterPlace
  deriving DecidableEq, Repr

/-- The pieces of one line: the prefix of `set_line_perfix`, the place in the source, which one
of the two overloads of `log_output` is not told, and the text of `vsnprintf`, none when that
reports an error. -/
structure LinePieces where
  prefixStr : List UInt8
  fileInfo : Option (List UInt8)
  message : Option (List UInt8)
  deriving DecidableEq, Repr

namespace WhispLog

def logInit (logFileName logId : List UInt8) (truncateFlag : Bool) (rollSize : Int) :
    WhispLog where
  logName := logFileName
  logId := logId
  truncateFlag := truncateFlag
  curLevel := .info
  rollSize := (UInt64.ofInt rollSize).toNat
  writenSize := 0
  writeWaitingLists := []
  exitFlag := false
  logFile := none
  closedFiles := []
  popped := []
  place := .top

def logSetLevel (log : WhispLog) (level : LogLevel) : WhispLog :=
  if level.value > LogLevel.fatal.value then log else { log with curLevel := level }

/-!
## Files
-/

def newLogFile (log : WhispLog) (timef : List UInt8) : List UInt8 :=
  log.logName ++ asciiText "." ++ timef ++ asciiText "." ++ log.logId ++ asciiText ".log"

/-- `create_file`. The mode `w+` empties a file of that name. -/
def createFile (log : WhispLog) (name : List UInt8) (opens : Bool) : WhispLog :=
  let closed := log.closedFiles ++ log.logFile.toList
  if opens then
    { log with
      closedFiles := closed.filter (·.name ≠ name)
      logFile := some ⟨name, []⟩ }
  else { log with closedFiles := closed, logFile := none }

def write2file (log : WhispLog) (line : List UInt8) : WhispLog :=
  { log with logFile := log.logFile.map fun file => { file with lines := file.lines ++ [line] } }

/-!
## `log_output`
-/

def truncateLine (log : WhispLog) (text : List UInt8) : List UInt8 :=
  if log.truncateFlag then text.take MAX_LOG_LINE_LENGTH else text

/-- The line of one call. The overload without a place cuts the prefix off with the text. -/
def outLine (log : WhispLog) (pieces : LinePieces) (message : List UInt8) : List UInt8 :=
  let logMsg := message ++ [0]
  let line :=
    match pieces.fileInfo with
    | none => log.truncateLine (pieces.prefixStr ++ logMsg)
    | some fileInfo => pieces.prefixStr ++ fileInfo.take 511 ++ log.truncateLine logMsg
  if log.logName = [] then line else line ++ asciiText "\n"

/-- The branch for `LOG_LEVEL_FATAL`, which writes at once. -/
def outputFatal (log : WhispLog) (line timef : List UInt8) (opens : Bool) : WhispLog :=
  if log.logName = [] then log
  else
    match log.logFile with
    | some _ => log.write2file line
    | none =>
        if opens then (log.createFile (log.newLogFile timef) opens).write2file line
        else log.createFile (log.newLogFile timef) opens

def logOutput (log : WhispLog) (level : LogLevel) (pieces : LinePieces) (timef : List UInt8)
    (opens : Bool) : WhispLog :=
  if level.value < log.curLevel.value ∧ level ≠ .critical then log
  else
    match pieces.message with
    | none => log
    | some message =>
        let line := log.outLine pieces message
        if level ≠ .fatal then
          { log with writeWaitingLists := log.writeWaitingLists ++ [line] }
        else log.outputFatal line timef opens

def logOutputBinary (log : WhispLog) (text : List UInt8) : WhispLog :=
  { log with writeWaitingLists := log.writeWaitingLists ++ [text] }

/-!
## The write thread
-/

/-- A new file is due: the first one, or one behind a file that is full. -/
def rolls (log : WhispLog) : Bool :=
  log.logFile.isNone || log.writenSize ≥ log.rollSize

/-- The top of the loop of `write_thread_proc`. -/
def turn (log : WhispLog) (timef : List UInt8) (opens : Bool) : WhispLog :=
  if log.logName ≠ [] ∧ log.rolls then
    { ({ log with writenSize := 0 }).createFile (log.newLogFile timef) opens with
      place := if opens then .queue else .ended }
  else { log with place := .queue }

/-- The rest of the loop, from the wait for a line on. -/
def take (log : WhispLog) : WhispLog :=
  match log.writeWaitingLists with
  | [] => if log.exitFlag then { log with place := .ended } else log
  | line :: rest =>
      let taken :=
        { log with
          writeWaitingLists := rest
          popped := log.popped ++ [line]
          place := .top }
      if log.logName = [] then taken
      else
        { taken.write2file line with writenSize := (log.writenSize + line.length) % 2 ^ 64 }

/-- The next step of the write thread, which reads the clock at the top of its loop. -/
def advance (log : WhispLog) (timef : List UInt8) (opens : Bool) : WhispLog :=
  match log.place with
  | .top => log.turn timef opens
  | .queue => log.take
  | .ended => log

end WhispLog

/-- A step of the process that logs nothing at `LOG_LEVEL_FATAL`. -/
inductive LogStep where
  | logOutput (level : LogLevel) (queued : level ≠ .fatal) (pieces : LinePieces) (clock : Nat)
      (opens : Bool)
  | logOutputBinary (text : List UInt8)
  | logSetLevel (level : LogLevel)
  | exit
  | advance (clock : Nat) (opens : Bool)

/-- The names of files depend on the clock by way of `strftime`. -/
def WhispLog.step (timef : Nat → List UInt8) (log : WhispLog) : LogStep → WhispLog
  | .logOutput level _ pieces clock opens => log.logOutput level pieces (timef clock) opens
  | .logOutputBinary text => log.logOutputBinary text
  | .logSetLevel level => log.logSetLevel level
  | .exit => { log with exitFlag := true }
  | .advance clock opens => log.advance (timef clock) opens

end Talko.Log
