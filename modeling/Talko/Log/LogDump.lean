import Talko.Library.CharBuffer
import Talko.Library.Hex
import Talko.Log.WhispLog

/-!
# Binary dumps

`log_output_binary` prints a buffer in chunks of 512 bytes. `form_log` prints a chunk into a
`char` array of a fixed size, in lines of 32 bytes with a number in front and a gap in the
middle; the number runs on from chunk to chunk.
-/

set_option autoImplicit false

namespace Talko.Log

open Talko.Library

def newline : UInt8 := asciiCode '\n'

def space : UInt8 := asciiCode ' '

/-- `ull2str`, which prints its `int` with `%06u`. -/
def ull2str (n : Nat) : List UInt8 :=
  paddedText 6 (n % 2 ^ 32)

/-- `magic_num`. -/
def magicNum (half : UInt8) : UInt8 :=
  hexDigit half.toNat

/-- The variables of `form_log`, with the counter of the lines that it shares with its caller. -/
structure FormLog where
  index : Nat
  buf : List UInt8
  len : Nat
  lsize : Nat
  headLen : Nat
  deriving DecidableEq, Repr

namespace FormLog

/-- `buf[len++] = byte`. -/
def put (form : FormLog) (byte : UInt8) : Option FormLog :=
  (writeAt form.buf form.len byte).map fun buf =>
    { form with buf := buf, len := form.len + 1 }

def putNewline (form : FormLog) : Option FormLog :=
  if form.headLen ≠ 0 then form.put newline else some form

/-- The number of the line, which is appended by `strcat`. -/
def putHead (form : FormLog) : Option FormLog :=
  let headBuf := ull2str form.index ++ [space]
  (strcat form.buf headBuf).map fun buf =>
    { form with
      index := form.index + 1
      buf := buf
      len := form.len + headBuf.length
      headLen := headBuf.length }

def startLine (form : FormLog) : Option FormLog :=
  if form.lsize % 32 = 0 then form.putNewline.bind putHead else some form

def putGap (form : FormLog) : Option FormLog :=
  if form.lsize % 16 = 0 ∧ form.headLen ≠ 0 then form.put space else some form

def putByte (form : FormLog) (byte : UInt8) : Option FormLog :=
  (form.put (magicNum ((byte >>> 4) &&& 0xf))).bind fun form =>
    (form.put (magicNum (byte &&& 0xf))).map fun form => { form with lsize := form.lsize + 1 }

/-- The body of the loop. -/
def step (form : FormLog) (byte : UInt8) : Option FormLog :=
  form.startLine.bind fun form => form.putGap.bind fun form => form.putByte byte

/-- The loop, which stops early when fewer than ten bytes are left of the array. -/
def loop (bufSize : Nat) (form : FormLog) : List UInt8 → Option FormLog
  | [] => some form
  | byte :: rest =>
      if form.len + 10 < bufSize then (form.step byte).bind fun form => form.loop bufSize rest
      else some form

end FormLog

def formLog (index : Nat) (buf : List UInt8) (bufSize : Nat) (buffer : List UInt8) :
    Option FormLog :=
  (FormLog.loop bufSize ⟨index, buf, 0, 0, 0⟩ buffer).bind fun form =>
    (form.put newline).bind fun form => form.put 0

def PRINT_SIZE : Nat := 512

/-- The size of `tmpbuf`. -/
def tmpbufSize : Nat := PRINT_SIZE * 3 + 8

/-- The text of a chunk: what `tmpbuf` holds up to the first zero. -/
def chunkText (form : FormLog) : Option (List UInt8) :=
  (strlen form.buf).map (form.buf.take ·)

/-- The loop of `log_output_binary` over what is left of the buffer. -/
def dumpLoop (index : Nat) (os buffer : List UInt8) : Option (List UInt8) :=
  if buffer ≠ [] then
    (formLog index (List.replicate tmpbufSize 0) tmpbufSize (buffer.take PRINT_SIZE)).bind
      fun form => (chunkText form).bind fun text =>
        dumpLoop form.index (os ++ text) (buffer.drop PRINT_SIZE)
  else some os
termination_by buffer.length
decreasing_by
  rename_i remains
  have positive := List.length_pos_iff.mpr remains
  rw [List.length_drop, PRINT_SIZE]
  omega

def addressLine (address : Int) (size : Nat) : List UInt8 :=
  asciiText "address[" ++ signedText address ++ asciiText "] size[" ++ decimalText size ++
    asciiText "] \n"

/-- The text that `log_output_binary` puts in the queue. -/
def binaryText (address : Int) (buffer : List UInt8) : Option (List UInt8) :=
  dumpLoop 0 (addressLine address buffer.length) buffer

def WhispLog.logOutputBinaryOf (log : WhispLog) (address : Int) (buffer : List UInt8) :
    Option WhispLog :=
  (binaryText address buffer).map log.logOutputBinary

/-!
## Reading a dump
-/

/-- A line: its number, and the bytes that it spells with the spaces left out. -/
def readLine (line : List UInt8) : Option (Nat × List UInt8) :=
  let number := line.takeWhile (· ≠ space)
  if number ≠ [] ∧ number.all isDigit then
    (hexDecode ((line.drop number.length).filter (· ≠ space))).map fun bytes =>
      (leadingDigits 0 number, bytes)
  else none

/-- The lines that a dump should have: numbered, 32 bytes each until the last. -/
def dumpRows (index : Nat) (buffer : List UInt8) : List (Nat × List UInt8) :=
  if buffer ≠ [] then (index, buffer.take 32) :: dumpRows (index + 1) (buffer.drop 32) else []
termination_by buffer.length
decreasing_by
  rename_i remains
  have positive := List.length_pos_iff.mpr remains
  rw [List.length_drop]
  omega

end Talko.Log
