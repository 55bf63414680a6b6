import Talko.Library.ByteRange
import Talko.Library.Decimal
import Talko.Library.Endian
import Talko.Library.SevenBit

/-!
# The binary packet stream

`BinaryStreamWriter` and `BinaryStreamReader` of `protocol_stream.h`. A packet is a
list of bytes and a pointer into it an offset. The reader logs every byte it looks
at, so that statements about its memory accesses are statements about the log.
Words are stored as the little-endian host does, and `htonl` and its relatives swap.
-/

set_option autoImplicit false

namespace Talko.Network

open Talko.Library

def binaryPacklenLen2 : Nat := 4

def checksumLen : Nat := 2

/-!
## Seven-bit encoded lengths
-/

/-- The loop of both `write7BitEncoded` overloads; it ends because the value does. -/
def write7BitLoop (value : Nat) : List UInt8 :=
  let c := UInt8.ofNat (value &&& 0x7F)
  let rest := value >>> 7
  if rest = 0 then [c] else (c ||| 0x80) :: write7BitLoop rest
termination_by value
decreasing_by
  rename_i more
  simp only [Nat.shiftRight_eq_div_pow] at more ⊢
  omega

def write7BitEncoded32 (value : UInt32) : List UInt8 :=
  write7BitLoop value.toNat

def write7BitEncoded64 (value : UInt64) : List UInt8 :=
  write7BitLoop value.toNat

/-- The loop of both `read7BitEncoded` overloads on an unsigned type of `width` bits.
It never looks at `len`; `none` when the bytes it is given end first. -/
def read7BitLoop (width : Nat) : (bitCount value : Nat) → List UInt8 → Option Nat
  | _, _, [] => none
  | bitCount, value, c :: rest =>
      let x := (payload c <<< bitCount) % 2 ^ width
      let sum := (value + x) % 2 ^ width
      if continues c then read7BitLoop width (bitCount + 7) sum rest else some sum

def read7BitEncoded32 (buf : List UInt8) : Option Nat :=
  read7BitLoop 32 0 0 buf

def read7BitEncoded64 (buf : List UInt8) : Option Nat :=
  read7BitLoop 64 0 0 buf

/-- The number of bytes `read7BitEncoded` looks at, counted up to the first one behind
the bytes it is given. -/
def read7BitInspected : List UInt8 → Nat
  | [] => 1
  | c :: rest => if continues c then 1 + read7BitInspected rest else 1

/-!
## The writer
-/

structure BinaryStreamWriter where
  data : List UInt8

namespace BinaryStreamWriter

/-- The constructor and `Clear()` append an array they do not initialise: `str` is
what it happens to hold. -/
def new (str : Nat → UInt8) : BinaryStreamWriter where
  data := (List.range (binaryPacklenLen2 + checksumLen)).map str

def append (w : BinaryStreamWriter) (bytes : List UInt8) : BinaryStreamWriter where
  data := w.data ++ bytes

def writeCString (w : BinaryStreamWriter) (str : List UInt8) : BinaryStreamWriter :=
  (w.append (write7BitEncoded64 (UInt64.ofNat str.length))).append str

def writeInt32 (w : BinaryStreamWriter) (i : Int32) (isNULL : Bool) : BinaryStreamWriter :=
  let i2 := if isNULL = false then byteSwap 4 i.toUInt32.toNat else 999999999
  w.append (littleEndian 4 i2)

def writeInt64 (w : BinaryStreamWriter) (value : Int64) (isNULL : Bool) : BinaryStreamWriter :=
  if isNULL = false then w.writeCString (signedText value.toInt) else w.writeCString []

def writeShort (w : BinaryStreamWriter) (i : Int16) (isNULL : Bool) : BinaryStreamWriter :=
  let i2 := if isNULL = false then byteSwap 2 i.toUInt16.toNat else 0
  w.append (littleEndian 2 i2)

def writeChar (w : BinaryStreamWriter) (c : UInt8) (isNULL : Bool) : BinaryStreamWriter :=
  w.append [if isNULL = false then c else 0]

def flush (w : BinaryStreamWriter) : BinaryStreamWriter where
  data := overwrite w.data 0 (littleEndian 4 (byteSwap 4 w.data.length))

end BinaryStreamWriter

/-!
## The reader
-/

/-- One look at memory: a byte of the packet, a byte of the array of `copied` length
bytes that `read7BitEncoded` is given, or the whole buffer handed to `atoll`. -/
inductive Access where
  | packet (offset : Nat)
  | lengthBuffer (index copied : Nat)
  | atollText (buffer : List UInt8)
  deriving DecidableEq, Repr

/-- How a call ends: with its answer and the new position, or, once `read7BitEncoded`
has left the bytes it was given, with no answer the model could know. -/
inductive ReadResult (α : Type) where
  | ok (value : α) (cur : Nat)
  | failed (cur : Nat)
  | overrun
  deriving DecidableEq, Repr

structure ReadCall (α : Type) where
  accesses : List Access
  result : ReadResult α
  deriving DecidableEq, Repr

/-- A reader over the packet `ptr`. A load behind the packet gives whatever memory
holds there. -/
structure BinaryStreamReader where
  ptr : List UInt8
  behind : Nat → UInt8
  cur : Nat

namespace BinaryStreamReader

def new (ptr : List UInt8) (behind : Nat → UInt8) : BinaryStreamReader where
  ptr := ptr
  behind := behind
  cur := binaryPacklenLen2 + checksumLen

def len (r : BinaryStreamReader) : Nat := r.ptr.length

def load (r : BinaryStreamReader) (offset : Nat) : UInt8 :=
  r.ptr.getD offset (r.behind offset)

def copy (r : BinaryStreamReader) (start count : Nat) : List UInt8 :=
  (List.range' start count).map r.load

def packetAccesses (start count : Nat) : List Access :=
  (List.range' start count).map .packet

def copyLength (load : Nat → UInt8) : (room temp : Nat) → List UInt8
  | 0, _ => []
  | room + 1, temp =>
      if continues (load temp) then load temp :: copyLength load room (temp + 1)
      else [load temp]

def lengthBufferSize : Nat := 5

def readLengthWithoutOffset (r : BinaryStreamReader) : ReadCall (Nat × Nat) :=
  let buf := copyLength r.load lengthBufferSize r.cur
  let headlen := buf.length
  let copied := packetAccesses r.cur headlen
  if r.cur + headlen > r.len then ⟨copied, .failed r.cur⟩
  else
    let decoded := (List.range (read7BitInspected buf)).map (.lengthBuffer · headlen)
    match read7BitEncoded32 buf with
    | none => ⟨copied ++ decoded, .overrun⟩
    | some value => ⟨copied ++ decoded, .ok (headlen, value) r.cur⟩

def readLength (r : BinaryStreamReader) : ReadCall Nat :=
  let head := r.readLengthWithoutOffset
  match head.result with
  | .overrun => ⟨head.accesses, .overrun⟩
  | .failed cur => ⟨head.accesses, .failed cur⟩
  | .ok (headlen, outlen) _ => ⟨head.accesses, .ok outlen (r.cur + headlen)⟩

/-- The shared body of the three string reads. `tooLong` is the test against the
caller's buffer, `copies` says whether the bytes are copied out. The position moves
behind the length before the bounds test. -/
def readBytes (r : BinaryStreamReader) (tooLong : Nat → Bool) (copies : Bool) :
    ReadCall (List UInt8) :=
  let head := r.readLengthWithoutOffset
  match head.result with
  | .overrun => ⟨head.accesses, .overrun⟩
  | .failed cur => ⟨head.accesses, .failed cur⟩
  | .ok (headlen, fieldlen) _ =>
      if tooLong fieldlen then ⟨head.accesses, .failed r.cur⟩
      else
        let cur := r.cur + headlen
        if cur + fieldlen > r.len then ⟨head.accesses, .failed cur⟩
        else
          let looked := if copies then packetAccesses cur fieldlen else []
          ⟨head.accesses ++ looked, .ok (r.copy cur fieldlen) (cur + fieldlen)⟩

def readCString (r : BinaryStreamReader) (strlen : Nat) : ReadCall (List UInt8) :=
  r.readBytes (fun fieldlen => fieldlen > strlen) true

def readString (r : BinaryStreamReader) (maxlen : Nat) : ReadCall (List UInt8) :=
  r.readBytes (fun fieldlen => maxlen ≠ 0 && fieldlen > maxlen) true

/-- `ReadCCString` hands out a pointer; the bytes it designates are the value here. -/
def readCCString (r : BinaryStreamReader) (maxlen : Nat) : ReadCall (List UInt8) :=
  r.readBytes (fun fieldlen => maxlen ≠ 0 && fieldlen > maxlen) false

/-- The shared body of the fixed-width reads: the word found at the position. -/
def readWord (r : BinaryStreamReader) (valueSize : Nat) : ReadCall Nat :=
  if r.cur + valueSize > r.len then ⟨[], .failed r.cur⟩
  else ⟨packetAccesses r.cur valueSize,
    .ok (ofLittleEndian (r.copy r.cur valueSize)) (r.cur + valueSize)⟩

end BinaryStreamReader

def ReadResult.map {α β : Type} (f : α → β) : ReadResult α → ReadResult β
  | .ok value cur => .ok (f value) cur
  | .failed cur => .failed cur
  | .overrun => .overrun

def ReadCall.map {α β : Type} (f : α → β) (call : ReadCall α) : ReadCall β where
  accesses := call.accesses
  result := call.result.map f

/-- `atoll` reads a number and stays at the ends of the range of `long long`. -/
def atoll (text : List UInt8) : Int64 :=
  Int64.ofInt (max Int64.minValue.toInt (min Int64.maxValue.toInt (leadingNumber text)))

namespace BinaryStreamReader

def readInt32 (r : BinaryStreamReader) : ReadCall Int32 :=
  (r.readWord 4).map fun word => (UInt32.ofNat (byteSwap 4 word)).toInt32

def readShort (r : BinaryStreamReader) : ReadCall Int16 :=
  (r.readWord 2).map fun word => (UInt16.ofNat (byteSwap 2 word)).toInt16

def readChar (r : BinaryStreamReader) : ReadCall UInt8 :=
  (r.readWord 1).map UInt8.ofNat

def int64strSize : Nat := 128

def int64str (field : List UInt8) : List UInt8 :=
  field ++ List.replicate (int64strSize - field.length) 0

def readInt64 (r : BinaryStreamReader) : ReadCall Int64 :=
  let text := r.readCString int64strSize
  match text.result with
  | .overrun => ⟨text.accesses, .overrun⟩
  | .failed cur => ⟨text.accesses, .failed cur⟩
  | .ok field cur =>
      ⟨text.accesses ++ [.atollText (int64str field)], .ok (atoll (int64str field)) cur⟩

def isEnd (r : BinaryStreamReader) : Bool :=
  r.cur = r.len

end BinaryStreamReader

end Talko.Network
