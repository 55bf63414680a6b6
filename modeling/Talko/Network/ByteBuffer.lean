import Talko.Library.ByteRange
import Talko.Network.Socket

/-!
# The connection buffer

`ByteBuffer` of `byte_buffer.h`: one vector of bytes with a read and a write
index. Sizes and indices are `size_t` values; they are natural numbers here, so the
model is the code as long as no sum of sizes wraps around. Pointers into the vector
are positions in it.
-/

set_option autoImplicit false

namespace Talko.Network

open Talko.Library

structure ByteBuffer where
  buffer : List UInt8
  readIdx : Nat
  writeIdx : Nat
  deriving DecidableEq, Repr

namespace ByteBuffer

def cheapPrepend : Nat := 8

def initialSize : Nat := 1024

/-- The constructor; it sizes the vector by `initial_size` and does not use its
argument. -/
def new : ByteBuffer where
  buffer := List.replicate (cheapPrepend + initialSize) 0
  readIdx := cheapPrepend
  writeIdx := cheapPrepend

def bbSwap (first second : ByteBuffer) : ByteBuffer × ByteBuffer :=
  (second, first)

def bbBytesReadable (b : ByteBuffer) : Nat := b.writeIdx - b.readIdx

def bbBytesWriteable (b : ByteBuffer) : Nat := b.buffer.length - b.writeIdx

def bbBytesPrependable (b : ByteBuffer) : Nat := b.readIdx

def bbPeek (b : ByteBuffer) : Nat := b.readIdx

def bbWriteBeginning (b : ByteBuffer) : Nat := b.writeIdx

def bbRetrieveAll (b : ByteBuffer) : ByteBuffer :=
  { b with readIdx := cheapPrepend, writeIdx := cheapPrepend }

def bbRetrieve (b : ByteBuffer) (len : Nat) : ByteBuffer × Bool :=
  if len > b.bbBytesReadable then (b, false)
  else if len < b.bbBytesReadable then ({ b with readIdx := b.readIdx + len }, true)
  else (b.bbRetrieveAll, true)

def bbRetrieveUntil (b : ByteBuffer) (stop : Nat) : ByteBuffer × Bool :=
  if b.bbPeek > stop then (b, false)
  else if stop > b.bbWriteBeginning then (b, false)
  else ((b.bbRetrieve (stop - b.bbPeek)).1, true)

def bytesFromPeek (b : ByteBuffer) (len : Nat) : List UInt8 :=
  range b.buffer b.bbPeek (b.bbPeek + len)

def bbRetrieveAsString (b : ByteBuffer) (len : Nat) : ByteBuffer × List UInt8 :=
  if len > b.bbBytesReadable then (b, [])
  else ((b.bbRetrieve len).1, b.bytesFromPeek len)

def bbRetrieveAllAsString (b : ByteBuffer) : ByteBuffer × List UInt8 :=
  b.bbRetrieveAsString b.bbBytesReadable

/-- `bb_2_string_piece()` casts the readable size to `int`; a negative length makes
the `std::string` constructor throw `length_error`. -/
def bb2StringPiece (b : ByteBuffer) : Option (List UInt8) :=
  let len := sizeToInt32 b.bbBytesReadable
  if len < 0 then none else some (b.bytesFromPeek len.toNat)

def resize (cells : List UInt8) (size : Nat) : List UInt8 :=
  cells.take size ++ List.replicate (size - cells.length) 0

def makeZoom (b : ByteBuffer) (len : Nat) : ByteBuffer :=
  if b.bbBytesWriteable + b.bbBytesPrependable < len + cheapPrepend then
    { b with buffer := resize b.buffer (b.writeIdx + len) }
  else if cheapPrepend ≥ b.readIdx then b
  else
    -- the forward `std::copy` moves the readable bytes to a lower position
    { buffer := overwrite b.buffer cheapPrepend (range b.buffer b.readIdx b.writeIdx)
      readIdx := cheapPrepend
      writeIdx := cheapPrepend + b.bbBytesReadable }

def bbBytesCheckWritable (b : ByteBuffer) (len : Nat) : ByteBuffer :=
  if b.bbBytesWriteable < len then b.makeZoom len else b

def bbBytesWritten (b : ByteBuffer) (len : Nat) : ByteBuffer × Bool :=
  if len > b.bbBytesWriteable then (b, false)
  else ({ b with writeIdx := b.writeIdx + len }, true)

def bbBytesUnwrite (b : ByteBuffer) (len : Nat) : ByteBuffer × Bool :=
  if len > b.bbBytesReadable then (b, false)
  else ({ b with writeIdx := b.writeIdx - len }, true)

/-- `bb_append`, with `bb_write_beginning()` as the destination of its copy: the
source names the size `bb_bytes_writeable()` there, which is not a pointer. -/
def bbAppend (b : ByteBuffer) (data : List UInt8) : ByteBuffer :=
  let room := b.bbBytesCheckWritable data.length
  let copied := { room with buffer := overwrite room.buffer room.bbWriteBeginning data }
  (copied.bbBytesWritten data.length).1

def bbPrepend (b : ByteBuffer) (data : List UInt8) : ByteBuffer × Bool :=
  if data.length > b.bbBytesPrependable then (b, false)
  else
    let first := b.readIdx - data.length
    ({ b with readIdx := first, buffer := overwrite b.buffer first data }, true)

/-- `bb_shrink`; `none` when the copied string throws, which leaves the buffer alone. -/
def bbShrink (b : ByteBuffer) (reserve : Nat) : Option ByteBuffer :=
  b.bb2StringPiece.map fun piece =>
    (b.bbSwap ((new.bbBytesCheckWritable (b.bbBytesReadable + reserve)).bbAppend piece)).1

/-- `bb_read_fd` as compiled on Linux: the bytes are read into `extrabuf`, the two
later branches are those written for a scattered read. -/
def bbReadFd (b : ByteBuffer) (answer : SocksRead) : ByteBuffer × Int :=
  let writable := b.bbBytesWriteable
  let n := answer.n
  if n ≤ 0 then (b, n)
  else if n.toNat ≤ writable then ({ b with writeIdx := b.writeIdx + n.toNat }, n)
  else
    let full := { b with writeIdx := b.buffer.length }
    (full.bbAppend (answer.bytes.take (n.toNat - writable)), n)

def readable (b : ByteBuffer) : List UInt8 :=
  range b.buffer b.readIdx b.writeIdx

def writable (b : ByteBuffer) : List UInt8 :=
  b.buffer.drop b.writeIdx

/-- `0 <= readerIndex <= writerIndex <= size`, the order the class comment draws. -/
structure Valid (b : ByteBuffer) : Prop where
  read_le_write : b.readIdx ≤ b.writeIdx
  write_le_size : b.writeIdx ≤ b.buffer.length

end ByteBuffer

end Talko.Network
