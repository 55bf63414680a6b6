import Talko.Network.ByteBufferReadProperties
import Talko.Network.ByteBufferRefinement
import Talko.Network.InetEndian

/-!
# Integers in the buffer

The typed calls of `ByteBuffer`. Integers of more than one byte are stored in the order of the
network; an integer that does not fit into the readable bytes is read as -1.
-/

set_option autoImplicit false

namespace Talko.Network

open Talko.Library

/-- How an integer type is stored: the bytes of the object that is copied, and back. `missing`
is what a peek returns for want of readable bytes. -/
structure IntFormat (α : Type) where
  size : Nat
  store : α → List UInt8
  load : List UInt8 → α
  missing : α
  length_store : ∀ x, (store x).length = size
  load_store : ∀ x, load (store x) = x

/-- The object in which a word of the network's byte order lies. -/
def int64Format : IntFormat Int64 where
  size := 8
  store := fun x =>
    let be64 := (host2Network64 x.toUInt64).toInt64
    littleEndian 8 be64.toUInt64.toNat
  load := fun bytes =>
    let be64 := (UInt64.ofNat (ofLittleEndian bytes)).toInt64
    (network2Host64 be64.toUInt64).toInt64
  missing := -1
  length_store := fun _ => length_littleEndian 8 _
  load_store := by
    intro x
    have fits : (host2Network64 x.toUInt64).toNat < 256 ^ 8 := UInt64.toNat_lt _
    simp only [UInt64.toUInt64_toInt64, ofLittleEndian_littleEndian]
    rw [Nat.mod_eq_of_lt fits, UInt64.ofNat_toNat, network2Host64_host2Network64,
      Int64.toInt64_toUInt64]

def int32Format : IntFormat Int32 where
  size := 4
  store := fun x =>
    let be32 := (host2Network32 x.toUInt32).toInt32
    littleEndian 4 be32.toUInt32.toNat
  load := fun bytes =>
    let be32 := (UInt32.ofNat (ofLittleEndian bytes)).toInt32
    (network2Host32 be32.toUInt32).toInt32
  missing := -1
  length_store := fun _ => length_littleEndian 4 _
  load_store := by
    intro x
    have fits : (host2Network32 x.toUInt32).toNat < 256 ^ 4 := UInt32.toNat_lt _
    simp only [UInt32.toUInt32_toInt32, ofLittleEndian_littleEndian]
    rw [Nat.mod_eq_of_lt fits, UInt32.ofNat_toNat, network2Host32_host2Network32,
      Int32.toInt32_toUInt32]

def int16Format : IntFormat Int16 where
  size := 2
  store := fun x =>
    let be16 := (host2Network16 x.toUInt16).toInt16
    littleEndian 2 be16.toUInt16.toNat
  load := fun bytes =>
    let be16 := (UInt16.ofNat (ofLittleEndian bytes)).toInt16
    (network2Host16 be16.toUInt16).toInt16
  missing := -1
  length_store := fun _ => length_littleEndian 2 _
  load_store := by
    intro x
    have fits : (host2Network16 x.toUInt16).toNat < 256 ^ 2 := UInt16.toNat_lt _
    simp only [UInt16.toUInt16_toInt16, ofLittleEndian_littleEndian]
    rw [Nat.mod_eq_of_lt fits, UInt16.ofNat_toNat, network2Host16_host2Network16,
      Int16.toInt16_toUInt16]

/-- A byte is copied as it is. -/
def int8Format : IntFormat Int8 where
  size := 1
  store := fun x => littleEndian 1 x.toUInt8.toNat
  load := fun bytes => (UInt8.ofNat (ofLittleEndian bytes)).toInt8
  missing := -1
  length_store := fun _ => length_littleEndian 1 _
  load_store := by
    intro x
    have fits : x.toUInt8.toNat < 256 ^ 1 := UInt8.toNat_lt _
    rw [ofLittleEndian_littleEndian, Nat.mod_eq_of_lt fits, UInt8.ofNat_toNat,
      Int8.toInt8_toUInt8]

namespace ByteBuffer

section
variable {α : Type} (format : IntFormat α) (b : ByteBuffer)

def bbAppendInt (x : α) : ByteBuffer :=
  b.bbAppend (format.store x)

def bbPrependInt (x : α) : ByteBuffer :=
  (b.bbPrepend (format.store x)).1

def bbPeekInt : α :=
  if b.bbBytesReadable < format.size then format.missing
  else format.load (b.bytesFromPeek format.size)

def bbRetrieveInt : ByteBuffer :=
  (b.bbRetrieve format.size).1

def bbReadInt : α × ByteBuffer :=
  (b.bbPeekInt format, b.bbRetrieveInt format)

end

def bbAppendInt64 (b : ByteBuffer) (x : Int64) : ByteBuffer := b.bbAppendInt int64Format x

def bbAppendInt32 (b : ByteBuffer) (x : Int32) : ByteBuffer := b.bbAppendInt int32Format x

def bbAppendInt16 (b : ByteBuffer) (x : Int16) : ByteBuffer := b.bbAppendInt int16Format x

def bbAppendInt8 (b : ByteBuffer) (x : Int8) : ByteBuffer := b.bbAppendInt int8Format x

def bbReadInt64 (b : ByteBuffer) : Int64 × ByteBuffer := b.bbReadInt int64Format

def bbReadInt32 (b : ByteBuffer) : Int32 × ByteBuffer := b.bbReadInt int32Format

def bbReadInt16 (b : ByteBuffer) : Int16 × ByteBuffer := b.bbReadInt int16Format

def bbReadInt8 (b : ByteBuffer) : Int8 × ByteBuffer := b.bbReadInt int8Format

def bbPrependInt64 (b : ByteBuffer) (x : Int64) : ByteBuffer := b.bbPrependInt int64Format x

def bbPrependInt32 (b : ByteBuffer) (x : Int32) : ByteBuffer := b.bbPrependInt int32Format x

def bbPrependInt16 (b : ByteBuffer) (x : Int16) : ByteBuffer := b.bbPrependInt int16Format x

def bbPrependInt8 (b : ByteBuffer) (x : Int8) : ByteBuffer := b.bbPrependInt int8Format x

/-!
## One integer
-/

section
variable {α : Type} (format : IntFormat α)

theorem bbReadInt_of_readable {b : ByteBuffer} (formed : b.WellFormed) {x : α}
    {rest : List UInt8} (content : b.readable = format.store x ++ rest) :
    (b.bbReadInt format).1 = x ∧ (b.bbReadInt format).2.readable = rest ∧
      (b.bbReadInt format).2.WellFormed := by
  have size := format.length_store x
  have fits : format.size ≤ b.bbBytesReadable := by
    rw [← formed.length_readable, content, List.length_append, size]
    exact Nat.le_add_right _ _
  refine ⟨?_, ?_, bbRetrieve_wellFormed formed format.size⟩
  · change b.bbPeekInt format = x
    rw [bbPeekInt, if_neg (Nat.not_lt.mpr fits), bytesFromPeek_eq formed.toValid fits, content,
      ← size, List.take_left, format.load_store]
  · change (b.bbRetrieve format.size).1.readable = rest
    rw [bbRetrieve_readable formed.toValid fits, content, ← size, List.drop_left]

/-- With too few readable bytes the answer is `missing`, and nothing is taken out. -/
theorem bbReadInt_of_short {b : ByteBuffer} (short : b.bbBytesReadable < format.size) :
    b.bbReadInt format = (format.missing, b) := by
  rw [bbReadInt, bbPeekInt, if_pos short, bbRetrieveInt, bbRetrieve_of_gt short]

theorem bbPrependInt_readable {b : ByteBuffer} (formed : b.WellFormed) {x : α}
    (room : format.size ≤ b.bbBytesPrependable) :
    (b.bbPrependInt format x).readable = format.store x ++ b.readable ∧
      (b.bbPrependInt format x).WellFormed := by
  rw [← format.length_store x] at room
  exact ⟨bbPrepend_readable formed.toValid room, bbPrepend_wellFormed formed _⟩

end

end ByteBuffer

/-!
## Integers of all widths
-/

inductive IntKind where
  | int8
  | int16
  | int32
  | int64
  deriving DecidableEq, Repr

inductive BufferInt where
  | int8 (x : Int8)
  | int16 (x : Int16)
  | int32 (x : Int32)
  | int64 (x : Int64)
  deriving DecidableEq, Repr

def IntKind.size : IntKind → Nat
  | .int8 => 1
  | .int16 => 2
  | .int32 => 4
  | .int64 => 8

def IntKind.minusOne : IntKind → BufferInt
  | .int8 => .int8 (-1)
  | .int16 => .int16 (-1)
  | .int32 => .int32 (-1)
  | .int64 => .int64 (-1)

def BufferInt.kind : BufferInt → IntKind
  | .int8 _ => .int8
  | .int16 _ => .int16
  | .int32 _ => .int32
  | .int64 _ => .int64

def BufferInt.stored : BufferInt → List UInt8
  | .int8 x => int8Format.store x
  | .int16 x => int16Format.store x
  | .int32 x => int32Format.store x
  | .int64 x => int64Format.store x

namespace ByteBuffer

def appendValue (b : ByteBuffer) : BufferInt → ByteBuffer
  | .int8 x => b.bbAppendInt8 x
  | .int16 x => b.bbAppendInt16 x
  | .int32 x => b.bbAppendInt32 x
  | .int64 x => b.bbAppendInt64 x

def prependValue (b : ByteBuffer) : BufferInt → ByteBuffer
  | .int8 x => b.bbPrependInt8 x
  | .int16 x => b.bbPrependInt16 x
  | .int32 x => b.bbPrependInt32 x
  | .int64 x => b.bbPrependInt64 x

def readValue (b : ByteBuffer) : IntKind → BufferInt × ByteBuffer
  | .int8 => (.int8 b.bbReadInt8.1, b.bbReadInt8.2)
  | .int16 => (.int16 b.bbReadInt16.1, b.bbReadInt16.2)
  | .int32 => (.int32 b.bbReadInt32.1, b.bbReadInt32.2)
  | .int64 => (.int64 b.bbReadInt64.1, b.bbReadInt64.2)

def appendValues (b : ByteBuffer) (values : List BufferInt) : ByteBuffer :=
  values.foldl appendValue b

def readValues (b : ByteBuffer) : List IntKind → List BufferInt × ByteBuffer
  | [] => ([], b)
  | kind :: rest =>
      let (value, after) := b.readValue kind
      let (values, last) := after.readValues rest
      (value :: values, last)

/-- The buffers that the calls of `ByteBuffer` lead to. The typed calls are appends, prepends
and retrievals. -/
inductive Reachable : ByteBuffer → Prop where
  | new : Reachable new
  | call {b : ByteBuffer} (request : BufferCall) : Reachable b → Reachable (request.perform b).1
  | written {b : ByteBuffer} (len : Nat) : Reachable b → Reachable (b.bbBytesWritten len).1
  | read {b : ByteBuffer} (answer : SocksRead) : Reachable b → Reachable (b.bbReadFd answer).1
  | swap {first second : ByteBuffer} :
      Reachable first → Reachable second → Reachable (first.bbSwap second).1

theorem Reachable.append {b : ByteBuffer} (reachable : Reachable b) (data : List UInt8) :
    Reachable (b.bbAppend data) :=
  reachable.call (.append data)

theorem bbShrink_wellFormed {b shrunk : ByteBuffer} {reserve : Nat}
    (result : b.bbShrink reserve = some shrunk) : shrunk.WellFormed := by
  obtain ⟨piece, _, rfl⟩ := Option.map_eq_some_iff.mp result
  exact bbAppend_wellFormed (bbBytesCheckWritable_wellFormed new_wellFormed _) piece

theorem bbBytesWritten_wellFormed {b : ByteBuffer} (formed : b.WellFormed) (len : Nat) :
    (b.bbBytesWritten len).1.WellFormed := by
  have order := formed.read_le_write
  have size := formed.write_le_size
  unfold bbBytesWritten
  split
  case isTrue => exact formed
  case isFalse fits =>
      unfold bbBytesWriteable at fits
      refine ⟨⟨?_, ?_⟩, formed.reserved⟩
      · change b.readIdx ≤ b.writeIdx + len
        omega
      · change b.writeIdx + len ≤ b.buffer.length
        omega

theorem bbReadFd_wellFormed {b : ByteBuffer} (formed : b.WellFormed) (answer : SocksRead) :
    (b.bbReadFd answer).1.WellFormed := by
  refine ⟨(readStep_spec formed.toValid answer).1, ?_⟩
  have full : ByteBuffer.Valid { b with writeIdx := b.buffer.length } :=
    ⟨Nat.le_trans formed.read_le_write formed.write_le_size, Nat.le_refl _⟩
  unfold bbReadFd
  dsimp only
  split
  case isTrue => exact formed.reserved
  case isFalse =>
      split
      case isTrue => exact formed.reserved
      case isFalse => exact Nat.le_trans formed.reserved (bbAppend_size full _)

theorem Reachable.wellFormed {b : ByteBuffer} (reachable : Reachable b) : b.WellFormed := by
  induction reachable with
  | new => exact new_wellFormed
  | @call b request _ formed =>
      cases request with
      | shrink reserve =>
          cases result : b.bbShrink reserve with
          | none => simpa only [BufferCall.perform, result, Option.elim_none] using formed
          | some shrunk =>
              simpa only [BufferCall.perform, result, Option.elim_some] using
                bbShrink_wellFormed result
      | _ => exact BufferCall.perform_wellFormed formed _ trivial
  | written len _ formed => exact bbBytesWritten_wellFormed formed len
  | read answer _ formed => exact bbReadFd_wellFormed formed answer
  | swap _ _ _ formed => exact formed

/-!
## Several integers
-/

theorem appendValue_eq (b : ByteBuffer) (value : BufferInt) :
    b.appendValue value = b.bbAppend value.stored := by
  cases value <;> rfl

theorem appendValues_readable {b : ByteBuffer} (formed : b.WellFormed)
    (values : List BufferInt) :
    (b.appendValues values).readable = b.readable ++ values.flatMap BufferInt.stored ∧
      (b.appendValues values).WellFormed := by
  induction values generalizing b with
  | nil => exact ⟨(List.append_nil _).symm, formed⟩
  | cons value rest ih =>
      have appended := appendValue_eq b value
      have kept : (b.appendValue value).WellFormed := appended ▸ bbAppend_wellFormed formed _
      obtain ⟨content, last⟩ := ih kept
      refine ⟨?_, last⟩
      change ((b.appendValue value).appendValues rest).readable = _
      rw [content, appended, bbAppend_readable formed.toValid, List.flatMap_cons,
        List.append_assoc]

theorem readValue_of_readable {b : ByteBuffer} (formed : b.WellFormed) {value : BufferInt}
    {rest : List UInt8} (content : b.readable = value.stored ++ rest) :
    (b.readValue value.kind).1 = value ∧ (b.readValue value.kind).2.readable = rest ∧
      (b.readValue value.kind).2.WellFormed := by
  cases value with
  | int8 x =>
      obtain ⟨read, left⟩ := bbReadInt_of_readable int8Format formed content
      exact ⟨congrArg BufferInt.int8 read, left⟩
  | int16 x =>
      obtain ⟨read, left⟩ := bbReadInt_of_readable int16Format formed content
      exact ⟨congrArg BufferInt.int16 read, left⟩
  | int32 x =>
      obtain ⟨read, left⟩ := bbReadInt_of_readable int32Format formed content
      exact ⟨congrArg BufferInt.int32 read, left⟩
  | int64 x =>
      obtain ⟨read, left⟩ := bbReadInt_of_readable int64Format formed content
      exact ⟨congrArg BufferInt.int64 read, left⟩

theorem readValues_of_readable {b : ByteBuffer} (formed : b.WellFormed)
    {values : List BufferInt} {rest : List UInt8}
    (content : b.readable = values.flatMap BufferInt.stored ++ rest) :
    (b.readValues (values.map BufferInt.kind)).1 = values ∧
      (b.readValues (values.map BufferInt.kind)).2.readable = rest := by
  induction values generalizing b with
  | nil => exact ⟨rfl, content⟩
  | cons value others ih =>
      rw [List.flatMap_cons, List.append_assoc] at content
      obtain ⟨read, left, kept⟩ := readValue_of_readable formed content
      obtain ⟨later, last⟩ := ih kept left
      exact ⟨by simp only [List.map_cons, readValues, read, later], last⟩

theorem prependValue_readable {b : ByteBuffer} (formed : b.WellFormed) {value : BufferInt}
    (room : value.kind.size ≤ b.bbBytesPrependable) :
    (b.prependValue value).readable = value.stored ++ b.readable ∧
      (b.prependValue value).WellFormed := by
  cases value with
  | int8 x => exact bbPrependInt_readable int8Format formed room
  | int16 x => exact bbPrependInt_readable int16Format formed room
  | int32 x => exact bbPrependInt_readable int32Format formed room
  | int64 x => exact bbPrependInt_readable int64Format formed room

theorem readValue_of_short {b : ByteBuffer} {kind : IntKind}
    (short : b.bbBytesReadable < kind.size) : b.readValue kind = (kind.minusOne, b) := by
  cases kind with
  | int8 =>
      have unread : b.bbReadInt8 = (-1, b) := bbReadInt_of_short int8Format short
      rw [readValue, unread, IntKind.minusOne]
  | int16 =>
      have unread : b.bbReadInt16 = (-1, b) := bbReadInt_of_short int16Format short
      rw [readValue, unread, IntKind.minusOne]
  | int32 =>
      have unread : b.bbReadInt32 = (-1, b) := bbReadInt_of_short int32Format short
      rw [readValue, unread, IntKind.minusOne]
  | int64 =>
      have unread : b.bbReadInt64 = (-1, b) := bbReadInt_of_short int64Format short
      rw [readValue, unread, IntKind.minusOne]

/-- What was appended behind the readable bytes, once these are consumed, is read in order. -/
theorem typed_integers {b : ByteBuffer} (reachable : Reachable b) :
    (∀ values : List BufferInt,
        let consumed := ((b.appendValues values).bbRetrieve b.bbBytesReadable).1
        (consumed.readValues (values.map BufferInt.kind)).1 = values ∧
          (consumed.readValues (values.map BufferInt.kind)).2.readable = []) ∧
      (∀ value : BufferInt, value.kind.size ≤ b.bbBytesPrependable →
        ((b.prependValue value).readValue value.kind).1 = value ∧
          ((b.prependValue value).readValue value.kind).2.readable = b.readable) ∧
      ∀ kind : IntKind, b.bbBytesReadable < kind.size →
        b.readValue kind = (kind.minusOne, b) := by
  have formed := reachable.wellFormed
  refine ⟨?_, ?_, fun kind short => readValue_of_short short⟩
  · intro values
    obtain ⟨content, appended⟩ := appendValues_readable formed values
    have before := formed.length_readable
    have fits : b.bbBytesReadable ≤ (b.appendValues values).bbBytesReadable := by
      rw [← appended.length_readable, content, List.length_append, before]
      exact Nat.le_add_right _ _
    have left : ((b.appendValues values).bbRetrieve b.bbBytesReadable).1.readable =
        values.flatMap BufferInt.stored ++ [] := by
      rw [bbRetrieve_readable appended.toValid fits, content, ← before, List.drop_left,
        List.append_nil]
    exact readValues_of_readable (bbRetrieve_wellFormed appended _) left
  · intro value room
    obtain ⟨content, prepended⟩ := prependValue_readable formed room
    obtain ⟨read, left, _⟩ := readValue_of_readable prepended content
    exact ⟨read, left⟩

/-- A buffer that holds five bytes already takes integers of all widths. -/
theorem typed_integers_mixed :
    let b := new.bbAppend [1, 2, 3, 4, 5]
    let values := [.int16 (-2), .int64 (-3), .int8 7, .int32 (-2147483648)]
    let consumed := ((b.appendValues values).bbRetrieve b.bbBytesReadable).1
    (consumed.readValues (values.map BufferInt.kind)).1 = values ∧
      (consumed.readValues (values.map BufferInt.kind)).2.readable = [] := by
  have reached : Reachable (new.bbAppend [1, 2, 3, 4, 5]) :=
    Reachable.new.append [1, 2, 3, 4, 5]
  intro b values consumed
  exact (typed_integers reached).1 values

end ByteBuffer

end Talko.Network
