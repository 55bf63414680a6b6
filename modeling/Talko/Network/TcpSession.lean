import Talko.Library.Frames
import Talko.Network.ProtocolStreamRoundTrip

/-!
# Sessions

`TcpSession::send` packs a command, a sequence number and the data, compresses the packet
and puts a header of fixed size in front of it. The receiver cuts the stream apart by the
sizes in the headers. zlib is not part of the repository; its functions are parameters.
-/

set_option autoImplicit false

namespace Talko.Network

open Talko.Library

/-- `compress` and `uncompress` get the room for their output and return it, `none` for
every return value but `Z_OK`. -/
structure Zlib where
  compressBound : Nat → Nat
  compress : List UInt8 → Nat → Option (List UInt8)
  uncompress : List UInt8 → Nat → Option (List UInt8)

def maxCompressBufSize : Nat := 10 * 1024 * 1024

/-- What zlib promises: there is always room enough in `compressBound` bytes, and what has
been compressed is restored when there is room for exactly what it was. -/
structure Zlib.Documented (zlib : Zlib) : Prop where
  compressBound_pos : ∀ length, 0 < zlib.compressBound length
  compressBound_lt : ∀ length ≤ maxCompressBufSize, zlib.compressBound length < 2 ^ 31
  compress_fits : ∀ source : List UInt8,
    ∃ dest, zlib.compress source (zlib.compressBound source.length) = some dest ∧
      dest.length ≤ zlib.compressBound source.length
  uncompress_compress : ∀ (source dest : List UInt8) (room : Nat),
    zlib.compress source room = some dest → zlib.uncompress dest source.length = some source

namespace Zlib

def compressBuf (zlib : Zlib) (strSrcBuf : List UInt8) : Option (List UInt8) :=
  if strSrcBuf = [] then none
  else if strSrcBuf.length > maxCompressBufSize then none
  else if Int32.ofNat (zlib.compressBound strSrcBuf.length) ≤ 0 then none
  else zlib.compress strSrcBuf (zlib.compressBound strSrcBuf.length)

def uncompressBuf (zlib : Zlib) (strSrcBuf : List UInt8) (nDestBufLength : Nat) :
    Option (List UInt8) :=
  zlib.uncompress strSrcBuf nDestBufLength

end Zlib

/-- `chat_msg_header`; nothing ever sets `reserved`. -/
structure ChatMsgHeader where
  compressflag : UInt8
  originsize : Int32
  compresssize : Int32
  reserved : List UInt8
  deriving DecidableEq, Repr

namespace ChatMsgHeader

def size : Nat := 25

/-- The packed structure in memory, on a little-endian host. -/
def toBytes (header : ChatMsgHeader) : List UInt8 :=
  [header.compressflag] ++ littleEndian 4 header.originsize.toUInt32.toNat ++
    littleEndian 4 header.compresssize.toUInt32.toNat ++ header.reserved

def word (bytes : List UInt8) (offset : Nat) : Int32 :=
  (UInt32.ofNat (ofLittleEndian ((bytes.drop offset).take 4))).toInt32

def ofBytes (bytes : List UInt8) : ChatMsgHeader where
  compressflag := bytes.headD 0
  originsize := word bytes 1
  compresssize := word bytes 5
  reserved := bytes.drop 9

end ChatMsgHeader

/-- A call of `send` with four arguments, with what the uninitialised arrays of the packet
and of the header happen to hold. -/
structure SessionSend where
  cmd : Int32
  seq : Int32
  data : List UInt8
  str : Nat → UInt8
  reserved : Nat → UInt8

namespace SessionSend

/-- The packet that `send` flushes. -/
def outbuf (call : SessionSend) : List UInt8 :=
  let w := BinaryStreamWriter.new call.str
  (((w.writeInt32 call.cmd false).writeInt32 call.seq false).writeCString call.data).flush.data

/-- The bytes that `send_pkg` hands to the connection, none if the compression fails. -/
def sendPkg (zlib : Zlib) (reserved : Nat → UInt8) (p : List UInt8) : List UInt8 :=
  match zlib.compressBuf p with
  | none => []
  | some destbuf =>
      let header : ChatMsgHeader :=
        { compressflag := 1
          compresssize := Int32.ofNat destbuf.length
          originsize := Int32.ofNat p.length
          reserved := (List.range 16).map reserved }
      header.toBytes ++ destbuf

def send (zlib : Zlib) (call : SessionSend) : List UInt8 :=
  sendPkg zlib call.reserved call.outbuf

/-- What the receiver is to find. -/
def message (call : SessionSend) : Int32 × Int32 × List UInt8 :=
  (call.cmd, call.seq, call.data)

end SessionSend

/-- The message at the front of a stream and the rest. -/
def recvFrame (zlib : Zlib) (behind : Nat → UInt8) (stream : List UInt8) :
    Option ((Int32 × Int32 × List UInt8) × List UInt8) :=
  if stream.length < ChatMsgHeader.size then none
  else
    let header := ChatMsgHeader.ofBytes (stream.take ChatMsgHeader.size)
    let body := stream.drop ChatMsgHeader.size
    let compresssize := header.compresssize.toInt.toNat
    if body.length < compresssize then none
    else
      match zlib.uncompressBuf (body.take compresssize) header.originsize.toInt.toNat with
      | none => none
      | some package =>
          match (BinaryStreamReader.new package behind).readFields [.int32, .int32, .cstring] with
          | some ([.int32 cmd, .int32 seq, .cstring data], _) =>
              some ((cmd, seq, data), body.drop compresssize)
          | _ => none

def recvStream (zlib : Zlib) (behind : Nat → UInt8) (stream : List UInt8) :
    Option (List (Int32 × Int32 × List UInt8)) :=
  readFrames (recvFrame zlib behind) stream.length stream

/-!
## Headers
-/

namespace ChatMsgHeader

theorem length_toBytes {header : ChatMsgHeader} (full : header.reserved.length = 16) :
    header.toBytes.length = size := by
  simp [toBytes, full, size]

theorem word_littleEndian (value : Int32) (rest : List UInt8) :
    (UInt32.ofNat (ofLittleEndian ((littleEndian 4 value.toUInt32.toNat ++ rest).take 4))).toInt32 =
      value := by
  have small : value.toUInt32.toNat < 256 ^ 4 := value.toUInt32.toNat_lt
  rw [List.take_left' (length_littleEndian 4 _), ofLittleEndian_littleEndian,
    Nat.mod_eq_of_lt small, UInt32.ofNat_toNat]
  rfl

theorem ofBytes_toBytes (header : ChatMsgHeader) : ofBytes header.toBytes = header := by
  obtain ⟨compressflag, originsize, compresssize, reserved⟩ := header
  have origin : word (toBytes ⟨compressflag, originsize, compresssize, reserved⟩) 1 = originsize := by
    simp only [word, toBytes, List.append_assoc]
    exact word_littleEndian originsize _
  have behind : (toBytes ⟨compressflag, originsize, compresssize, reserved⟩).drop 5 =
      littleEndian 4 compresssize.toUInt32.toNat ++ reserved := by
    have front : ([compressflag] ++ littleEndian 4 originsize.toUInt32.toNat).length = 5 := by simp
    rw [toBytes, List.append_assoc, List.drop_left' front]
  have compressed : word (toBytes ⟨compressflag, originsize, compresssize, reserved⟩) 5 =
      compresssize := by
    rw [word, behind]
    exact word_littleEndian compresssize _
  have unset : (toBytes ⟨compressflag, originsize, compresssize, reserved⟩).drop 9 = reserved := by
    have more := congrArg (List.drop 4) behind
    rw [List.drop_drop, List.drop_left' (length_littleEndian 4 _)] at more
    exact more
  unfold ofBytes
  rw [origin, compressed, unset]
  rfl

end ChatMsgHeader

theorem toNat_toInt_ofNat {length : Nat} (small : length < 2 ^ 31) :
    (Int32.ofNat length).toInt.toNat = length := by
  rw [Int32.toInt_ofNat_of_lt small]
  exact Int.toNat_natCast length

namespace Zlib

theorem Documented.compressBuf {zlib : Zlib} (documented : zlib.Documented) {source : List UInt8}
    (present : source ≠ []) (small : source.length ≤ maxCompressBufSize) :
    ∃ dest, zlib.compressBuf source = some dest ∧ dest.length < 2 ^ 31 ∧
      zlib.uncompressBuf dest source.length = some source := by
  obtain ⟨dest, compressed, fits⟩ := documented.compress_fits source
  have bound := documented.compressBound_lt source.length small
  have positive := documented.compressBound_pos source.length
  refine ⟨dest, ?_, by omega, documented.uncompress_compress source dest _ compressed⟩
  have allocated : ¬ Int32.ofNat (zlib.compressBound source.length) ≤ 0 := by
    rw [Int32.le_iff_toInt_le, Int32.toInt_ofNat_of_lt bound]
    exact Int.not_le.mpr (Int.natCast_pos.mpr positive)
  rw [Zlib.compressBuf, if_neg present, if_neg (Nat.not_lt.mpr small), if_neg allocated]
  exact compressed

end Zlib

/-!
## Frames
-/

namespace SessionSend

def fields (call : SessionSend) : List StreamField :=
  [.int32 call.cmd, .int32 call.seq, .cstring call.data]

theorem outbuf_eq (call : SessionSend) : call.outbuf = packet call.str call.fields := rfl

theorem outbuf_ne_nil (call : SessionSend) : call.outbuf ≠ [] := by
  apply List.length_pos_iff.mp
  rw [outbuf_eq, length_packet]
  omega

theorem send_eq {zlib : Zlib} (documented : zlib.Documented) {call : SessionSend}
    (small : call.outbuf.length ≤ maxCompressBufSize) :
    ∃ destbuf, call.send zlib =
        (⟨1, Int32.ofNat call.outbuf.length, Int32.ofNat destbuf.length,
          (List.range 16).map call.reserved⟩ : ChatMsgHeader).toBytes ++ destbuf ∧
      destbuf.length < 2 ^ 31 ∧
      zlib.uncompressBuf destbuf call.outbuf.length = some call.outbuf := by
  obtain ⟨destbuf, compressed, short, restored⟩ := documented.compressBuf call.outbuf_ne_nil small
  refine ⟨destbuf, ?_, short, restored⟩
  rw [send, sendPkg, compressed]

/-- The frame of a call is found at the front of whatever follows it. -/
theorem recvFrame_send {zlib : Zlib} (documented : zlib.Documented) (behind : Nat → UInt8)
    {call : SessionSend} (small : call.outbuf.length ≤ maxCompressBufSize) (rest : List UInt8) :
    recvFrame zlib behind (call.send zlib ++ rest) = some (call.message, rest) := by
  obtain ⟨destbuf, sent, short, restored⟩ := send_eq documented small
  rw [sent]
  generalize framed : (⟨1, Int32.ofNat call.outbuf.length, Int32.ofNat destbuf.length,
    (List.range 16).map call.reserved⟩ : ChatMsgHeader) = header
  have full : header.toBytes.length = ChatMsgHeader.size := by
    apply ChatMsgHeader.length_toBytes
    rw [← framed]
    simp
  have small' : call.outbuf.length < 2 ^ 31 := Nat.lt_of_le_of_lt small (by decide)
  have origin : header.originsize.toInt.toNat = call.outbuf.length := by
    rw [← framed]
    exact toNat_toInt_ofNat small'
  have compressed : header.compresssize.toInt.toNat = destbuf.length := by
    rw [← framed]
    exact toNat_toInt_ofNat short
  have long : ¬ (header.toBytes ++ destbuf ++ rest).length < ChatMsgHeader.size := by
    simp only [List.length_append, full]
    omega
  have front : (header.toBytes ++ destbuf ++ rest).take ChatMsgHeader.size = header.toBytes := by
    rw [List.append_assoc, List.take_left' full]
  have body : (header.toBytes ++ destbuf ++ rest).drop ChatMsgHeader.size = destbuf ++ rest := by
    rw [List.append_assoc, List.drop_left' full]
  have whole : ¬ (destbuf ++ rest).length < destbuf.length := by
    rw [List.length_append]
    omega
  obtain ⟨final, read, -⟩ := readFields_packet call.str behind
    (Nat.lt_of_lt_of_le small' (by decide) : (packet call.str call.fields).length < 2 ^ 32)
  have kinds : call.fields.map StreamField.kind = [.int32, .int32, .cstring] := rfl
  rw [kinds, ← outbuf_eq] at read
  rw [recvFrame, if_neg long, front, body, ChatMsgHeader.ofBytes_toBytes]
  dsimp only
  rw [compressed, origin, if_neg whole, List.take_left, restored]
  dsimp only
  rw [read, List.drop_left]
  rfl

theorem send_ne_nil {zlib : Zlib} (documented : zlib.Documented) {call : SessionSend}
    (small : call.outbuf.length ≤ maxCompressBufSize) : call.send zlib ≠ [] := by
  obtain ⟨destbuf, sent, -, -⟩ := send_eq documented small
  rw [sent]
  exact List.cons_ne_nil _ _

end SessionSend

/-- Whatever the uninitialised bytes hold, the stream of any sequence of calls is cut apart
into exactly what was sent. -/
theorem framed_sends_decode {zlib : Zlib} (documented : zlib.Documented) (behind : Nat → UInt8)
    (calls : List SessionSend)
    (small : ∀ call ∈ calls, call.outbuf.length ≤ maxCompressBufSize) :
    recvStream zlib behind (calls.flatMap (SessionSend.send zlib)) =
      some (calls.map SessionSend.message) := by
  have present : ∀ call ∈ calls, call.send zlib ≠ [] :=
    fun call member => SessionSend.send_ne_nil documented (small call member)
  refine readFrames_flatMap ?_ present (length_le_length_flatMap present)
  exact fun call member rest => SessionSend.recvFrame_send documented behind (small call member) rest

/-- A library that makes of one packet what zlib makes of it, and copies any other. -/
def Zlib.packing (packet compressed : List UInt8) : Zlib where
  compressBound := fun length => length + length / 4096 + length / 16384 + length / 33554432 + 13
  compress := fun source _ => if source = packet then some compressed else some source
  uncompress := fun source room =>
    if source = compressed ∧ room = packet.length then some packet else some source

theorem Zlib.packing_documented {packet compressed : List UInt8}
    (fits : compressed.length ≤ packet.length + 13)
    (differ : compressed.length ≠ packet.length) : (Zlib.packing packet compressed).Documented := by
  refine ⟨fun length => Nat.succ_pos _, fun length small => ?_, fun source => ?_, ?_⟩
  · simp only [packing, maxCompressBufSize] at small ⊢
    omega
  · simp only [packing]
    split
    · next same =>
        refine ⟨compressed, rfl, ?_⟩
        rw [same]
        omega
    · exact ⟨source, rfl, by omega⟩
  · intro source dest room stored
    simp only [packing] at stored ⊢
    split at stored
    · next same =>
        cases stored
        rw [same, if_pos ⟨rfl, rfl⟩]
    · cases stored
      rw [if_neg]
      rintro ⟨same, size⟩
      exact differ (same ▸ size)

private def heartbeat : SessionSend where
  cmd := 1000
  seq := 0
  data := []
  str := fun _ => 0
  reserved := fun _ => 0

/-- What zlib makes of the packet of a heartbeat. -/
private def heartbeatZlib : Zlib :=
  .packing [0, 0, 0, 15, 0, 0, 0, 0, 3, 232, 0, 0, 0, 0, 0]
    [120, 156, 99, 96, 96, 224, 103, 0, 2, 230, 23, 32, 146, 1, 0, 6, 72, 0, 251]

theorem heartbeats_decode :
    recvStream heartbeatZlib (fun _ => 0)
        ([heartbeat, heartbeat].flatMap (SessionSend.send heartbeatZlib)) =
      some [(1000, 0, []), (1000, 0, [])] := by
  have documented : heartbeatZlib.Documented := Zlib.packing_documented (by decide) (by decide)
  have small : heartbeat.outbuf.length ≤ maxCompressBufSize := by
    have empty : sevenBit 0 = [0] := sevenBit_of_lt (by decide)
    rw [SessionSend.outbuf_eq, length_packet]
    simp [SessionSend.fields, heartbeat, StreamField.bytes, cstringBytes, empty, maxCompressBufSize]
  refine framed_sends_decode documented (fun _ => 0) [heartbeat, heartbeat] ?_
  exact List.forall_mem_cons.mpr ⟨small, List.forall_mem_singleton.mpr small⟩

end Talko.Network
