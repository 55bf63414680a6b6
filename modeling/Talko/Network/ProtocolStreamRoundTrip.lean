import Talko.Network.ProtocolStreamProperties

/-!
# What is written is read back

A packet is the sequence of its fields without tags, so the reader finds a field only
if every earlier one ends where it was written to end. The bytes of each field are
named once, and each read is shown to consume exactly these.
-/

set_option autoImplicit false

namespace Talko.Network

open Talko.Library

inductive StreamField where
  | int32 (i : Int32)
  | int64 (i : Int64)
  | short (i : Int16)
  | char (c : UInt8)
  | cstring (str : List UInt8)
  deriving DecidableEq

inductive FieldKind where
  | int32
  | int64
  | short
  | char
  | cstring
  deriving DecidableEq, Repr

def StreamField.kind : StreamField → FieldKind
  | .int32 _ => .int32
  | .int64 _ => .int64
  | .short _ => .short
  | .char _ => .char
  | .cstring _ => .cstring

def BinaryStreamWriter.writeField (w : BinaryStreamWriter) : StreamField → BinaryStreamWriter
  | .int32 i => w.writeInt32 i false
  | .int64 i => w.writeInt64 i false
  | .short i => w.writeShort i false
  | .char c => w.writeChar c false
  | .cstring str => w.writeCString str

def BinaryStreamReader.readField (r : BinaryStreamReader) : FieldKind → ReadCall StreamField
  | .int32 => r.readInt32.map .int32
  | .int64 => r.readInt64.map .int64
  | .short => r.readShort.map .short
  | .char => r.readChar.map .char
  | .cstring => (r.readString 0).map .cstring

def BinaryStreamReader.readFields (r : BinaryStreamReader) :
    List FieldKind → Option (List StreamField × BinaryStreamReader)
  | [] => some ([], r)
  | kind :: rest =>
      match (r.readField kind).result with
      | .ok field cur =>
          (BinaryStreamReader.readFields { r with cur := cur } rest).map
            fun (fields, final) => (field :: fields, final)
      | .failed _ => none
      | .overrun => none

/-- The flushed packet of a list of fields; `str` are the uninitialised header bytes. -/
def packet (str : Nat → UInt8) (fields : List StreamField) : List UInt8 :=
  (fields.foldl BinaryStreamWriter.writeField (BinaryStreamWriter.new str)).flush.data

/-!
## The bytes of a field
-/

def cstringBytes (str : List UInt8) : List UInt8 :=
  sevenBit (UInt64.ofNat str.length).toNat ++ str

def StreamField.bytes : StreamField → List UInt8
  | .int32 i => bigEndian 4 i.toUInt32.toNat
  | .int64 i => cstringBytes (signedText i.toInt)
  | .short i => bigEndian 2 i.toUInt16.toNat
  | .char c => [c]
  | .cstring str => cstringBytes str

private theorem writeCString_data (w : BinaryStreamWriter) (str : List UInt8) :
    (w.writeCString str).data = w.data ++ cstringBytes str := by
  simp only [BinaryStreamWriter.writeCString, BinaryStreamWriter.append, cstringBytes,
    write7BitEncoded64, write7BitLoop_eq, List.append_assoc]

private theorem writeField_data (w : BinaryStreamWriter) (field : StreamField) :
    (w.writeField field).data = w.data ++ field.bytes := by
  cases field with
  | int32 i =>
      simp only [BinaryStreamWriter.writeField, BinaryStreamWriter.writeInt32, if_true,
        BinaryStreamWriter.append, StreamField.bytes, littleEndian_byteSwap]
  | int64 i =>
      simp only [BinaryStreamWriter.writeField, BinaryStreamWriter.writeInt64, if_true,
        writeCString_data, StreamField.bytes]
  | short i =>
      simp only [BinaryStreamWriter.writeField, BinaryStreamWriter.writeShort, if_true,
        BinaryStreamWriter.append, StreamField.bytes, littleEndian_byteSwap]
  | char c =>
      simp only [BinaryStreamWriter.writeField, BinaryStreamWriter.writeChar, if_true,
        BinaryStreamWriter.append, StreamField.bytes]
  | cstring str =>
      simp only [BinaryStreamWriter.writeField, writeCString_data, StreamField.bytes]

private theorem writeFields_data (fields : List StreamField) (w : BinaryStreamWriter) :
    (fields.foldl BinaryStreamWriter.writeField w).data =
      w.data ++ fields.flatMap StreamField.bytes := by
  induction fields generalizing w with
  | nil => simp
  | cons field rest ih =>
      rw [List.foldl_cons, ih, writeField_data, List.flatMap_cons, List.append_assoc]

private theorem packet_eq (str : Nat → UInt8) (fields : List StreamField) :
    packet str fields =
      bigEndian 4 (packet str fields).length ++ [str 4, str 5] ++
        fields.flatMap StreamField.bytes := by
  have header : (BinaryStreamWriter.new str).data =
      [str 0, str 1, str 2, str 3] ++ ([str 4, str 5] : List UInt8) := rfl
  have shape : packet str fields =
      bigEndian 4 (([str 0, str 1, str 2, str 3] ++ [str 4, str 5]) ++
        fields.flatMap StreamField.bytes).length ++ [str 4, str 5] ++
          fields.flatMap StreamField.bytes := by
    simp only [packet, BinaryStreamWriter.flush, writeFields_data, header, overwrite,
      littleEndian_byteSwap, length_bigEndian]
    rfl
  have size : (packet str fields).length =
      (([str 0, str 1, str 2, str 3] ++ [str 4, str 5]) ++
        fields.flatMap StreamField.bytes).length := by
    rw [shape]
    simp only [List.length_append, length_bigEndian, List.length_cons, List.length_nil]
  rw [size]
  exact shape

theorem length_packet (str : Nat → UInt8) (fields : List StreamField) :
    (packet str fields).length = 6 + (fields.flatMap StreamField.bytes).length := by
  have size := congrArg List.length (packet_eq str fields)
  simpa only [List.length_append, length_bigEndian, List.length_cons, List.length_nil] using size

/-!
## Reading one field
-/

namespace BinaryStreamReader

private theorem add_length_le {r : BinaryStreamReader} {offset : Nat} {bytes rest : List UInt8}
    (found : r.ptr.drop offset = bytes ++ rest) (nonempty : bytes ≠ []) :
    offset + bytes.length ≤ r.len := by
  have size := congrArg List.length found
  have positive := List.length_pos_iff.mpr nonempty
  simp only [List.length_drop, List.length_append] at size
  unfold len
  omega

theorem readLengthWithoutOffset_result {r : BinaryStreamReader} {value : Nat}
    {rest : List UInt8} (found : r.ptr.drop r.cur = sevenBit value ++ rest)
    (small : value < 2 ^ 32) :
    r.readLengthWithoutOffset.result = .ok ((sevenBit value).length, value) r.cur := by
  have complete := terminated_sevenBit value
  have short : (sevenBit value).length ≤ lengthBufferSize :=
    length_sevenBit_le (Nat.lt_of_lt_of_le small (by decide))
  have inside := add_length_le found (sevenBit_ne_nil value)
  simp only [readLengthWithoutOffset, copyLength_of_terminated found complete short,
    Nat.not_lt.mpr inside, if_false, read7BitEncoded32_sevenBit small]

private theorem readBytes_result {r : BinaryStreamReader} {str rest : List UInt8}
    (found : r.ptr.drop r.cur = cstringBytes str ++ rest) (small : str.length < 2 ^ 32)
    (tooLong : Nat → Bool) (accepted : tooLong str.length = false) (copies : Bool) :
    (r.readBytes tooLong copies).result = .ok str (r.cur + (cstringBytes str).length) := by
  have word : (UInt64.ofNat str.length).toNat = str.length := by
    rw [UInt64.toNat_ofNat']
    exact Nat.mod_eq_of_lt (Nat.lt_of_lt_of_le small (by decide))
  unfold cstringBytes at found ⊢
  rw [word] at found ⊢
  rw [List.append_assoc] at found
  have head := readLengthWithoutOffset_result found small
  have body : r.ptr.drop (r.cur + (sevenBit str.length).length) = str ++ rest := by
    rw [← List.drop_drop, found, List.drop_left]
  have inside : r.cur + (sevenBit str.length).length + str.length ≤ r.len := by
    have size := congrArg List.length found
    have nonempty := List.length_pos_iff.mpr (sevenBit_ne_nil str.length)
    simp only [List.length_drop, List.length_append] at size
    unfold len
    omega
  simp only [readBytes, head, accepted, Bool.false_eq_true, if_false, Nat.not_lt.mpr inside,
    copy_of_drop body, List.length_append]
  rw [Nat.add_assoc]

private theorem readWord_result {r : BinaryStreamReader} {bytes rest : List UInt8}
    (found : r.ptr.drop r.cur = bytes ++ rest) (nonempty : bytes ≠ []) :
    (r.readWord bytes.length).result = .ok (ofLittleEndian bytes) (r.cur + bytes.length) := by
  have inside := add_length_le found nonempty
  simp only [readWord, Nat.not_lt.mpr inside, if_false, copy_of_drop found]

private theorem readWord_bigEndian {r : BinaryStreamReader} {width word : Nat}
    {rest : List UInt8} (found : r.ptr.drop r.cur = bigEndian width word ++ rest)
    (positive : 0 < width) (small : word < 256 ^ width) :
    ∃ stored, (r.readWord width).result = .ok stored (r.cur + width) ∧
      byteSwap width stored = word := by
  have nonempty : bigEndian width word ≠ [] := by
    apply List.length_pos_iff.mp
    rw [length_bigEndian]
    exact positive
  have read := readWord_result found nonempty
  rw [length_bigEndian] at read
  refine ⟨_, read, ?_⟩
  rw [byteSwap_ofLittleEndian_bigEndian, Nat.mod_eq_of_lt small]

end BinaryStreamReader

private theorem stopsDigits_zeros (count : Nat) : StopsDigits (List.replicate count 0) := by
  intro byte member
  cases count with
  | zero => simp at member
  | succ count =>
      simp only [List.replicate_succ, List.head?_cons, Option.mem_def, Option.some.injEq] at member
      rw [← member]
      rfl

private theorem length_signedText_le (value : Int64) : (signedText value.toInt).length ≤ 20 := by
  have lower := Int64.le_toInt value
  have upper := Int64.toInt_lt value
  have digits : (decimalText value.toInt.natAbs).length ≤ 19 :=
    length_decimalText_le (by decide) (by omega)
  unfold signedText
  split
  · rw [List.length_cons]
    omega
  · omega

private theorem atoll_signedText (value : Int64) :
    atoll (BinaryStreamReader.int64str (signedText value.toInt)) = value := by
  have lower := Int64.le_toInt value
  have upper := Int64.toInt_lt value
  have least : Int64.minValue.toInt = -2 ^ 63 := rfl
  have most : Int64.maxValue.toInt = 2 ^ 63 - 1 := rfl
  have inside : max Int64.minValue.toInt (min Int64.maxValue.toInt value.toInt) = value.toInt := by
    rw [least, most]
    omega
  unfold atoll BinaryStreamReader.int64str
  rw [leadingNumber_signedText _ (stopsDigits_zeros _), inside, Int64.ofInt_toInt]

/-- The read that matches a field returns it and stops right behind its bytes. -/
private theorem readField_result {r : BinaryStreamReader} {field : StreamField}
    {rest : List UInt8} (found : r.ptr.drop r.cur = field.bytes ++ rest)
    (small : field.bytes.length < 2 ^ 32) :
    (r.readField field.kind).result = .ok field (r.cur + field.bytes.length) := by
  cases field with
  | int32 i =>
      obtain ⟨stored, read, swapped⟩ :=
        BinaryStreamReader.readWord_bigEndian found (by decide) i.toUInt32.toNat_lt
      simp only [StreamField.kind, BinaryStreamReader.readField, BinaryStreamReader.readInt32,
        StreamField.bytes, length_bigEndian, ReadCall.map, read, ReadResult.map, swapped,
        UInt32.ofNat_toNat]
      rfl
  | short i =>
      obtain ⟨stored, read, swapped⟩ :=
        BinaryStreamReader.readWord_bigEndian found (by decide) i.toUInt16.toNat_lt
      simp only [StreamField.kind, BinaryStreamReader.readField, BinaryStreamReader.readShort,
        StreamField.bytes, length_bigEndian, ReadCall.map, read, ReadResult.map, swapped,
        UInt16.ofNat_toNat]
      rfl
  | char c =>
      have word := BinaryStreamReader.readWord_result found (by simp [StreamField.bytes])
      have value : ofLittleEndian [c] = c.toNat := by simp [ofLittleEndian]
      simp only [StreamField.bytes, List.length_singleton] at word
      simp only [StreamField.kind, BinaryStreamReader.readField, BinaryStreamReader.readChar,
        StreamField.bytes, List.length_singleton, ReadCall.map, word, ReadResult.map, value,
        UInt8.ofNat_toNat]
  | int64 i =>
      have length := length_signedText_le i
      have accepted :
          decide ((signedText i.toInt).length > BinaryStreamReader.int64strSize) = false := by
        rw [decide_eq_false_iff_not]
        unfold BinaryStreamReader.int64strSize
        omega
      have text := BinaryStreamReader.readBytes_result found
        (Nat.lt_of_le_of_lt length (by decide))
        (fun fieldlen => fieldlen > BinaryStreamReader.int64strSize) accepted true
      simp only [StreamField.kind, BinaryStreamReader.readField, BinaryStreamReader.readInt64,
        BinaryStreamReader.readCString, ReadCall.map, text, ReadResult.map, atoll_signedText,
        StreamField.bytes]
  | cstring str =>
      have length : str.length < 2 ^ 32 := by
        simp only [StreamField.bytes, cstringBytes, List.length_append] at small
        omega
      have text := BinaryStreamReader.readBytes_result found length
        (fun fieldlen => (0 : Nat) ≠ 0 && fieldlen > 0) (by simp) true
      simp only [StreamField.kind, BinaryStreamReader.readField, BinaryStreamReader.readString,
        ReadCall.map, text, ReadResult.map, StreamField.bytes]

/-!
## Reading a packet
-/

private theorem readFields_result {fields : List StreamField} {r : BinaryStreamReader}
    (found : r.ptr.drop r.cur = fields.flatMap StreamField.bytes)
    (small : r.len < 2 ^ 32) :
    r.readFields (fields.map StreamField.kind) =
      some (fields, { r with cur := r.cur + (fields.flatMap StreamField.bytes).length }) := by
  induction fields generalizing r with
  | nil => rfl
  | cons field rest ih =>
      rw [List.flatMap_cons] at found
      have bounded : field.bytes.length < 2 ^ 32 := by
        have size := congrArg List.length found
        simp only [List.length_drop, List.length_append] at size
        unfold BinaryStreamReader.len at small
        omega
      have first := readField_result found bounded
      have next : r.ptr.drop (r.cur + field.bytes.length) = rest.flatMap StreamField.bytes := by
        rw [← List.drop_drop, found, List.drop_left]
      have others := @ih { r with cur := r.cur + field.bytes.length } next small
      simp only [List.map_cons, BinaryStreamReader.readFields, first, others, Option.map_some,
        List.flatMap_cons, List.length_append, Nat.add_assoc]

/-- The reads that match the fields find them in the packet, up to its end. -/
theorem readFields_packet (str behind : Nat → UInt8) {fields : List StreamField}
    (small : (packet str fields).length < 2 ^ 32) :
    ∃ final, (BinaryStreamReader.new (packet str fields) behind).readFields
        (fields.map StreamField.kind) = some (fields, final) ∧
      final.isEnd = true := by
  have head : (bigEndian 4 (packet str fields).length ++ [str 4, str 5]).length = 6 := by
    simp only [List.length_append, length_bigEndian, List.length_cons, List.length_nil]
  have found : (BinaryStreamReader.new (packet str fields) behind).ptr.drop
      (BinaryStreamReader.new (packet str fields) behind).cur =
        fields.flatMap StreamField.bytes := by
    change (packet str fields).drop 6 = _
    conv_lhs => rw [packet_eq str fields]
    rw [List.drop_left' head]
  refine ⟨_, readFields_result found small, ?_⟩
  apply decide_eq_true
  exact (length_packet str fields).symm

/-- The packet starts with its own length in network order, and the matching reads
return the written fields, one after the other, up to the end of the packet. -/
theorem packet_round_trip (str behind : Nat → UInt8) (fields : List StreamField)
    (small : (packet str fields).length < 2 ^ 32) :
    (packet str fields).take 4 = bigEndian 4 (packet str fields).length ∧
      ∃ final, (BinaryStreamReader.new (packet str fields) behind).readFields
          (fields.map StreamField.kind) = some (fields, final) ∧
        final.isEnd = true := by
  refine ⟨?_, readFields_packet str behind small⟩
  conv_lhs => rw [packet_eq str fields]
  rw [List.append_assoc, List.take_left' (length_bigEndian 4 _)]

theorem packet_round_trip_minimum :
    ∃ final, (BinaryStreamReader.new (packet (fun _ => 0)
        [.int64 Int64.minValue, .cstring [], .short (-2), .int32 7, .char 255]) (fun _ => 0)).readFields
          [.int64, .cstring, .short, .int32, .char] =
        some ([.int64 Int64.minValue, .cstring [], .short (-2), .int32 7, .char 255], final) ∧
      final.isEnd = true := by
  refine (packet_round_trip (fun _ => 0) (fun _ => 0) _ ?_).2
  have text : (signedText (-9223372036854775808)).length = 20 := by decide
  have short : sevenBit 20 = [20] := sevenBit_of_lt (by decide)
  have empty : sevenBit 0 = [0] := sevenBit_of_lt (by decide)
  simp [length_packet, StreamField.bytes, cstringBytes, text, short, empty]

end Talko.Network
