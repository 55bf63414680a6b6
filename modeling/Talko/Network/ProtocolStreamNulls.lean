import Talko.Network.ProtocolStreamRoundTrip

/-!
# Fields that are null

The calls that write a number take a flag `isNULL`. A packet does not carry the flag: it holds a
stand-in where the number would be, and the reads return what the stand-in stands for.
-/

set_option autoImplicit false

namespace Talko.Network

open Talko.Library

/-- The arguments of one write. `WriteCString` has no flag and ignores this one. -/
structure NullableField where
  field : StreamField
  isNULL : Bool
  deriving DecidableEq

def BinaryStreamWriter.writeNullable (w : BinaryStreamWriter) (nullable : NullableField) :
    BinaryStreamWriter :=
  match nullable.field with
  | .int32 i => w.writeInt32 i nullable.isNULL
  | .int64 i => w.writeInt64 i nullable.isNULL
  | .short i => w.writeShort i nullable.isNULL
  | .char c => w.writeChar c nullable.isNULL
  | .cstring str => w.writeCString str

/-- The flushed packet of a list of writes. -/
def nullablePacket (str : Nat → UInt8) (fields : List NullableField) : List UInt8 :=
  (fields.foldl BinaryStreamWriter.writeNullable (BinaryStreamWriter.new str)).flush.data

/-- What `ReadInt32` makes of the 999999999 that is written without `htonl`. -/
def nullInt32 : Int32 := -3564997

namespace NullableField

/-- The field that leaves the same bytes. A null `int64` is an empty string. -/
def written (nullable : NullableField) : StreamField :=
  if nullable.isNULL = false then nullable.field
  else
    match nullable.field with
    | .int32 _ => .int32 nullInt32
    | .int64 _ => .cstring []
    | .short _ => .short 0
    | .char _ => .char 0
    | .cstring str => .cstring str

/-- What the read that matches the write returns. -/
def readsAs (nullable : NullableField) : StreamField :=
  if nullable.isNULL = false then nullable.field
  else
    match nullable.field with
    | .int32 _ => .int32 nullInt32
    | .int64 _ => .int64 0
    | .short _ => .short 0
    | .char _ => .char 0
    | .cstring str => .cstring str

theorem writeNullable_eq (w : BinaryStreamWriter) (nullable : NullableField) :
    w.writeNullable nullable = w.writeField nullable.written := by
  obtain ⟨field, isNULL⟩ := nullable
  cases isNULL with
  | false =>
      cases field with
      | _ => rfl
  | true =>
      cases field with
      | int32 i =>
          have swapped : byteSwap 4 nullInt32.toUInt32.toNat = 999999999 := by decide
          change w.append (littleEndian 4 999999999) =
            w.append (littleEndian 4 (byteSwap 4 nullInt32.toUInt32.toNat))
          rw [swapped]
      | int64 i => rfl
      | short i => rfl
      | char c => rfl
      | cstring str => rfl

end NullableField

/-- The packet does not tell a null field from its stand-in. -/
theorem nullablePacket_eq (str : Nat → UInt8) (fields : List NullableField) :
    nullablePacket str fields = packet str (fields.map NullableField.written) := by
  have folded : ∀ w : BinaryStreamWriter, fields.foldl BinaryStreamWriter.writeNullable w =
      (fields.map NullableField.written).foldl BinaryStreamWriter.writeField w := by
    intro w
    rw [List.foldl_map]
    congr 1
    funext w nullable
    exact nullable.writeNullable_eq w
  rw [nullablePacket, folded, packet]

/-!
## Reading a stand-in
-/

namespace BinaryStreamReader

/-- Where `ReadString` finds an empty string, `ReadInt64` finds a zero. -/
theorem readInt64_of_empty {r : BinaryStreamReader} {cur : Nat}
    (empty : (r.readString 0).result = .ok [] cur) : r.readInt64.result = .ok 0 cur := by
  have zero : atoll (int64str []) = 0 := by decide
  suffices text : (r.readCString int64strSize).result = .ok [] cur by
    unfold readInt64
    simp only [text, zero]
  unfold readString readCString readBytes at *
  cases head : r.readLengthWithoutOffset.result with
  | overrun => simp [head] at empty
  | failed place => simp [head] at empty
  | ok lengths place =>
      simp only [head] at empty ⊢
      rw [if_neg (by simp)] at empty
      split at empty
      · cases empty
      · next inside =>
          have length : lengths.2 = 0 := by
            have bytes := congrArg List.length (ReadResult.ok.inj empty).1
            simpa [copy] using bytes
          rw [if_neg (by simp [length]), if_neg inside]
          exact empty

/-- The read that matches a write returns what stands for it, where the read of the field that
leaves the same bytes returns that. -/
theorem readField_of_written {r : BinaryStreamReader} {nullable : NullableField} {cur : Nat}
    (found : (r.readField nullable.written.kind).result = .ok nullable.written cur) :
    (r.readField nullable.field.kind).result = .ok nullable.readsAs cur := by
  obtain ⟨field, isNULL⟩ := nullable
  cases isNULL with
  | false => exact found
  | true =>
      cases field with
      | int64 i =>
          change (r.readInt64.map StreamField.int64).result = .ok (.int64 0) cur
          change ((r.readString 0).map StreamField.cstring).result = .ok (.cstring []) cur at found
          have empty : (r.readString 0).result = .ok [] cur := by
            cases result : (r.readString 0).result with
            | ok text place =>
                simp only [ReadCall.map, ReadResult.map, result, ReadResult.ok.injEq,
                  StreamField.cstring.injEq] at found
                rw [found.1, found.2]
            | failed place => simp [ReadCall.map, ReadResult.map, result] at found
            | overrun => simp [ReadCall.map, ReadResult.map, result] at found
          simp only [ReadCall.map, ReadResult.map, readInt64_of_empty empty]
      | int32 i => exact found
      | short i => exact found
      | char c => exact found
      | cstring str => exact found

theorem readFields_of_written {r final : BinaryStreamReader} {fields : List NullableField}
    (found : r.readFields (fields.map (·.written.kind)) =
      some (fields.map NullableField.written, final)) :
    r.readFields (fields.map (·.field.kind)) =
      some (fields.map NullableField.readsAs, final) := by
  induction fields generalizing r with
  | nil => exact found
  | cons nullable rest ih =>
      simp only [List.map_cons, readFields] at found ⊢
      cases result : (r.readField nullable.written.kind).result with
      | failed place => simp [result] at found
      | overrun => simp [result] at found
      | ok field cur =>
          simp only [result] at found
          obtain ⟨⟨others, last⟩, read, same⟩ := Option.map_eq_some_iff.mp found
          simp only [Prod.mk.injEq, List.cons.injEq] at same
          obtain ⟨⟨rfl, rfl⟩, rfl⟩ := same
          simp only [readField_of_written result, ih read, Option.map_some]

end BinaryStreamReader

/-- What is read of a packet whose fields may be null: each field that is not null, zero for a
null `int64`, `short` or `char`, and for a null `int32` the number that 999999999 is in the other
byte order. Nothing is left behind the last field. -/
theorem nullable_packet_reads (str behind : Nat → UInt8) (fields : List NullableField)
    (small : (nullablePacket str fields).length < 2 ^ 32) :
    ∃ final, (BinaryStreamReader.new (nullablePacket str fields) behind).readFields
        (fields.map (·.field.kind)) = some (fields.map NullableField.readsAs, final) ∧
      final.isEnd = true := by
  rw [nullablePacket_eq] at small ⊢
  obtain ⟨final, found, ended⟩ := readFields_packet str behind small
  rw [List.map_map] at found
  exact ⟨final, BinaryStreamReader.readFields_of_written found, ended⟩

theorem nulls_between_values_read :
    ∃ final, (BinaryStreamReader.new (nullablePacket (fun _ => 0)
        [⟨.int64 7, true⟩, ⟨.int32 5, true⟩, ⟨.int32 5, false⟩, ⟨.char 9, true⟩])
          (fun _ => 0)).readFields [.int64, .int32, .int32, .char] =
        some ([.int64 0, .int32 (-3564997), .int32 5, .char 0], final) ∧
      final.isEnd = true := by
  refine nullable_packet_reads (fun _ => 0) (fun _ => 0) _ ?_
  have empty : sevenBit 0 = [0] := sevenBit_of_lt (by decide)
  rw [nullablePacket_eq, length_packet]
  simp [NullableField.written, StreamField.bytes, cstringBytes, empty]

end Talko.Network
