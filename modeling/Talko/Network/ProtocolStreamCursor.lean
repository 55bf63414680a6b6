import Talko.Network.ProtocolStreamBounds

/-!
# What a read consumes

A read that returns true takes the bytes of its field from the packet; one that returns false
should take none. The string reads move the position behind the length before they test whether
the text is there, so a text that the packet cuts off costs its length.
-/

set_option autoImplicit false

namespace Talko.Network

open Talko.Library

namespace BinaryStreamReader

/-!
## Fields
-/

/-- The bytes of a length as `read7BitEncoded` takes them. -/
structure EncodesLength (field : List UInt8) (value : Nat) : Prop where
  complete : Terminated field
  short : field.length ≤ lengthBufferSize
  decoded : read7BitEncoded32 field = some value

/-- A text with its length before it. -/
def EncodesText (field text : List UInt8) : Prop :=
  ∃ buf, field = buf ++ text ∧ EncodesLength buf text.length

/-- A word of `size` bytes that `ofWord` makes a value of. -/
def EncodesWord {α : Type} (size : Nat) (ofWord : Nat → α) (field : List UInt8) (value : α) :
    Prop :=
  field.length = size ∧ value = ofWord (ofLittleEndian field)

def EncodesInt64 (field : List UInt8) (value : Int64) : Prop :=
  ∃ text, EncodesText field text ∧ value = atoll (int64str text)

/-- The answer of a read: a failed one leaves the position, one that returns a value moves it
behind the bytes of that value, which are in the packet. -/
def ConsumesField {α : Type} (r : BinaryStreamReader) (encodes : List UInt8 → α → Prop) :
    ReadResult α → Prop
  | .ok value cur => ∃ field rest, r.ptr.drop r.cur = field ++ rest ∧ encodes field value ∧
      cur = r.cur + field.length ∧ cur ≤ r.len
  | .failed cur => cur = r.cur
  | .overrun => False

def Consumes (r : BinaryStreamReader) : ReaderCall → Prop
  | .readString maxlen => r.ConsumesField EncodesText (r.readString maxlen).result
  | .readCString strlen => r.ConsumesField EncodesText (r.readCString strlen).result
  | .readCCString maxlen => r.ConsumesField EncodesText (r.readCCString maxlen).result
  | .readInt32 =>
      r.ConsumesField (EncodesWord 4 fun word => (UInt32.ofNat (byteSwap 4 word)).toInt32)
        r.readInt32.result
  | .readInt64 => r.ConsumesField EncodesInt64 r.readInt64.result
  | .readShort =>
      r.ConsumesField (EncodesWord 2 fun word => (UInt16.ofNat (byteSwap 2 word)).toInt16)
        r.readShort.result
  | .readChar => r.ConsumesField (EncodesWord 1 UInt8.ofNat) r.readChar.result
  | .readLength => r.ConsumesField EncodesLength r.readLength.result

/-!
## Which packets serve
-/

/-- The five bytes at the position are not all marked as continued. -/
def LengthEnds (r : BinaryStreamReader) : Prop :=
  lengthBufferSize ≤ (r.ptr.drop r.cur).length → r.HoldsLength

/-- A length at the position that the caller's limit admits has its text in the packet. -/
def TextInside (r : BinaryStreamReader) (tooLong : Nat → Bool) : Prop :=
  ∀ buf rest value, r.ptr.drop r.cur = buf ++ rest → EncodesLength buf value →
    tooLong value = false → value ≤ rest.length

def ServesText (r : BinaryStreamReader) (tooLong : Nat → Bool) : Prop :=
  r.LengthEnds ∧ r.TextInside tooLong

/-- What a call needs of the bytes at the position. -/
def Whole (r : BinaryStreamReader) : ReaderCall → Prop
  | .readInt32 | .readShort | .readChar => True
  | .readLength => r.LengthEnds
  | .readString maxlen | .readCCString maxlen =>
      r.ServesText fun fieldlen => maxlen ≠ 0 && fieldlen > maxlen
  | .readCString strlen => r.ServesText fun fieldlen => fieldlen > strlen
  | .readInt64 => r.ServesText fun fieldlen => fieldlen > int64strSize

/-!
## Lengths
-/

theorem copyLength_length_le (load : Nat → UInt8) (room temp : Nat) :
    (copyLength load room temp).length ≤ room := by
  induction room generalizing temp with
  | zero => exact Nat.le_refl 0
  | succ room ih =>
      rw [copyLength]
      split
      · exact Nat.succ_le_succ (ih (temp + 1))
      · exact Nat.succ_le_succ (Nat.zero_le room)

/-- Without a complete length the read of it fails at the end of the packet, or runs out of the
five bytes it copied. -/
theorem readLengthWithoutOffset_of_lacks {r : BinaryStreamReader} (lacks : ¬ r.HoldsLength) :
    r.readLengthWithoutOffset.result =
      if lengthBufferSize ≤ (r.ptr.drop r.cur).length then .overrun else .failed r.cur := by
  have size : (r.ptr.drop r.cur).length = r.len - r.cur := List.length_drop
  have bound := copyLength_length_le r.load lengthBufferSize r.cur
  obtain ⟨full, inside, continuing⟩ | outside :=
    copyLength_of_continues (continues_of_lacks lacks)
  · have decoded : read7BitEncoded32 (copyLength r.load lengthBufferSize r.cur) = none :=
      (read7Bit_of_continues continuing 32 0 0).1
    have fits := lengthBuffer_inside inside
    simp only [readLengthWithoutOffset, full, Nat.not_lt.mpr fits, if_false, decoded, inside,
      if_true]
  · have cut : r.cur + (copyLength r.load lengthBufferSize r.cur).length > r.len := by
      rw [size] at outside
      omega
    have few : ¬ lengthBufferSize ≤ (r.ptr.drop r.cur).length := by omega
    simp only [readLengthWithoutOffset, cut, if_true, few, if_false]

theorem length_of_split {r : BinaryStreamReader} {buf rest : List UInt8}
    (found : r.ptr.drop r.cur = buf ++ rest) (filled : buf ≠ []) :
    r.cur + buf.length + rest.length = r.len := by
  have size := congrArg List.length found
  have positive := List.length_pos_iff.mpr filled
  simp only [List.length_drop, List.length_append] at size
  unfold len
  omega

theorem EncodesLength.filled {field : List UInt8} {value : Nat}
    (encodes : EncodesLength field value) : field ≠ [] := by
  rintro rfl
  exact encodes.complete

/-- The test of `TextInside` at the one length that the position holds. -/
theorem textInside_iff {r : BinaryStreamReader} {buf rest : List UInt8} {value : Nat}
    (found : r.ptr.drop r.cur = buf ++ rest) (encodes : EncodesLength buf value)
    (tooLong : Nat → Bool) :
    r.TextInside tooLong ↔ (tooLong value = false → value ≤ rest.length) := by
  constructor
  · intro inside
    exact inside buf rest value found encodes
  · intro inside other tail otherValue otherFound otherEncodes
    obtain ⟨rfl, rfl⟩ := lengthPrefix_unique found encodes.complete encodes.short otherFound
      otherEncodes.complete otherEncodes.short
    have same : otherValue = value :=
      Option.some.inj (otherEncodes.decoded.symm.trans encodes.decoded)
    rw [same]
    exact inside

/-- Where no length is complete, no text is promised. -/
theorem textInside_of_lacks {r : BinaryStreamReader} (lacks : ¬ r.HoldsLength)
    (tooLong : Nat → Bool) : r.TextInside tooLong := by
  intro buf rest value found encodes
  have all : ∀ c ∈ buf, continues c = true := by
    intro c member
    by_contra stops
    refine lacks (List.any_eq_true.mpr ⟨c, ?_, by simp [stops]⟩)
    rw [found, List.take_append, List.take_of_length_le encodes.short]
    exact List.mem_append_left _ member
  have decoded : read7BitEncoded32 buf = none := (read7Bit_of_continues all 32 0 0).1
  rw [encodes.decoded] at decoded
  cases decoded

/-!
## The reads
-/

/-- The text that a string read returns is the field at the position. -/
theorem consumesText {r : BinaryStreamReader} {buf rest : List UInt8} {value : Nat}
    (found : r.ptr.drop r.cur = buf ++ rest) (encodes : EncodesLength buf value)
    (inside : value ≤ rest.length) :
    r.ConsumesField EncodesText (.ok (rest.take value) (r.cur + buf.length + value)) := by
  have total := length_of_split found encodes.filled
  have taken : (rest.take value).length = value := List.length_take_of_le inside
  refine ⟨buf ++ rest.take value, rest.drop value, ?_, ⟨buf, rfl, ?_⟩, ?_, ?_⟩
  · rw [found, List.append_assoc, List.take_append_drop]
  · rwa [taken]
  · rw [List.length_append, taken, Nat.add_assoc]
  · omega

/-- The four ends of a string read. -/
theorem readBytes_cases (r : BinaryStreamReader) (tooLong : Nat → Bool) (copies : Bool) :
    (r.readBytes tooLong copies).result = .overrun ∧ ¬ r.ServesText tooLong ∨
      (r.readBytes tooLong copies).result = .failed r.cur ∧ r.ServesText tooLong ∨
      (∃ headlen, 0 < headlen ∧ (r.readBytes tooLong copies).result = .failed (r.cur + headlen) ∧
        ¬ r.ServesText tooLong) ∨
      ∃ text cur, (r.readBytes tooLong copies).result = .ok text cur ∧
        r.ConsumesField EncodesText (.ok text cur) ∧ r.ServesText tooLong := by
  by_cases holds : r.HoldsLength
  · obtain ⟨-, buf, rest, value, found, complete, short, decoded, result⟩ :=
      readBytes_of_holds holds tooLong copies
    have encodes : EncodesLength buf value := ⟨complete, short, decoded⟩
    have ends : r.LengthEnds := fun _ => holds
    have inside := textInside_iff found encodes tooLong
    rw [result]
    cases long : tooLong value with
    | true => exact .inr (.inl ⟨rfl, ends, inside.mpr (by simp [long])⟩)
    | false =>
        by_cases cut : rest.length < value
        · have lost : ¬ r.ServesText tooLong := fun serves =>
            absurd (inside.mp serves.2 long) (Nat.not_le.mpr cut)
          have positive := List.length_pos_iff.mpr encodes.filled
          exact .inr (.inr (.inl ⟨buf.length, positive, by simp [cut], lost⟩))
        · have fits := Nat.le_of_not_lt cut
          refine .inr (.inr (.inr ⟨_, _, by simp [cut], consumesText found encodes fits, ends, ?_⟩))
          exact inside.mpr fun _ => fits
  · have head := readLengthWithoutOffset_of_lacks holds
    by_cases many : lengthBufferSize ≤ (r.ptr.drop r.cur).length
    · rw [if_pos many] at head
      exact .inl ⟨by simp only [readBytes, head], fun serves => holds (serves.1 many)⟩
    · rw [if_neg many] at head
      refine .inr (.inl ⟨by simp only [readBytes, head], fun enough => absurd enough many, ?_⟩)
      exact textInside_of_lacks holds tooLong

theorem readBytes_consumes_iff (r : BinaryStreamReader) (tooLong : Nat → Bool) (copies : Bool) :
    r.ConsumesField EncodesText (r.readBytes tooLong copies).result ↔ r.ServesText tooLong := by
  obtain ⟨result, serves⟩ | ⟨result, serves⟩ | ⟨headlen, positive, result, serves⟩ |
    ⟨text, cur, result, consumes, serves⟩ := r.readBytes_cases tooLong copies
  · rw [result]
    exact iff_of_false id serves
  · rw [result]
    exact iff_of_true rfl serves
  · rw [result]
    refine iff_of_false ?_ serves
    intro same
    rw [ConsumesField] at same
    omega
  · rw [result]
    exact iff_of_true consumes serves

theorem readLength_consumes_iff (r : BinaryStreamReader) :
    r.ConsumesField EncodesLength r.readLength.result ↔ r.LengthEnds := by
  by_cases holds : r.HoldsLength
  · obtain ⟨buf, rest, value, found, complete, short, decoded, inside, head, -⟩ :=
      readLength_of_holds holds
    simp only [readLength, head, ConsumesField]
    exact iff_of_true ⟨buf, rest, found, ⟨complete, short, decoded⟩, rfl, inside⟩ fun _ => holds
  · have head := readLengthWithoutOffset_of_lacks holds
    rw [LengthEnds]
    by_cases many : lengthBufferSize ≤ (r.ptr.drop r.cur).length
    · rw [if_pos many] at head
      simp only [readLength, head, ConsumesField, many, true_implies]
      exact iff_of_false id holds
    · rw [if_neg many] at head
      simp only [readLength, head, ConsumesField]
      exact iff_of_true trivial fun enough => absurd enough many

theorem readWord_consumes {α : Type} (r : BinaryStreamReader) (size : Nat) (positive : 0 < size)
    (ofWord : Nat → α) :
    r.ConsumesField (EncodesWord size ofWord) ((r.readWord size).map ofWord).result := by
  unfold readWord
  split
  · exact rfl
  · rename_i fits
    have inside : size ≤ (r.ptr.drop r.cur).length := by
      rw [List.length_drop]
      unfold len at fits
      omega
    have taken : ((r.ptr.drop r.cur).take size).length = size := List.length_take_of_le inside
    have copied := @copy_of_drop r r.cur ((r.ptr.drop r.cur).take size)
      ((r.ptr.drop r.cur).drop size) (List.take_append_drop size _).symm
    rw [taken] at copied
    refine ⟨(r.ptr.drop r.cur).take size, (r.ptr.drop r.cur).drop size,
      (List.take_append_drop size _).symm, ⟨taken, by rw [copied]⟩, by rw [taken], ?_⟩
    exact Nat.le_of_not_lt fits

theorem readInt64_consumes_iff (r : BinaryStreamReader) :
    r.ConsumesField EncodesInt64 r.readInt64.result ↔
      r.ServesText fun fieldlen => fieldlen > int64strSize := by
  obtain ⟨result, serves⟩ | ⟨result, serves⟩ | ⟨headlen, positive, result, serves⟩ |
    ⟨text, cur, result, consumes, serves⟩ :=
      r.readBytes_cases (fun fieldlen => fieldlen > int64strSize) true
  · simp only [readInt64, readCString, result]
    exact iff_of_false id serves
  · simp only [readInt64, readCString, result]
    exact iff_of_true rfl serves
  · simp only [readInt64, readCString, result, ConsumesField]
    exact iff_of_false (by omega) serves
  · simp only [readInt64, readCString, result]
    refine iff_of_true ?_ serves
    obtain ⟨field, rest, found, encodes, moved, inside⟩ := consumes
    exact ⟨field, rest, found, ⟨text, encodes, rfl⟩, moved, inside⟩

/-- A failed read consumes nothing and a read that returns true consumes its field, for every
packet and position, exactly when the packet does not cut off the text that a string read finds
announced, and ends the length that it starts. -/
theorem consumes_iff_whole (r : BinaryStreamReader) (call : ReaderCall) :
    r.Consumes call ↔ r.Whole call := by
  cases call with
  | readString maxlen => exact readBytes_consumes_iff r _ true
  | readCString strlen => exact readBytes_consumes_iff r _ true
  | readCCString maxlen => exact readBytes_consumes_iff r _ false
  | readInt64 => exact readInt64_consumes_iff r
  | readLength => exact readLength_consumes_iff r
  | readInt32 => exact iff_of_true (readWord_consumes r 4 (by decide) _) trivial
  | readShort => exact iff_of_true (readWord_consumes r 2 (by decide) _) trivial
  | readChar => exact iff_of_true (readWord_consumes r 1 (by decide) _) trivial

/-- A packet that announces a text of five bytes and holds none: the read fails one byte behind
where it began. -/
theorem cut_text_costs_its_length :
    ((new [0, 0, 0, 7, 0, 0, 5] fun _ => 0).readString 0).result = .failed 7 ∧
      ¬ (new [0, 0, 0, 7, 0, 0, 5] fun _ => 0).Consumes (.readString 0) := by
  have result : ((new [0, 0, 0, 7, 0, 0, 5] fun _ => 0).readString 0).result = .failed 7 := by
    decide
  refine ⟨result, ?_⟩
  rw [Consumes, result]
  intro same
  have stays : 7 = binaryPacklenLen2 + checksumLen := same
  revert stays
  decide

end BinaryStreamReader

end Talko.Network
