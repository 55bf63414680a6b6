import Talko.Network.ProtocolStreamRoundTrip

/-!
# Seven-bit lengths in front of other bytes

What either overload of `write7BitEncoded` emits is read back by either overload of
`read7BitEncoded`, whatever follows, as far as the widths allow.
-/

set_option autoImplicit false

namespace Talko.Network

open Talko.Library

theorem Terminated.exists_last {buf : List UInt8} (complete : Terminated buf) :
    ∃ leading last, buf = leading ++ [last] ∧ (∀ c ∈ leading, continues c = true) ∧
      continues last = false := by
  induction buf with
  | nil => exact complete.elim
  | cons c rest ih =>
      unfold Terminated at complete
      cases more : continues c with
      | true =>
          rw [if_pos more] at complete
          obtain ⟨leading, last, rfl, all, stops⟩ := ih complete
          exact ⟨c :: leading, last, rfl, List.forall_mem_cons.mpr ⟨more, all⟩, stops⟩
      | false =>
          rw [if_neg (by simp [more])] at complete
          exact ⟨[], c, by rw [complete, List.nil_append], by simp, more⟩

/-- Behind a complete prefix nothing is looked at. -/
theorem Terminated.read_append {buf : List UInt8} (complete : Terminated buf)
    (rest : List UInt8) (width bitCount sum : Nat) :
    read7BitLoop width bitCount sum (buf ++ rest) = read7BitLoop width bitCount sum buf ∧
      read7BitInspected (buf ++ rest) = buf.length := by
  induction buf generalizing bitCount sum with
  | nil => exact complete.elim
  | cons c others ih =>
      unfold Terminated at complete
      by_cases more : continues c = true
      · rw [if_pos more] at complete
        obtain ⟨decoded, inspected⟩ := ih complete (bitCount + 7)
          ((sum + (payload c <<< bitCount) % 2 ^ width) % 2 ^ width)
        simp only [List.cons_append, read7BitLoop, more, if_true, decoded, read7BitInspected,
          inspected, List.length_cons, true_and]
        exact Nat.add_comm 1 others.length
      · rw [if_neg more] at complete
        simp [read7BitLoop, read7BitInspected, more, complete]

theorem write7BitEncoded32_eq (value : UInt32) :
    write7BitEncoded32 value = sevenBit value.toNat :=
  write7BitLoop_eq value.toNat

theorem write7BitEncoded64_eq (value : UInt64) :
    write7BitEncoded64 value = sevenBit value.toNat :=
  write7BitLoop_eq value.toNat

/-- Up to `most` bytes, of which the last alone has its high bit clear, and which `read` turns
back into `value` without a look at what follows. -/
structure Decodes (read : List UInt8 → Option Nat) (most : Nat) (bytes : List UInt8)
    (value : Nat) : Prop where
  nonempty : 1 ≤ bytes.length
  short : bytes.length ≤ most
  closed : ∃ leading last, bytes = leading ++ [last] ∧ (∀ c ∈ leading, continues c = true) ∧
    continues last = false
  decoded : ∀ rest, read (bytes ++ rest) = some value
  inspected : ∀ rest, read7BitInspected (bytes ++ rest) = bytes.length

theorem decodes_sevenBit {width groups value : Nat} (fits : value < 2 ^ width)
    (room : 2 ^ width ≤ 128 ^ (groups + 1)) :
    Decodes (read7BitLoop width 0 0) (groups + 1) (sevenBit value) value where
  nonempty := List.length_pos_iff.mpr (sevenBit_ne_nil value)
  short := length_sevenBit_le (Nat.lt_of_lt_of_le fits room)
  closed := (terminated_sevenBit value).exists_last
  decoded := by
    intro rest
    rw [((terminated_sevenBit value).read_append rest width 0 0).1, read7BitLoop_sevenBit,
      Nat.pow_zero, Nat.mul_one, Nat.zero_add, Nat.mod_eq_of_lt fits]
  inspected := fun rest => ((terminated_sevenBit value).read_append rest width 0 0).2

/-- `ReadLengthWithoutOffset` on what either writer emitted, anywhere in a packet. -/
theorem readLengthWithoutOffset_sevenBit {value : Nat} (small : value < 2 ^ 32)
    (leading rest : List UInt8) (behind : Nat → UInt8) :
    (BinaryStreamReader.readLengthWithoutOffset
        ⟨leading ++ (sevenBit value ++ rest), behind, leading.length⟩).result =
      .ok ((sevenBit value).length, value) leading.length :=
  BinaryStreamReader.readLengthWithoutOffset_result List.drop_left small

theorem write7BitEncoded_decodes :
    (∀ value : UInt32, Decodes read7BitEncoded32 5 (write7BitEncoded32 value) value.toNat) ∧
      (∀ value : UInt64, Decodes read7BitEncoded64 10 (write7BitEncoded64 value) value.toNat) ∧
      (∀ value : UInt32, write7BitEncoded64 value.toUInt64 = write7BitEncoded32 value ∧
        Decodes read7BitEncoded32 5 (write7BitEncoded64 value.toUInt64) value.toNat) ∧
      (∀ (w : BinaryStreamWriter) (str : List UInt8), (w.writeCString str).data =
        w.data ++ (write7BitEncoded64 (UInt64.ofNat str.length) ++ str)) ∧
      ∀ (value : UInt32) (leading rest : List UInt8) (behind : Nat → UInt8),
        (BinaryStreamReader.readLengthWithoutOffset
            ⟨leading ++ (write7BitEncoded64 value.toUInt64 ++ rest), behind,
              leading.length⟩).result =
          .ok ((write7BitEncoded64 value.toUInt64).length, value.toNat) leading.length := by
  have narrow : ∀ value : UInt32,
      Decodes read7BitEncoded32 5 (write7BitEncoded32 value) value.toNat := by
    intro value
    rw [write7BitEncoded32_eq]
    exact decodes_sevenBit value.toNat_lt (by decide)
  have same : ∀ value : UInt32, write7BitEncoded64 value.toUInt64 = write7BitEncoded32 value := by
    intro value
    rw [write7BitEncoded64_eq, write7BitEncoded32_eq, UInt32.toNat_toUInt64]
  refine ⟨narrow, ?_, ?_, ?_, ?_⟩
  · intro value
    rw [write7BitEncoded64_eq]
    exact decodes_sevenBit value.toNat_lt (by decide)
  · intro value
    rw [same]
    exact ⟨rfl, narrow value⟩
  · intro w str
    exact List.append_assoc _ _ _
  · intro value leading rest behind
    rw [same, write7BitEncoded32_eq]
    exact readLengthWithoutOffset_sevenBit value.toNat_lt leading rest behind

end Talko.Network
