import Talko.Network.ProtocolStream

/-!
# Length prefixes and loads

What the two seven-bit loops and the copying loop of the reader do on bytes that form
a complete length prefix, and on bytes that do not.
-/

set_option autoImplicit false

namespace Talko.Network

open Talko.Library

/-!
## Complete prefixes
-/

/-- All bytes but the last have their high bit set. -/
def Terminated : List UInt8 → Prop
  | [] => False
  | c :: rest => if continues c then Terminated rest else rest = []

theorem terminated_sevenBit (value : Nat) : Terminated (sevenBit value) := by
  induction value using Nat.strongRecOn with
  | ind value ih =>
      by_cases last : value < 128
      · rw [sevenBit_of_lt last]
        simp [Terminated, last]
      · rw [sevenBit_of_ge last]
        simp only [Terminated, continues_group, if_true]
        exact ih (value / 128) (by omega)

theorem write7BitLoop_eq (value : Nat) : write7BitLoop value = sevenBit value := by
  have low : ∀ n : Nat, n &&& 0x7F = n % 128 := fun n => Nat.and_two_pow_sub_one_eq_mod n 7
  have high : ∀ n : Nat, n >>> 7 = n / 128 := fun n => Nat.shiftRight_eq_div_pow n 7
  induction value using Nat.strongRecOn with
  | ind value ih =>
      rw [write7BitLoop]
      simp only [low, high]
      by_cases last : value < 128
      · rw [if_pos (by omega), sevenBit_of_lt last, Nat.mod_eq_of_lt last]
      · have marked : UInt8.ofNat (value % 128) ||| 0x80 = UInt8.ofNat (value % 128 + 128) := by
          apply UInt8.toNat_inj.mp
          have bit : (0x80 : UInt8).toNat = 2 ^ 7 * 1 := rfl
          rw [UInt8.toNat_or, UInt8.toNat_ofNat', UInt8.toNat_ofNat', bit, Nat.or_comm,
            Nat.mod_eq_of_lt (by omega), ← Nat.two_pow_add_eq_or_of_lt (by omega)]
          omega
        rw [if_neg (by omega), sevenBit_of_ge last, marked, ih (value / 128) (by omega)]

theorem read7BitLoop_sevenBit (width bitCount sum value : Nat) :
    read7BitLoop width bitCount sum (sevenBit value) =
      some ((sum + value * 2 ^ bitCount) % 2 ^ width) := by
  induction value using Nat.strongRecOn generalizing bitCount sum with
  | ind value ih =>
      by_cases last : value < 128
      · rw [sevenBit_of_lt last]
        simp [read7BitLoop, last, Nat.shiftLeft_eq]
      · have split : value * 2 ^ bitCount =
            value % 128 * 2 ^ bitCount + value / 128 * 2 ^ (bitCount + 7) := by
          have power : 2 ^ (bitCount + 7) = 128 * 2 ^ bitCount := by
            rw [Nat.pow_add, Nat.mul_comm]
          calc value * 2 ^ bitCount
              = (value % 128 + 128 * (value / 128)) * 2 ^ bitCount := by rw [Nat.mod_add_div]
            _ = value % 128 * 2 ^ bitCount + 128 * (value / 128) * 2 ^ bitCount :=
                Nat.add_mul _ _ _
            _ = value % 128 * 2 ^ bitCount + value / 128 * (128 * 2 ^ bitCount) := by
                rw [Nat.mul_comm 128, Nat.mul_assoc]
            _ = value % 128 * 2 ^ bitCount + value / 128 * 2 ^ (bitCount + 7) := by rw [power]
        rw [sevenBit_of_ge last]
        simp only [read7BitLoop, continues_group, payload_group, if_true, Nat.shiftLeft_eq]
        rw [ih (value / 128) (by omega), split]
        congr 1
        simp only [Nat.add_mod_mod, Nat.mod_add_mod, Nat.add_assoc]

theorem read7BitEncoded32_sevenBit {value : Nat} (small : value < 2 ^ 32) :
    read7BitEncoded32 (sevenBit value) = some value := by
  unfold read7BitEncoded32
  rw [read7BitLoop_sevenBit, Nat.pow_zero, Nat.mul_one, Nat.zero_add, Nat.mod_eq_of_lt small]

theorem read7Bit_of_terminated {buf : List UInt8} (complete : Terminated buf)
    (width bitCount sum : Nat) :
    (read7BitLoop width bitCount sum buf).isSome = true ∧ read7BitInspected buf = buf.length := by
  induction buf generalizing bitCount sum with
  | nil => exact complete.elim
  | cons c rest ih =>
      unfold Terminated at complete
      by_cases more : continues c = true
      · rw [if_pos more] at complete
        obtain ⟨decoded, inspected⟩ := ih complete (bitCount + 7)
          ((sum + (payload c <<< bitCount) % 2 ^ width) % 2 ^ width)
        simp only [read7BitLoop, more, if_true, decoded, read7BitInspected, inspected,
          List.length_cons, true_and]
        omega
      · rw [if_neg more] at complete
        simp [read7BitLoop, more, read7BitInspected, complete]

theorem read7Bit_of_continues {buf : List UInt8} (all : ∀ c ∈ buf, continues c = true)
    (width bitCount sum : Nat) :
    read7BitLoop width bitCount sum buf = none ∧ read7BitInspected buf = buf.length + 1 := by
  induction buf generalizing bitCount sum with
  | nil => exact ⟨rfl, rfl⟩
  | cons c rest ih =>
      have more := all c List.mem_cons_self
      obtain ⟨decoded, inspected⟩ := ih (fun other member => all other (List.mem_cons_of_mem c member))
        (bitCount + 7) ((sum + (payload c <<< bitCount) % 2 ^ width) % 2 ^ width)
      simp only [read7BitLoop, more, if_true, decoded, read7BitInspected, inspected,
        List.length_cons, true_and]
      omega

theorem exists_terminated {room : Nat} {bytes : List UInt8}
    (stop : (bytes.take room).any (fun c => !continues c) = true) :
    ∃ buf rest, bytes = buf ++ rest ∧ Terminated buf ∧ buf.length ≤ room := by
  induction room generalizing bytes with
  | zero => simp at stop
  | succ room ih =>
      cases bytes with
      | nil => simp at stop
      | cons c others =>
          by_cases more : continues c = true
          · simp only [List.take_succ_cons, List.any_cons, more, Bool.not_true, Bool.false_or] at stop
            obtain ⟨buf, rest, shape, complete, short⟩ := ih stop
            refine ⟨c :: buf, rest, by rw [shape]; rfl, ?_, Nat.succ_le_succ short⟩
            simp only [Terminated, more, if_true, complete]
          · exact ⟨[c], others, rfl, by simp [Terminated, more], by simp⟩

/-!
## Loads
-/

namespace BinaryStreamReader

theorem load_of_drop {r : BinaryStreamReader} {offset : Nat} {c : UInt8} {rest : List UInt8}
    (found : r.ptr.drop offset = c :: rest) : r.load offset = c := by
  have here : r.ptr[offset]? = some c := by
    have zeroth := congrArg (fun bytes => bytes[0]?) found
    simpa [List.getElem?_drop] using zeroth
  simp only [load, List.getD_eq_getElem?_getD, here, Option.getD_some]

theorem drop_succ_of_drop {r : BinaryStreamReader} {offset : Nat} {c : UInt8} {rest : List UInt8}
    (found : r.ptr.drop offset = c :: rest) : r.ptr.drop (offset + 1) = rest := by
  rw [← List.drop_drop, found]
  rfl

theorem copy_of_drop {r : BinaryStreamReader} {start : Nat} {bytes rest : List UInt8}
    (found : r.ptr.drop start = bytes ++ rest) : r.copy start bytes.length = bytes := by
  induction bytes generalizing start with
  | nil => rfl
  | cons c others ih =>
      have first := load_of_drop found
      have next := ih (drop_succ_of_drop found)
      unfold copy at next ⊢
      rw [List.length_cons, List.range'_succ, List.map_cons, first, next]

theorem copyLength_of_terminated {r : BinaryStreamReader} {room temp : Nat}
    {buf rest : List UInt8} (found : r.ptr.drop temp = buf ++ rest) (complete : Terminated buf)
    (short : buf.length ≤ room) : copyLength r.load room temp = buf := by
  induction buf generalizing room temp with
  | nil => exact complete.elim
  | cons c others ih =>
      cases room with
      | zero => simp at short
      | succ room =>
          have first := load_of_drop found
          unfold Terminated at complete
          by_cases more : continues c = true
          · rw [if_pos more] at complete
            have next := ih (drop_succ_of_drop found) complete (Nat.le_of_succ_le_succ short)
            simp only [copyLength, first, more, if_true, next]
          · rw [if_neg more] at complete
            simp [copyLength, first, more, complete]

/-- Without a stop among the bytes it may copy, the loop either fills its array with
continuing bytes or goes on behind the packet. -/
theorem copyLength_of_continues {r : BinaryStreamReader} {room temp : Nat}
    (all : ∀ c ∈ (r.ptr.drop temp).take room, continues c = true) :
    ((copyLength r.load room temp).length = room ∧
        room ≤ (r.ptr.drop temp).length ∧ ∀ c ∈ copyLength r.load room temp, continues c = true) ∨
      (r.ptr.drop temp).length < (copyLength r.load room temp).length := by
  induction room generalizing temp with
  | zero => simp [copyLength]
  | succ room ih =>
      cases found : r.ptr.drop temp with
      | nil =>
          right
          unfold copyLength
          split <;> simp
      | cons c rest =>
          have first := load_of_drop found
          have next := drop_succ_of_drop found
          rw [found] at all
          have more : continues c = true := all c (by simp)
          have others : ∀ d ∈ (r.ptr.drop (temp + 1)).take room, continues d = true := by
            intro d member
            rw [next] at member
            exact all d (by simp [member])
          simp only [copyLength, first, more, if_true, List.length_cons]
          rcases ih others with ⟨full, inside, continuing⟩ | outside
          · left
            rw [next] at inside
            refine ⟨by rw [full], Nat.succ_le_succ inside, ?_⟩
            intro d member
            rcases List.mem_cons.mp member with rfl | member
            · exact more
            · exact continuing d member
          · right
            rw [next] at outside
            omega

end BinaryStreamReader

end Talko.Network
