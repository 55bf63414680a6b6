import Mathlib.Data.BitVec

/-!
# Masks of bits

Setting the bits of one mask in a word and clearing them, as they are seen through a
mask.
-/

set_option autoImplicit false

namespace Talko.Library

variable {w : Nat}

theorem ne_zero_of_and_ne_zero {word mask : BitVec w} (seen : word &&& mask ≠ 0#w) :
    word ≠ 0#w := by
  intro zero
  rw [zero] at seen
  exact seen BitVec.zero_and

theorem set_and_self (word mask : BitVec w) : (word ||| mask) &&& mask = mask := by
  ext i bound
  simp only [BitVec.getElem_and, BitVec.getElem_or]
  cases mask[i] <;> simp

theorem clear_and_self (word mask : BitVec w) : (word &&& ~~~mask) &&& mask = 0#w := by
  ext i
  simp

theorem set_and_of_disjoint {bits mask : BitVec w} (disjoint : bits &&& mask = 0#w)
    (word : BitVec w) : (word ||| bits) &&& mask = word &&& mask := by
  rw [BitVec.and_or_distrib_right, disjoint, BitVec.or_zero]

theorem clear_and_of_disjoint {bits mask : BitVec w} (disjoint : bits &&& mask = 0#w)
    (word : BitVec w) : (word &&& ~~~bits) &&& mask = word &&& mask := by
  ext i bound
  have apart : (bits &&& mask)[i] = false := by rw [disjoint, BitVec.getElem_zero]
  rw [BitVec.getElem_and] at apart
  simp only [BitVec.getElem_and, BitVec.getElem_not]
  cases held : mask[i] with
  | false => simp
  | true =>
      rw [held, Bool.and_true] at apart
      simp [apart]

end Talko.Library
