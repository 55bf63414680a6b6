import Mathlib.Data.List.Basic
import Mathlib.Data.Nat.Bitwise

/-!
# Seven-bit groups

Numbers as bytes of seven bits each, lowest group first, where the high bit of a
byte says that another one follows.
-/

set_option autoImplicit false

namespace Talko.Library

/-- The high bit of the byte is set: another byte follows. -/
def continues (byte : UInt8) : Bool :=
  byte &&& 0x80 ≠ 0

def payload (byte : UInt8) : Nat :=
  (byte &&& 0x7F).toNat

def sevenBit (value : Nat) : List UInt8 :=
  if value < 128 then [UInt8.ofNat value]
  else UInt8.ofNat (value % 128 + 128) :: sevenBit (value / 128)
termination_by value
decreasing_by omega

theorem continues_iff (byte : UInt8) : continues byte = true ↔ 128 ≤ byte.toNat := by
  have small := byte.toNat_lt
  have bit : (byte &&& 0x80).toNat = (byte.toNat.testBit 7).toNat * 2 ^ 7 := by
    rw [UInt8.toNat_and]
    exact Nat.and_two_pow byte.toNat 7
  have zero : byte &&& 0x80 = 0 ↔ (byte &&& 0x80).toNat = 0 := UInt8.toNat_inj.symm
  simp only [continues, ne_eq, decide_not, Bool.not_eq_true', decide_eq_false_iff_not, zero, bit,
    Nat.testBit_eq_decide_div_mod_eq]
  have power : (2 : Nat) ^ 7 = 128 := rfl
  rw [power]
  by_cases high : byte.toNat / 128 % 2 = 1
  · simp only [high, decide_true, Bool.toNat_true]
    omega
  · simp only [high, decide_false, Bool.toNat_false, Nat.zero_mul, not_true_eq_false, false_iff]
    omega

theorem payload_eq (byte : UInt8) : payload byte = byte.toNat % 128 := by
  have masked : (0x7F : UInt8).toNat = 2 ^ 7 - 1 := rfl
  rw [payload, UInt8.toNat_and, masked, Nat.and_two_pow_sub_one_eq_mod]

private theorem toNat_ofNat_of_lt {value : Nat} (small : value < 256) :
    (UInt8.ofNat value).toNat = value := by
  rw [UInt8.toNat_ofNat']
  omega

@[simp] theorem continues_last {value : Nat} (small : value < 128) :
    continues (UInt8.ofNat value) = false := by
  rw [Bool.eq_false_iff, Ne, continues_iff, toNat_ofNat_of_lt (by omega)]
  omega

@[simp] theorem payload_last {value : Nat} (small : value < 128) :
    payload (UInt8.ofNat value) = value := by
  rw [payload_eq, toNat_ofNat_of_lt (by omega)]
  omega

@[simp] theorem continues_group (value : Nat) :
    continues (UInt8.ofNat (value % 128 + 128)) = true := by
  rw [continues_iff, toNat_ofNat_of_lt (by omega)]
  omega

@[simp] theorem payload_group (value : Nat) :
    payload (UInt8.ofNat (value % 128 + 128)) = value % 128 := by
  rw [payload_eq, toNat_ofNat_of_lt (by omega)]
  omega

theorem sevenBit_of_lt {value : Nat} (small : value < 128) :
    sevenBit value = [UInt8.ofNat value] := by
  rw [sevenBit, if_pos small]

theorem sevenBit_of_ge {value : Nat} (large : ¬ value < 128) :
    sevenBit value = UInt8.ofNat (value % 128 + 128) :: sevenBit (value / 128) := by
  rw [sevenBit, if_neg large]

theorem sevenBit_ne_nil (value : Nat) : sevenBit value ≠ [] := by
  rw [sevenBit]
  split <;> simp

theorem length_sevenBit_le {groups value : Nat} (small : value < 128 ^ (groups + 1)) :
    (sevenBit value).length ≤ groups + 1 := by
  induction groups generalizing value with
  | zero =>
      rw [sevenBit_of_lt (by simpa using small)]
      exact Nat.le_refl 1
  | succ groups ih =>
      by_cases last : value < 128
      · rw [sevenBit_of_lt last]
        simp
      · have rest : value / 128 < 128 ^ (groups + 1) := by
          rw [Nat.div_lt_iff_lt_mul (by decide)]
          rw [Nat.pow_succ] at small
          exact small
        rw [sevenBit_of_ge last, List.length_cons]
        have := ih rest
        omega

end Talko.Library
