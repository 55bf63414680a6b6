import Mathlib.Algebra.Group.Nat.Defs
import Mathlib.Data.List.Basic

/-!
# Byte order

Unsigned words of a fixed number of bytes as lists of bytes, least significant
first, and the exchange of byte orders.
-/

set_option autoImplicit false

namespace Talko.Library

def littleEndian : (width : Nat) → Nat → List UInt8
  | 0, _ => []
  | width + 1, value => UInt8.ofNat value :: littleEndian width (value / 256)

def ofLittleEndian : List UInt8 → Nat
  | [] => 0
  | byte :: rest => byte.toNat + 256 * ofLittleEndian rest

def bigEndian (width value : Nat) : List UInt8 :=
  (littleEndian width value).reverse

/-- The word with its bytes in the opposite order. -/
def byteSwap (width value : Nat) : Nat :=
  ofLittleEndian (bigEndian width value)

@[simp] theorem length_littleEndian (width value : Nat) :
    (littleEndian width value).length = width := by
  induction width generalizing value with
  | zero => rfl
  | succ width ih => simp only [littleEndian, List.length_cons, ih]

@[simp] theorem length_bigEndian (width value : Nat) : (bigEndian width value).length = width := by
  simp only [bigEndian, List.length_reverse, length_littleEndian]

theorem ofLittleEndian_littleEndian (width value : Nat) :
    ofLittleEndian (littleEndian width value) = value % 256 ^ width := by
  induction width generalizing value with
  | zero => simp [littleEndian, ofLittleEndian, Nat.mod_one]
  | succ width ih =>
      have low : (UInt8.ofNat value).toNat = value % 256 := UInt8.toNat_ofNat'
      simp only [littleEndian, ofLittleEndian, ih, low]
      rw [Nat.pow_succ' , Nat.mod_mul]

theorem littleEndian_ofLittleEndian (bytes : List UInt8) :
    littleEndian bytes.length (ofLittleEndian bytes) = bytes := by
  induction bytes with
  | nil => rfl
  | cons byte rest ih =>
      have low : UInt8.ofNat (byte.toNat + 256 * ofLittleEndian rest) = byte := by
        apply UInt8.toNat_inj.mp
        have small := byte.toNat_lt
        rw [UInt8.toNat_ofNat']
        omega
      have high : (byte.toNat + 256 * ofLittleEndian rest) / 256 = ofLittleEndian rest := by
        have small := byte.toNat_lt
        omega
      simp only [List.length_cons, ofLittleEndian, littleEndian, low, high, ih]

theorem ofLittleEndian_lt (bytes : List UInt8) : ofLittleEndian bytes < 256 ^ bytes.length := by
  induction bytes with
  | nil => exact Nat.one_pos
  | cons byte rest ih =>
      have small := byte.toNat_lt
      rw [ofLittleEndian, List.length_cons, Nat.pow_succ']
      omega

theorem byteSwap_lt (width value : Nat) : byteSwap width value < 256 ^ width := by
  have small := ofLittleEndian_lt (bigEndian width value)
  rw [length_bigEndian] at small
  exact small

theorem littleEndian_byteSwap (width value : Nat) :
    littleEndian width (byteSwap width value) = bigEndian width value := by
  have restored := littleEndian_ofLittleEndian (bigEndian width value)
  rw [length_bigEndian] at restored
  exact restored

/-- Swapping the word found in memory undoes storing it in the other byte order. -/
theorem byteSwap_ofLittleEndian_bigEndian (width value : Nat) :
    byteSwap width (ofLittleEndian (bigEndian width value)) = value % 256 ^ width := by
  have restored := littleEndian_ofLittleEndian (bigEndian width value)
  rw [length_bigEndian] at restored
  calc byteSwap width (ofLittleEndian (bigEndian width value))
      = ofLittleEndian (littleEndian width (ofLittleEndian (bigEndian width value))).reverse := rfl
    _ = ofLittleEndian (bigEndian width value).reverse := by rw [restored]
    _ = ofLittleEndian (littleEndian width value) := by rw [bigEndian, List.reverse_reverse]
    _ = value % 256 ^ width := ofLittleEndian_littleEndian width value

/-- Swapping twice gives the word back, if it has no more than `width` bytes. -/
theorem byteSwap_byteSwap {width value : Nat} (fits : value < 256 ^ width) :
    byteSwap width (byteSwap width value) = value :=
  (byteSwap_ofLittleEndian_bigEndian width value).trans (Nat.mod_eq_of_lt fits)

end Talko.Library
