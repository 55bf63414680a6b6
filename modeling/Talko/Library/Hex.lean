import Talko.Library.Decimal

/-!
# Bytes as hexadecimal text

Two lower-case digits a byte, high half first, and the reader that takes them back.
-/

set_option autoImplicit false

namespace Talko.Library

def hexDigits : List UInt8 :=
  asciiText "0123456789abcdef"

def hexDigit (half : Nat) : UInt8 :=
  hexDigits.getD half 0

def hexByte (byte : UInt8) : List UInt8 :=
  [hexDigit (byte.toNat / 16), hexDigit (byte.toNat % 16)]

def hexValue (digit : UInt8) : Option Nat :=
  hexDigits.findIdx? (· = digit)

def hexDecode : List UInt8 → Option (List UInt8)
  | [] => some []
  | [_] => none
  | high :: low :: rest =>
      match hexValue high, hexValue low, hexDecode rest with
      | some first, some second, some bytes => some (UInt8.ofNat (16 * first + second) :: bytes)
      | _, _, _ => none

theorem hexValue_hexDigit {half : Nat} (small : half < 16) :
    hexValue (hexDigit half) = some half := by
  have all : ∀ half ∈ List.range 16, hexValue (hexDigit half) = some half := by decide
  exact all half (List.mem_range.mpr small)

theorem hexDecode_flatMap (bytes : List UInt8) :
    hexDecode (bytes.flatMap hexByte) = some bytes := by
  induction bytes with
  | nil => rfl
  | cons byte rest ih =>
      have bound := byte.toNat_lt
      have first : hexValue (hexDigit (byte.toNat / 16)) = some (byte.toNat / 16) :=
        hexValue_hexDigit (by omega)
      have second : hexValue (hexDigit (byte.toNat % 16)) = some (byte.toNat % 16) :=
        hexValue_hexDigit (by omega)
      have halves : 16 * (byte.toNat / 16) + byte.toNat % 16 = byte.toNat := by omega
      rw [List.flatMap_cons]
      simp only [hexByte, List.cons_append, List.nil_append, hexDecode, first, second, ih, halves,
        UInt8.ofNat_toNat]

/-- A digit is no control character and no space. -/
theorem hexDigit_gt {half : Nat} (small : half < 16) : 32 < hexDigit half := by
  have all : ∀ half ∈ List.range 16, 32 < hexDigit half := by decide
  exact all half (List.mem_range.mpr small)

theorem hexByte_gt (byte : UInt8) : ∀ digit ∈ hexByte byte, 32 < digit := by
  have bound := byte.toNat_lt
  intro digit member
  simp only [hexByte, List.mem_cons, List.not_mem_nil, or_false] at member
  rcases member with rfl | rfl
  · exact hexDigit_gt (by omega)
  · exact hexDigit_gt (by omega)

end Talko.Library
