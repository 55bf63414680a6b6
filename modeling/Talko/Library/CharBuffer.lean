import Mathlib.Data.List.Basic

/-!
# Character arrays

A `char` array of a fixed size that is written place by place. A write behind its end has no
result. An array that was zeroed and is written from the front holds a text and zeros behind it.
-/

set_option autoImplicit false

namespace Talko.Library

/-- `buf[place] = byte`. -/
def writeAt (buf : List UInt8) (place : Nat) (byte : UInt8) : Option (List UInt8) :=
  if place < buf.length then some (buf.set place byte) else none

def writeAllAt (buf : List UInt8) (place : Nat) : List UInt8 → Option (List UInt8)
  | [] => some buf
  | byte :: rest => (writeAt buf place byte).bind (writeAllAt · (place + 1) rest)

/-- The place of the first zero; without one the search runs out of the array. -/
def strlen (buf : List UInt8) : Option Nat :=
  buf.findIdx? (· = 0)

/-- The text, which has no zero of its own, is copied with the one behind it. -/
def strcat (buf text : List UInt8) : Option (List UInt8) :=
  (strlen buf).bind (writeAllAt buf · (text ++ [0]))

/-- A zeroed array that a text was written to. -/
def charBuffer (size : Nat) (text : List UInt8) : List UInt8 :=
  text ++ List.replicate (size - text.length) 0

section

variable {size : Nat} {text : List UInt8}

theorem length_charBuffer (fits : text.length ≤ size) : (charBuffer size text).length = size := by
  rw [charBuffer, List.length_append, List.length_replicate]
  omega

theorem writeAt_charBuffer (fits : text.length < size) (byte : UInt8) :
    writeAt (charBuffer size text) text.length byte = some (charBuffer size (text ++ [byte])) := by
  rw [writeAt, if_pos (by rwa [length_charBuffer (Nat.le_of_lt fits)])]
  have room : size - text.length = size - (text ++ [byte]).length + 1 := by
    rw [List.length_append, List.length_singleton]
    omega
  rw [charBuffer, room, List.replicate_succ, List.set_append_right _ _ (Nat.le_refl _),
    Nat.sub_self, List.set_cons_zero, charBuffer, List.append_assoc, List.singleton_append]

theorem writeAllAt_charBuffer {bytes : List UInt8} (fits : text.length + bytes.length ≤ size) :
    writeAllAt (charBuffer size text) text.length bytes =
      some (charBuffer size (text ++ bytes)) := by
  induction bytes generalizing text with
  | nil => rw [writeAllAt, List.append_nil]
  | cons byte rest ih =>
      rw [List.length_cons] at fits
      have longer : (text ++ [byte]).length = text.length + 1 := by simp
      have later : writeAllAt (charBuffer size (text ++ [byte])) (text ++ [byte]).length rest =
          some (charBuffer size (text ++ [byte] ++ rest)) := ih (by omega)
      rw [longer, List.append_assoc, List.singleton_append] at later
      rw [writeAllAt, writeAt_charBuffer (by omega), Option.bind_some, later]

/-- A zero written behind the text is not seen. -/
theorem charBuffer_concat_zero (fits : text.length < size) :
    charBuffer size (text ++ [0]) = charBuffer size text := by
  have room : size - text.length = size - (text ++ [0]).length + 1 := by
    rw [List.length_append, List.length_singleton]
    omega
  rw [charBuffer, charBuffer, room, List.replicate_succ, List.append_assoc,
    List.singleton_append]

/-- A text ends at the zero behind it, whatever follows. -/
theorem strlen_append_zero (clean : (0 : UInt8) ∉ text) (rest : List UInt8) :
    strlen (text ++ 0 :: rest) = some text.length := by
  have passed : text.findIdx? (fun byte => decide (byte = 0)) = none := by
    rw [List.findIdx?_eq_none_iff]
    intro byte member
    exact decide_eq_false fun zero => clean (zero ▸ member)
  rw [strlen, List.findIdx?_append, passed, List.findIdx?_cons]
  simp

theorem strlen_charBuffer (fits : text.length < size) (clean : (0 : UInt8) ∉ text) :
    strlen (charBuffer size text) = some text.length := by
  have room : size - text.length = size - text.length - 1 + 1 := by omega
  rw [charBuffer, room, List.replicate_succ, strlen_append_zero clean]

theorem strcat_charBuffer {head : List UInt8} (fits : text.length + head.length < size)
    (clean : (0 : UInt8) ∉ text) :
    strcat (charBuffer size text) head = some (charBuffer size (text ++ head)) := by
  have room : text.length + (head ++ [0]).length ≤ size := by
    rw [List.length_append, List.length_singleton]
    omega
  have behind : (text ++ head).length < size := by
    rw [List.length_append]
    omega
  rw [strcat, strlen_charBuffer (by omega) clean, Option.bind_some, writeAllAt_charBuffer room,
    ← List.append_assoc, charBuffer_concat_zero behind]

end

end Talko.Library
