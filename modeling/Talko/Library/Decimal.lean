import Mathlib.Algebra.Group.Nat.Defs
import Mathlib.Data.List.Basic

/-!
# Decimal numbers as ASCII text

The text a number is printed as, and the number a reader takes from the front of a
text: it consumes digits until the first byte that is none.
-/

set_option autoImplicit false

namespace Talko.Library

def asciiCode (character : Char) : UInt8 :=
  UInt8.ofNat character.toNat

def asciiText (text : String) : List UInt8 :=
  text.toList.map asciiCode

def decimalText (value : Nat) : List UInt8 :=
  (Nat.toDigits 10 value).map asciiCode

/-- The text `%ld` prints. -/
def signedText (value : Int) : List UInt8 :=
  if value < 0 then asciiCode '-' :: decimalText value.natAbs else decimalText value.natAbs

def isDigit (byte : UInt8) : Bool :=
  asciiCode '0' ≤ byte && byte ≤ asciiCode '9'

def leadingDigits : Nat → List UInt8 → Nat
  | value, [] => value
  | value, byte :: rest =>
      if isDigit byte then leadingDigits (10 * value + (byte.toNat - 48)) rest else value

/-- The white space `isspace` accepts in the C locale. -/
def isSpace (byte : UInt8) : Bool :=
  byte = 32 || (9 ≤ byte && byte ≤ 13)

def signedDigits : List UInt8 → Int
  | [] => 0
  | byte :: rest =>
      if byte = asciiCode '-' then -(leadingDigits 0 rest : Int)
      else if byte = asciiCode '+' then leadingDigits 0 rest
      else leadingDigits 0 (byte :: rest)

/-- The number at the front of a text, after white space and a sign. -/
def leadingNumber (text : List UInt8) : Int :=
  signedDigits (text.dropWhile isSpace)

def StopsDigits (text : List UInt8) : Prop :=
  ∀ byte ∈ text.head?, isDigit byte = false

theorem leadingDigits_of_stops {text : List UInt8} (stops : StopsDigits text) (value : Nat) :
    leadingDigits value text = value := by
  cases text with
  | nil => rfl
  | cons byte rest =>
      have none : isDigit byte = false := stops byte rfl
      simp only [leadingDigits, none, Bool.false_eq_true, if_false]

private theorem asciiCode_of_isDigit {character : Char} (digit : character.isDigit = true) :
    (asciiCode character).toNat = character.toNat ∧ isDigit (asciiCode character) = true ∧
      isSpace (asciiCode character) = false ∧ asciiCode character ≠ asciiCode '-' ∧
      asciiCode character ≠ asciiCode '+' := by
  have bounds : 48 ≤ character.toNat ∧ character.toNat ≤ 57 := by
    simp only [Char.isDigit, Bool.and_eq_true, decide_eq_true_eq] at digit
    exact ⟨UInt32.le_iff_toNat_le.mp digit.1, UInt32.le_iff_toNat_le.mp digit.2⟩
  have code : (asciiCode character).toNat = character.toNat := by
    unfold asciiCode
    rw [UInt8.toNat_ofNat']
    omega
  refine ⟨code, ?_, ?_, ?_, ?_⟩
  · simp only [isDigit, asciiCode, Bool.and_eq_true, decide_eq_true_eq, UInt8.le_iff_toNat_le] at code ⊢
    rw [code]
    exact bounds
  · have notBlank : asciiCode character ≠ 32 := by
      intro same
      rw [same] at code
      have : (32 : UInt8).toNat = 32 := rfl
      omega
    have high : ¬ asciiCode character ≤ 13 := by
      rw [UInt8.le_iff_toNat_le, code]
      have : (13 : UInt8).toNat = 13 := rfl
      omega
    simp [isSpace, notBlank, high]
  · intro same
    rw [same] at code
    have : (asciiCode '-').toNat = 45 := rfl
    omega
  · intro same
    rw [same] at code
    have : (asciiCode '+').toNat = 43 := rfl
    omega

private theorem leadingDigits_digits (digits : List Char)
    (all : ∀ character ∈ digits, character.isDigit = true) (value : Nat) (rest : List UInt8) :
    leadingDigits value (digits.map asciiCode ++ rest) =
      leadingDigits (Nat.ofDigitChars 10 digits value) rest := by
  induction digits generalizing value with
  | nil => simp [Nat.ofDigitChars_nil]
  | cons character others ih =>
      have first := asciiCode_of_isDigit (all character List.mem_cons_self)
      simp only [List.map_cons, List.cons_append, leadingDigits, first.2.1, if_true, first.1]
      rw [ih (fun other member => all other (List.mem_cons_of_mem _ member)),
        Nat.ofDigitChars_cons]
      rfl

theorem leadingDigits_decimalText (value : Nat) {rest : List UInt8} (stops : StopsDigits rest) :
    leadingDigits 0 (decimalText value ++ rest) = value := by
  unfold decimalText
  rw [leadingDigits_digits _ (fun _ member => Nat.isDigit_of_mem_toDigits (by decide) (by decide) member),
    Nat.ofDigitChars_toDigits (by decide) (by decide), leadingDigits_of_stops stops]

theorem isDigit_decimalText (value : Nat) : ∀ byte ∈ decimalText value, isDigit byte = true := by
  intro byte member
  obtain ⟨character, printed, code⟩ := List.mem_map.mp member
  rw [← code]
  exact (asciiCode_of_isDigit (Nat.isDigit_of_mem_toDigits (by decide) (by decide) printed)).2.1

theorem decimalText_ne_nil (value : Nat) : decimalText value ≠ [] := by
  intro empty
  exact Nat.toDigits_ne_nil (List.map_eq_nil_iff.mp empty)

/-- The digit of a number below 10. -/
def digitByte (value : Nat) : UInt8 :=
  asciiCode (Nat.digitChar value)

theorem digitByte_spec {value : Nat} (small : value < 10) :
    isDigit (digitByte value) = true ∧ (digitByte value).toNat = 48 + value := by
  have table : ∀ digit < 10,
      isDigit (digitByte digit) = true ∧ (digitByte digit).toNat = 48 + digit := by decide
  exact table value small

theorem decimalText_of_lt {value : Nat} (small : value < 10) :
    decimalText value = [digitByte value] := by
  rw [decimalText, Nat.toDigits_of_lt_base small]
  rfl

theorem decimalText_of_ge {value : Nat} (large : 10 ≤ value) :
    decimalText value = decimalText (value / 10) ++ [digitByte (value % 10)] := by
  rw [decimalText, Nat.toDigits_of_base_le (by decide) large, List.map_append]
  rfl

theorem decimalText_injective : Function.Injective decimalText := by
  intro first second same
  have stops : StopsDigits [] := fun _ member => absurd member (Option.not_mem_none _)
  have read := leadingDigits_decimalText first stops
  rw [same, leadingDigits_decimalText second stops] at read
  exact read.symm

private theorem decimalText_cons (value : Nat) :
    ∃ character rest, character.isDigit = true ∧
      decimalText value = asciiCode character :: rest := by
  cases digits : Nat.toDigits 10 value with
  | nil => exact absurd digits Nat.toDigits_ne_nil
  | cons character others =>
      refine ⟨character, others.map asciiCode, ?_, ?_⟩
      · have member : character ∈ Nat.toDigits 10 value := by
          rw [digits]
          exact List.mem_cons_self
        exact Nat.isDigit_of_mem_toDigits (by decide) (by decide) member
      · simp only [decimalText, digits, List.map_cons]

/-- Reading a printed number gives it back, whatever follows it. -/
theorem leadingNumber_signedText (value : Int) {rest : List UInt8} (stops : StopsDigits rest) :
    leadingNumber (signedText value ++ rest) = value := by
  have read := leadingDigits_decimalText value.natAbs stops
  unfold signedText leadingNumber
  split
  · next negative =>
      have kept : isSpace (asciiCode '-') = false := rfl
      simp only [List.cons_append, List.dropWhile_cons, kept, Bool.false_eq_true, if_false,
        signedDigits, if_true, read]
      omega
  · next nonnegative =>
      obtain ⟨character, others, digit, shape⟩ := decimalText_cons value.natAbs
      obtain ⟨_, _, noSpace, noMinus, noPlus⟩ := asciiCode_of_isDigit digit
      rw [shape] at read
      simp only [List.cons_append] at read
      simp only [shape, List.cons_append, List.dropWhile_cons, noSpace, Bool.false_eq_true,
        if_false, signedDigits, noMinus, noPlus, read]
      omega

theorem length_decimalText_le {value digits : Nat} (positive : 0 < digits)
    (small : value < 10 ^ digits) : (decimalText value).length ≤ digits := by
  simp only [decimalText, List.length_map]
  exact (Nat.length_toDigits_le_iff (by decide) positive).mpr small

/-- The number that the first digits of a number make. -/
def firstDigits (count value : Nat) : Nat :=
  value / 10 ^ ((decimalText value).length - count)

theorem firstDigits_of_length_le {count value : Nat}
    (short : (decimalText value).length ≤ count) : firstDigits count value = value := by
  rw [firstDigits, Nat.sub_eq_zero_of_le short, Nat.pow_zero, Nat.div_one]

/-- A text that is cut off shows the number of its first digits. -/
theorem take_decimalText {count : Nat} (positive : 0 < count) (value : Nat) :
    (decimalText value).take count = decimalText (firstDigits count value) := by
  induction value using Nat.strongRecOn with
  | ind value ih =>
      by_cases short : (decimalText value).length ≤ count
      · rw [firstDigits_of_length_le short, List.take_of_length_le short]
      · have large : 10 ≤ value := by
          by_contra small
          rw [decimalText_of_lt (by omega), List.length_singleton] at short
          omega
        have shape := decimalText_of_ge large
        have length : (decimalText value).length = (decimalText (value / 10)).length + 1 := by
          rw [shape, List.length_append, List.length_singleton]
        have step : firstDigits count value = firstDigits count (value / 10) := by
          have place : (decimalText value).length - count =
              (decimalText (value / 10)).length - count + 1 := by omega
          rw [firstDigits, firstDigits, Nat.div_div_eq_div_mul, place, Nat.pow_succ, Nat.mul_comm]
        rw [shape, List.take_append_of_le_length (by omega), ih (value / 10) (by omega), step]

/-- The text `%0*u` prints. -/
def paddedText (width value : Nat) : List UInt8 :=
  List.replicate (width - (decimalText value).length) (asciiCode '0') ++ decimalText value

theorem isDigit_paddedText (width value : Nat) :
    ∀ byte ∈ paddedText width value, isDigit byte = true := by
  intro byte member
  rcases List.mem_append.mp member with zero | digit
  · rw [List.eq_of_mem_replicate zero]
    rfl
  · exact isDigit_decimalText value byte digit

theorem length_paddedText (width value : Nat) :
    (paddedText width value).length = max width (decimalText value).length := by
  rw [paddedText, List.length_append, List.length_replicate]
  omega

theorem leadingDigits_paddedText (width value : Nat) {rest : List UInt8}
    (stops : StopsDigits rest) : leadingDigits 0 (paddedText width value ++ rest) = value := by
  have zeros : ∀ (count : Nat) (text : List UInt8),
      leadingDigits 0 (List.replicate count (asciiCode '0') ++ text) = leadingDigits 0 text := by
    intro count text
    induction count with
    | zero => rfl
    | succ count ih =>
        rw [List.replicate_succ, List.cons_append, leadingDigits, if_pos (by decide)]
        exact ih
  rw [paddedText, List.append_assoc, zeros, leadingDigits_decimalText value stops]

end Talko.Library
