import Mathlib.Data.Nat.ModEq

/-!
# One's-complement addition

Numbers below a base with addition whose carry comes back in at the bottom. A number of any size
folds to the digit that it is congruent to modulo the base less one; zero alone folds to zero.
-/

set_option autoImplicit false

namespace Talko.Library

/-- The number with what stands above the lowest digit added to it. -/
def foldOnce (base number : Nat) : Nat :=
  number / base + number % base

def endAroundAdd (base left right : Nat) : Nat :=
  foldOnce base (left + right)

def onesSum (base : Nat) (words : List Nat) : Nat :=
  words.foldl (endAroundAdd base) 0

/-- The digit that a number folds to. -/
def digitRoot (base number : Nat) : Nat :=
  if number = 0 then 0 else (number - 1) % (base - 1) + 1

section

variable {base : Nat}

theorem foldOnce_lt (large : 1 < base) {number : Nat} (carries : base ≤ number) :
    foldOnce base number < number := by
  have split := Nat.div_add_mod number base
  have quotient : 0 < number / base := Nat.div_pos carries (by omega)
  have shrinks : number / base < base * (number / base) := by
    calc number / base = 1 * (number / base) := (Nat.one_mul _).symm
      _ < base * (number / base) := Nat.mul_lt_mul_of_pos_right large quotient
  unfold foldOnce
  omega

theorem foldOnce_eq_zero_iff {number : Nat} : foldOnce base number = 0 ↔ number = 0 := by
  constructor
  · intro none
    have split := Nat.div_add_mod number base
    obtain ⟨quotient, rest⟩ := Nat.add_eq_zero_iff.mp none
    rw [quotient, rest, Nat.mul_zero] at split
    exact split.symm
  · rintro rfl
    simp [foldOnce]

theorem foldOnce_modEq (large : 1 < base) (number : Nat) :
    foldOnce base number ≡ number [MOD base - 1] := by
  have one : base ≡ 1 [MOD base - 1] := by
    have split : base = 1 + (base - 1) := by omega
    rw [split, Nat.add_sub_cancel_left]
    exact Nat.ModEq.add_left_cancel' 0 (by simp [Nat.ModEq])
  calc foldOnce base number = 1 * (number / base) + number % base := by
        rw [foldOnce, Nat.one_mul]
    _ ≡ base * (number / base) + number % base [MOD base - 1] :=
        (one.symm.mul_right _).add_right _
    _ = number := Nat.div_add_mod number base

theorem digitRoot_lt (large : 1 < base) (number : Nat) : digitRoot base number < base := by
  unfold digitRoot
  split
  · omega
  · have below : (number - 1) % (base - 1) < base - 1 := Nat.mod_lt _ (by omega)
    omega

theorem digitRoot_of_lt {number : Nat} (small : number < base) :
    digitRoot base number = number := by
  unfold digitRoot
  split
  · next none => exact none.symm
  · rw [Nat.mod_eq_of_lt (by omega)]
    omega

theorem digitRoot_eq_zero_iff {number : Nat} : digitRoot base number = 0 ↔ number = 0 := by
  unfold digitRoot
  split
  · next none => exact iff_of_true rfl none
  · next some => exact iff_of_false (Nat.succ_ne_zero _) some

theorem digitRoot_modEq (base number : Nat) :
    digitRoot base number ≡ number [MOD base - 1] := by
  unfold digitRoot
  split
  · next none => rw [none]
  · have restored : number - 1 + 1 = number := by omega
    calc (number - 1) % (base - 1) + 1 ≡ number - 1 + 1 [MOD base - 1] :=
          (Nat.mod_modEq _ _).add_right 1
      _ = number := restored

/-- Two numbers fold to the same digit when they are congruent, zero apart. -/
theorem digitRoot_eq_iff {left right : Nat} :
    digitRoot base left = digitRoot base right ↔
      (left = 0 ↔ right = 0) ∧ left ≡ right [MOD base - 1] := by
  constructor
  · intro same
    refine ⟨?_, ?_⟩
    · rw [← @digitRoot_eq_zero_iff base left, same, digitRoot_eq_zero_iff]
    · exact (digitRoot_modEq base left).symm.trans (same ▸ digitRoot_modEq base right)
  · rintro ⟨zeros, congruent⟩
    unfold digitRoot
    split
    · next none => rw [if_pos (zeros.mp none)]
    · next some =>
        have other : right ≠ 0 := fun none => some (zeros.mpr none)
        rw [if_neg other]
        have shifted : left - 1 ≡ right - 1 [MOD base - 1] := by
          apply Nat.ModEq.add_right_cancel' 1
          rwa [Nat.sub_add_cancel (Nat.pos_of_ne_zero some),
            Nat.sub_add_cancel (Nat.pos_of_ne_zero other)]
        rw [shifted]

theorem digitRoot_foldOnce (large : 1 < base) (number : Nat) :
    digitRoot base (foldOnce base number) = digitRoot base number :=
  digitRoot_eq_iff.mpr ⟨foldOnce_eq_zero_iff, foldOnce_modEq large number⟩

theorem digitRoot_add (left right : Nat) :
    digitRoot base (digitRoot base left + right) = digitRoot base (left + right) := by
  rw [digitRoot_eq_iff]
  refine ⟨?_, (digitRoot_modEq base left).add_right right⟩
  rw [Nat.add_eq_zero_iff, Nat.add_eq_zero_iff, digitRoot_eq_zero_iff]

theorem endAroundAdd_eq (large : 1 < base) {left right : Nat} (first : left < base)
    (second : right < base) : endAroundAdd base left right = digitRoot base (left + right) := by
  have small : foldOnce base (left + right) < base := by
    by_cases carries : base ≤ left + right
    · obtain ⟨rest, total⟩ := Nat.exists_eq_add_of_le carries
      rw [foldOnce, total, Nat.add_div_left rest (by omega), Nat.add_mod_left,
        Nat.div_eq_of_lt (by omega), Nat.mod_eq_of_lt (by omega)]
      omega
    · rw [foldOnce, Nat.div_eq_of_lt (by omega), Nat.mod_eq_of_lt (by omega)]
      omega
  rw [endAroundAdd, ← digitRoot_foldOnce large, digitRoot_of_lt small]

/-- The one's-complement sum is the digit that the sum folds to. -/
theorem onesSum_eq (large : 1 < base) {words : List Nat} (digits : ∀ word ∈ words, word < base) :
    onesSum base words = digitRoot base words.sum := by
  have from' : ∀ start, start < base →
      words.foldl (endAroundAdd base) start = digitRoot base (start + words.sum) := by
    induction words with
    | nil => exact fun start small => (digitRoot_of_lt small).symm
    | cons word rest ih =>
        intro start small
        obtain ⟨digit, later⟩ := List.forall_mem_cons.mp digits
        rw [List.foldl_cons, endAroundAdd_eq large small digit,
          ih later _ (digitRoot_lt large _), digitRoot_add, List.sum_cons, Nat.add_assoc]
  rw [onesSum, from' 0 (by omega), Nat.zero_add]

end

end Talko.Library
