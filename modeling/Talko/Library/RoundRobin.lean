import Mathlib.Algebra.Order.Floor.Div
import Mathlib.Data.Int.CardIntervalMod
import Mathlib.Data.List.Nodup

/-!
# Turns in a circle

A counter that goes up by one and starts again behind the last place. In any stretch of
`rounds` turns each place comes up as often as any other, but for one turn.
-/

set_option autoImplicit false

namespace Talko.Library

/-- The place behind `place`, of `size` places in a circle. -/
def nextTurn (size place : Nat) : Nat :=
  if place + 1 ≥ size then 0 else place + 1

/-- The places of the next `rounds` turns. -/
def turns (size place rounds : Nat) : List Nat :=
  List.iterate (nextTurn size) place rounds

theorem turns_succ (size place rounds : Nat) :
    turns size place (rounds + 1) = place :: turns size (nextTurn size place) rounds := rfl

theorem nextTurn_lt {size : Nat} (positive : 0 < size) (place : Nat) :
    nextTurn size place < size := by
  unfold nextTurn
  split <;> omega

theorem nextTurn_eq_mod {size place : Nat} (inside : place < size) :
    nextTurn size place = (place + 1) % size := by
  unfold nextTurn
  split
  case isTrue last =>
      have turned : place + 1 = size := by omega
      rw [turned, Nat.mod_self]
  case isFalse within => exact (Nat.mod_eq_of_lt (by omega)).symm

theorem turns_eq_map {size place : Nat} (inside : place < size) (rounds : Nat) :
    turns size place rounds = (List.range rounds).map fun turn => (place + turn) % size := by
  induction rounds generalizing place with
  | zero => rfl
  | succ rounds ih =>
      have stays : nextTurn size place < size := nextTurn_lt (by omega) place
      rw [turns_succ, ih stays, List.range_succ_eq_map, List.map_cons, List.map_map,
        nextTurn_eq_mod inside, Nat.add_zero]
      congr 1
      · exact (Nat.mod_eq_of_lt inside).symm
      · apply List.map_congr_left
        intro turn _
        rw [Nat.mod_add_mod, Function.comp_apply, Nat.succ_eq_add_one]
        congr 1
        omega

theorem mem_turns {size place turn : Nat} (inside : place < size) {rounds : Nat}
    (member : turn ∈ turns size place rounds) : turn < size := by
  rw [turns_eq_map inside] at member
  obtain ⟨_, _, rfl⟩ := List.mem_map.mp member
  exact Nat.mod_lt _ (by omega)

/-- A place comes up in the turns that are congruent to its distance from the first. -/
theorem count_turns_eq {size place turn : Nat} (inside : place < size) (target : turn < size)
    (rounds : Nat) :
    (turns size place rounds).count turn =
      rounds.count (· ≡ size - place + turn [MOD size]) := by
  rw [turns_eq_map inside, List.count, List.countP_map]
  apply List.countP_congr
  intro index _
  have meets : place + index ≡ turn [MOD size] ↔ index ≡ size - place + turn [MOD size] := by
    have circle : place + (size - place + turn) = size + turn := by omega
    have once : place + (size - place + turn) ≡ turn [MOD size] := by
      rw [circle]
      exact Nat.add_modEq_left
    constructor
    · intro same
      exact Nat.ModEq.add_left_cancel' place (same.trans once.symm)
    · intro same
      exact (same.add_left place).trans once
  simp only [Function.comp_apply, beq_iff_eq, decide_eq_true_eq]
  rw [← meets, Nat.ModEq, Nat.mod_eq_of_lt target]

/-- Among `rounds` turns in a row each place has its share, rounded down or up. -/
theorem count_turns {size place turn : Nat} (inside : place < size) (target : turn < size)
    (rounds : Nat) :
    (turns size place rounds).count turn = rounds / size ∨
      (turns size place rounds).count turn = rounds ⌈/⌉ size := by
  have positive : 0 < size := by omega
  rw [count_turns_eq inside target, Nat.count_modEq_card _ positive]
  split
  case isTrue extra =>
      have left : 0 < rounds % size := by omega
      have whole := Nat.div_add_mod rounds size
      have least := Nat.mod_lt rounds positive
      right
      rw [Nat.ceilDiv_eq_add_pred_div]
      symm
      apply Nat.div_eq_of_lt_le
      · rw [Nat.add_mul, Nat.mul_comm]
        omega
      · rw [Nat.add_mul, Nat.add_mul, Nat.mul_comm]
        omega
  case isFalse => exact Or.inl (Nat.add_zero _)

end Talko.Library
