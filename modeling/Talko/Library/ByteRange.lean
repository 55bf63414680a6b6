import Mathlib.Data.List.Basic

/-!
# Ranges of a list

Positions of a list used as a flat memory: the elements between two positions,
and the list with a run of elements written over a position.
-/

set_option autoImplicit false

namespace Talko.Library

variable {α : Type*}

/-- The elements at the positions `first ≤ i < last`. -/
def range (cells : List α) (first last : Nat) : List α :=
  (cells.take last).drop first

/-- The cells with `data` written from position `start` on. -/
def overwrite (cells : List α) (start : Nat) (data : List α) : List α :=
  cells.take start ++ data ++ cells.drop (start + data.length)

theorem length_range {cells : List α} {first last : Nat} (within : last ≤ cells.length) :
    (range cells first last).length = last - first := by
  simp [range, within]

@[simp] theorem range_self (cells : List α) (position : Nat) :
    range cells position position = [] := by
  simp [range]

theorem range_append {cells : List α} {first middle last : Nat}
    (left : first ≤ middle) (right : middle ≤ last) :
    range cells first middle ++ range cells middle last = range cells first last := by
  have whole : cells.take last = cells.take middle ++ (cells.take last).drop middle := by
    conv_lhs => rw [← List.take_append_drop middle (cells.take last)]
    rw [List.take_take, Nat.min_eq_left right]
  have split : (cells.take last).drop first =
      (cells.take middle).drop first ++
        ((cells.take last).drop middle).drop (first - (cells.take middle).length) := by
    conv_lhs => rw [whole]
    rw [List.drop_append]
  by_cases short : cells.length ≤ middle
  · have empty : (cells.take last).drop middle = [] := by
      apply List.drop_eq_nil_of_le
      simp only [List.length_take]
      omega
    simp only [range, split, empty, List.drop_nil]
  · have exactLength : (cells.take middle).length = middle := by
      simp only [List.length_take]
      omega
    simp only [range, split, exactLength, Nat.sub_eq_zero_of_le left, List.drop_zero]

theorem range_drop (cells : List α) (first last count : Nat) :
    (range cells first last).drop count = range cells (first + count) last := by
  simp only [range, List.drop_drop]

theorem range_take {cells : List α} {first last count : Nat} (within : first + count ≤ last) :
    (range cells first last).take count = range cells first (first + count) := by
  simp only [range, List.take_drop, List.take_take, Nat.min_eq_left within]

theorem range_length (cells : List α) (first : Nat) :
    range cells first cells.length = cells.drop first := by
  simp only [range, List.take_length]

theorem range_append_right {cells added : List α} {first last : Nat}
    (within : last ≤ cells.length) :
    range (cells ++ added) first last = range cells first last := by
  simp only [range, List.take_append_of_le_length within]

theorem length_overwrite {cells : List α} {start : Nat} {data : List α}
    (fits : start + data.length ≤ cells.length) :
    (overwrite cells start data).length = cells.length := by
  simp only [overwrite, List.length_append, List.length_take, List.length_drop]
  omega

theorem range_overwrite_self {cells : List α} {start : Nat} {data : List α}
    (fits : start ≤ cells.length) :
    range (overwrite cells start data) start (start + data.length) = data := by
  have front : (cells.take start).length = start := by
    simp only [List.length_take]
    omega
  have written : (cells.take start ++ data).length = start + data.length := by
    simp only [List.length_append, front]
  simp only [range, overwrite]
  rw [List.take_left' written, List.drop_left' front]

theorem range_overwrite_before {cells : List α} {start : Nat} {data : List α}
    {first last : Nat} (before : last ≤ start) (fits : start ≤ cells.length) :
    range (overwrite cells start data) first last = range cells first last := by
  have taken : (overwrite cells start data).take last = cells.take last := by
    simp only [overwrite, List.append_assoc]
    rw [List.take_append_of_le_length (by simp only [List.length_take]; omega),
      List.take_take, Nat.min_eq_left before]
  simp only [range, taken]

theorem range_overwrite_after {cells : List α} {start : Nat} {data : List α}
    {first last : Nat} (after : start + data.length ≤ first)
    (fits : start + data.length ≤ cells.length) :
    range (overwrite cells start data) first last = range cells first last := by
  have front : (cells.take start ++ data).length = start + data.length := by
    simp only [List.length_append, List.length_take]
    omega
  apply List.ext_getElem?
  intro index
  simp only [range, List.getElem?_drop, List.getElem?_take, overwrite]
  by_cases inside : first + index < last
  · simp only [inside, if_true]
    rw [List.getElem?_append_right (by omega), front, List.getElem?_drop]
    congr 1
    omega
  · simp only [inside, if_false]

end Talko.Library
