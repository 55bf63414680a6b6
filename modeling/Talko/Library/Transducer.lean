import Mathlib.Data.List.Basic

/-!
# Transducers with a window

A stream that is called again and again with what is left of its input and the size of a window
for its output. A call takes part of the input and fills the window; what does not fit stays
pending. The output in the window and the pending one are those of the whole.
-/

set_option autoImplicit false

namespace Talko.Library

/-- What a call returns: an error code, how much of the input it has taken, what it has written
to the window, and the stream after it. -/
structure TransducerCall (Code State Item : Type*) where
  err : Code
  consumed : Nat
  written : List Item
  next : State

section

variable {Code State Item : Type*}

/-- A call that has written what fits of the output. With space left in the window it has taken
the whole input. -/
structure Answers (ok : Code) (live : State → List Item → List Item → Prop)
    (input output : List Item) (availOut : Nat) (called : TransducerCall Code State Item) :
    Prop where
  err : called.err = ok
  taken : called.consumed ≤ input.length
  written : called.written = output.take availOut
  complete : output.length < availOut → called.consumed = input.length
  live : live called.next (input.drop called.consumed) (output.drop availOut)

/-- The stream writes this output, given that input: every call that finds input or output left
answers, and leaves a stream that writes the rest. -/
def Streams (ok : Code) (call : State → List Item → Nat → TransducerCall Code State Item)
    (state : State) (input output : List Item) : Prop :=
  ∃ live : State → List Item → List Item → Prop,
    (∀ state input output availOut, live state input output → (input ≠ [] ∨ output ≠ []) →
      0 < availOut → Answers ok live input output availOut (call state input availOut)) ∧
    live state input output

variable {ok : Code} {call : State → List Item → Nat → TransducerCall Code State Item}

theorem Streams.answers {state : State} {input output : List Item} {availOut : Nat}
    (streams : Streams ok call state input output) (left : input ≠ [] ∨ output ≠ [])
    (window : 0 < availOut) :
    Answers ok (Streams ok call) input output availOut (call state input availOut) := by
  obtain ⟨live, lawful, here⟩ := streams
  have answers := lawful state input output availOut here left window
  exact ⟨answers.err, answers.taken, answers.written, answers.complete,
    ⟨live, lawful, answers.live⟩⟩

/-- A stream that takes its whole input at the first call and keeps the output. -/
def takesAll (ok stalled : Code) (whole : List Item → List Item) (state : Option (List Item))
    (input : List Item) (availOut : Nat) : TransducerCall Code (Option (List Item)) Item :=
  let output := state.getD (whole input)
  { err := if input.isEmpty && output.isEmpty then stalled else ok
    consumed := input.length
    written := output.take availOut
    next := some (output.drop availOut) }

theorem takesAll_streams (stalled : Code) (whole : List Item → List Item) (input : List Item) :
    Streams ok (takesAll ok stalled whole) none input (whole input) := by
  refine ⟨fun state input output => output = state.getD (whole input), ?_, rfl⟩
  rintro state input output availOut rfl left -
  refine ⟨if_neg ?_, Nat.le_refl _, rfl, fun _ => rfl, rfl⟩
  rw [Bool.and_eq_true, List.isEmpty_iff, List.isEmpty_iff]
  rintro ⟨noInput, noOutput⟩
  rcases left with input | output
  · exact input noInput
  · exact output noOutput

end

end Talko.Library
