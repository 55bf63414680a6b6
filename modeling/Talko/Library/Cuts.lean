import Mathlib.Data.List.Infix
import Talko.Library.Split

/-!
# All pieces of a text

The pieces between the leftmost occurrences of a delimiter that do not overlap, the empty ones
among them. With the delimiter between them they make up the text again.
-/

set_option autoImplicit false

namespace Talko.Library

variable {α : Type*}

/-- The text is cut at its first occurrence of the delimiter, and so is the rest behind it. -/
inductive Cuts (delimiter : List α) : List α → List (List α) → Prop
  | last {text : List α} :
      ClearUntil delimiter text text.length → Cuts delimiter text [text]
  | cut {piece rest : List α} {pieces : List (List α)} :
      ClearUntil delimiter (piece ++ delimiter ++ rest) piece.length →
        Cuts delimiter rest pieces → Cuts delimiter (piece ++ delimiter ++ rest) (piece :: pieces)

theorem Cuts.ne_nil {delimiter text : List α} {pieces : List (List α)}
    (cuts : Cuts delimiter text pieces) : pieces ≠ [] := by
  cases cuts with
  | last => exact List.cons_ne_nil _ _
  | cut => exact List.cons_ne_nil _ _

/-- Put together again, the pieces are the text. -/
theorem Cuts.intercalate {delimiter text : List α} {pieces : List (List α)}
    (cuts : Cuts delimiter text pieces) : delimiter.intercalate pieces = text := by
  induction cuts with
  | last => exact List.intercalate_singleton
  | cut _ others ih => rw [List.intercalate_cons_of_ne_nil others.ne_nil, ih]

/-- Where no delimiter begins, none lies. -/
theorem ClearUntil.not_infix {delimiter piece behind : List α} (present : delimiter ≠ [])
    (clear : ClearUntil delimiter (piece ++ behind) piece.length) :
    ¬ delimiter <:+: piece := by
  rintro ⟨before, after, shape⟩
  have positive := List.length_pos_of_ne_nil present
  have earlier : before.length < piece.length := by
    rw [← shape, List.length_append, List.length_append]
    omega
  apply clear before.length earlier
  rw [← shape, List.append_assoc, List.append_assoc, List.drop_left]
  exact List.prefix_append delimiter _

theorem clearUntil_length_iff {delimiter text : List α} (present : delimiter ≠ []) :
    ClearUntil delimiter text text.length ↔ ¬ delimiter <:+: text := by
  constructor
  · intro clear
    have whole : ClearUntil delimiter (text ++ []) text.length := by
      rw [List.append_nil]
      exact clear
    exact whole.not_infix present
  · intro absent earlier _ begins
    exact absent (begins.isInfix.trans (List.drop_suffix earlier text).isInfix)

theorem Cuts.not_infix {delimiter text : List α} {pieces : List (List α)}
    (present : delimiter ≠ []) (cuts : Cuts delimiter text pieces) :
    ∀ piece ∈ pieces, ¬ delimiter <:+: piece := by
  induction cuts with
  | @last text clear =>
      intro piece member
      rw [List.mem_singleton.mp member]
      exact (clearUntil_length_iff present).mp clear
  | @cut first rest _ clear _ ih =>
      intro piece member
      cases member with
      | head =>
          rw [List.append_assoc] at clear
          exact clear.not_infix present
      | tail _ later => exact ih piece later

theorem filter_singleton (piece : List α) : [piece].filter (· ≠ []) = pushNonempty piece := by
  cases piece <;> rfl

/-- The empty pieces add nothing. -/
theorem flatten_filter_ne_nil (pieces : List (List α)) :
    (pieces.filter (· ≠ [])).flatten = pieces.flatten := by
  induction pieces with
  | nil => rfl
  | cons piece rest ih =>
      rw [← List.singleton_append, List.filter_append, List.flatten_append, ih,
        List.flatten_append, filter_singleton]
      cases piece <;> rfl

theorem intercalate_nil_eq_flatten (pieces : List (List α)) :
    List.intercalate [] pieces = pieces.flatten := by
  induction pieces with
  | nil => rfl
  | cons piece rest ih =>
      cases rest with
      | nil => rw [List.intercalate_singleton, List.flatten_singleton]
      | cons next rest => rw [List.intercalate_cons_cons, ih, List.append_nil, ← List.flatten_cons]

variable [DecidableEq α]

theorem Cuts.eq_of_none {delimiter text : List α} {pieces : List (List α)}
    (cuts : Cuts delimiter text pieces) (absent : findDelimiter delimiter text = none) :
    pieces = [text] := by
  cases cuts with
  | last => rfl
  | cut clear => rw [findDelimiter_append _ _ clear] at absent; cases absent

theorem Cuts.eq_of_some {delimiter text : List α} {pieces : List (List α)}
    (present : delimiter ≠ []) (cuts : Cuts delimiter text pieces) {place : Nat}
    (found : findDelimiter delimiter text = some place) :
    ∃ others, pieces = text.take place :: others ∧
      Cuts delimiter (text.drop (place + delimiter.length)) others := by
  cases cuts with
  | last clear =>
      rw [(findDelimiter_eq_none_iff present).mpr clear] at found
      cases found
  | @cut piece rest others clear cuts =>
      rw [findDelimiter_append _ _ clear] at found
      cases found
      refine ⟨others, ?_, ?_⟩
      · rw [List.append_assoc, List.take_left]
      · rw [← List.length_append, List.drop_left]
        exact cuts

/-- Seen from a place in front of it, the first occurrence is still the first. -/
theorem findDelimiter_drop {delimiter text : List α} {place back : Nat}
    (found : findDelimiter delimiter text = some place) (within : back ≤ place) :
    findDelimiter delimiter (text.drop (place - back)) = some back := by
  obtain ⟨inside, begins, clear⟩ := findDelimiter_eq_some_iff.mp found
  have place_eq : place - back + back = place := Nat.sub_add_cancel within
  refine findDelimiter_eq_some_iff.mpr ⟨?_, ?_, ?_⟩
  · rw [List.length_drop]
    omega
  · rw [List.drop_drop, place_eq]
    exact begins
  · intro earlier before
    rw [List.drop_drop]
    exact clear _ (by omega)

theorem length_behind_lt {delimiter text : List α} (present : delimiter ≠ []) {place : Nat}
    (found : findDelimiter delimiter text = some place) :
    (text.drop (place + delimiter.length)).length < text.length := by
  have lengths := congrArg List.length (text_of_findDelimiter found).1
  have positive := List.length_pos_of_ne_nil present
  simp only [List.length_append] at lengths
  omega

theorem cuts_of_some {delimiter text : List α} {place : Nat}
    (found : findDelimiter delimiter text = some place) {others : List (List α)}
    (cuts : Cuts delimiter (text.drop (place + delimiter.length)) others) :
    Cuts delimiter text (text.take place :: others) := by
  obtain ⟨shape, length⟩ := text_of_findDelimiter found
  obtain ⟨-, -, clear⟩ := findDelimiter_eq_some_iff.mp found
  have whole : ClearUntil delimiter
      (text.take place ++ delimiter ++ text.drop (place + delimiter.length))
      (text.take place).length := by
    rw [← shape, length]
    exact clear
  have joined := Cuts.cut whole cuts
  rw [← shape] at joined
  exact joined

/-- Every text is cut in one way. -/
theorem exists_cuts {delimiter : List α} (present : delimiter ≠ []) (text : List α) :
    ∃ pieces, Cuts delimiter text pieces ∧
      ∀ others, Cuts delimiter text others → others = pieces := by
  induction bound : text.length using Nat.strongRecOn generalizing text with
  | ind _ ih =>
      cases found : findDelimiter delimiter text with
      | none =>
          exact ⟨[text], .last ((findDelimiter_eq_none_iff present).mp found),
            fun _ again => again.eq_of_none found⟩
      | some place =>
          have shorter := length_behind_lt present found
          obtain ⟨pieces, cuts, unique⟩ := ih _ (bound ▸ shorter) _ rfl
          refine ⟨_, cuts_of_some found cuts, ?_⟩
          intro others again
          obtain ⟨behind, rfl, rest⟩ := again.eq_of_some present found
          rw [unique behind rest]

/-- Without the empty ones the pieces are those of `splitNonempty`. -/
theorem Cuts.filter_eq {delimiter text : List α} {pieces : List (List α)}
    (present : delimiter ≠ []) (cuts : Cuts delimiter text pieces) :
    pieces.filter (· ≠ []) = splitNonempty delimiter text := by
  induction cuts with
  | @last text clear =>
      rw [splitNonempty_eq present, (findDelimiter_eq_none_iff present).mpr clear]
      exact filter_singleton text
  | @cut piece rest others clear _ ih =>
      rw [splitNonempty_eq present, findDelimiter_append _ _ clear, ← List.singleton_append,
        List.filter_append, filter_singleton, ih]
      dsimp only
      rw [← List.length_append, List.drop_left, List.append_assoc, List.take_left]

end Talko.Library
