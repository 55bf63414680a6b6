import Mathlib.Data.List.Infix

/-!
# Cutting at a delimiter

The pieces of a list between the occurrences of a delimiter, without the empty ones.
Occurrences are taken from the left and do not overlap.
-/

set_option autoImplicit false

namespace Talko.Library

variable {α : Type*}

/-- A piece as it is put behind those found before. -/
def pushNonempty (piece : List α) : List (List α) :=
  if piece = [] then [] else [piece]

@[simp] theorem pushNonempty_nil : pushNonempty ([] : List α) = [] := rfl

theorem pushNonempty_of_ne {piece : List α} (nonempty : piece ≠ []) :
    pushNonempty piece = [piece] :=
  if_neg nonempty

/-- No delimiter begins among the first elements of the text. -/
def ClearUntil (delimiter text : List α) (place : Nat) : Prop :=
  ∀ earlier < place, ¬ delimiter <+: text.drop earlier

theorem clearUntil_succ {delimiter rest : List α} {a : α} {place : Nat} :
    ClearUntil delimiter (a :: rest) (place + 1) ↔
      ¬ delimiter <+: a :: rest ∧ ClearUntil delimiter rest place := by
  constructor
  · intro clear
    exact ⟨clear 0 (Nat.succ_pos place), fun earlier before =>
      clear (earlier + 1) (Nat.succ_lt_succ before)⟩
  · rintro ⟨front, clear⟩ earlier before
    cases earlier with
    | zero => exact front
    | succ earlier => exact clear earlier (Nat.lt_of_succ_lt_succ before)

/-- The text begins with the piece, behind any number of delimiters, and the rest follows
behind the delimiter that ends the piece. -/
inductive Leads (delimiter : List α) : List α → List α → List α → Prop
  | skip {text piece rest : List α} :
      Leads delimiter text piece rest → Leads delimiter (delimiter ++ text) piece rest
  | last {piece : List α} :
      piece ≠ [] → ClearUntil delimiter piece piece.length → Leads delimiter piece piece []
  | first {piece rest : List α} :
      piece ≠ [] → ClearUntil delimiter (piece ++ delimiter ++ rest) piece.length →
        Leads delimiter (piece ++ delimiter ++ rest) piece rest

theorem Leads.nonempty {delimiter text piece rest : List α}
    (leads : Leads delimiter text piece rest) : piece ≠ [] := by
  induction leads with
  | skip _ ih => exact ih
  | last nonempty _ => exact nonempty
  | first nonempty _ => exact nonempty

variable [DecidableEq α]

/-- The first place at which the delimiter occurs. -/
def findDelimiter (delimiter : List α) : List α → Option Nat
  | [] => if delimiter = [] then some 0 else none
  | a :: rest =>
      if delimiter <+: a :: rest then some 0 else (findDelimiter delimiter rest).map (· + 1)

def splitRounds (delimiter : List α) : Nat → List α → List (List α)
  | 0, _ => []
  | rounds + 1, text =>
      match findDelimiter delimiter text with
      | some place =>
          pushNonempty (text.take place) ++
            splitRounds delimiter rounds (text.drop (place + delimiter.length))
      | none => pushNonempty text

/-- The pieces of a text. Each round but the last takes a delimiter away, so that there are
no more rounds than elements and one. -/
def splitNonempty (delimiter text : List α) : List (List α) :=
  splitRounds delimiter (text.length + 1) text

/-!
## The first occurrence
-/

theorem findDelimiter_eq_some_iff {delimiter text : List α} {place : Nat} :
    findDelimiter delimiter text = some place ↔
      place ≤ text.length ∧ delimiter <+: text.drop place ∧
        ClearUntil delimiter text place := by
  induction text generalizing place with
  | nil =>
      simp only [findDelimiter, List.length_nil, Nat.le_zero, List.drop_nil, List.prefix_nil]
      constructor
      · intro found
        split at found
        · rename_i empty
          cases found
          exact ⟨rfl, empty, fun earlier before => absurd before (Nat.not_lt_zero earlier)⟩
        · cases found
      · rintro ⟨rfl, empty, -⟩
        rw [if_pos empty]
  | cons a rest ih =>
      rw [findDelimiter]
      by_cases front : delimiter <+: a :: rest
      · rw [if_pos front]
        cases place with
        | zero =>
            exact ⟨fun _ => ⟨Nat.zero_le _, front, fun earlier before =>
              absurd before (Nat.not_lt_zero earlier)⟩, fun _ => rfl⟩
        | succ place =>
            constructor
            · intro same
              cases same
            · rintro ⟨-, -, clear⟩
              exact absurd front (clearUntil_succ.mp clear).1
      · rw [if_neg front]
        cases place with
        | zero =>
            constructor
            · intro found
              obtain ⟨later, -, impossible⟩ := Option.map_eq_some_iff.mp found
              cases impossible
            · rintro ⟨-, starts, -⟩
              exact absurd starts front
        | succ place =>
            rw [Option.map_eq_some_iff, clearUntil_succ]
            simp only [Nat.add_right_cancel_iff, exists_eq_right, ih, List.length_cons,
              Nat.add_le_add_iff_right, List.drop_succ_cons]
            exact ⟨fun ⟨within, starts, clear⟩ => ⟨within, starts, front, clear⟩,
              fun ⟨within, starts, _, clear⟩ => ⟨within, starts, clear⟩⟩

theorem findDelimiter_eq_none_iff {delimiter text : List α} (present : delimiter ≠ []) :
    findDelimiter delimiter text = none ↔ ClearUntil delimiter text text.length := by
  induction text with
  | nil =>
      simp only [findDelimiter, if_neg present, true_iff]
      intro earlier before
      exact absurd before (Nat.not_lt_zero earlier)
  | cons a rest ih =>
      rw [findDelimiter, List.length_cons, clearUntil_succ]
      by_cases front : delimiter <+: a :: rest
      · simp [front]
      · simp [front, ih]

theorem findDelimiter_append {delimiter : List α} (piece rest : List α)
    (clear : ClearUntil delimiter (piece ++ delimiter ++ rest) piece.length) :
    findDelimiter delimiter (piece ++ delimiter ++ rest) = some piece.length := by
  refine findDelimiter_eq_some_iff.mpr ⟨?_, ?_, clear⟩
  · simp only [List.length_append]
    omega
  · rw [List.append_assoc, List.drop_left]
    exact List.prefix_append delimiter rest

/-- The text around the first occurrence. -/
theorem text_of_findDelimiter {delimiter text : List α} {place : Nat}
    (found : findDelimiter delimiter text = some place) :
    text = text.take place ++ delimiter ++ text.drop (place + delimiter.length) ∧
      (text.take place).length = place := by
  obtain ⟨within, starts, -⟩ := findDelimiter_eq_some_iff.mp found
  obtain ⟨rest, shape⟩ := starts
  have behind : text.drop (place + delimiter.length) = rest := by
    rw [← List.drop_drop, ← shape, List.drop_left]
  refine ⟨?_, List.length_take_of_le within⟩
  rw [behind, List.append_assoc, shape, List.take_append_drop]

/-!
## The pieces
-/

theorem splitRounds_eq {delimiter : List α} (present : delimiter ≠ []) {rounds : Nat}
    {text : List α} (enough : text.length < rounds) :
    splitRounds delimiter rounds text = splitNonempty delimiter text := by
  induction rounds using Nat.strongRecOn generalizing text with
  | ind rounds ih =>
      cases rounds with
      | zero => exact absurd enough (Nat.not_lt_zero _)
      | succ rounds =>
          rw [splitNonempty, splitRounds, splitRounds]
          cases found : findDelimiter delimiter text with
          | none => rfl
          | some place =>
              dsimp only
              have shorter : (text.drop (place + delimiter.length)).length < text.length := by
                have lengths := congrArg List.length (text_of_findDelimiter found).1
                have positive := List.length_pos_of_ne_nil present
                simp only [List.length_append] at lengths
                omega
              rw [ih rounds (Nat.lt_succ_self rounds) (by omega)]
              by_cases same : text.length = rounds
              · rw [same, ih rounds (Nat.lt_succ_self rounds) (by omega)]
              · rw [ih text.length (by omega) shorter]

theorem splitNonempty_eq {delimiter : List α} (present : delimiter ≠ []) (text : List α) :
    splitNonempty delimiter text =
      match findDelimiter delimiter text with
      | some place =>
          pushNonempty (text.take place) ++
            splitNonempty delimiter (text.drop (place + delimiter.length))
      | none => pushNonempty text := by
  rw [← splitRounds_eq present (Nat.lt_add_of_pos_right (k := 2) (by decide)), splitRounds]
  cases found : findDelimiter delimiter text with
  | none => rfl
  | some place =>
      dsimp only
      rw [splitRounds_eq present]
      rw [List.length_drop]
      omega

@[simp] theorem splitNonempty_nil {delimiter : List α} (present : delimiter ≠ []) :
    splitNonempty delimiter [] = [] := by
  rw [splitNonempty_eq present, findDelimiter, if_neg present]
  rfl

theorem Leads.split {delimiter text piece rest : List α} (present : delimiter ≠ [])
    (leads : Leads delimiter text piece rest) :
    splitNonempty delimiter text = piece :: splitNonempty delimiter rest := by
  induction leads with
  | @skip text _ _ _ ih =>
      have found : findDelimiter delimiter (delimiter ++ text) = some 0 :=
        findDelimiter_append [] text (fun earlier before => absurd before (Nat.not_lt_zero earlier))
      rw [splitNonempty_eq present, found]
      simpa using ih
  | last nonempty clear =>
      rw [splitNonempty_eq present, (findDelimiter_eq_none_iff present).mpr clear]
      rw [splitNonempty_nil present]
      exact pushNonempty_of_ne nonempty
  | first nonempty clear =>
      rw [splitNonempty_eq present, findDelimiter_append _ _ clear]
      simp [pushNonempty_of_ne nonempty]

/-- The first piece is the one the text begins with. -/
theorem splitNonempty_eq_cons_iff {delimiter text piece : List α} {pieces : List (List α)}
    (present : delimiter ≠ []) :
    splitNonempty delimiter text = piece :: pieces ↔
      ∃ rest, Leads delimiter text piece rest ∧ splitNonempty delimiter rest = pieces := by
  constructor
  · intro cut
    induction bound : text.length using Nat.strongRecOn generalizing text with
    | ind _ ih =>
        rw [splitNonempty_eq present] at cut
        cases found : findDelimiter delimiter text with
        | none =>
            rw [found] at cut
            dsimp only at cut
            by_cases empty : text = []
            · rw [empty] at cut
              cases cut
            · rw [pushNonempty_of_ne empty] at cut
              cases cut
              exact ⟨[], .last empty ((findDelimiter_eq_none_iff present).mp found),
                splitNonempty_nil present⟩
        | some place =>
            rw [found] at cut
            dsimp only at cut
            obtain ⟨shape, length⟩ := text_of_findDelimiter found
            obtain ⟨-, -, clear⟩ := findDelimiter_eq_some_iff.mp found
            generalize text.take place = front at cut shape length
            generalize text.drop (place + delimiter.length) = behind at cut shape
            by_cases empty : front = []
            · rw [empty, pushNonempty_nil, List.nil_append] at cut
              rw [empty, List.nil_append] at shape
              have shorter : behind.length < text.length := by
                have positive := List.length_pos_of_ne_nil present
                rw [shape, List.length_append]
                omega
              obtain ⟨rest, leads, others⟩ := ih behind.length (bound ▸ shorter) cut rfl
              exact ⟨rest, shape ▸ .skip leads, others⟩
            · rw [pushNonempty_of_ne empty] at cut
              cases cut
              rw [shape, ← length] at clear
              exact ⟨behind, shape ▸ .first empty clear, rfl⟩
  · rintro ⟨rest, leads, rfl⟩
    exact leads.split present

end Talko.Library
