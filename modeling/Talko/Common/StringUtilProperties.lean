import Talko.Common.StringUtil

/-!
# What the string functions owe their callers

`split` and `replace` go by the pieces between the occurrences of a text, and `trim` by the runs
of a character at both ends. `trim` owes this on no string that lacks another character, and
`split` not for every delimiter whose length an `int` cannot hold.
-/

set_option autoImplicit false

namespace Talko.Common.StringUtil

open Talko.Library

/-!
## Splitting
-/

/-- `split` ends and appends the pieces that are not empty. None of them contains the delimiter,
and the string without its delimiters is made of them. -/
def Splits (str delimiter : List UInt8) : Prop :=
  ∃ pieces, Cuts delimiter str pieces ∧
    (∀ v, ∃ rounds, split rounds str v (some delimiter) =
      some (.returned (v ++ pieces.filter (· ≠ [])))) ∧
    (∀ piece ∈ pieces, ¬ delimiter <:+: piece) ∧
    delimiter.intercalate pieces = str ∧
    (pieces.filter (· ≠ [])).flatten = List.intercalate [] pieces

theorem delimiterLength_of_lt {delimiter : List UInt8} (short : delimiter.length < 2 ^ 31) :
    delimiterLength delimiter = delimiter.length := by
  unfold delimiterLength
  exact Int.bmod_eq_of_le (by omega) (by omega)

theorem delimiterLength_lt (delimiter : List UInt8) : delimiterLength delimiter < 2 ^ 31 := by
  unfold delimiterLength
  have := Int.bmod_lt (x := (delimiter.length : Int)) (m := 2 ^ 32) (by decide)
  omega

theorem splitLoop_of_none {delimiter buf : List UInt8} {delimiterlength : Int}
    (absent : findDelimiter delimiter buf = none) (rounds : Nat) (v : List (List UInt8)) :
    splitLoop delimiter delimiterlength (rounds + 1) buf v =
      some (.returned (v ++ pushNonempty buf)) := by
  simp only [splitLoop, absent]

theorem splitLoop_of_some {delimiter buf : List UInt8} {delimiterlength : Int} {pos : Nat}
    (found : findDelimiter delimiter buf = some pos) {behind : List UInt8}
    (rest : substrBehind buf pos delimiterlength = some behind) (rounds : Nat)
    (v : List (List UInt8)) :
    splitLoop delimiter delimiterlength (rounds + 1) buf v =
      splitLoop delimiter delimiterlength rounds behind (v ++ pushNonempty (buf.take pos)) := by
  simp only [splitLoop, found, rest]

theorem splitLoop_of_threw {delimiter buf : List UInt8} {delimiterlength : Int} {pos : Nat}
    (found : findDelimiter delimiter buf = some pos)
    (beyond : substrBehind buf pos delimiterlength = none) (rounds : Nat)
    (v : List (List UInt8)) :
    splitLoop delimiter delimiterlength (rounds + 1) buf v =
      some (.threw (v ++ pushNonempty (buf.take pos))) := by
  simp only [splitLoop, found, beyond]

theorem substrBehind_eq {buf : List UInt8} {pos start : Nat} {delimiterlength : Int}
    (place : (pos : Int) + delimiterlength = start) (inside : start ≤ buf.length) :
    substrBehind buf pos delimiterlength = some (buf.drop start) := by
  unfold substrBehind
  dsimp only
  rw [place, if_neg (by omega), Int.toNat_natCast]

/-- A length that the `int` holds leads behind the delimiter. -/
theorem substrBehind_length (piece delimiter rest : List UInt8) :
    substrBehind (piece ++ delimiter ++ rest) piece.length delimiter.length = some rest := by
  have start : ((piece.length : Int) + delimiter.length) = (piece ++ delimiter).length := by
    rw [List.length_append, Int.natCast_add]
  have inside := (List.prefix_append (piece ++ delimiter) rest).length_le
  rw [substrBehind_eq start inside, List.drop_left]

theorem splitLoop_cuts {delimiter text : List UInt8} {pieces : List (List UInt8)}
    (present : delimiter ≠ []) (cuts : Cuts delimiter text pieces) (v : List (List UInt8)) :
    ∃ rounds, splitLoop delimiter delimiter.length rounds text v =
      some (.returned (v ++ pieces.filter (· ≠ []))) := by
  induction cuts generalizing v with
  | @last text clear =>
      refine ⟨0 + 1, ?_⟩
      rw [filter_singleton]
      exact splitLoop_of_none ((findDelimiter_eq_none_iff present).mpr clear) 0 v
  | @cut piece rest pieces clear others ih =>
      obtain ⟨rounds, ended⟩ := ih (v ++ pushNonempty piece)
      refine ⟨rounds + 1, ?_⟩
      rw [splitLoop_of_some (findDelimiter_append piece rest clear)
        (substrBehind_length piece delimiter rest), List.append_assoc piece, List.take_left,
        ended, ← List.singleton_append, List.filter_append, filter_singleton, List.append_assoc]

/-- A delimiter that the `int` holds is cut out, and one that does not occur need not be. -/
theorem splits_of {str delimiter : List UInt8} (present : delimiter ≠ [])
    (fits : delimiter.length < 2 ^ 31 ∨ ¬ delimiter <:+: str) : Splits str delimiter := by
  obtain ⟨pieces, cuts, _⟩ := exists_cuts present str
  refine ⟨pieces, cuts, ?_, cuts.not_infix present, cuts.intercalate,
    (flatten_filter_ne_nil pieces).trans (intercalate_nil_eq_flatten pieces).symm⟩
  intro v
  by_cases empty : str = []
  · refine ⟨0, ?_⟩
    have nothing := cuts.filter_eq present
    rw [empty, splitNonempty_nil present] at nothing
    rw [split, if_pos empty, nothing, List.append_nil]
  · cases fits with
    | inl short =>
        obtain ⟨rounds, ended⟩ := splitLoop_cuts present cuts v
        exact ⟨rounds, by rw [split, if_neg empty, delimiterLength_of_lt short, ended]⟩
    | inr absent =>
        have none := (findDelimiter_eq_none_iff present).mpr
          ((clearUntil_length_iff present).mpr absent)
        refine ⟨0 + 1, ?_⟩
        rw [split, if_neg empty, splitLoop_of_none none, cuts.eq_of_none none, filter_singleton]

/-- `cut` appends the first piece and all that is behind it; without a delimiter it appends
nothing, where `split` appends the string. -/
theorem cut_of_cuts {str delimiter piece : List UInt8} {pieces : List (List UInt8)}
    (present : delimiter ≠ []) (short : delimiter.length < 2 ^ 31)
    (cuts : Cuts delimiter str (piece :: pieces)) (v : List (List UInt8)) :
    cut str v (some delimiter) = .returned (v ++
      if pieces = [] then []
      else pushNonempty piece ++ pushNonempty (delimiter.intercalate pieces)) := by
  cases cuts with
  | last clear =>
      have absent := (findDelimiter_eq_none_iff present).mpr clear
      unfold cut
      rw [if_pos rfl, List.append_nil]
      dsimp only
      split
      case isTrue => rfl
      case isFalse => rw [absent]
  | @cut _ rest _ clear others =>
      have filled : piece ++ delimiter ++ rest ≠ [] := by simp [present]
      unfold cut
      dsimp only
      rw [if_neg filled, if_neg others.ne_nil, findDelimiter_append _ _ clear,
        delimiterLength_of_lt short]
      dsimp only
      rw [substrBehind_length, others.intercalate, List.append_assoc piece, List.take_left,
        ← List.append_assoc v]

/-!
### Delimiters whose length an `int` cannot hold
-/

/-- With a remainder that is the buffer again, the loop never ends. -/
theorem splitLoop_stuck {delimiter buf : List UInt8} {delimiterlength : Int} {pos : Nat}
    (found : findDelimiter delimiter buf = some pos)
    (again : substrBehind buf pos delimiterlength = some buf) (rounds : Nat)
    (v : List (List UInt8)) : splitLoop delimiter delimiterlength rounds buf v = none := by
  induction rounds generalizing v with
  | zero => rfl
  | succ rounds ih =>
      rw [splitLoop_of_some found again]
      exact ih _

theorem Splits.loop_returns {str delimiter : List UInt8} (present : delimiter ≠ [])
    (filled : str ≠ []) (splits : Splits str delimiter) :
    ∃ rounds, splitLoop delimiter (delimiterLength delimiter) rounds str [] =
      some (.returned (splitNonempty delimiter str)) := by
  obtain ⟨pieces, cuts, ends, _⟩ := splits
  obtain ⟨rounds, ended⟩ := ends []
  rw [split, if_neg filled, List.nil_append, cuts.filter_eq present] at ended
  exact ⟨rounds, ended⟩

/-- With a length that is not positive the loop finds the same delimiter again, if `substr` does
not throw. -/
theorem not_splits_of_occurs {str delimiter : List UInt8} (present : delimiter ≠ [])
    (narrowed : delimiterLength delimiter ≤ 0) (occurs : delimiter <:+: str) :
    ¬ Splits str delimiter := by
  intro splits
  have filled : str ≠ [] := fun empty => present (List.infix_nil.mp (empty ▸ occurs))
  obtain ⟨rounds, ended⟩ := splits.loop_returns present filled
  generalize delimiterLength delimiter = delimiterlength at narrowed ended
  cases found : findDelimiter delimiter str with
  | none =>
      have clear := (findDelimiter_eq_none_iff present).mp found
      exact (clearUntil_length_iff present).mp clear occurs
  | some pos =>
      cases rounds with
      | zero => cases ended
      | succ rounds =>
          by_cases thrown : (pos : Int) + delimiterlength < 0
          · have beyond : substrBehind str pos delimiterlength = none := by
              unfold substrBehind
              exact if_pos (Or.inl thrown)
            rw [splitLoop_of_threw found beyond] at ended
            cases ended
          · obtain ⟨within, -, -⟩ := findDelimiter_eq_some_iff.mp found
            have behind : substrBehind str pos delimiterlength =
                some (str.drop (pos - (-delimiterlength).toNat)) :=
              substrBehind_eq (by omega) (by omega)
            have next := findDelimiter_drop found
              (show (-delimiterlength).toNat ≤ pos by omega)
            have again : ∀ buf : List UInt8,
                substrBehind buf (-delimiterlength).toNat delimiterlength = some buf := by
              intro buf
              have zero : (((-delimiterlength).toNat : Int) + delimiterlength) = (0 : Nat) := by
                omega
              exact substrBehind_eq zero (Nat.zero_le _)
            rw [splitLoop_of_some found behind, splitLoop_stuck next (again _)] at ended
            cases ended

theorem delimiterLength_nonpos {delimiter : List UInt8} (long : 2 ^ 31 ≤ delimiter.length)
    (bounded : delimiter.length ≤ 2 ^ 32) : delimiterLength delimiter ≤ 0 := by
  unfold delimiterLength
  rw [Int.bmod_def]
  split <;> omega

/-- A longer delimiter does not even cut itself. -/
theorem not_splits_self {delimiter : List UInt8} (long : 2 ^ 31 ≤ delimiter.length) :
    ¬ Splits delimiter delimiter := by
  have present : delimiter ≠ [] := List.ne_nil_of_length_pos (by omega)
  by_cases narrowed : delimiterLength delimiter ≤ 0
  · exact not_splits_of_occurs present narrowed (List.infix_refl delimiter)
  · intro splits
    obtain ⟨rounds, ended⟩ := splits.loop_returns present present
    have small := delimiterLength_lt delimiter
    generalize delimiterLength delimiter = delimiterlength at narrowed small ended
    have found : findDelimiter delimiter delimiter = some 0 :=
      findDelimiter_eq_some_iff.mpr ⟨Nat.zero_le _, List.prefix_refl delimiter,
        fun earlier before => absurd before (Nat.not_lt_zero earlier)⟩
    have behind : substrBehind delimiter 0 delimiterlength =
        some (delimiter.drop delimiterlength.toNat) :=
      substrBehind_eq (by omega) (by omega)
    have rest : (delimiter.drop delimiterlength.toNat).length < delimiter.length := by
      rw [List.length_drop]
      omega
    have absent : findDelimiter delimiter (delimiter.drop delimiterlength.toNat) = none := by
      rw [findDelimiter_eq_none_iff present, clearUntil_length_iff present]
      intro occurs
      have := occurs.length_le
      omega
    have whole : splitNonempty delimiter delimiter = [] := by
      rw [splitNonempty_eq present, found]
      simp [present]
    cases rounds with
    | zero => cases ended
    | succ rounds =>
        rw [splitLoop_of_some found behind, whole] at ended
        cases rounds with
        | zero => cases ended
        | succ rounds =>
            rw [splitLoop_of_none absent] at ended
            have left : delimiter.drop delimiterlength.toNat ≠ [] := by
              rw [ne_eq, List.drop_eq_nil_iff]
              omega
            simp [pushNonempty_of_ne left] at ended

/-- `split` does what it should on every string exactly for the delimiters whose length an `int`
holds. Another one may be in the string only if it has more than `2 ^ 32` bytes. -/
theorem split_pieces_iff {delimiter : List UInt8} (present : delimiter ≠ []) :
    ((∀ str, Splits str delimiter) ↔ delimiter.length < 2 ^ 31) ∧
      (∀ str, delimiter.length < 2 ^ 31 ∨ ¬ delimiter <:+: str → Splits str delimiter) ∧
      (delimiter.length ≤ 2 ^ 32 → ∀ str, Splits str delimiter →
        delimiter.length < 2 ^ 31 ∨ ¬ delimiter <:+: str) := by
  refine ⟨⟨?_, ?_⟩, fun str => splits_of present, ?_⟩
  · intro all
    by_contra long
    exact not_splits_self (Nat.le_of_not_lt long) (all delimiter)
  · exact fun short str => splits_of present (Or.inl short)
  · intro bounded str splits
    by_contra neither
    rw [not_or, not_not] at neither
    obtain ⟨long, occurs⟩ := neither
    exact not_splits_of_occurs present
      (delimiterLength_nonpos (Nat.le_of_not_lt long) bounded) occurs splits

theorem split_pieces_iff_bar : (∀ str, Splits str [124]) ↔ [(124 : UInt8)].length < 2 ^ 31 :=
  (split_pieces_iff (List.cons_ne_nil 124 [])).1

/-- A delimiter of `2 ^ 31` bytes in a string that is nothing else: `substr` throws. -/
theorem longDelimiter_not_split :
    ¬ Splits (List.replicate (2 ^ 31) 97) (List.replicate (2 ^ 31) 97) := by
  refine not_splits_self ?_
  rw [List.length_replicate]

/-!
## Trimming
-/

/-- The string without its runs of the character at both ends. -/
def Trimmed (str : List UInt8) (trimmed : UInt8) (result : List UInt8) : Prop :=
  (∃ leading trailing, str =
      List.replicate leading trimmed ++ result ++ List.replicate trailing trimmed) ∧
    result.head? ≠ some trimmed ∧ result.getLast? ≠ some trimmed

/-- `trim` ends, takes the runs away, and takes nothing more when it is called again. -/
def Trims (str : List UInt8) (trimmed : UInt8) : Prop :=
  ∃ result, trim str trimmed = some result ∧ Trimmed str trimmed result ∧
    trim result trimmed = some result

theorem exists_leading {str : List UInt8} {trimmed : UInt8} (other : ∃ c ∈ str, c ≠ trimmed) :
    ∃ leading first rest, str = List.replicate leading trimmed ++ first :: rest ∧
      first ≠ trimmed := by
  induction str with
  | nil => simp at other
  | cons c rest ih =>
      by_cases same : c = trimmed
      · have later : ∃ c ∈ rest, c ≠ trimmed := by simpa [same] using other
        obtain ⟨leading, first, behind, shape, differs⟩ := ih later
        exact ⟨leading + 1, first, behind, by rw [shape, same]; rfl, differs⟩
      · exact ⟨0, c, rest, rfl, same⟩

theorem exists_trailing {str : List UInt8} {trimmed : UInt8} (other : ∃ c ∈ str, c ≠ trimmed) :
    ∃ trailing front last, str = front ++ [last] ++ List.replicate trailing trimmed ∧
      last ≠ trimmed := by
  have mirrored : ∃ c ∈ str.reverse, c ≠ trimmed := by simpa using other
  obtain ⟨trailing, last, front, shape, differs⟩ := exists_leading mirrored
  refine ⟨trailing, front.reverse, last, ?_, differs⟩
  have turned := congrArg List.reverse shape
  simpa using turned

theorem trimLeft_run {trimmed first : UInt8} (differs : first ≠ trimmed) (leading : Nat)
    (rest : List UInt8) :
    trimLeft (List.replicate leading trimmed ++ first :: rest) trimmed = first :: rest := by
  have found : (List.replicate leading trimmed ++ first :: rest).findIdx? (· ≠ trimmed) =
      some leading := by
    simp [List.findIdx?_append, List.findIdx?_cons, differs]
  unfold trimLeft
  rw [found]
  simp

theorem trimLeft_of_all {str : List UInt8} {trimmed : UInt8} (all : ∀ c ∈ str, c = trimmed) :
    trimLeft str trimmed = str := by
  have absent : str.findIdx? (· ≠ trimmed) = none := by
    rw [List.findIdx?_eq_none_iff]
    intro c member
    simp [all c member]
  unfold trimLeft
  rw [absent]

/-- From any place behind the last other character, the loop comes down to it. -/
theorem trimRightLoop_run {trimmed last : UInt8} (differs : last ≠ trimmed)
    {trailing behind : Nat} (within : behind ≤ trailing) (front : List UInt8) :
    trimRightLoop (front ++ [last] ++ List.replicate trailing trimmed) trimmed
      (front.length + 1 + behind) = some (front ++ [last]) := by
  induction behind with
  | zero => simp [trimRightLoop, differs, List.take_append]
  | succ behind ih =>
      have here : (front ++ [last] ++ List.replicate trailing trimmed)[
          front.length + 1 + behind]? = some trimmed := by
        rw [List.getElem?_append_right (by simp), List.getElem?_replicate]
        simp
        omega
      rw [← Nat.add_assoc, trimRightLoop, here, if_neg (by simp)]
      exact ih (by omega)

theorem trimRight_run {trimmed last : UInt8} (differs : last ≠ trimmed) (trailing : Nat)
    (front : List UInt8) :
    trimRight (front ++ [last] ++ List.replicate trailing trimmed) trimmed =
      some (front ++ [last]) := by
  have whole := trimRightLoop_run differs (Nat.le_refl trailing) front
  have length : (front ++ [last] ++ List.replicate trailing trimmed).length =
      front.length + 1 + trailing := by
    simp only [List.length_append, List.length_singleton, List.length_replicate]
  unfold trimRight
  rw [length]
  exact whole

theorem trimRight_of_all {str : List UInt8} {trimmed : UInt8} (all : ∀ c ∈ str, c = trimmed) :
    trimRight str trimmed = none := by
  have loop : ∀ count ≤ str.length, trimRightLoop str trimmed count = none := by
    intro count
    induction count with
    | zero => exact fun _ => rfl
    | succ i ih =>
        intro within
        have here : str[i]? = some trimmed := by
          rw [List.getElem?_eq_getElem within, all _ (List.getElem_mem within)]
        rw [trimRightLoop, here, if_neg (by simp)]
        exact ih (by omega)
  exact loop str.length (Nat.le_refl _)

/-- What begins and ends with another character is left as it is. -/
theorem trim_eq_self {trimmed first last : UInt8} {front tail : List UInt8}
    (begins : first ≠ trimmed) (ends : last ≠ trimmed) (same : front ++ [last] = first :: tail) :
    trim (front ++ [last]) trimmed = some (front ++ [last]) := by
  have left : trimLeft (front ++ [last]) trimmed = front ++ [last] := by
    rw [same]
    exact trimLeft_run begins 0 tail
  have right := trimRight_run ends 0 front
  rw [List.replicate_zero, List.append_nil] at right
  unfold trim
  rw [left, right]

theorem trims_of_other {str : List UInt8} {trimmed : UInt8} (other : ∃ c ∈ str, c ≠ trimmed) :
    Trims str trimmed := by
  obtain ⟨leading, first, rest, shape, begins⟩ := exists_leading other
  obtain ⟨trailing, front, last, behind, ends⟩ :=
    exists_trailing ⟨first, List.mem_cons_self (l := rest), begins⟩
  have starts : ∃ tail, front ++ [last] = first :: tail := by
    cases front with
    | nil => exact ⟨[], by rw [List.cons_eq_cons.mp behind |>.1]; rfl⟩
    | cons c front => exact ⟨front ++ [last], by rw [List.cons_eq_cons.mp behind |>.1]; rfl⟩
  obtain ⟨tail, same⟩ := starts
  refine ⟨front ++ [last], ?_, ⟨⟨leading, trailing, ?_⟩, ?_, ?_⟩, trim_eq_self begins ends same⟩
  · unfold trim
    rw [shape, trimLeft_run begins, behind, trimRight_run ends]
  · rw [shape, behind, List.append_assoc, List.append_assoc, List.append_assoc]
  · rw [same, List.head?_cons]
    exact fun equal => begins (Option.some.inj equal)
  · rw [List.getLast?_concat]
    exact fun equal => ends (Option.some.inj equal)

theorem trim_of_all {str : List UInt8} {trimmed : UInt8} (all : ∀ c ∈ str, c = trimmed) :
    trim str trimmed = none := by
  unfold trim
  rw [trimLeft_of_all all, trimRight_of_all all]

/-- `trim` does what it should exactly on the strings with another character in them. -/
theorem trims_iff (str : List UInt8) (trimmed : UInt8) :
    Trims str trimmed ↔ ∃ c ∈ str, c ≠ trimmed := by
  constructor
  · rintro ⟨result, ended, _⟩
    by_contra none
    have all : ∀ c ∈ str, c = trimmed := by
      intro c member
      by_contra differs
      exact none ⟨c, member, differs⟩
    rw [trim_of_all all] at ended
    cases ended
  · exact trims_of_other

/-- On the empty string the loop looks for a character at the greatest index. -/
theorem trim_empty : trim [] 32 = none ∧ ¬ Trims [] 32 := by
  refine ⟨rfl, ?_⟩
  rintro ⟨result, ended, _⟩
  cases ended

/-!
## Replacing
-/

/-- `replace` ends with the pieces of the string joined with the new text. However far it has
come, what it searches next is an end of the string it was given, shorter by what each round
has replaced. -/
def Replaces (str toReplaced newStr : List UInt8) : Prop :=
  ∃ pieces, Cuts toReplaced str pieces ∧
    (∃ rounds, replace rounds str toReplaced newStr = some (newStr.intercalate pieces)) ∧
    ∀ rounds current pos,
      replaceRounds toReplaced newStr rounds (str, 0) = some (current, pos) →
        pos ≤ current.length ∧ current.drop pos <:+ str ∧
          (current.drop pos).length + rounds * toReplaced.length ≤ str.length

theorem findFrom_append (target done rest : List UInt8) :
    findFrom target (done ++ rest) done.length =
      (findDelimiter target rest).map (done.length + ·) := by
  unfold findFrom
  rw [if_neg (by simp), List.drop_left]

/-- The loop behind what it has done: the measure is the text that is left to search. -/
theorem replaceLoop_cuts {toReplaced newStr rest : List UInt8} {pieces : List (List UInt8)}
    (present : toReplaced ≠ []) (cuts : Cuts toReplaced rest pieces) (done : List UInt8) :
    ∃ rounds, replaceLoop toReplaced newStr rounds (done ++ rest, done.length) =
      some (done ++ newStr.intercalate pieces) := by
  induction cuts generalizing done with
  | last clear =>
      refine ⟨1, ?_⟩
      have absent := (findDelimiter_eq_none_iff present).mpr clear
      simp only [replaceLoop, replaceRound, findFrom_append, absent, Option.map_none,
        List.intercalate_singleton]
  | @cut piece rest pieces clear others ih =>
      obtain ⟨rounds, ended⟩ := ih (done ++ piece ++ newStr)
      refine ⟨rounds + 1, ?_⟩
      have found := findDelimiter_append piece rest clear
      have front : (done ++ (piece ++ toReplaced ++ rest)).take (done.length + piece.length) =
          done ++ piece := by
        rw [← List.length_append, List.append_assoc, ← List.append_assoc, List.take_left]
      have behind : (done ++ (piece ++ toReplaced ++ rest)).drop
          (done.length + piece.length + toReplaced.length) = rest := by
        rw [← List.length_append, ← List.length_append, ← List.append_assoc, ← List.append_assoc,
          List.drop_left]
      have place : done.length + piece.length + newStr.length =
          (done ++ piece ++ newStr).length := by
        rw [List.length_append, List.length_append]
      simp only [replaceLoop, replaceRound, findFrom_append, found, Option.map_some, front, behind,
        place]
      rw [ended, List.intercalate_cons_of_ne_nil others.ne_nil]
      simp only [List.append_assoc]

/-- A round goes on behind the text it has put in. -/
theorem replaceRound_spec {toReplaced newStr current next : List UInt8} {pos place : Nat}
    (inside : pos ≤ current.length)
    (result : replaceRound toReplaced newStr (current, pos) = some (next, place)) :
    place ≤ next.length ∧ next.drop place <:+ current.drop pos ∧
      (next.drop place).length + toReplaced.length ≤ (current.drop pos).length := by
  unfold replaceRound findFrom at result
  dsimp only at result
  rw [if_neg (Nat.not_lt.mpr inside), Option.map_map] at result
  obtain ⟨found, isFound, same⟩ := Option.map_eq_some_iff.mp result
  obtain ⟨within, -, -⟩ := findDelimiter_eq_some_iff.mp isFound
  have lengths := congrArg List.length (text_of_findDelimiter isFound).1
  rw [List.length_drop] at within
  cases same
  have front : (current.take (pos + found) ++ newStr).length = pos + found + newStr.length := by
    rw [List.length_append, List.length_take_of_le (by omega)]
  have left : (current.take (pos + found) ++ newStr ++
      current.drop (pos + found + toReplaced.length)).drop (pos + found + newStr.length) =
        (current.drop pos).drop (found + toReplaced.length) := by
    rw [← front, List.drop_left, List.drop_drop, Nat.add_assoc]
  refine ⟨?_, ?_, ?_⟩
  · rw [List.length_append, front]
    exact Nat.le_add_right _ _
  · dsimp only [Function.comp_apply]
    rw [left]
    exact List.drop_suffix _ _
  · dsimp only [Function.comp_apply]
    rw [left]
    simp only [List.length_append] at lengths
    omega

theorem replaceRounds_spec {toReplaced newStr current next : List UInt8} {rounds pos place : Nat}
    (inside : pos ≤ current.length)
    (result : replaceRounds toReplaced newStr rounds (current, pos) = some (next, place)) :
    place ≤ next.length ∧ next.drop place <:+ current.drop pos ∧
      (next.drop place).length + rounds * toReplaced.length ≤ (current.drop pos).length := by
  induction rounds generalizing current pos with
  | zero =>
      cases result
      exact ⟨inside, List.suffix_refl _, by omega⟩
  | succ rounds ih =>
      obtain ⟨⟨between, middle⟩, once, later⟩ := Option.bind_eq_some_iff.mp result
      obtain ⟨within, suffix, shorter⟩ := replaceRound_spec inside once
      obtain ⟨ends, rest, shortest⟩ := ih within later
      refine ⟨ends, rest.trans suffix, ?_⟩
      rw [Nat.add_mul]
      omega

theorem replace_pieces (str : List UInt8) {toReplaced newStr : List UInt8}
    (present : toReplaced ≠ []) (filled : newStr ≠ []) : Replaces str toReplaced newStr := by
  obtain ⟨pieces, cuts, _⟩ := exists_cuts present str
  obtain ⟨rounds, ended⟩ := @replaceLoop_cuts toReplaced newStr str pieces present cuts []
  refine ⟨pieces, cuts, ⟨rounds, ?_⟩, ?_⟩
  · unfold replace
    rw [if_neg (by simp [present, filled])]
    exact ended
  · intro rounds current pos result
    exact replaceRounds_spec (Nat.zero_le _) result

/-- The new text contains the old one, and the old one overlaps itself. -/
theorem replace_pieces_overlapping : Replaces [97, 97, 97, 98, 97, 97] [97, 97] [97, 97, 97] :=
  replace_pieces [97, 97, 97, 98, 97, 97] (by decide) (by decide)

end Talko.Common.StringUtil
