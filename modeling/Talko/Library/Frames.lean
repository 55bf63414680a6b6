import Mathlib.Data.List.Basic

/-!
# Streams of frames

A stream without delimiters is cut apart by a function that reads one frame at its front
and returns the rest. Nothing here fixes what a frame is.
-/

set_option autoImplicit false

namespace Talko.Library

variable {Byte Message : Type*}

/-- Reads frames until the stream is empty; `fuel` bounds their number. -/
def readFrames (readFrame : List Byte → Option (Message × List Byte)) :
    Nat → List Byte → Option (List Message)
  | _, [] => some []
  | 0, _ :: _ => none
  | fuel + 1, byte :: rest =>
      match readFrame (byte :: rest) with
      | none => none
      | some (message, behind) => (readFrames readFrame fuel behind).map (message :: ·)

/-- Frames that are each found at the front of whatever follows are all found, in order. -/
theorem readFrames_flatMap {Source : Type*} {readFrame : List Byte → Option (Message × List Byte)}
    {frame : Source → List Byte} {message : Source → Message} {sources : List Source}
    (found : ∀ source ∈ sources, ∀ rest,
      readFrame (frame source ++ rest) = some (message source, rest))
    (present : ∀ source ∈ sources, frame source ≠ []) {fuel : Nat}
    (enough : sources.length ≤ fuel) :
    readFrames readFrame fuel (sources.flatMap frame) = some (sources.map message) := by
  induction sources generalizing fuel with
  | nil =>
      cases fuel with
      | zero => rfl
      | succ fuel => rfl
  | cons source sources ih =>
      obtain ⟨first, others⟩ := List.forall_mem_cons.mp found
      obtain ⟨nonempty, later⟩ := List.forall_mem_cons.mp present
      obtain ⟨byte, bytes, shape⟩ := List.exists_cons_of_ne_nil nonempty
      cases fuel with
      | zero => cases enough
      | succ fuel =>
          have read := first (sources.flatMap frame)
          rw [shape, List.cons_append] at read
          rw [List.flatMap_cons, shape, List.cons_append, readFrames, read]
          dsimp only
          rw [ih others later (Nat.le_of_succ_le_succ enough)]
          rfl

theorem length_le_length_flatMap {Source : Type*} {frame : Source → List Byte}
    {sources : List Source} (present : ∀ source ∈ sources, frame source ≠ []) :
    sources.length ≤ (sources.flatMap frame).length := by
  induction sources with
  | nil => exact Nat.le_refl _
  | cons source sources ih =>
      obtain ⟨nonempty, later⟩ := List.forall_mem_cons.mp present
      have more := ih later
      have first := List.length_pos_iff.mpr nonempty
      rw [List.flatMap_cons, List.length_append, List.length_cons]
      omega

/-- The frames that are there as a whole, and the bytes behind them. -/
def readAvailable (readFrame : List Byte → Option (Message × List Byte)) :
    Nat → List Byte → List Message × List Byte
  | 0, stream => ([], stream)
  | fuel + 1, stream =>
      match readFrame stream with
      | none => ([], stream)
      | some (message, behind) =>
          let later := readAvailable readFrame fuel behind
          (message :: later.1, later.2)

/-- A stream that ends somewhere ends inside its first frame or behind it. -/
theorem cut_cases {first others stream left : List Byte} (whole : stream ++ left = first ++ others) :
    (∃ back, stream ++ back = first ∧ back ≠ [] ∧ left = back ++ others) ∨
      ∃ more, stream = first ++ more ∧ more ++ left = others := by
  rcases List.append_eq_append_iff.mp whole with ⟨back, framed, ends⟩ | ⟨more, read, goesOn⟩
  · cases back with
    | nil =>
        rw [List.append_nil] at framed
        exact .inr ⟨[], by rw [framed, List.append_nil], ends⟩
    | cons byte back => exact .inl ⟨byte :: back, framed.symm, List.cons_ne_nil _ _, ends⟩
  · exact .inr ⟨more, read, goesOn.symm⟩

section

variable {Source : Type*} {readFrame : List Byte → Option (Message × List Byte)}

theorem readAvailable_of_none {stream : List Byte} (unread : readFrame stream = none)
    (fuel : Nat) : readAvailable readFrame fuel stream = ([], stream) := by
  cases fuel with
  | zero => rfl
  | succ fuel => rw [readAvailable, unread]

/-- Of a stream that ends anywhere, exactly the frames in front of its end are found. -/
theorem readAvailable_append {frame : Source → List Byte} {message : Source → Message}
    {sources : List Source}
    (found : ∀ source ∈ sources, ∀ rest,
      readFrame (frame source ++ rest) = some (message source, rest))
    (torn : ∀ source ∈ sources, ∀ front back, front ++ back = frame source → back ≠ [] →
      readFrame front = none)
    (present : ∀ source ∈ sources, frame source ≠ []) (nothing : readFrame [] = none)
    {stream left : List Byte} (whole : stream ++ left = sources.flatMap frame) {fuel : Nat}
    (enough : stream.length ≤ fuel) :
    ∃ arrived leaving rest, sources = arrived ++ leaving ∧
      readAvailable readFrame fuel stream = (arrived.map message, rest) ∧
      rest ++ left = leaving.flatMap frame ∧ (left = [] → leaving = []) := by
  induction sources generalizing stream fuel with
  | nil =>
      rw [List.flatMap_nil, List.append_eq_nil_iff] at whole
      obtain ⟨rfl, rfl⟩ := whole
      exact ⟨[], [], [], rfl, readAvailable_of_none nothing fuel, rfl, fun _ => rfl⟩
  | cons source sources ih =>
      obtain ⟨first, others⟩ := List.forall_mem_cons.mp found
      obtain ⟨firstTorn, laterTorn⟩ := List.forall_mem_cons.mp torn
      obtain ⟨nonempty, later⟩ := List.forall_mem_cons.mp present
      have split := whole
      rw [List.flatMap_cons] at split
      obtain ⟨back, framed, cut, ends⟩ | ⟨more, rfl, goesOn⟩ := cut_cases split
      · refine ⟨[], source :: sources, stream, rfl, ?_, whole, ?_⟩
        · exact readAvailable_of_none (firstTorn stream back framed cut) fuel
        · intro ended
          rw [ended] at ends
          exact absurd (List.append_eq_nil_iff.mp ends.symm).1 cut
      · have size := List.length_pos_iff.mpr nonempty
        rw [List.length_append] at enough
        cases fuel with
        | zero => omega
        | succ fuel =>
            have fewer : more.length ≤ fuel := by omega
            obtain ⟨arrived, leaving, rest, all, reads, behind, ended⟩ :=
              ih others laterTorn later goesOn fewer
            refine ⟨source :: arrived, leaving, rest, by rw [all, List.cons_append], ?_, behind, ended⟩
            rw [readAvailable, first more]
            dsimp only
            rw [reads, List.map_cons]

end

end Talko.Library
