import Mathlib.Algebra.Ring.Nat
import Talko.Log.WhispLog

/-!
# Writing one line

The loop of `write2file`, which hands what is left of a line to `fwrite` until nothing is. The
number of bytes that `fwrite` has taken is kept in an `int`; a write that takes nothing is no
error, and is tried again.
-/

set_option autoImplicit false

namespace Talko.Log

open Talko.Library

/-- A `size_t` converted to `int`. -/
def asInt (size : Nat) : Int :=
  Int.bmod size (2 ^ 32)

/-- What is left of the line behind a write whose result is `ret`. -/
def eraseWritten (tmp : List UInt8) (ret : Int) : List UInt8 :=
  if ret ≤ asInt tmp.length then tmp.drop ret.toNat else tmp

/-- The loop over the results of `fwrite`, none of which exceeds what it was asked to write, with
the bytes written so far. Without a further result it is still at it. -/
def writeLoop (tmp written : List UInt8) : List Nat → Option (Bool × List UInt8)
  | [] => none
  | result :: rest =>
      let count := min result tmp.length
      let ret := asInt count
      let written := written ++ tmp.take count
      if ret < 0 then some (false, written)
      else if (eraseWritten tmp ret).isEmpty then some (true, written)
      else writeLoop (eraseWritten tmp ret) written rest

/-- The loop ends; a line it reports as written has been written, and one that the file never
takes the whole of is reported. -/
def WriteEnds (data : List UInt8) (results : Nat → Nat) : Prop :=
  ∃ calls reported written,
    writeLoop data [] (firstOf results calls) = some (reported, written) ∧
      (reported = true → written = data) ∧
      ((∀ calls, (firstOf results calls).sum < data.length) → reported = false)

/-- The `int` of a result is negative. -/
def Overflows (length result : Nat) : Prop :=
  2 ^ 31 ≤ min result length % 2 ^ 32

/-- A line whose length fits an `int` is taken in the end; of a longer one, some write is that
long too. -/
def CanWrite (data : List UInt8) (results : Nat → Nat) : Prop :=
  if data.length < 2 ^ 31 then ∃ calls, data.length ≤ (firstOf results calls).sum
  else ∃ call, Overflows data.length (results call)

/-!
## Lines whose length fits
-/

theorem asInt_of_lt {size : Nat} (fits : size < 2 ^ 31) : asInt size = size := by
  unfold asInt
  rw [Int.bmod_def]
  omega

theorem asInt_neg_iff (size : Nat) : asInt size < 0 ↔ 2 ^ 31 ≤ size % 2 ^ 32 := by
  unfold asInt
  rw [Int.bmod_def]
  omega

theorem asInt_of_nonneg {size : Nat} (fits : ¬ 2 ^ 31 ≤ size % 2 ^ 32) :
    asInt size = (size % 2 ^ 32 : Nat) := by
  unfold asInt
  rw [Int.bmod_def]
  omega

/-- The loop reports a line as written once the file has taken it. -/
theorem writeLoop_of_fits {tmp : List UInt8} (fits : tmp.length < 2 ^ 31) (written : List UInt8)
    (results : List Nat) :
    writeLoop tmp written results =
      if results ≠ [] ∧ tmp.length ≤ results.sum then some (true, written ++ tmp) else none := by
  induction results generalizing tmp written with
  | nil => rfl
  | cons result rest ih =>
      have count : asInt (min result tmp.length) = (min result tmp.length : Nat) :=
        asInt_of_lt (by omega)
      have erased : eraseWritten tmp (min result tmp.length : Nat) = tmp.drop result := by
        unfold eraseWritten
        rw [asInt_of_lt fits, if_pos (by omega), Int.toNat_natCast]
        by_cases all : result ≤ tmp.length
        · rw [Nat.min_eq_left all]
        · rw [Nat.min_eq_right (by omega), List.drop_length, List.drop_of_length_le (by omega)]
      simp only [writeLoop, count, erased]
      rw [if_neg (by omega), List.sum_cons]
      by_cases all : tmp.length ≤ result
      · rw [if_pos (by simpa using all), Nat.min_eq_right all, List.take_length,
          if_pos ⟨List.cons_ne_nil _ _, by omega⟩]
      · rw [if_neg (by simpa using all), ih (by rw [List.length_drop]; omega),
          Nat.min_eq_left (by omega), List.append_assoc, List.take_append_drop, List.length_drop]
        refine if_congr ?_ rfl rfl
        constructor
        · exact fun ⟨_, enough⟩ => ⟨List.cons_ne_nil _ _, by omega⟩
        · rintro ⟨-, enough⟩
          refine ⟨fun none => ?_, by omega⟩
          rw [none, List.sum_nil] at enough
          omega

/-- `write2file` with the results of its writes: the file holds what they have taken. -/
def WhispLog.write2fileWith (log : WhispLog) (data : List UInt8) (results : List Nat) :
    Option (Bool × WhispLog) :=
  (writeLoop data [] results).map fun ended => (ended.1, log.write2file ended.2)

/-- Once the file has taken the line, the call has done what a step of the log takes it for. -/
theorem WhispLog.write2fileWith_of_taken (log : WhispLog) {data : List UInt8}
    (fits : data.length < 2 ^ 31) {results : List Nat} (called : results ≠ [])
    (taken : data.length ≤ results.sum) :
    log.write2fileWith data results = some (true, log.write2file data) := by
  rw [write2fileWith, writeLoop_of_fits fits, if_pos ⟨called, taken⟩]
  rfl

/-!
## Longer lines
-/

/-- A write that is no overflow leaves more than the `int` of the length can erase, and what is
an overflow of the rest is one of the line. -/
theorem eraseWritten_of_long {tmp : List UInt8} (long : 2 ^ 31 ≤ tmp.length) {result : Nat}
    (fits : ¬ Overflows tmp.length result) :
    2 ^ 31 ≤ (eraseWritten tmp (asInt (min result tmp.length))).length ∧
      ∀ other, Overflows (eraseWritten tmp (asInt (min result tmp.length))).length other ↔
        Overflows tmp.length other := by
  unfold Overflows at fits ⊢
  rw [asInt_of_nonneg fits]
  unfold eraseWritten
  split
  · next within =>
      have whole : ¬ 2 ^ 31 ≤ tmp.length % 2 ^ 32 := by
        rw [← asInt_neg_iff]
        omega
      rw [asInt_of_nonneg whole] at within
      rw [Int.toNat_natCast, List.length_drop]
      refine ⟨by omega, fun other => ?_⟩
      omega
  · exact ⟨long, fun _ => Iff.rfl⟩

theorem writeLoop_of_long {tmp : List UInt8} (long : 2 ^ 31 ≤ tmp.length) (written : List UInt8)
    (results : List Nat) :
    ((∃ result ∈ results, Overflows tmp.length result) →
        ∃ after, writeLoop tmp written results = some (false, after)) ∧
      ((∀ result ∈ results, ¬ Overflows tmp.length result) →
        writeLoop tmp written results = none) := by
  induction results generalizing tmp written with
  | nil => exact ⟨fun ⟨_, member, _⟩ => absurd member List.not_mem_nil, fun _ => rfl⟩
  | cons result rest ih =>
      simp only [writeLoop]
      by_cases overflow : Overflows tmp.length result
      · rw [if_pos ((asInt_neg_iff _).mpr overflow)]
        exact ⟨fun _ => ⟨_, rfl⟩, fun none => absurd overflow (none result List.mem_cons_self)⟩
      · rw [if_neg (fun negative => overflow ((asInt_neg_iff _).mp negative))]
        obtain ⟨stillLong, same⟩ := eraseWritten_of_long long overflow
        have left : (eraseWritten tmp (asInt (min result tmp.length))).isEmpty = false := by
          rw [List.isEmpty_eq_false_iff]
          intro empty
          rw [empty, List.length_nil] at stillLong
          omega
        rw [left, if_neg Bool.false_ne_true]
        obtain ⟨ends, goes⟩ := ih stillLong (written ++ tmp.take (min result tmp.length))
        simp only [same] at ends goes
        constructor
        · rintro ⟨other, member, overflows⟩
          rcases List.mem_cons.mp member with rfl | later
          · exact absurd overflows overflow
          · exact ends ⟨other, later, overflows⟩
        · exact fun none => goes fun other later => none other (List.mem_cons_of_mem _ later)

/-!
## When the loop ends
-/

theorem writeEnds_iff_of_fits {data : List UInt8} (fits : data.length < 2 ^ 31)
    (results : Nat → Nat) :
    WriteEnds data results ↔ ∃ calls, data.length ≤ (firstOf results calls).sum := by
  constructor
  · rintro ⟨calls, reported, written, ended, -⟩
    rw [writeLoop_of_fits fits] at ended
    split at ended
    · next taken => exact ⟨calls, taken.2⟩
    · cases ended
  · rintro ⟨calls, enough⟩
    refine ⟨calls + 1, true, data, ?_, fun _ => rfl, fun never => ?_⟩
    · rw [writeLoop_of_fits fits, firstOf_succ, if_pos]
      · rfl
      · refine ⟨List.append_ne_nil_of_right_ne_nil _ (List.cons_ne_nil _ _), ?_⟩
        rw [List.sum_append]
        omega
    · exact absurd (never calls) (by omega)

theorem writeEnds_iff_of_long {data : List UInt8} (long : 2 ^ 31 ≤ data.length)
    (results : Nat → Nat) :
    WriteEnds data results ↔ ∃ call, Overflows data.length (results call) := by
  constructor
  · rintro ⟨calls, reported, written, ended, -⟩
    by_contra never
    have going := (writeLoop_of_long long [] (firstOf results calls)).2
      fun result member => by
        obtain ⟨call, -, rfl⟩ := mem_firstOf.mp member
        exact fun overflow => never ⟨call, overflow⟩
    rw [going] at ended
    cases ended
  · rintro ⟨call, overflow⟩
    obtain ⟨written, ended⟩ := (writeLoop_of_long long [] (firstOf results (call + 1))).1
      ⟨results call, mem_firstOf.mpr ⟨call, Nat.lt_succ_self call, rfl⟩, overflow⟩
    exact ⟨call + 1, false, written, ended, fun done => absurd done Bool.false_ne_true,
      fun _ => rfl⟩

/-- For every line and every sequence of results: the loop ends as it should exactly when the file
takes the line in the end, or an overflow stops it. -/
theorem writeEnds_iff (data : List UInt8) (results : Nat → Nat) :
    WriteEnds data results ↔ CanWrite data results := by
  unfold CanWrite
  split
  · next fits => exact writeEnds_iff_of_fits fits results
  · next long => exact writeEnds_iff_of_long (Nat.le_of_not_lt long) results

/-- On a full disk the loop goes on for ever. -/
theorem full_disk_never_ends :
    ¬ ∃ calls reported written,
      writeLoop [0x6c, 0x6f, 0x67] [] (firstOf (fun _ => 0) calls) =
        some (reported, written) := by
  rintro ⟨calls, reported, written, ended⟩
  rw [writeLoop_of_fits (by decide)] at ended
  split at ended
  · next taken =>
      have none : (firstOf (fun _ => 0) calls).sum = 0 := by simp [firstOf]
      rw [none] at taken
      exact absurd taken.2 (by decide)
  · cases ended

end Talko.Log
