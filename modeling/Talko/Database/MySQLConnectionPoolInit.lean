import Mathlib.Algebra.Ring.Int.Defs
import Mathlib.Order.Nat
import Talko.Database.MySQLConnectionPool

/-!
# How `Init` ends

The loop of `Init` swallows the error of an attempt and tries again, so that what follows it is
reached only with a queue of the size asked for. The size is an `int`, which both comparisons
convert to the type of `conn_pool_.size()`.
-/

set_option autoImplicit false

namespace Talko.Database

open Talko.Library

/-- An `int` converted to `size_t`. -/
def asSize (value : Int) : Nat :=
  (value % 2 ^ 64).toNat

namespace MySQLConnectionPool

/-- The test that `Init` makes behind the loop. -/
def isFull (pool : MySQLConnectionPool) (poolSize : Int) : Prop :=
  pool.getConnectionPoolSize = asSize poolSize

/-- `Init` ends after this many attempts, with this pool and in this way. -/
structure InitEnds (pool : MySQLConnectionPool) (poolSize : Int) (outcomes : Nat → Bool)
    (attempts : Nat) (after : MySQLConnectionPool) (outcome : InitOutcome) : Prop where
  ended : pool.init (asSize poolSize) (firstOf outcomes attempts) = some after
  going : ∀ fewer < attempts, pool.init (asSize poolSize) (firstOf outcomes fewer) = none
  reported : after.outcomes = pool.outcomes ++ [outcome]

/-- What a call of `Init` that ends owes its caller. -/
structure Initialised (pool : MySQLConnectionPool) (poolSize : Int) (outcomes : Nat → Bool)
    (attempts : Nat) (after : MySQLConnectionPool) (outcome : InitOutcome) : Prop where
  returned : outcome ≠ .threw →
    (1 ≤ after.getConnectionPoolSize ∧ (after.getConnectionPoolSize : Int) ≤ poolSize) ∨
      pool.isFull poolSize
  threw : outcome = .threw ↔
    (∀ attempt < attempts, outcomes attempt = false) ∧ ¬ pool.isFull poolSize

/-- The queue holds what is asked for, or a size that is not negative is made up by attempts
that succeed. -/
def CanFill (pool : MySQLConnectionPool) (poolSize : Int) (outcomes : Nat → Bool) : Prop :=
  asSize poolSize ≤ pool.getConnectionPoolSize ∨
    (0 ≤ poolSize ∧ ∃ attempts, asSize poolSize ≤
      pool.getConnectionPoolSize + (firstOf outcomes attempts).count true)

/-!
## The call after some attempts
-/

theorem init_of_few (pool : MySQLConnectionPool) {poolSize : Nat} {attempts : List Bool}
    (few : pool.getConnectionPoolSize + attempts.count true < poolSize) :
    pool.init poolSize attempts = none := by
  have going := fill_of_few { pool with poolSize := poolSize } 0 few
  simp only [init, going]

/-- Once enough attempts have succeeded, the number of sessions that were lacking decides how
the call ends. -/
theorem init_of_enough (pool : MySQLConnectionPool) {poolSize : Nat} {attempts : List Bool}
    (enough : poolSize ≤ pool.getConnectionPoolSize + attempts.count true) :
    ∃ after, pool.init poolSize attempts = some after ∧
      after.getConnectionPoolSize = max pool.getConnectionPoolSize poolSize ∧
      after.outcomes = pool.outcomes ++
        [if pool.getConnectionPoolSize < poolSize then
            .filled (poolSize - pool.getConnectionPoolSize)
          else if pool.getConnectionPoolSize = poolSize then .full else .threw] := by
  let asked : MySQLConnectionPool := { pool with poolSize := poolSize }
  obtain ⟨filled, filling, count, -, outcomes, same⟩ := fill_of_enough asked 0 enough
  have count : filled.getConnectionPoolSize = max pool.getConnectionPoolSize poolSize := count
  have same : filled.poolSize = poolSize := same
  have filling : asked.fill 0 attempts = some (filled, poolSize - pool.getConnectionPoolSize) := by
    rw [filling, Nat.zero_add]
    rfl
  have report : filled.initOutcome (poolSize - pool.getConnectionPoolSize) =
      if pool.getConnectionPoolSize < poolSize then
        .filled (poolSize - pool.getConnectionPoolSize)
      else if pool.getConnectionPoolSize = poolSize then .full else .threw := by
    unfold initOutcome
    rw [count, same]
    by_cases lacks : pool.getConnectionPoolSize < poolSize
    · rw [if_pos lacks, if_neg (by omega), if_neg (by omega)]
    · rw [if_neg lacks]
      by_cases full : pool.getConnectionPoolSize = poolSize
      · rw [if_pos full, if_pos (by omega)]
      · rw [if_neg full, if_neg (by omega), if_pos (by omega)]
  rw [← report]
  refine ⟨{ filled with outcomes := filled.outcomes ++
    [filled.initOutcome (poolSize - pool.getConnectionPoolSize)] }, ?_, count, ?_⟩
  · simp only [init]
    rw [filling]
  · exact congrArg (· ++ [filled.initOutcome (poolSize - pool.getConnectionPoolSize)]) outcomes

theorem enough_of_init {pool after : MySQLConnectionPool} {poolSize : Nat} {attempts : List Bool}
    (ended : pool.init poolSize attempts = some after) :
    poolSize ≤ pool.getConnectionPoolSize + attempts.count true := by
  by_contra few
  rw [init_of_few pool (by omega)] at ended
  cases ended

/-!
## When the call keeps its promise
-/

theorem asSize_le {value : Int} (positive : 0 ≤ value) : (asSize value : Int) ≤ value := by
  unfold asSize
  omega

theorem count_firstOf_eq_zero_iff (outcomes : Nat → Bool) (attempts : Nat) :
    (firstOf outcomes attempts).count true = 0 ↔
      ∀ attempt < attempts, outcomes attempt = false := by
  simp [List.count_eq_zero, mem_firstOf]

theorem CanFill.fewest {pool : MySQLConnectionPool} {poolSize : Int} {outcomes : Nat → Bool}
    (canFill : pool.CanFill poolSize outcomes) :
    ∃ attempts,
      asSize poolSize ≤
        pool.getConnectionPoolSize + (firstOf outcomes attempts).count true ∧
      ∀ fewer < attempts, pool.getConnectionPoolSize +
        (firstOf outcomes fewer).count true < asSize poolSize := by
  have some : ∃ attempts, asSize poolSize ≤
      pool.getConnectionPoolSize + (firstOf outcomes attempts).count true := by
    rcases canFill with holds | ⟨-, attempts, enough⟩
    · exact ⟨0, Nat.le_trans holds (Nat.le_add_right _ _)⟩
    · exact ⟨attempts, enough⟩
  exact ⟨Nat.find some, Nat.find_spec some,
    fun fewer below => Nat.lt_of_not_le (Nat.find_min some below)⟩

theorem CanFill.initialised_of_lacks {pool after : MySQLConnectionPool} {poolSize : Int}
    {outcomes : Nat → Bool} {attempts : Nat} (canFill : pool.CanFill poolSize outcomes)
    (lacks : pool.getConnectionPoolSize < asSize poolSize)
    (size : after.getConnectionPoolSize = max pool.getConnectionPoolSize (asSize poolSize))
    (enough : asSize poolSize ≤
      pool.getConnectionPoolSize + (firstOf outcomes attempts).count true) :
    pool.Initialised poolSize outcomes attempts after
      (.filled (asSize poolSize - pool.getConnectionPoolSize)) where
  returned _ := by
    left
    have positive : 0 ≤ poolSize := by
      rcases canFill with holds | ⟨positive, -⟩
      · omega
      · exact positive
    have within := asSize_le positive
    omega
  threw := by
    refine iff_of_false (fun same => by cases same) ?_
    rintro ⟨refused, -⟩
    rw [(count_firstOf_eq_zero_iff outcomes attempts).mpr refused] at enough
    omega

/-- A call that makes no attempt returns if it finds the pool full. -/
theorem initialised_of_no_attempt {pool after : MySQLConnectionPool} {poolSize : Int}
    {outcomes : Nat → Bool} {attempts : Nat} (none : attempts = 0) :
    pool.Initialised poolSize outcomes attempts after
      (if pool.getConnectionPoolSize = asSize poolSize then .full else .threw) where
  returned returns := by
    right
    by_contra notFull
    exact returns (if_neg notFull)
  threw := by
    subst none
    by_cases full : pool.getConnectionPoolSize = asSize poolSize
    · rw [if_pos full]
      exact iff_of_false (fun same => by cases same) fun both => both.2 full
    · rw [if_neg full]
      exact iff_of_true rfl ⟨fun _ below => absurd below (Nat.not_lt_zero _), full⟩

/-- `Init` ends and keeps its promise exactly when the queue can be filled. -/
theorem init_initialised_iff (pool : MySQLConnectionPool) (poolSize : Int)
    (outcomes : Nat → Bool) :
    (∃ attempts after outcome, pool.InitEnds poolSize outcomes attempts after outcome ∧
        pool.Initialised poolSize outcomes attempts after outcome) ↔
      pool.CanFill poolSize outcomes := by
  constructor
  · rintro ⟨attempts, after, outcome, ends, initialised⟩
    have enough := enough_of_init ends.ended
    by_cases lacks : pool.getConnectionPoolSize < asSize poolSize
    · right
      refine ⟨?_, attempts, enough⟩
      obtain ⟨filled, ended, size, reported⟩ := init_of_enough pool enough
      obtain rfl : after = filled := Option.some.inj (ends.ended.symm.trans ended)
      rw [if_pos lacks] at reported
      have filling : outcome = .filled (asSize poolSize - pool.getConnectionPoolSize) := by
        have same := ends.reported.symm.trans reported
        simpa using same
      have opened : outcome ≠ .threw := by
        rw [filling]
        exact fun same => by cases same
      rcases initialised.returned opened with ⟨-, within⟩ | full
      · omega
      · exact absurd full (Nat.ne_of_lt lacks)
    · left
      omega
  · intro canFill
    obtain ⟨attempts, enough, fewest⟩ := canFill.fewest
    obtain ⟨after, ended, size, reported⟩ := init_of_enough pool enough
    refine ⟨attempts, after, _,
      ⟨ended, fun fewer below => init_of_few pool (fewest fewer below), reported⟩, ?_⟩
    by_cases lacks : pool.getConnectionPoolSize < asSize poolSize
    · rw [if_pos lacks]
      exact canFill.initialised_of_lacks lacks size enough
    · rw [if_neg lacks]
      refine initialised_of_no_attempt (Nat.eq_zero_of_not_pos fun positive => ?_)
      exact lacks (Nat.lt_of_le_of_lt (Nat.le_add_right _ _) (fewest 0 positive))

/-- The server refuses every connection: `Init` is still at it after any number of attempts. -/
theorem init_refused_never_ends :
    ¬ ∃ attempts after outcome,
      new.InitEnds 1 (fun _ => false) attempts after outcome := by
  rintro ⟨attempts, after, outcome, ends⟩
  have enough := enough_of_init ends.ended
  have none : (firstOf (fun _ => false) attempts).count true = 0 :=
    (count_firstOf_eq_zero_iff _ _).mpr fun _ _ => rfl
  rw [none] at enough
  exact absurd enough (by decide)

end MySQLConnectionPool

end Talko.Database
