import Talko.Library.Lending
import Talko.Library.Run

/-!
# The pool that can be filled again

`MySQLConnectionPool`: `Init` opens sessions until `conn_pool_` holds `pool_size` of them, and
may be called again at any time. It counts the sessions in the queue and not those that clients
hold. `Init`, `GetConnection` and the end of `ReleaseConnection` are one step each, under
`mutex_`.
-/

set_option autoImplicit false

namespace Talko.Database

open Talko.Library

/-- How a call of `Init` ends. -/
inductive InitOutcome where
  | filled (successCount : Nat)
  | full
  | threw
  deriving DecidableEq, Repr

/-- The sessions of `conn_pool_` and of the clients, numbered as they were opened, and how the
calls of `Init` ended. -/
structure MySQLConnectionPool where
  poolSize : Nat
  sessions : Lending Nat Nat
  opened : Nat
  outcomes : List InitOutcome
  deriving DecidableEq, Repr

namespace MySQLConnectionPool

def new : MySQLConnectionPool where
  poolSize := 0
  sessions := ⟨[], []⟩
  opened := 0
  outcomes := []

/-- A session is opened and pushed. -/
def push (pool : MySQLConnectionPool) : MySQLConnectionPool :=
  { pool with
    sessions := pool.sessions.add pool.opened
    opened := pool.opened + 1 }

def getConnectionPoolSize (pool : MySQLConnectionPool) : Nat :=
  pool.sessions.idle.length

/-- The loop of `Init` over the answers of the server. It counts the sessions it opens; without
a further answer it is still at it. -/
def fill (pool : MySQLConnectionPool) (successCount : Nat) :
    List Bool → Option (MySQLConnectionPool × Nat)
  | [] =>
      if pool.getConnectionPoolSize < pool.poolSize then none else some (pool, successCount)
  | connects :: rest =>
      if pool.getConnectionPoolSize < pool.poolSize then
        if connects then pool.push.fill (successCount + 1) rest else pool.fill successCount rest
      else some (pool, successCount)

def initOutcome (pool : MySQLConnectionPool) (successCount : Nat) : InitOutcome :=
  if successCount = 0 ∧ pool.getConnectionPoolSize = pool.poolSize then .full
  else if successCount = 0 then .threw
  else .filled successCount

/-- `Init`; an endless loop keeps the mutex. -/
def init (pool : MySQLConnectionPool) (poolSize : Nat) (attempts : List Bool) :
    Option MySQLConnectionPool :=
  match ({ pool with poolSize := poolSize }).fill 0 attempts with
  | none => none
  | some (filled, successCount) =>
      some { filled with outcomes := filled.outcomes ++ [filled.initOutcome successCount] }

/-- `GetConnection`; the wait at an empty queue ends with an exception. -/
def getConnection (pool : MySQLConnectionPool) (client : Nat) : MySQLConnectionPool :=
  { pool with sessions := pool.sessions.borrow client }

/-- `ReleaseConnection`; for an empty pointer it opens a session. -/
def releaseConnection (pool : MySQLConnectionPool) (client : Nat) (session : Option Nat)
    (connects : Bool) : MySQLConnectionPool :=
  match session with
  | some held => { pool with sessions := pool.sessions.giveBack (client, held) }
  | none => if connects then pool.push else pool

end MySQLConnectionPool

/-- The calls of threads that release what they got. -/
inductive ConnectionPoolStep where
  | init
  | getConnection (client : Nat)
  | releaseConnection (client session : Nat)
  deriving DecidableEq, Repr

namespace MySQLConnectionPool

/-- Every `Init` asks for `poolSize` sessions, and the server never refuses one. -/
def step (poolSize : Nat) (pool : MySQLConnectionPool) : ConnectionPoolStep → MySQLConnectionPool
  | .init => (pool.init poolSize (List.replicate poolSize true)).getD pool
  | .getConnection client => pool.getConnection client
  | .releaseConnection client session => pool.releaseConnection client (some session) true

/-!
## How many sessions there are
-/

/-- The sessions in the queue and with clients. -/
def sessionCount (pool : MySQLConnectionPool) : Nat :=
  pool.getConnectionPoolSize + pool.sessions.lent.length

/-- An `Init` has returned. -/
def Completed (pool : MySQLConnectionPool) : Prop :=
  ∃ outcome ∈ pool.outcomes, outcome ≠ .threw

structure Sized (poolSize : Nat) (pool : MySQLConnectionPool) : Prop where
  bounded : pool.sessionCount ≤ poolSize
  complete : pool.Completed → pool.sessionCount = poolSize
  released : pool.Completed → pool.sessions.lent = [] → pool.getConnectionPoolSize = poolSize

/-- `Init` is called while no client holds a session. -/
def InitFindsAll (pool : MySQLConnectionPool) : ConnectionPoolStep → Prop
  | .init => pool.sessions.lent = []
  | _ => True

theorem sized_iff {poolSize : Nat} {pool : MySQLConnectionPool} :
    pool.Sized poolSize ↔ pool.sessionCount ≤ poolSize ∧
      (pool.Completed → pool.sessionCount = poolSize) := by
  constructor
  · exact fun sized => ⟨sized.bounded, sized.complete⟩
  · rintro ⟨bounded, complete⟩
    refine ⟨bounded, complete, fun completed released => ?_⟩
    have total := complete completed
    rw [sessionCount, released] at total
    exact total

theorem sessionCount_eq_items (pool : MySQLConnectionPool) :
    pool.sessionCount = pool.sessions.items.length := by
  simp [sessionCount, getConnectionPoolSize, Lending.items, Lending.lentItems]

@[simp] theorem push_size (pool : MySQLConnectionPool) :
    pool.push.getConnectionPoolSize = pool.getConnectionPoolSize + 1 := by
  simp [push, getConnectionPoolSize, Lending.add]

@[simp] theorem push_poolSize (pool : MySQLConnectionPool) :
    pool.push.poolSize = pool.poolSize := rfl

/-- The loop of `Init` opens what the queue lacks, once as many attempts have succeeded. -/
theorem fill_of_enough (pool : MySQLConnectionPool) (successCount : Nat) {attempts : List Bool}
    (enough : pool.poolSize ≤ pool.getConnectionPoolSize + attempts.count true) :
    ∃ filled, pool.fill successCount attempts =
        some (filled, successCount + (pool.poolSize - pool.getConnectionPoolSize)) ∧
      filled.getConnectionPoolSize = max pool.getConnectionPoolSize pool.poolSize ∧
      filled.sessions.lent = pool.sessions.lent ∧ filled.outcomes = pool.outcomes ∧
      filled.poolSize = pool.poolSize := by
  induction attempts generalizing pool successCount with
  | nil =>
      rw [List.count_nil, Nat.add_zero] at enough
      refine ⟨pool, ?_, by omega, rfl, rfl, rfl⟩
      rw [fill, if_neg (by omega), Nat.sub_eq_zero_of_le enough, Nat.add_zero]
  | cons connects rest ih =>
      by_cases lacks : pool.getConnectionPoolSize < pool.poolSize
      · rw [fill, if_pos lacks]
        cases connects with
        | false => exact ih pool successCount (by simpa using enough)
        | true =>
            rw [List.count_cons_self] at enough
            obtain ⟨filled, filling, count, lent, outcomes, same⟩ :=
              ih pool.push (successCount + 1) (by simp only [push_poolSize, push_size]; omega)
            rw [push_size, push_poolSize] at filling count
            refine ⟨filled, ?_, by omega, lent, outcomes, same⟩
            rw [if_pos rfl, filling]
            have total : successCount + 1 +
                (pool.poolSize - (pool.getConnectionPoolSize + 1)) =
                  successCount + (pool.poolSize - pool.getConnectionPoolSize) := by omega
            rw [total]
      · refine ⟨pool, ?_, by omega, rfl, rfl, rfl⟩
        rw [fill, if_neg lacks, Nat.sub_eq_zero_of_le (by omega), Nat.add_zero]

/-- Until then it is still at it. -/
theorem fill_of_few (pool : MySQLConnectionPool) (successCount : Nat) {attempts : List Bool}
    (few : pool.getConnectionPoolSize + attempts.count true < pool.poolSize) :
    pool.fill successCount attempts = none := by
  induction attempts generalizing pool successCount with
  | nil => rw [fill, if_pos (by simpa using few)]
  | cons connects rest ih =>
      rw [fill, if_pos (by omega)]
      cases connects with
      | false => exact ih pool successCount (by simpa using few)
      | true =>
          rw [List.count_cons_self] at few
          exact ih pool.push (successCount + 1) (by rw [push_size, push_poolSize]; omega)

/-- `Init` opens what the queue lacks. -/
theorem step_init (poolSize : Nat) (pool : MySQLConnectionPool) :
    (pool.step poolSize .init).getConnectionPoolSize =
        max pool.getConnectionPoolSize poolSize ∧
      (pool.step poolSize .init).sessions.lent = pool.sessions.lent := by
  let asked : MySQLConnectionPool := { pool with poolSize := poolSize }
  have enough : asked.poolSize ≤
      asked.getConnectionPoolSize + (List.replicate poolSize true).count true := by
    rw [List.count_replicate_self]
    exact Nat.le_add_left _ _
  obtain ⟨filled, filling, count, lent, -, -⟩ := fill_of_enough asked 0 enough
  simp only [asked] at filling count lent
  simp only [step, init, filling, Option.getD_some]
  exact ⟨count, lent⟩

theorem Sized.within {poolSize : Nat} {pool : MySQLConnectionPool} (sized : pool.Sized poolSize) :
    pool.getConnectionPoolSize ≤ poolSize :=
  Nat.le_trans (Nat.le_add_right _ _) sized.bounded

theorem step_sized_iff (poolSize : Nat) (pool : MySQLConnectionPool)
    (action : ConnectionPoolStep) (sized : pool.Sized poolSize) :
    (pool.step poolSize action).Sized poolSize ↔ pool.InitFindsAll action := by
  -- a loan and its return leave the sum as it is
  have kept : ∀ after : MySQLConnectionPool, after.sessions.items.Perm pool.sessions.items →
      after.outcomes = pool.outcomes → after.Sized poolSize := by
    intro after items outcomes
    have same : after.sessionCount = pool.sessionCount := by
      rw [sessionCount_eq_items, sessionCount_eq_items, items.length_eq]
    rw [sized_iff, same, Completed, outcomes]
    exact sized_iff.mp sized
  cases action with
  | getConnection client =>
      exact iff_of_true (kept _ (pool.sessions.borrow_items_perm client) rfl) trivial
  | releaseConnection client session =>
      exact iff_of_true (kept _ (pool.sessions.giveBack_items_perm (client, session)) rfl) trivial
  | init =>
      obtain ⟨count, lent⟩ := step_init poolSize pool
      have after : (pool.step poolSize .init).sessionCount =
          poolSize + pool.sessions.lent.length := by
        rw [sessionCount, count, lent, Nat.max_eq_right sized.within]
      rw [sized_iff, after]
      constructor
      · intro counted
        exact List.length_eq_zero_iff.mp (by omega)
      · intro none
        rw [InitFindsAll] at none
        simp [none]

/-!
## Runs
-/

theorem new_sized (poolSize : Nat) : new.Sized poolSize where
  bounded := Nat.zero_le poolSize
  complete := by rintro ⟨outcome, member, -⟩; cases member
  released := by rintro ⟨outcome, member, -⟩; cases member

/-- The pool keeps to its size at every point of a run exactly when every `Init` is called while
no client holds a session. -/
theorem pool_sized_iff (poolSize : Nat) (actions : List ConnectionPoolStep) :
    (∀ first, first <+: actions → (run (step poolSize) new first).Sized poolSize) ↔
      Guarded (step poolSize) InitFindsAll new actions :=
  forall_prefix_iff_guarded (fun _ => True) (Sized poolSize) (fun _ _ _ => trivial)
    (fun pool action _ => step_sized_iff poolSize pool action) trivial (new_sized poolSize) actions

/-- A second `Init` while the only session is lent opens another, and the `Init` after its
return finds two and throws. -/
theorem init_while_lent_exceeds :
    (run (step 1) new [.init, .getConnection 0, .init]).sessionCount = 2 ∧
      (run (step 1) new [.init, .getConnection 0, .init, .releaseConnection 0 0,
        .init]).outcomes = [.filled 1, .filled 1, .threw] := by
  decide

end MySQLConnectionPool

end Talko.Database
