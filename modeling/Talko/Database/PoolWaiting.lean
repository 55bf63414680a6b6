import Talko.Database.MySQLConnectionPool
import Talko.Database.MysqlConnPool
import Talko.Library.Monitor

/-!
# Waiting for a connection

`get_conn` and `GetConnection` wait at `cond_` with a time limit, and a release notifies one
thread. The two pools are monitors over their models without waits. An operation of the first
pool drops the connection that its `get_conn` finds, at once or when its wait ends. `Init` of the
second pool fills the queue and notifies nobody: who waits then sleeps on beside the sessions,
until a release or the end of its time.
-/

set_option autoImplicit false

namespace Talko.Database

open Talko.Library

/-!
## `MysqlConnPool`
-/

/-- A caller of `get_conn`. -/
inductive PoolCall where
  | getConn (client : Nat)
  | beginOperation (operation : PoolOperation)
  deriving DecidableEq, Repr

/-- A step that does not wait. -/
inductive PoolChange where
  | releaseConn (client conn : Nat)
  | endOperation (call : OperationCall) (outcomes : List ExecuteOutcome)
  deriving DecidableEq, Repr

def PoolCall.toStep : PoolCall → PoolStep
  | .getConn client => .getConn client
  | .beginOperation operation => .beginOperation operation

def PoolChange.toStep : PoolChange → PoolStep
  | .releaseConn client conn => .releaseConn client conn
  | .endOperation call outcomes => .endOperation call outcomes

namespace MysqlConnPool

/-- The connections that a caller can have; a process that has ended serves nobody. -/
def available (pool : MysqlConnPool) : Nat :=
  if pool.crashed then 0 else pool.conns.idle.length

def waits : MonitorCode MysqlConnPool PoolCall PoolChange where
  available := available
  serve pool call := pool.step call.toStep
  apply pool change := pool.step change.toStep
  notifies
    | .releaseConn _ _ => true
    | .endOperation _ _ => false

theorem available_le (pool : MysqlConnPool) : pool.available ≤ pool.conns.idle.length := by
  unfold available
  split
  · exact Nat.zero_le _
  · exact Nat.le_refl _

theorem step_of_crashed {pool : MysqlConnPool} (crashed : pool.crashed = true)
    (action : PoolStep) : pool.step action = pool := by
  unfold step
  rw [if_pos crashed]

theorem waits_takes : waits.Takes := by
  intro pool call
  change (pool.step call.toStep).available ≤ pool.available - 1
  cases crashed : pool.crashed with
  | true =>
      have nothing : pool.available = 0 := by simp [available, crashed]
      rw [step_of_crashed crashed]
      omega
  | false =>
      have before : pool.available = pool.conns.idle.length := by simp [available, crashed]
      refine Nat.le_trans (available_le _) ?_
      rw [before, ← List.length_tail]
      cases call with
      | getConn client =>
          simp only [PoolCall.toStep, step, crashed, Bool.false_eq_true, if_false, getConnFor_eq,
            Lending.borrow_idle, Nat.le_refl]
      | beginOperation operation =>
          simp only [PoolCall.toStep, step, crashed, Bool.false_eq_true, if_false, beginOperation,
            getConn, Lending.take_idle, Nat.le_refl]

/-- Only a release adds to the queue, one connection and with a notification. -/
theorem change_available_le (pool : MysqlConnPool) (change : PoolChange) :
    (pool.step change.toStep).available ≤ pool.available + (waits.notifies change).toNat := by
  cases crashed : pool.crashed with
  | true =>
      rw [step_of_crashed crashed]
      exact Nat.le_add_right _ _
  | false =>
      have before : pool.available = pool.conns.idle.length := by simp [available, crashed]
      refine Nat.le_trans (available_le _) ?_
      rw [before]
      cases change with
      | releaseConn client conn =>
          simp only [PoolChange.toStep, step, crashed, Bool.false_eq_true, if_false]
          exact pool.conns.giveBack_idle_le (client, conn)
      | endOperation call outcomes =>
          simp only [PoolChange.toStep, step, crashed, Bool.false_eq_true, if_false]
          split
          · rw [endOperation_conns]
            exact Nat.le_refl _
          · exact Nat.le_refl _

/-- The pool of a run with waits is one that the calls reach without them. -/
theorem run_waits_steps (pool : MysqlConnPool)
    (actions : List (MonitorStep PoolCall PoolChange)) :
    ∃ steps, (run waits.step (Monitor.start pool) actions).state = run step pool steps := by
  obtain ⟨sections, same⟩ := MonitorCode.run_sections waits (Monitor.start pool) actions
  refine ⟨sections.map (Sum.elim PoolCall.toStep PoolChange.toStep), same.trans ?_⟩
  rw [run, run, List.foldl_map]
  congr 1
  funext pool part
  cases part with
  | inl call => rfl
  | inr change => rfl

/-- Nobody oversleeps. In every run of clients and operations that wait in `get_conn`, with any
wake-ups and time limits, a thread sleeps only while, for each queued connection, another one is
awake and on its way to the mutex; and the pool is one that the calls reach without waits. -/
theorem waiting_never_oversleeps (database : List UInt8) (connects : List Bool)
    (actions : List (MonitorStep PoolCall PoolChange)) :
    let m := run waits.step (Monitor.start (new database connects)) actions
    (m.asleep = [] ∨ m.state.crashed = true ∨
        m.state.conns.idle.length ≤ m.woken.length) ∧
      ∃ steps, m.state = run step (new database connects) steps := by
  intro m
  constructor
  · have attentive : waits.Attentive m :=
      MonitorCode.run_attentive waits_takes change_available_le (new database connects) actions
    rcases attentive with none | awake
    · exact .inl none
    · refine .inr ?_
      change m.state.available ≤ m.woken.length at awake
      cases crashed : m.state.crashed with
      | true => exact .inl rfl
      | false =>
          rw [available, crashed] at awake
          exact .inr awake
  · exact run_waits_steps (new database connects) actions

/-!
## What operations take
-/

/-- A call of an operation that looks at the queue finds it empty. -/
def CallFindsNone (pool : MysqlConnPool) (call : PoolCall) : Prop :=
  pool.OperationFindsNone call.toStep

/-- The `get_conn` of no operation finds a connection, at once or at a look within its wait. -/
def OperationGetsNone (m : Monitor MysqlConnPool PoolCall) :
    MonitorStep PoolCall PoolChange → Prop
  | .enter call => m.state.CallFindsNone call
  | .recheck index => ∀ caller ∈ m.woken[index]?, m.state.CallFindsNone caller.1
  | .wake _ _ | .change _ _ => True

instance (pool : MysqlConnPool) (call : PoolCall) : Decidable (pool.CallFindsNone call) :=
  inferInstanceAs (Decidable (pool.OperationFindsNone call.toStep))

instance (m : Monitor MysqlConnPool PoolCall) (action : MonitorStep PoolCall PoolChange) :
    Decidable (OperationGetsNone m action) :=
  match action with
  | .enter call => inferInstanceAs (Decidable (m.state.CallFindsNone call))
  | .recheck index =>
      inferInstanceAs (Decidable (∀ caller ∈ m.woken[index]?, m.state.CallFindsNone caller.1))
  | .wake _ _ | .change _ _ => isTrue trivial

/-- A call goes to sleep only where it would find nothing. -/
theorem callFindsNone_of_unavailable {pool : MysqlConnPool} (nothing : ¬ 0 < pool.available)
    (call : PoolCall) : pool.CallFindsNone call := by
  cases call with
  | getConn client => trivial
  | beginOperation operation =>
      intro alive
      have idle : pool.available = pool.conns.idle.length := by simp [available, alive]
      exact List.length_eq_zero_iff.mp (by omega)

theorem look_taken_iff (m : Monitor MysqlConnPool PoolCall) (call : PoolCall)
    (timeIsUp : Bool) :
    (waits.look m call timeIsUp).state.taken = [] ↔
      m.state.taken = [] ∧ m.state.CallFindsNone call := by
  unfold MonitorCode.look
  split
  · exact nothing_taken_decides m.state call.toStep
  · next nothing =>
      have unserved : ¬ 0 < m.state.available := (not_or.mp nothing).1
      exact (and_iff_left (callFindsNone_of_unavailable unserved call)).symm

theorem waits_taken_iff (m : Monitor MysqlConnPool PoolCall)
    (action : MonitorStep PoolCall PoolChange) :
    (waits.step m action).state.taken = [] ↔
      m.state.taken = [] ∧ OperationGetsNone m action := by
  cases action with
  | enter call => exact look_taken_iff m call false
  | recheck index =>
      simp only [MonitorCode.step, OperationGetsNone]
      cases m.woken[index]? with
      | none => simp
      | some caller =>
          simp only [Option.mem_def, Option.some.injEq, forall_eq']
          exact look_taken_iff { m with woken := m.woken.eraseIdx index } caller.1 caller.2
  | wake index timeIsUp =>
      simp only [MonitorCode.step, Monitor.rouse_state, OperationGetsNone, and_true]
  | change change choice =>
      have unasked : m.state.OperationFindsNone change.toStep := by
        cases change with
        | releaseConn client conn => trivial
        | endOperation call outcomes => trivial
      have applied := nothing_taken_decides m.state change.toStep
      rw [and_iff_left unasked] at applied
      simp only [MonitorCode.step, OperationGetsNone, and_true]
      split
      · rw [Monitor.notifyOne, Monitor.rouse_state]
        exact applied
      · exact applied

/-- At every point of a run of clients and operations that wait in `get_conn`, and so whenever no
operation is in progress, the connections are all queued or held exactly when the `get_conn` of
no operation has found one, at once or within its wait. -/
theorem conserved_iff_no_operation (database : List UInt8) (connects : List Bool)
    (actions : List (MonitorStep PoolCall PoolChange)) :
    (run waits.step (Monitor.start (new database connects)) actions).state.Conserved ↔
      Guarded waits.step OperationGetsNone (Monitor.start (new database connects)) actions := by
  have untaken : (run waits.step (Monitor.start (new database connects)) actions).state.taken = [] ↔
      Guarded waits.step OperationGetsNone (Monitor.start (new database connects)) actions := by
    let keeps : Monitor MysqlConnPool PoolCall → Prop := fun m => m.state.taken = []
    refine run_iff_guarded keeps ?_ ?_ rfl actions
    · intro m action none
      exact (waits_taken_iff m action).trans (and_iff_right none)
    · intro m action some none
      exact some ((waits_taken_iff m action).mp none).1
  have accounted :
      (run waits.step (Monitor.start (new database connects)) actions).state.Accounted connects := by
    obtain ⟨steps, same⟩ := run_waits_steps (new database connects) actions
    rw [same]
    exact run_invariant_always (Accounted connects) step_accounted
      (new_accounted database connects) steps
  exact accounted.conserved_iff.trans untaken

/-- One check of the database, and the only connection is gone. -/
theorem check_drops_connection :
    let m := run waits.step (Monitor.start (new [] [true]))
      [.enter (.beginOperation .checkDbExist),
        .change (.endOperation ⟨.checkDbExist, some 0⟩ [.returned true]) 0]
    m.asleep = [] ∧ m.woken = [] ∧ m.state.inProgress = [] ∧ ¬ m.state.Conserved := by
  refine ⟨by decide, by decide, by decide, fun conserved => ?_⟩
  have count := conserved.count
  revert count
  decide

/-- A check that waits at the empty queue finds the connection that a client gives back. -/
example : ¬ Guarded waits.step OperationGetsNone (Monitor.start (new [] [true]))
    [.enter (.getConn 0), .enter (.beginOperation .checkDbExist),
      .change (.releaseConn 0 0) 0, .recheck 0] := by
  decide

end MysqlConnPool

/-!
## `MySQLConnectionPool`
-/

/-- A section that does not wait. The release of an empty pointer opens a session first, and
returns when it cannot. -/
inductive SessionChange where
  | init (poolSize : Nat)
  | releaseConnection (client session : Nat)
  | releaseEmpty (connects : Bool)
  deriving DecidableEq, Repr

namespace MySQLConnectionPool

/-- `GetConnection` of a client, and the other sections; the server never refuses an `Init`. -/
def waits : MonitorCode MySQLConnectionPool Nat SessionChange where
  available := getConnectionPoolSize
  serve := getConnection
  apply pool
    | .init poolSize => pool.step poolSize .init
    | .releaseConnection client session => pool.releaseConnection client (some session) true
    | .releaseEmpty connects => pool.releaseConnection 0 none connects
  notifies
    | .init _ => false
    | .releaseConnection _ _ => true
    | .releaseEmpty connects => connects

/-- An `Init` finds nobody asleep, or as many awake as it leaves sessions in the queue. -/
def InitFindsAwake (m : Monitor MySQLConnectionPool Nat) : MonitorStep Nat SessionChange → Prop
  | .change (.init poolSize) _ =>
      m.asleep = [] ∨ max m.state.getConnectionPoolSize poolSize ≤ m.woken.length
  | _ => True

instance (m : Monitor MySQLConnectionPool Nat) (action : MonitorStep Nat SessionChange) :
    Decidable (InitFindsAwake m action) :=
  match action with
  | .change (.init poolSize) _ =>
      inferInstanceAs
        (Decidable (m.asleep = [] ∨ max m.state.getConnectionPoolSize poolSize ≤ m.woken.length))
  | .change (.releaseConnection _ _) _ | .change (.releaseEmpty _) _ => isTrue trivial
  | .enter _ | .recheck _ | .wake _ _ => isTrue trivial

theorem waits_takes : waits.Takes := by
  intro pool client
  change (pool.sessions.borrow client).idle.length ≤ pool.sessions.idle.length - 1
  exact Nat.le_of_eq (by rw [Lending.borrow_idle, List.length_tail])

theorem step_attentive_iff {m : Monitor MySQLConnectionPool Nat} (attentive : waits.Attentive m)
    (action : MonitorStep Nat SessionChange) :
    waits.Attentive (waits.step m action) ↔ InitFindsAwake m action := by
  rw [MonitorCode.step_attentive_iff waits_takes attentive]
  cases action with
  | enter client => exact Iff.rfl
  | recheck index => exact Iff.rfl
  | wake index timeIsUp => exact Iff.rfl
  | change change choice =>
      cases change with
      | init poolSize =>
          obtain ⟨size, -⟩ := step_init poolSize m.state
          change (m.asleep.length ≤ 0 ∨ (m.state.step poolSize .init).getConnectionPoolSize ≤
            m.woken.length + 0) ↔ _
          rw [size, Nat.le_zero, List.length_eq_zero_iff, Nat.add_zero]
          exact Iff.rfl
      | releaseConnection client session =>
          refine iff_of_true (MonitorCode.announced_of_le attentive ?_ choice) trivial
          exact m.state.sessions.giveBack_idle_le (client, session)
      | releaseEmpty connects =>
          refine iff_of_true (MonitorCode.announced_of_le attentive ?_ choice) trivial
          cases connects with
          | true => exact Nat.le_of_eq (push_size m.state)
          | false => exact Nat.le_refl _

/-- At every point of a run each session in the queue has a client awake for it, or nobody
sleeps, exactly when every `Init` finds nobody asleep or enough clients awake: its sessions come
without a notification. -/
theorem sleeper_beside_session_iff (actions : List (MonitorStep Nat SessionChange)) :
    (∀ first, first <+: actions →
        let m := run waits.step (Monitor.start new) first
        m.asleep = [] ∨ m.state.getConnectionPoolSize ≤ m.woken.length) ↔
      Guarded waits.step InitFindsAwake (Monitor.start new) actions :=
  forall_prefix_iff_guarded (fun _ => True) waits.Attentive (fun _ _ _ => trivial)
    (fun _ action _ attentive => step_attentive_iff attentive action) trivial (.inl rfl) actions

/-- The client came before the first `Init`, and sleeps beside the session. -/
example : ¬ Guarded waits.step InitFindsAwake (Monitor.start new)
    [.enter 0, .change (.init 1) 0] := by decide

end MySQLConnectionPool

end Talko.Database
