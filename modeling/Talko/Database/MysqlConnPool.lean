import Talko.Library.Decimal
import Talko.Library.Lending
import Talko.Library.Run

/-!
# The pool of MySQL connections

`MysqlConnPool`: clients take a connection out of `conn_queue_` with `get_conn` and give it
back with `release_conn`. The pool's own operations take one too, run their statements on it
and return; the connection goes with the last pointer to it. A step is a section under `mutex_`:
the one that ends a `get_conn`, at once or behind its wait, or a `release_conn`.
-/

set_option autoImplicit false

namespace Talko.Database

open Talko.Library

structure TableField where
  name : List UInt8
  type : List UInt8
  desc : List UInt8
  deriving DecidableEq, Repr

/-- The fields in the order of their keys in `field_`. -/
structure TableInfo where
  name : List UInt8
  field : List TableField
  key : List UInt8
  deriving DecidableEq, Repr

/-- The pool's own operations. -/
inductive PoolOperation where
  | checkDbExist
  | createDb
  | checkTableExist (table : TableInfo)
  | createTable (table : TableInfo)
  | updateTable (table : TableInfo)
  deriving DecidableEq, Repr

/-- What a call of `execute` does: it returns, or an exception leaves it. -/
inductive ExecuteOutcome where
  | returned (result : Bool)
  | threw
  deriving DecidableEq, Repr

namespace PoolOperation

/-- The definition of one column. -/
def columnText (field : TableField) : List UInt8 :=
  field.name ++ asciiText " " ++ field.type ++ asciiText " " ++ field.desc

def createTableText (table : TableInfo) : List UInt8 :=
  let columns := table.field.flatMap fun field => columnText field ++ asciiText ", "
  let query := asciiText "CREATE TABLE " ++ table.name ++ asciiText " (" ++ columns
  query.take (query.length - 2) ++ asciiText ") " ++ table.key

/-- The statements that an operation runs, one after the other. -/
def queries (database : List UInt8) : PoolOperation → List (List UInt8)
  | .checkDbExist =>
      [asciiText "SELECT SCHEMA_NAME FROM INFORMATION_SCHEMA.SCHEMATA WHERE SCHEMA_NAME = '" ++
        database ++ asciiText "'"]
  | .createDb => [asciiText "CREATE DATABASE " ++ database]
  | .checkTableExist table =>
      [asciiText "SELECT TABLE_NAME FROM INFORMATION_SCHEMA.TABLES WHERE TABLE_SCHEMA = '" ++
        database ++ asciiText "' AND TABLE_NAME = '" ++ table.name ++ asciiText "'"]
  | .createTable table => [createTableText table]
  | .updateTable table =>
      table.field.map fun field =>
        asciiText "ALTER TABLE " ++ table.name ++ asciiText " ADD COLUMN " ++ columnText field

/-- The outcome of one statement after the other; an exception ends the operation. -/
def executeAll : List (List UInt8) → List ExecuteOutcome → Bool
  | [], _ => true
  | _ :: rest, .returned _ :: outcomes => executeAll rest outcomes
  | _ :: _, _ => false

/-- The value returned. `_check_db_exist` and `_check_table_exist` return what `execute` did,
the others only tell an exception. -/
def result (database : List UInt8) (operation : PoolOperation) (outcomes : List ExecuteOutcome) :
    Bool :=
  match operation with
  | .checkDbExist | .checkTableExist _ => outcomes.head? = some (.returned true)
  | .createDb | .createTable _ | .updateTable _ =>
      executeAll (operation.queries database) outcomes

end PoolOperation

/-- A call of an operation that has not returned, with what `get_conn` gave it. -/
structure OperationCall where
  operation : PoolOperation
  conn : Option Nat
  deriving DecidableEq, Repr

/-- The connections in `conn_queue_` and in the hands of clients, the number that the
constructor connected, the calls of operations on their way, those that have returned with
their values, and the connections that went with them. -/
structure MysqlConnPool where
  database : List UInt8
  conns : Lending Nat Nat
  connected : Nat
  inProgress : List OperationCall
  ended : List (PoolOperation × Bool)
  dropped : List Nat
  crashed : Bool
  deriving DecidableEq, Repr

/-- A step of a client or of an operation. -/
inductive PoolStep where
  | getConn (client : Nat)
  | releaseConn (client conn : Nat)
  | beginOperation (operation : PoolOperation)
  | endOperation (call : OperationCall) (outcomes : List ExecuteOutcome)
  deriving DecidableEq, Repr

namespace MysqlConnPool

/-- The connections that the constructor connects; `connects` are the answers of `connect`. -/
def connectedConns (connects : List Bool) : List Nat :=
  (List.range connects.length).filter fun index => connects[index]?.getD false

def new (database : List UInt8) (connects : List Bool) : MysqlConnPool where
  database := database
  conns := ⟨connectedConns connects, []⟩
  connected := (connectedConns connects).length
  inProgress := []
  ended := []
  dropped := []
  crashed := false

/-- The last section of `get_conn`. It finds the queue empty only when the time of its wait is
up, and returns an empty pointer then; a release within the wait has left it a connection. -/
def getConn (pool : MysqlConnPool) : Option Nat × MysqlConnPool :=
  let (conn, conns) := pool.conns.take
  (conn, { pool with conns := conns })

/-- `get_conn` for a client, which holds what it gets. -/
def getConnFor (pool : MysqlConnPool) (client : Nat) : MysqlConnPool :=
  match pool.getConn with
  | (none, taken) => taken
  | (some conn, taken) => { taken with conns := taken.conns.lend client conn }

/-- A client releases what it holds. -/
def releaseConn (pool : MysqlConnPool) (client conn : Nat) : MysqlConnPool :=
  { pool with conns := pool.conns.giveBack (client, conn) }

/-- The end of the `get_conn` in the first line of every operation. -/
def beginOperation (pool : MysqlConnPool) (operation : PoolOperation) : MysqlConnPool :=
  let (conn, taken) := pool.getConn
  { taken with inProgress := taken.inProgress ++ [⟨operation, conn⟩] }

/-- The rest of an operation. A statement on an empty pointer is the end of the process; every
`return` drops the connection. -/
def endOperation (pool : MysqlConnPool) (call : OperationCall) (outcomes : List ExecuteOutcome) :
    MysqlConnPool :=
  if call.conn = none ∧ call.operation.queries pool.database ≠ [] then
    { pool with crashed := true }
  else
    { pool with
      inProgress := pool.inProgress.erase call
      ended := pool.ended ++ [(call.operation, call.operation.result pool.database outcomes)]
      dropped := pool.dropped ++ call.conn.toList }

def step (pool : MysqlConnPool) (action : PoolStep) : MysqlConnPool :=
  if pool.crashed then pool
  else
    match action with
    | .getConn client => pool.getConnFor client
    | .releaseConn client conn => pool.releaseConn client conn
    | .beginOperation operation => pool.beginOperation operation
    | .endOperation call outcomes =>
        if call ∈ pool.inProgress then pool.endOperation call outcomes else pool

/-!
## Where the connections are
-/

/-- As many connections are queued or held by clients as were connected, none of them twice. -/
structure Conserved (pool : MysqlConnPool) : Prop where
  count : pool.conns.idle.length + pool.conns.lent.length = pool.connected
  distinct : pool.conns.items.Nodup

/-- The connections that operations took out of the queue. -/
def taken (pool : MysqlConnPool) : List Nat :=
  pool.inProgress.filterMap OperationCall.conn ++ pool.dropped

/-- The `get_conn` of no operation ends while a connection is queued. -/
def OperationFindsNone (pool : MysqlConnPool) : PoolStep → Prop
  | .beginOperation _ => pool.crashed = false → pool.conns.idle = []
  | _ => True

instance (pool : MysqlConnPool) (action : PoolStep) :
    Decidable (pool.OperationFindsNone action) :=
  match action with
  | .beginOperation _ => inferInstanceAs (Decidable (pool.crashed = false → pool.conns.idle = []))
  | .getConn _ | .releaseConn _ _ | .endOperation _ _ => inferInstanceAs (Decidable True)

/-- Every connection is in the queue, with a client, or taken by an operation. -/
structure Accounted (connects : List Bool) (pool : MysqlConnPool) : Prop where
  connected : pool.connected = (connectedConns connects).length
  perm : (pool.conns.items ++ pool.taken).Perm (connectedConns connects)

theorem new_accounted (database : List UInt8) (connects : List Bool) :
    (new database connects).Accounted connects where
  connected := rfl
  perm := by simp [new, taken, Lending.items, Lending.lentItems]

theorem connectedConns_nodup (connects : List Bool) : (connectedConns connects).Nodup :=
  List.nodup_range.filter _

theorem getConnFor_eq (pool : MysqlConnPool) (client : Nat) :
    pool.getConnFor client = { pool with conns := pool.conns.borrow client } := by
  unfold getConnFor getConn Lending.borrow
  rcases pool.conns.take with ⟨_ | conn, rest⟩
  · rfl
  · rfl

theorem endOperation_conns (pool : MysqlConnPool) (call : OperationCall)
    (outcomes : List ExecuteOutcome) : (pool.endOperation call outcomes).conns = pool.conns := by
  unfold endOperation
  split <;> rfl

theorem endOperation_connected (pool : MysqlConnPool) (call : OperationCall)
    (outcomes : List ExecuteOutcome) :
    (pool.endOperation call outcomes).connected = pool.connected := by
  unfold endOperation
  split <;> rfl

theorem endOperation_taken_perm {pool : MysqlConnPool} {call : OperationCall}
    (member : call ∈ pool.inProgress) (outcomes : List ExecuteOutcome) :
    (pool.endOperation call outcomes).taken.Perm pool.taken := by
  unfold endOperation
  split
  · exact .refl _
  · have split := (List.perm_cons_erase member).filterMap OperationCall.conn
    simp only [taken]
    cases conn : call.conn with
    | none =>
        rw [List.filterMap_cons_none conn] at split
        simpa using split.symm.append_right pool.dropped
    | some conn' =>
        rw [List.filterMap_cons_some conn] at split
        refine List.Perm.trans ?_ (split.symm.append_right pool.dropped)
        simp only [Option.toList_some]
        rw [← List.append_assoc]
        exact List.perm_append_singleton conn' _

theorem beginOperation_of_empty {pool : MysqlConnPool} (empty : pool.conns.idle = [])
    (operation : PoolOperation) :
    pool.beginOperation operation =
      { pool with inProgress := pool.inProgress ++ [⟨operation, none⟩] } := by
  simp [beginOperation, getConn, Lending.take_of_empty empty]

/-- What a step does with the connections: it moves them between the queue and the clients, or
an operation takes one away. -/
theorem step_cases (pool : MysqlConnPool) (action : PoolStep) :
    (pool.step action).connected = pool.connected ∧
      (pool.OperationFindsNone action ∧ (pool.step action).conns.items.Perm pool.conns.items ∧
          (pool.step action).taken.Perm pool.taken ∨
        ¬ pool.OperationFindsNone action ∧ ∃ conn,
          (conn :: (pool.step action).conns.items).Perm pool.conns.items ∧
          (pool.step action).taken.Perm (conn :: pool.taken)) := by
  cases crashed : pool.crashed with
  | true =>
      have idle : pool.step action = pool := by simp [step, crashed]
      rw [idle]
      refine ⟨rfl, .inl ⟨?_, .refl _, .refl _⟩⟩
      cases action with
      | beginOperation operation => simp [OperationFindsNone, crashed]
      | _ => trivial
  | false =>
      simp only [step, crashed, Bool.false_eq_true, if_false]
      cases action with
      | getConn client =>
          simp only [getConnFor_eq]
          exact ⟨trivial, .inl ⟨trivial, pool.conns.borrow_items_perm client, .refl _⟩⟩
      | releaseConn client conn =>
          exact ⟨rfl, .inl ⟨trivial, pool.conns.giveBack_items_perm (client, conn), .refl _⟩⟩
      | beginOperation operation =>
          by_cases empty : pool.conns.idle = []
          · simp only [beginOperation_of_empty empty]
            refine ⟨trivial, .inl ⟨fun _ => empty, .refl _, ?_⟩⟩
            simp [taken, List.filterMap_append]
          · obtain ⟨conn, rest, taken', perm⟩ := Lending.take_of_filled empty
            simp only [beginOperation, getConn, taken']
            refine ⟨trivial, .inr ⟨fun finds => empty (finds crashed), conn, perm, ?_⟩⟩
            simp only [taken, List.filterMap_append, List.filterMap_cons, List.filterMap_nil]
            rw [List.append_assoc]
            exact List.perm_middle
      | endOperation call outcomes =>
          dsimp only
          split
          · rename_i member
            have taken' := endOperation_taken_perm member outcomes
            rw [endOperation_conns, endOperation_connected]
            exact ⟨rfl, .inl ⟨trivial, .refl _, taken'⟩⟩
          · exact ⟨rfl, .inl ⟨trivial, .refl _, .refl _⟩⟩

theorem step_accounted {connects : List Bool} (pool : MysqlConnPool) (action : PoolStep)
    (accounted : pool.Accounted connects) : (pool.step action).Accounted connects := by
  obtain ⟨connected, ⟨-, items, taken⟩ | ⟨-, conn, items, taken⟩⟩ := pool.step_cases action
  · exact ⟨connected.trans accounted.connected, (items.append taken).trans accounted.perm⟩
  · refine ⟨connected.trans accounted.connected, List.Perm.trans ?_ accounted.perm⟩
    refine (taken.append_left _).trans ?_
    exact List.perm_middle.trans (items.append_right pool.taken)

/-- What an operation has taken stays taken, and only one that finds a connection takes any. -/
theorem nothing_taken_decides (pool : MysqlConnPool) (action : PoolStep) :
    (pool.step action).taken = [] ↔ pool.taken = [] ∧ pool.OperationFindsNone action := by
  obtain ⟨-, ⟨finds, -, taken⟩ | ⟨finds, conn, -, taken⟩⟩ := pool.step_cases action
  · rw [and_iff_left finds]
    constructor
    · intro none
      exact (none ▸ taken.symm).eq_nil
    · intro none
      exact (none ▸ taken).eq_nil
  · refine iff_of_false (fun none => ?_) (fun both => finds both.2)
    cases (none ▸ taken.symm).eq_nil

theorem Accounted.conserved_iff {connects : List Bool} {pool : MysqlConnPool}
    (accounted : pool.Accounted connects) : pool.Conserved ↔ pool.taken = [] := by
  have total := accounted.perm.length_eq
  rw [List.length_append, ← accounted.connected] at total
  have items : pool.conns.items.length = pool.conns.idle.length + pool.conns.lent.length := by
    simp [Lending.items, Lending.lentItems]
  constructor
  · intro conserved
    have count := conserved.count
    exact List.length_eq_zero_iff.mp (by omega)
  · intro none
    rw [none, List.length_nil] at total
    refine ⟨by omega, ?_⟩
    have all := accounted.perm.nodup_iff.mpr (connectedConns_nodup connects)
    exact (List.nodup_append.mp all).1

end MysqlConnPool

end Talko.Database
