import Mathlib.Data.List.Nodup
import Mathlib.Data.List.Count
import Talko.Library.KeyedList
import Talko.Network.TcpServer

/-!
# The registry of connections

As long as `stop` finds `conn_map_` empty, no connection is given a loop that has ended and every
new connection gets a name of its own, `conn_destroyed` is scheduled once for each connection that
goes, and the map holds no empty pointer. A `stop` that finds a connection leaves its key with an
empty pointer; the acceptor listens on behind `stop`, and the pool still has the loops of the
threads that were joined.
-/

set_option autoImplicit false

namespace Talko.Network

open Talko.Library

/-!
## The map
-/

namespace ConnMap

theorem mem_erase {map : ConnMap} {key : List UInt8} {entry : List UInt8 × Option Nat} :
    entry ∈ map.erase key ↔ entry ∈ map ∧ entry.1 ≠ key := by
  simp [erase]

theorem mem_assign {map : ConnMap} {key : List UInt8} (fresh : key ∉ map.keys) {conn : Nat}
    {entry : List UInt8 × Option Nat} :
    entry ∈ map.assign key conn ↔ entry = (key, some conn) ∨ entry ∈ map := by
  induction map with
  | nil => simp [assign]
  | cons head rest ih =>
      simp only [keys, List.map_cons, List.mem_cons, not_or] at fresh
      rw [assign, if_neg (Ne.symm fresh.1)]
      split
      · simp
      · rw [List.mem_cons, ih fresh.2, List.mem_cons]
        exact or_left_comm

theorem keys_assign_perm {map : ConnMap} {key : List UInt8} (fresh : key ∉ map.keys)
    (conn : Nat) : (map.assign key conn).keys.Perm (key :: map.keys) := by
  induction map with
  | nil => exact .refl _
  | cons head rest ih =>
      simp only [keys, List.map_cons, List.mem_cons, not_or] at fresh
      rw [assign, if_neg (Ne.symm fresh.1)]
      split
      · exact .refl _
      · exact ((ih fresh.2).cons head.1).trans (.swap key head.1 _)

/-- Two entries of one key are one entry. -/
theorem entry_unique {map : ConnMap} (distinct : map.keys.Nodup)
    {first second : List UInt8 × Option Nat} (firstIn : first ∈ map) (secondIn : second ∈ map)
    (same : first.1 = second.1) : first = second :=
  List.inj_on_of_nodup_map distinct firstIn secondIn same

end ConnMap

namespace TcpServer

/-!
## What the registry promises
-/

/-- `conn_destroyed` was scheduled once for each connection that has closed or was open at a
`stop`, or its removal still waits in the loop of the server. -/
structure RegistryExact (server : TcpServer) : Prop where
  alive : server.place ≠ .crashed
  held : ∀ entry ∈ server.connMap, entry.2 ≠ none
  once : ∀ index conn, server.conns[index]? = some conn →
    conn.destroys + server.pendingRemovals.count index = if conn.due then 1 else 0

/-- A `stop` that does something finds no connection. -/
def StopsEmpty (server : TcpServer) : ServerStep → Prop
  | .stop => server.place = .looping → server.started = true → server.connMap = []
  | _ => True

/-- A connection is accepted while the threads of its pool run, or by a pool without threads. -/
def LoopsRun (server : TcpServer) : ServerStep → Prop
  | .newConn _ => server.place = .looping → ∀ pool ∈ server.eventLoopThreadpool,
      pool.loops = 0 ∨ server.started = true
  | _ => True

/-- What the registry asks of the main thread. -/
def Orderly (server : TcpServer) (action : ServerStep) : Prop :=
  server.StopsEmpty action ∧ server.LoopsRun action

/-- No key of the map is the name of the next connection. -/
def FreshName (server : TcpServer) : ServerStep → Prop
  | .newConn _ => server.connName ∉ server.connMap.keys
  | _ => True

instance (server : TcpServer) (action : ServerStep) : Decidable (server.StopsEmpty action) :=
  match action with
  | .stop =>
      inferInstanceAs (Decidable (server.place = .looping → server.started = true →
        server.connMap = []))
  | .start _ | .joinThreads | .newConn _ | .runRemoval | .runTask _ _ | .shutdown _
  | .handleClose _ => inferInstanceAs (Decidable True)

instance (server : TcpServer) (action : ServerStep) : Decidable (server.LoopsRun action) :=
  match action with
  | .newConn _ =>
      inferInstanceAs (Decidable (server.place = .looping → ∀ pool ∈ server.eventLoopThreadpool,
        pool.loops = 0 ∨ server.started = true))
  | .start _ | .stop | .joinThreads | .runRemoval | .runTask _ _ | .shutdown _
  | .handleClose _ => inferInstanceAs (Decidable True)

instance (server : TcpServer) (action : ServerStep) : Decidable (server.Orderly action) :=
  inferInstanceAs (Decidable (server.StopsEmpty action ∧ server.LoopsRun action))

instance (server : TcpServer) (action : ServerStep) : Decidable (server.FreshName action) :=
  match action with
  | .newConn _ => inferInstanceAs (Decidable (server.connName ∉ server.connMap.keys))
  | .start _ | .stop | .joinThreads | .runRemoval | .runTask _ _ | .shutdown _
  | .handleClose _ => inferInstanceAs (Decidable True)

/-- How a connection stands in the map and in the queue of removals. -/
structure Tracked (map : ConnMap) (pending : List Nat) (index : Nat) (conn : ServerConn) :
    Prop where
  once : conn.destroys + pending.count index = if conn.due then 1 else 0
  listed : (conn.name, some index) ∈ map ↔ conn.destroys = 0
  closed : conn.due = true ↔ conn.state = .kDisconnected
  queued : .connDestroyed ∈ conn.tasks → conn.destroys ≠ 0

structure Registry (server : TcpServer) : Prop where
  alive : server.place ≠ .crashed
  distinct : server.connMap.keys.Nodup
  owned : ∀ entry ∈ server.connMap, ∃ index conn,
    entry.2 = some index ∧ server.conns[index]? = some conn ∧ conn.name = entry.1
  within : ∀ index ∈ server.pendingRemovals, index < server.conns.length
  tracked : ∀ index conn, server.conns[index]? = some conn →
    Tracked server.connMap server.pendingRemovals index conn
  living : ∀ (index : Nat) (conn : ServerConn), server.conns[index]? = some conn →
    conn.destroys = 0 → server.ended conn.loop = false
  joined : server.place = .joining → server.connMap = []

theorem Registry.exact {server : TcpServer} (registry : server.Registry) :
    server.RegistryExact where
  alive := registry.alive
  held entry member := by
    obtain ⟨index, conn, found, -⟩ := registry.owned entry member
    simp [found]
  once index conn found := (registry.tracked index conn found).once

theorem new_registry (hostPort name : List UInt8) : (new hostPort name).Registry where
  alive := nofun
  distinct := List.nodup_nil
  owned := nofun
  within := nofun
  tracked := by simp [new]
  living := by simp [new]
  joined := nofun

/-!
## A change at one connection
-/

theorem Tracked.open_iff {map : ConnMap} {pending : List Nat} {index : Nat} {conn : ServerConn}
    (tracked : Tracked map pending index conn) :
    conn.state ≠ .kDisconnected ↔ conn.due = false := by
  rw [ne_eq, ← tracked.closed, Bool.not_eq_true]

/-- An open connection is in the map and in no queue. -/
theorem Tracked.quiet {map : ConnMap} {pending : List Nat} {index : Nat} {conn : ServerConn}
    (tracked : Tracked map pending index conn) (isOpen : conn.state ≠ .kDisconnected) :
    conn.destroys = 0 ∧ pending.count index = 0 := by
  have once := tracked.once
  rw [tracked.open_iff.mp isOpen] at once
  exact Nat.add_eq_zero_iff.mp once

/-- An edit that leaves a connection its name and its loop and schedules or counts nothing
back. -/
structure Onward (edit : ServerConn → ServerConn) : Prop where
  name : ∀ conn, (edit conn).name = conn.name
  loop : ∀ conn, (edit conn).loop = conn.loop
  destroys : ∀ conn, conn.destroys ≤ (edit conn).destroys

/-- The main thread and the threads of the pool stand where they stood. -/
structure SameThreads (server changed : TcpServer) : Prop where
  place : changed.place = server.place
  started : changed.started = server.started
  cycle : changed.cycle = server.cycle

theorem SameThreads.ended {server changed : TcpServer} (same : SameThreads server changed)
    (loop : LoopRef) : changed.ended loop = server.ended loop := by
  cases loop with
  | baseLoop => rfl
  | worker cycle index => simp only [TcpServer.ended, same.started, same.cycle]

/-- The rule for a change that touches one connection, the map and the queue of removals. -/
theorem Registry.change {server changed : TcpServer} (registry : server.Registry) {index : Nat}
    {edit : ServerConn → ServerConn} (conns : changed.conns = server.conns.modify index edit)
    (onward : Onward edit) (threads : SameThreads server changed)
    (entries : changed.connMap.Sublist server.connMap)
    (within : ∀ other ∈ changed.pendingRemovals, other < server.conns.length)
    (others : ∀ other conn, other ≠ index → server.conns[other]? = some conn →
      ((conn.name, some other) ∈ changed.connMap ↔ (conn.name, some other) ∈ server.connMap) ∧
      changed.pendingRemovals.count other = server.pendingRemovals.count other)
    (self : ∀ conn, server.conns[index]? = some conn →
      Tracked changed.connMap changed.pendingRemovals index (edit conn)) :
    changed.Registry where
  alive := by
    rw [threads.place]
    exact registry.alive
  distinct := registry.distinct.sublist (entries.map Prod.fst)
  owned entry member := by
    obtain ⟨owner, conn, found, place, name⟩ := registry.owned entry (entries.subset member)
    by_cases same : owner = index
    · subst same
      refine ⟨owner, edit conn, found, ?_, (onward.name conn).trans name⟩
      rw [conns, List.getElem?_modify_eq, place]
      rfl
    · refine ⟨owner, conn, found, ?_, name⟩
      rw [conns, List.getElem?_modify_ne _ _ (Ne.symm same), place]
  within other member := by
    rw [conns, List.length_modify]
    exact within other member
  tracked other conn found := by
    rw [conns] at found
    by_cases same : other = index
    · subst same
      rw [List.getElem?_modify_eq] at found
      obtain ⟨before, place, rfl⟩ := Option.map_eq_some_iff.mp found
      exact self before place
    · rw [List.getElem?_modify_ne _ _ (Ne.symm same)] at found
      obtain ⟨entry, count⟩ := others other conn same found
      have tracked := registry.tracked other conn found
      exact ⟨by rw [count]; exact tracked.once, entry.trans tracked.listed, tracked.closed,
        tracked.queued⟩
  living other conn found idle := by
    rw [conns] at found
    rw [threads.ended]
    by_cases same : other = index
    · subst same
      rw [List.getElem?_modify_eq] at found
      obtain ⟨before, place, rfl⟩ := Option.map_eq_some_iff.mp found
      rw [onward.loop]
      exact registry.living other before place (Nat.le_zero.mp (idle ▸ onward.destroys before))
    · rw [List.getElem?_modify_ne _ _ (Ne.symm same)] at found
      exact registry.living other conn found idle
  joined joining := by
    rw [threads.place] at joining
    exact List.sublist_nil.mp (registry.joined joining ▸ entries)

theorem Registry.edit {server : TcpServer} (registry : server.Registry) {index : Nat}
    {edit : ServerConn → ServerConn} (onward : Onward edit)
    (self : ∀ conn, server.conns[index]? = some conn →
      Tracked server.connMap server.pendingRemovals index (edit conn)) :
    (server.editConn index edit).Registry :=
  registry.change rfl onward ⟨rfl, rfl, rfl⟩ (.refl _) registry.within
    (fun _ _ _ _ => ⟨Iff.rfl, rfl⟩) self

theorem editConn_getElem? {server : TcpServer} {index : Nat} {conn : ServerConn}
    (found : server.conns[index]? = some conn) (edit : ServerConn → ServerConn) :
    (server.editConn index edit).conns[index]? = some (edit conn) := by
  rw [editConn, List.getElem?_modify_eq, found]
  rfl

/-!
## Removals
-/

/-- What `remove_conn_in_loop` does to a connection that is in the map, once a removal of it
has left the queue or was never in it. -/
theorem Registry.remove {server changed : TcpServer} (registry : server.Registry) {index : Nat}
    {conn : ServerConn} (found : server.conns[index]? = some conn)
    (listed : (conn.name, some index) ∈ server.connMap) {edit : ServerConn → ServerConn}
    (conns : changed.conns = server.conns.modify index edit)
    (onward : Onward edit) (threads : SameThreads server changed)
    (erased : changed.connMap = server.connMap.erase conn.name)
    (pending : changed.pendingRemovals = server.pendingRemovals.erase index)
    (last : changed.pendingRemovals.count index = 0)
    (destroys : (edit conn).destroys = 1) (due : (edit conn).due = true)
    (state : (edit conn).state = .kDisconnected) : changed.Registry := by
  refine registry.change conns onward threads ?_ ?_ ?_ ?_
  · rw [erased]
    exact List.filter_sublist
  · intro other member
    rw [pending] at member
    exact registry.within other (List.mem_of_mem_erase member)
  · intro other otherConn different place
    constructor
    · rw [erased, ConnMap.mem_erase]
      refine ⟨And.left, fun member => ⟨member, fun same => different ?_⟩⟩
      have entry := ConnMap.entry_unique registry.distinct member listed same
      exact Option.some.inj (Prod.mk.inj entry).2
    · rw [pending, List.count_erase_of_ne different]
  · intro before place
    cases found.symm.trans place
    refine ⟨?_, ?_, ⟨fun _ => state, fun _ => due⟩, fun _ => by simp [destroys]⟩
    · rw [destroys, last, due]
      rfl
    · rw [erased, ConnMap.mem_erase, onward.name]
      simp [destroys]

theorem useLoop_of_living {server : TcpServer} {index : Nat} {conn : ServerConn}
    (found : server.conns[index]? = some conn) (living : server.ended conn.loop = false) :
    server.useLoop index = server := by
  simp only [useLoop, found, living, Bool.false_eq_true, if_false]

theorem useLoop_connMap (server : TcpServer) (index : Nat) :
    (server.useLoop index).connMap = server.connMap := by
  unfold useLoop
  split
  · rfl
  · split <;> rfl

theorem queueDestroyed_onward : Onward queueDestroyed where
  name _ := rfl
  loop _ := rfl
  destroys conn := Nat.le_succ conn.destroys

theorem close_onward : Onward close :=
  ⟨fun _ => rfl, fun _ => rfl, fun _ => Nat.le_refl _⟩

theorem removeConnInLoop_of_listed {server : TcpServer} {index : Nat} {conn : ServerConn}
    (found : server.conns[index]? = some conn)
    (listed : (conn.name, some index) ∈ server.connMap)
    (living : server.ended conn.loop = false) :
    server.removeConnInLoop index =
      ({ server with connMap := server.connMap.erase conn.name }).editConn index
        queueDestroyed := by
  have key : conn.name ∈ server.connMap.keys := List.mem_map_of_mem listed
  simp only [removeConnInLoop, found, key, if_true]
  let erased : TcpServer := { server with connMap := server.connMap.erase conn.name }
  have queued : (erased.editConn index queueDestroyed).conns[index]? =
      some (queueDestroyed conn) := editConn_getElem? found queueDestroyed
  exact useLoop_of_living queued living

theorem runRemoval_registry {server : TcpServer} (registry : server.Registry) :
    server.runRemoval.Registry := by
  unfold runRemoval
  cases queue : server.pendingRemovals with
  | nil => exact registry
  | cons index rest =>
      have inside : index < server.conns.length := registry.within index (by simp [queue])
      have found : server.conns[index]? = some server.conns[index] :=
        List.getElem?_eq_getElem inside
      have tracked := registry.tracked index _ found
      have once := tracked.once
      rw [queue, List.count_cons_self] at once
      -- a removal that waits is the one way out that is left to its connection
      have due : server.conns[index].due = true := by
        cases due : server.conns[index].due with
        | true => rfl
        | false => simp [due] at once
      rw [due] at once
      have idle : server.conns[index].destroys = 0 := by simp at once; omega
      have last : rest.count index = 0 := by simp at once; omega
      have listed := tracked.listed.mpr idle
      have living := registry.living index _ found idle
      let taken : TcpServer := { server with pendingRemovals := rest }
      have removed := @removeConnInLoop_of_listed taken index _ found listed living
      simp only [taken] at removed ⊢
      rw [removed]
      exact registry.remove found listed rfl queueDestroyed_onward ⟨rfl, rfl, rfl⟩ rfl
        (by simp [editConn, queue]) last (by simp [queueDestroyed, idle]) due
        (tracked.closed.mp due)

theorem handleClose_registry {server : TcpServer} (registry : server.Registry) {index : Nat}
    {conn : ServerConn} (found : server.conns[index]? = some conn) :
    (server.handleClose index conn).Registry := by
  unfold handleClose
  by_cases gone : conn.state = .kDisconnected
  · rw [if_pos gone]
    exact registry
  · rw [if_neg gone]
    have tracked := registry.tracked index conn found
    obtain ⟨idle, absent⟩ := tracked.quiet gone
    have listed := tracked.listed.mpr idle
    have living := registry.living index conn found idle
    cases conn.loop with
    | baseLoop =>
        have closed := editConn_getElem? found close
        simp only [removeConn]
        rw [removeConnInLoop_of_listed closed listed living]
        have edits := List.modify_modify_eq close queueDestroyed index server.conns
        have onward : Onward (queueDestroyed ∘ close) :=
          ⟨fun _ => rfl, fun _ => rfl, fun conn => Nat.le_succ conn.destroys⟩
        refine registry.remove found listed edits onward ⟨rfl, rfl, rfl⟩ rfl ?_ absent
          (by simp [queueDestroyed, close, idle]) rfl rfl
        exact (List.erase_of_not_mem (List.count_eq_zero.mp absent)).symm
    | worker cycle position =>
        refine registry.change rfl close_onward ⟨rfl, rfl, rfl⟩ (.refl _) ?_ ?_ ?_
        · intro other member
          obtain waits | self := List.mem_append.mp member
          · exact registry.within other waits
          · rw [List.mem_singleton.mp self]
            exact (List.getElem?_eq_some_iff.mp found).1
        · intro other otherConn different place
          exact ⟨Iff.rfl, by simp [removeConn, editConn, different.symm]⟩
        · intro before place
          cases found.symm.trans place
          refine ⟨?_, tracked.listed, by simp [close], tracked.queued⟩
          simp [removeConn, editConn, close, idle, absent]

/-!
## The steps
-/

theorem connEstablished_registry {server : TcpServer} (registry : server.Registry) {index : Nat}
    {conn : ServerConn} (found : server.conns[index]? = some conn) (registers : Bool) :
    (server.connEstablished index conn registers).Registry := by
  unfold connEstablished
  by_cases connecting : conn.state = .kConnecting
  · rw [if_neg (not_not.mpr connecting)]
    have connected : (server.editConn index ({ · with state := .kConnected })).Registry := by
      refine registry.edit ⟨fun _ => rfl, fun _ => rfl, fun _ => Nat.le_refl _⟩ ?_
      intro before place
      cases found.symm.trans place
      have tracked := registry.tracked index conn found
      have isOpen : conn.due = false := tracked.open_iff.mp (by simp [connecting])
      exact ⟨tracked.once, tracked.listed, by simp [isOpen], tracked.queued⟩
    cases registers with
    | true => exact connected
    | false => exact handleClose_registry connected (editConn_getElem? found _)
  · rw [if_pos connecting]
    exact registry

theorem connDestroyed_onward : Onward connDestroyed := by
  constructor
  case name =>
    intro conn
    unfold connDestroyed
    split <;> rfl
  case loop =>
    intro conn
    unfold connDestroyed
    split <;> rfl
  case destroys =>
    intro conn
    unfold connDestroyed
    split <;> exact Nat.le_refl _

theorem runTask_registry {server : TcpServer} (registry : server.Registry) {index : Nat}
    {conn : ServerConn} (found : server.conns[index]? = some conn) (registers : Bool) :
    (server.runTask index conn registers).Registry := by
  unfold runTask
  cases tasks : conn.tasks with
  | nil => exact registry
  | cons task rest =>
      have tracked := registry.tracked index conn found
      have taken : (server.editConn index ({ · with tasks := rest })).Registry := by
        refine registry.edit ⟨fun _ => rfl, fun _ => rfl, fun _ => Nat.le_refl _⟩ ?_
        intro before place
        cases found.symm.trans place
        refine ⟨tracked.once, tracked.listed, tracked.closed, fun waits => tracked.queued ?_⟩
        rw [tasks]
        exact List.mem_cons_of_mem task waits
      have found' := editConn_getElem? found ({ · with tasks := rest })
      cases task with
      | connEstablished => exact connEstablished_registry taken found' registers
      | connDestroyed =>
          -- a connection that is destroyed was closed before
          have destroys : conn.destroys ≠ 0 := tracked.queued (by simp [tasks])
          have due : conn.due = true := by
            have once := tracked.once
            cases due : conn.due with
            | true => rfl
            | false => simp [due, destroys] at once
          have state := tracked.closed.mp due
          refine taken.edit connDestroyed_onward ?_
          · intro before place
            cases found'.symm.trans place
            have same : connDestroyed { conn with tasks := rest } = { conn with tasks := rest } := by
              simp [connDestroyed, state]
            rw [same]
            exact taken.tracked index _ found'

theorem acceptConn_registry {server : TcpServer} (registry : server.Registry)
    (looping : server.place = .looping) (fresh : server.connName ∉ server.connMap.keys)
    {loop : LoopRef} (living : server.ended loop = false) (pool : LoopPool) :
    (server.acceptConn loop pool).Registry where
  alive := registry.alive
  distinct := by
    refine (ConnMap.keys_assign_perm fresh _).nodup_iff.mpr ?_
    exact List.nodup_cons.mpr ⟨fresh, registry.distinct⟩
  owned entry member := by
    obtain rfl | old := (ConnMap.mem_assign fresh).mp member
    · exact ⟨server.conns.length, _, rfl, List.getElem?_concat_length, rfl⟩
    · obtain ⟨index, conn, value, found, name⟩ := registry.owned entry old
      have inside := (List.getElem?_eq_some_iff.mp found).1
      exact ⟨index, conn, value, (List.getElem?_append_left inside).trans found, name⟩
  within index member := by
    have inside := registry.within index member
    simp only [acceptConn, List.length_append]
    omega
  tracked index conn found := by
    simp only [acceptConn] at found ⊢
    obtain ⟨inside, old⟩ | ⟨rfl, rfl⟩ := getElem?_concat_cases found
    · have tracked := registry.tracked index conn old
      refine ⟨tracked.once, ?_, tracked.closed, tracked.queued⟩
      have other : (conn.name, some index) ≠ (server.connName, some server.conns.length) := by
        intro same
        have := Option.some.inj (Prod.mk.inj same).2
        omega
      rw [ConnMap.mem_assign fresh, or_iff_right other]
      exact tracked.listed
    · have unseen : server.conns.length ∉ server.pendingRemovals := fun member =>
        absurd (registry.within _ member) (Nat.lt_irrefl _)
      refine ⟨by simp [List.count_eq_zero.mpr unseen], ?_, by simp, ?_⟩
      · simp [ConnMap.mem_assign fresh]
      · split <;> simp
  living index conn found idle := by
    obtain ⟨inside, old⟩ | ⟨rfl, rfl⟩ := getElem?_concat_cases found
    · exact registry.living index conn old idle
    · exact living
  joined joining := by
    cases looping.symm.trans joining

/-- A pool without threads, or one whose threads run, gives a loop that runs. -/
theorem getNextLoop_living {server : TcpServer} {pool : LoopPool}
    (runs : pool.loops = 0 ∨ server.started = true) :
    server.ended (server.getNextLoop pool).1 = false := by
  unfold getNextLoop
  split
  · rfl
  · rename_i threads
    simp [ended, runs.resolve_left threads]

theorem newConn_registry {server : TcpServer} (registry : server.Registry)
    (looping : server.place = .looping) (fresh : server.connName ∉ server.connMap.keys)
    (runs : ∀ pool ∈ server.eventLoopThreadpool, pool.loops = 0 ∨ server.started = true)
    (registers : Bool) : (server.newConn registers).Registry := by
  unfold newConn
  cases held : server.eventLoopThreadpool with
  | none => exact registry
  | some pool =>
      have living := getNextLoop_living (runs pool held)
      have accepted := acceptConn_registry registry looping fresh living (server.getNextLoop pool).2
      dsimp only
      split
      · rename_i found
        exact connEstablished_registry accepted found registers
      · have last : (server.acceptConn (server.getNextLoop pool).1
            (server.getNextLoop pool).2).conns[server.conns.length]? = some _ :=
          List.getElem?_concat_length
        rw [useLoop_of_living last living]
        exact accepted

/-- A connection that is not in the map has closed, so an empty map leaves nothing to mark. -/
theorem markOpen_of_empty {server : TcpServer} (registry : server.Registry)
    (empty : server.connMap = []) : server.conns.map markOpen = server.conns := by
  refine (List.map_congr_left fun conn member => ?_).trans (List.map_id server.conns)
  obtain ⟨index, found⟩ := List.mem_iff_getElem?.mp member
  have tracked := registry.tracked index conn found
  have gone : conn.state = .kDisconnected := by
    by_contra isOpen
    have listed := tracked.listed.mpr (tracked.quiet isOpen).1
    simp [empty] at listed
  simp [markOpen, gone]

theorem stop_registry {server : TcpServer} (registry : server.Registry)
    (empty : server.connMap = []) : server.stop.Registry := by
  unfold stop
  split
  · rw [markOpen_of_empty registry empty]
    have walked : server.connMap.foldl stopEntry server = server := by rw [empty]; rfl
    simp only [walked, registry.alive, if_false]
    exact ⟨nofun, registry.distinct, registry.owned, registry.within, registry.tracked,
      registry.living, fun _ => empty⟩
  · exact registry

theorem shutdown_registry {server : TcpServer} (registry : server.Registry) (index : Nat) :
    (server.shutdown index).Registry := by
  unfold shutdown
  cases found : server.conns[index]? with
  | none => exact registry
  | some conn =>
      dsimp only
      split
      · rename_i connected
        have tracked := registry.tracked index conn found
        have living := registry.living index conn found (tracked.quiet (by simp [connected])).1
        have edited := editConn_getElem? found ({ · with state := .kDisconnecting })
        rw [useLoop_of_living edited living]
        refine registry.edit ⟨fun _ => rfl, fun _ => rfl, fun _ => Nat.le_refl _⟩ ?_
        intro before place
        cases found.symm.trans place
        have isOpen : conn.due = false := tracked.open_iff.mp (by simp [connected])
        exact ⟨tracked.once, tracked.listed, by simp [isOpen], tracked.queued⟩
      · exact registry

/-- The threads that `stop` joins have no connection in the map. -/
theorem joinThreads_registry {server : TcpServer} (registry : server.Registry)
    (joining : server.place = .joining) : server.joinThreads.Registry := by
  refine ⟨nofun, registry.distinct, registry.owned, registry.within, registry.tracked, ?_, nofun⟩
  intro index conn found idle
  have listed := (registry.tracked index conn found).listed.mpr idle
  rw [registry.joined joining] at listed
  cases listed

/-- New threads are given to a server whose earlier ones have ended. -/
theorem start_registry {server : TcpServer} (registry : server.Registry)
    (looping : server.place = .looping) (count : Int) : (server.start count).Registry := by
  unfold start
  split
  · exact registry
  · rename_i stopped
    refine ⟨registry.alive, registry.distinct, registry.owned, registry.within, registry.tracked,
      ?_, fun joining => ?_⟩
    · intro index conn found idle
      have living := registry.living index conn found idle
      cases place : conn.loop with
      | baseLoop => rfl
      | worker cycle position => simp [place, ended, stopped] at living
    · cases looping.symm.trans joining

theorem inConnLoop_registry {server : TcpServer} (registry : server.Registry) {index : Nat}
    {action : ServerConn → TcpServer}
    (kept : ∀ conn, server.conns[index]? = some conn → (action conn).Registry) :
    (server.inConnLoop index action).Registry := by
  unfold inConnLoop
  split
  · exact registry
  · rename_i conn found
    split
    · exact kept conn found
    · exact registry

theorem step_registry (server : TcpServer) (action : ServerStep) (registry : server.Registry)
    (fresh : server.FreshName action) (orderly : server.Orderly action) :
    (server.step action).Registry := by
  obtain ⟨empties, runs⟩ := orderly
  cases action with
  | start count =>
      simp only [step]
      split
      · rename_i looping
        exact start_registry registry looping count
      · exact registry
  | stop =>
      simp only [step]
      split
      · rename_i looping
        by_cases started : server.started = true
        · exact stop_registry registry (empties looping started)
        · rw [stop, if_neg started]
          exact registry
      · exact registry
  | joinThreads =>
      simp only [step]
      split
      · rename_i joining
        exact joinThreads_registry registry joining
      · exact registry
  | newConn registers =>
      simp only [step]
      split
      · rename_i looping
        exact newConn_registry registry looping fresh (runs looping) registers
      · exact registry
  | runRemoval =>
      simp only [step]
      split
      · exact runRemoval_registry registry
      · exact registry
  | runTask index registers =>
      exact inConnLoop_registry registry fun conn found =>
        runTask_registry registry found registers
  | shutdown index =>
      simp only [step]
      split
      · exact registry
      · exact shutdown_registry registry index
  | handleClose index =>
      refine inConnLoop_registry registry fun conn found => ?_
      split
      · exact registry
      · exact handleClose_registry registry found

/-!
## A `stop` that finds a connection
-/

theorem reset_null {map : ConnMap} (null : ∃ entry ∈ map, entry.2 = none) (key : List UInt8) :
    ∃ entry ∈ map.reset key, entry.2 = none := by
  obtain ⟨entry, member, empty⟩ := null
  refine ⟨_, List.mem_map_of_mem member, ?_⟩
  split
  · rfl
  · exact empty

/-- The walk of `stop` fills no pointer again. -/
theorem stopEntry_null {server : TcpServer} (null : ∃ entry ∈ server.connMap, entry.2 = none)
    (entry : List UInt8 × Option Nat) :
    ∃ entry' ∈ (server.stopEntry entry).connMap, entry'.2 = none := by
  unfold stopEntry
  split
  · exact null
  · split
    · exact null
    · rw [useLoop_connMap]
      exact reset_null null entry.1

theorem walk_null {server : TcpServer} (null : ∃ entry ∈ server.connMap, entry.2 = none)
    (entries : ConnMap) : ∃ entry ∈ (entries.foldl stopEntry server).connMap, entry.2 = none := by
  induction entries generalizing server with
  | nil => exact null
  | cons entry rest ih => exact ih (stopEntry_null null entry)

theorem stopEntry_first_null {server : TcpServer} {entry : List UInt8 × Option Nat}
    (member : entry ∈ server.connMap) (alive : server.place ≠ .crashed) :
    ∃ entry' ∈ (server.stopEntry entry).connMap, entry'.2 = none := by
  unfold stopEntry
  rw [if_neg alive]
  cases value : entry.2 with
  | none => exact ⟨entry, member, value⟩
  | some index =>
      dsimp only
      rw [useLoop_connMap]
      exact ⟨_, List.mem_map_of_mem member, by simp⟩

theorem stop_null {server : TcpServer} (alive : server.place ≠ .crashed)
    (started : server.started = true) (filled : server.connMap ≠ []) :
    ∃ entry ∈ server.stop.connMap, entry.2 = none := by
  unfold stop
  rw [if_pos started]
  obtain ⟨entry, rest, map⟩ := List.exists_cons_of_ne_nil filled
  let marked : TcpServer := { server with conns := server.conns.map markOpen }
  have first : ∃ entry' ∈ (marked.stopEntry entry).connMap, entry'.2 = none := by
    refine stopEntry_first_null ?_ alive
    simp [marked, map]
  have walked := walk_null first rest
  have unfolded : marked.connMap.foldl stopEntry marked =
      rest.foldl stopEntry (marked.stopEntry entry) := by simp [marked, map]
  rw [← unfolded] at walked
  simp only [marked] at walked
  dsimp only
  split
  · exact walked
  · exact walked

/-- A pool whose threads have ended gives a loop that has ended. -/
theorem newConn_crashes {server : TcpServer} {pool : LoopPool}
    (held : server.eventLoopThreadpool = some pool) (threads : pool.loops ≠ 0)
    (stopped : server.started = false) (registers : Bool) :
    (server.newConn registers).place = .crashed := by
  have dead : server.ended (.worker server.cycle pool.next) = true := by simp [ended, stopped]
  simp only [newConn, held, getNextLoop, if_neg threads, useLoop, acceptConn,
    List.getElem?_concat_length]
  exact congrArg TcpServer.place (if_pos dead)

theorem orderly_of_exact (server : TcpServer) (action : ServerStep)
    (registry : server.Registry) (exact : (server.step action).RegistryExact) :
    server.Orderly action := by
  cases action with
  | stop =>
      refine ⟨fun looping started => ?_, trivial⟩
      by_contra filled
      obtain ⟨entry, member, null⟩ := stop_null registry.alive started filled
      refine exact.held entry ?_ null
      simpa only [step, looping, if_true] using member
  | newConn registers =>
      refine ⟨trivial, fun looping pool held => ?_⟩
      by_contra none
      obtain ⟨threads, stopped⟩ := not_or.mp none
      refine exact.alive ?_
      simp only [step, looping, if_true]
      exact newConn_crashes held threads (Bool.not_eq_true _ ▸ stopped) registers
  | _ => exact ⟨trivial, trivial⟩

/-!
## Runs
-/

/-- Over runs that give no two connections of the map one name, the registry is exact at every
point exactly when every `stop` finds the map empty and no connection is given a loop that has
ended. -/
theorem exact_iff_of_fresh {hostPort name : List UInt8} {actions : List ServerStep}
    (fresh : Guarded step FreshName (new hostPort name) actions) :
    (∀ first, first <+: actions → (run step (new hostPort name) first).RegistryExact) ↔
      Guarded step Orderly (new hostPort name) actions := by
  have gives : ∀ server : TcpServer, server.Registry → server.RegistryExact :=
    fun _ registry => registry.exact
  refine forall_prefix_iff_guarded_of gives ?_ ?_ (new_registry hostPort name) fresh
  · intro server action registry freshNow orderly
    exact step_registry server action registry freshNow orderly
  · intro server action registry _ exact
    exact orderly_of_exact server action registry exact

end TcpServer

end Talko.Network
