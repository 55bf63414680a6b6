import Talko.Library.Decimal
import Talko.Library.Run
import Talko.Network.TcpConnection

/-!
# The server and its connections

`TcpServer` with `conn_map_`, the thread pool its connections get their loops from, and what
waits in the loops: `remove_conn_in_loop` in the loop of the server, `conn_established` and
`conn_destroyed` in the loop of each connection. The main thread runs `start`, `stop` and
`new_conn`; the loops of the connections run beside it.
-/

set_option autoImplicit false

namespace Talko.Network

open Talko.Library

/-- `loops_` and `next_` of the `EventLoopThreadPool`. -/
structure LoopPool where
  loops : Nat
  next : Nat
  deriving DecidableEq, Repr

/-- The loop of the server, or a loop of the threads of one `start`. -/
inductive LoopRef where
  | baseLoop
  | worker (cycle index : Nat)
  deriving DecidableEq, Repr

/-- The functors that the server gives the loop of a connection. -/
inductive ConnTask where
  | connEstablished
  | connDestroyed
  deriving DecidableEq, Repr

/-- A connection that was accepted. `destroys` counts how often `conn_destroyed` was scheduled
for it; `due` tells that it has closed or was open at a `stop`. -/
structure ServerConn where
  name : List UInt8
  loop : LoopRef
  state : StateE
  tasks : List ConnTask
  destroys : Nat
  due : Bool
  deriving DecidableEq, Repr

/-- Where the main thread stands: in its loop, in `stop` behind the walk of `conn_map_`, or
behind the use of an empty pointer or of a loop whose thread has ended. -/
inductive MainPlace where
  | looping
  | joining
  | crashed
  deriving DecidableEq, Repr

/-- A connection is named by its place among those accepted; an empty pointer is `none`. -/
abbrev ConnMap : Type := List (List UInt8 × Option Nat)

/-- `started` and `cycle` follow `start`; `pendingRemovals` are the calls of
`remove_conn_in_loop` that wait in the loop of the server. -/
structure TcpServer where
  hostPort : List UInt8
  name : List UInt8
  started : Bool
  cycle : Nat
  eventLoopThreadpool : Option LoopPool
  nextConnId : Int32
  connMap : ConnMap
  conns : List ServerConn
  pendingRemovals : List Nat
  place : MainPlace
  deriving DecidableEq, Repr

/-!
## The map
-/

/-- The order of `std::string`. -/
def bytesBelow : List UInt8 → List UInt8 → Bool
  | _, [] => false
  | [], _ :: _ => true
  | left :: leftRest, right :: rightRest =>
      left < right || (left == right && bytesBelow leftRest rightRest)

namespace ConnMap

/-- `conn_map_[key] = conn`. -/
def assign (key : List UInt8) (conn : Nat) : ConnMap → ConnMap
  | [] => [(key, some conn)]
  | entry :: rest =>
      if entry.1 = key then (key, some conn) :: rest
      else if bytesBelow key entry.1 then (key, some conn) :: entry :: rest
      else entry :: assign key conn rest

def keys (map : ConnMap) : List (List UInt8) :=
  map.map Prod.fst

/-- `conn_map_.erase(key)`. -/
def erase (key : List UInt8) (map : ConnMap) : ConnMap :=
  map.filter (·.1 ≠ key)

/-- `it->second.reset()`. -/
def reset (key : List UInt8) (map : ConnMap) : ConnMap :=
  map.map fun entry => if entry.1 = key then (entry.1, none) else entry

end ConnMap

namespace TcpServer

def new (hostPort name : List UInt8) : TcpServer where
  hostPort := hostPort
  name := name
  started := false
  cycle := 0
  eventLoopThreadpool := none
  nextConnId := 1
  connMap := []
  conns := []
  pendingRemovals := []
  place := .looping

def editConn (server : TcpServer) (index : Nat) (edit : ServerConn → ServerConn) : TcpServer :=
  { server with conns := server.conns.modify index edit }

/-- `stop` has joined the thread of a loop. The loop was a local variable there, and `loops_`
still points to it. -/
def ended (server : TcpServer) : LoopRef → Bool
  | .baseLoop => false
  | .worker cycle _ => !(server.started ∧ cycle = server.cycle)

/-- The thread of a loop runs: the main thread outside `stop`, the others from `start` until
`stop` has joined them. -/
def runs (server : TcpServer) : LoopRef → Bool
  | .baseLoop => server.place = .looping
  | .worker cycle index => server.place ≠ .crashed ∧ !server.ended (.worker cycle index)

/-- `run_in_loop` or `queue_in_loop` on the loop of a connection. -/
def useLoop (server : TcpServer) (index : Nat) : TcpServer :=
  match server.conns[index]? with
  | none => server
  | some conn => if server.ended conn.loop then { server with place := .crashed } else server

/-!
## Closing a connection
-/

/-- The functor `conn_destroyed` in the loop of a connection, as far as the server sees it. -/
def connDestroyed (conn : ServerConn) : ServerConn :=
  if conn.state = .kConnected then { conn with state := .kDisconnected } else conn

def queueDestroyed (conn : ServerConn) : ServerConn :=
  { conn with tasks := conn.tasks ++ [.connDestroyed], destroys := conn.destroys + 1 }

/-- `run_in_loop` from the main thread, which is the thread of the base loop. -/
def runDestroyed (conn : ServerConn) : ServerConn :=
  match conn.loop with
  | .baseLoop => { connDestroyed conn with destroys := conn.destroys + 1 }
  | .worker _ _ => queueDestroyed conn

def removeConnInLoop (server : TcpServer) (index : Nat) : TcpServer :=
  match server.conns[index]? with
  | none => server
  | some conn =>
      if conn.name ∈ server.connMap.keys then
        let erased := { server with connMap := server.connMap.erase conn.name }
        (erased.editConn index queueDestroyed).useLoop index
      else server

/-- The `close_callback_` of a connection, called in the thread of its loop. -/
def removeConn (server : TcpServer) (index : Nat) (loop : LoopRef) : TcpServer :=
  match loop with
  | .baseLoop => server.removeConnInLoop index
  | .worker _ _ => { server with pendingRemovals := server.pendingRemovals ++ [index] }

def close (conn : ServerConn) : ServerConn :=
  { conn with state := .kDisconnected, due := true }

/-- `_handle_close` of a connection. -/
def handleClose (server : TcpServer) (index : Nat) (conn : ServerConn) : TcpServer :=
  if conn.state = .kDisconnected then server
  else (server.editConn index close).removeConn index conn.loop

/-- `conn_established`; `registers` is the answer of `enable_reading`. -/
def connEstablished (server : TcpServer) (index : Nat) (conn : ServerConn) (registers : Bool) :
    TcpServer :=
  if conn.state ≠ .kConnecting then server
  else
    let connected := server.editConn index ({ · with state := .kConnected })
    if registers then connected
    else connected.handleClose index { conn with state := .kConnected }

/-!
## The members of the server
-/

def start (server : TcpServer) (workerThreadCount : Int) : TcpServer :=
  if server.started then server
  else
    { server with
      started := true
      cycle := server.cycle + 1
      eventLoopThreadpool := some ⟨workerThreadCount.toNat, 0⟩ }

/-- One turn of the loop in `stop`. -/
def stopEntry (server : TcpServer) (entry : List UInt8 × Option Nat) : TcpServer :=
  if server.place = .crashed then server
  else
    match entry.2 with
    | none => { server with place := .crashed }
    | some index =>
        let reset := { server with connMap := server.connMap.reset entry.1 }
        (reset.editConn index runDestroyed).useLoop index

def markOpen (conn : ServerConn) : ServerConn :=
  if conn.state = .kDisconnected then conn else { conn with due := true }

/-- `stop` up to the call of `event_loop_threadpool_->stop()`. -/
def stop (server : TcpServer) : TcpServer :=
  if server.started then
    let marked := { server with conns := server.conns.map markOpen }
    let walked := marked.connMap.foldl stopEntry marked
    if walked.place = .crashed then walked else { walked with place := .joining }
  else server

/-- The rest of `stop`, when the threads have ended. -/
def joinThreads (server : TcpServer) : TcpServer :=
  { server with place := .looping, started := false }

def getNextLoop (server : TcpServer) (pool : LoopPool) : LoopRef × LoopPool :=
  if pool.loops = 0 then (.baseLoop, pool)
  else
    let next := pool.next + 1
    (.worker server.cycle pool.next, { pool with next := if next ≥ pool.loops then 0 else next })

/-- `name_ + buf`; `snprintf` fills 31 places of `buf`. -/
def connName (server : TcpServer) : List UInt8 :=
  server.name ++
    (asciiText ":" ++ server.hostPort ++ asciiText "#" ++
      signedText server.nextConnId.toInt).take 31

def acceptConn (server : TcpServer) (loop : LoopRef) (pool : LoopPool) : TcpServer :=
  let conn : ServerConn :=
    { name := server.connName
      loop := loop
      state := .kConnecting
      tasks := if loop = .baseLoop then [] else [.connEstablished]
      destroys := 0
      due := false }
  { server with
    eventLoopThreadpool := some pool
    nextConnId := server.nextConnId + 1
    connMap := server.connMap.assign server.connName server.conns.length
    conns := server.conns ++ [conn] }

/-- `registers` answers an `enable_reading` that the base loop makes at once. Without a thread
pool the acceptor does not listen yet; behind `stop` it listens still, and the pool gives the
connection a loop that has ended. -/
def newConn (server : TcpServer) (registers : Bool) : TcpServer :=
  match server.eventLoopThreadpool with
  | none => server
  | some pool =>
      let (loop, pool') := server.getNextLoop pool
      let accepted := server.acceptConn loop pool'
      match loop, accepted.conns[server.conns.length]? with
      | .baseLoop, some conn => accepted.connEstablished server.conns.length conn registers
      | _, _ => accepted.useLoop server.conns.length

/-!
## Steps
-/

/-- The loop of a connection runs the functor that the server gave it first. -/
def runTask (server : TcpServer) (index : Nat) (conn : ServerConn) (registers : Bool) :
    TcpServer :=
  match conn.tasks with
  | [] => server
  | task :: rest =>
      let taken := server.editConn index ({ · with tasks := rest })
      match task with
      | .connEstablished => taken.connEstablished index { conn with tasks := rest } registers
      | .connDestroyed => taken.editConn index connDestroyed

/-- The main loop runs the removal that waits longest. -/
def runRemoval (server : TcpServer) : TcpServer :=
  match server.pendingRemovals with
  | [] => server
  | index :: rest => ({ server with pendingRemovals := rest }).removeConnInLoop index

end TcpServer

/-- A step of the main thread or of the loop of a connection. -/
inductive ServerStep where
  | start (workerThreadCount : Int)
  | stop
  | joinThreads
  | newConn (registers : Bool)
  | runRemoval
  | runTask (index : Nat) (registers : Bool)
  | shutdown (index : Nat)
  | handleClose (index : Nat)
  deriving DecidableEq, Repr

namespace TcpServer

/-- A step in the thread of a connection's loop. -/
def inConnLoop (server : TcpServer) (index : Nat) (action : ServerConn → TcpServer) : TcpServer :=
  match server.conns[index]? with
  | none => server
  | some conn => if server.runs conn.loop then action conn else server

/-- `shutdown` of a connection, in any thread. -/
def shutdown (server : TcpServer) (index : Nat) : TcpServer :=
  match server.conns[index]? with
  | none => server
  | some conn =>
      if conn.state = .kConnected then
        (server.editConn index ({ · with state := .kDisconnecting })).useLoop index
      else server

/-- No event reaches a connection before `conn_established`. -/
def step (server : TcpServer) : ServerStep → TcpServer
  | .start count => if server.place = .looping then server.start count else server
  | .stop => if server.place = .looping then server.stop else server
  | .joinThreads => if server.place = .joining then server.joinThreads else server
  | .newConn registers => if server.place = .looping then server.newConn registers else server
  | .runRemoval => if server.place = .looping then server.runRemoval else server
  | .runTask index registers => server.inConnLoop index (server.runTask index · registers)
  | .shutdown index => if server.place = .crashed then server else server.shutdown index
  | .handleClose index =>
      server.inConnLoop index fun conn =>
        if conn.state = .kConnecting then server else server.handleClose index conn

end TcpServer

end Talko.Network
