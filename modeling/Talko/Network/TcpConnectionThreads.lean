import Talko.Network.TcpConnection

/-!
# A connection that several threads use

`TcpConnection::send` and `TcpConnection::shutdown` as the loop thread and other threads
call them. A call from another thread is a test of `state_` and later effects, between
which anything else can happen; what it queues is executed by the loop thread. A call on
the loop thread is one step: a change of `state_` by another thread in its course has the
effect it would have had before it.
-/

set_option autoImplicit false

namespace Talko.Network

/-- A connection with the calls of other threads that are under way. `seen` keeps the
messages of all `send` calls that found the state `kConnected`. -/
structure SharedConnection (Id : Type) where
  conn : TcpConnection Id
  sends : List (List UInt8)
  shutdowns : Nat
  shutdownsSet : Nat
  seen : List (List UInt8)

/-- A step of the loop thread or of another one. A `send` of another thread tests the state
(`testSend`) and later puts its functor into the loop (`queueSend`); a `shutdown` of another
thread tests the state, sets it and queues its functor in three steps. -/
inductive ThreadStep where
  | testSend (message : List UInt8)
  | queueSend (position : Nat)
  | testShutdown
  | setShutdown
  | queueShutdown
  | loopSend (message : List UInt8) (answer : SocksWrite)
  | loopShutdown
  | executeNext (answer : SocksWrite)
  | handleWrite (answer : SocksWrite)

namespace SharedConnection

variable {Id : Type} [DecidableEq Id]

def start (conn : TcpConnection Id) : SharedConnection Id where
  conn := conn
  sends := []
  shutdowns := 0
  shutdownsSet := 0
  seen := []

/-- The system after the step, under the behaviour `epoll_ctl` shows in it. -/
def step (s : SharedConnection Id) (action : EpollCtl Id × ThreadStep) : SharedConnection Id :=
  match action with
  | (_, .testSend message) =>
      if s.conn.state = .kConnected then
        { s with sends := s.sends ++ [message], seen := s.seen ++ [message] }
      else s
  | (_, .queueSend position) =>
      match s.sends[position]? with
      | some message =>
          { s with
            conn := s.conn.queueInLoop (.sendInLoop message)
            sends := s.sends.eraseIdx position }
      | none => s
  | (_, .testShutdown) =>
      if s.conn.state = .kConnected then { s with shutdowns := s.shutdowns + 1 } else s
  | (_, .setShutdown) =>
      if 0 < s.shutdowns then
        { s with
          conn := s.conn.setState .kDisconnecting
          shutdowns := s.shutdowns - 1
          shutdownsSet := s.shutdownsSet + 1 }
      else s
  | (_, .queueShutdown) =>
      if 0 < s.shutdownsSet then
        { s with
          conn := s.conn.queueInLoop .shutdownInLoop
          shutdownsSet := s.shutdownsSet - 1 }
      else s
  | (ctl, .loopSend message answer) =>
      { s with
        conn := s.conn.send ctl true message answer
        seen := if s.conn.state = .kConnected then s.seen ++ [message] else s.seen }
  | (ctl, .loopShutdown) => { s with conn := s.conn.shutdown ctl true }
  | (ctl, .executeNext answer) => { s with conn := s.conn.executeNext ctl answer }
  | (ctl, .handleWrite answer) => { s with conn := s.conn.handleWrite ctl answer }

end SharedConnection

end Talko.Network
