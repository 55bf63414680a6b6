import Talko.Network.TcpConnectionStream

/-!
# The rest of an iteration

What the loop does for a connection between its read callback and the next poll: the rest of
`handle_event` and `do_other_tasks`.
-/

set_option autoImplicit false

namespace Talko.Network

/-- The events that `epoll_wait` reports of those that are ready. -/
def reportedEvents (interest ready : EventMask) : EventMask :=
  ready &&& (interest ||| POLLERR ||| POLLHUP)

theorem reportedEvents_pollout {interest : EventMask} (idle : interest &&& POLLOUT = 0)
    (ready : EventMask) : reportedEvents interest ready &&& POLLOUT = 0 := by
  have quiet : (interest ||| POLLERR ||| POLLHUP) &&& POLLOUT = 0 := by
    rw [BitVec.and_or_distrib_right, BitVec.and_or_distrib_right, idle]
    decide
  unfold reportedEvents
  rw [BitVec.and_assoc, quiet]
  exact BitVec.and_zero

namespace TcpConnection

variable {Id : Type}

/-- The connection has been closed and nothing has been written since. -/
structure ClosesQuietly (conn after : TcpConnection Id) : Prop where
  state : after.state = .kDisconnected
  interest : after.poller.isEventNone after.channel = true
  accepted : after.accepted = conn.accepted

theorem ClosesQuietly.of_record {conn after : TcpConnection Id} {effect : Effect}
    (closes : (conn.record effect).ClosesQuietly after) (quiet : effect.accepted = []) :
    conn.ClosesQuietly after := by
  refine ⟨closes.state, closes.interest, ?_⟩
  rw [closes.accepted, record_accepted, quiet, List.append_nil]

variable [DecidableEq Id]

/-- The loop of `do_other_tasks`; each functor has the answers that its calls get. -/
def executeAll (conn : TcpConnection Id) :
    List Functor → (Nat → EpollCtl Id × SocksWrite) → TcpConnection Id
  | [], _ => conn
  | functor :: rest, answer =>
      (conn.execute (answer 0).1 (answer 0).2 functor).executeAll rest fun turn => answer (turn + 1)

def doOtherTasks (conn : TcpConnection Id) (answer : Nat → EpollCtl Id × SocksWrite) :
    TcpConnection Id :=
  ({ conn with pendingFunctors := [] }).executeAll conn.pendingFunctors answer

/-- What the loop does for the connection behind the read callback: the rest of
`handle_event`, on the events that were reported for the interest of the connection as it
was polled, and `do_other_tasks`. -/
def endIteration (polled conn : TcpConnection Id) (ready : EventMask)
    (write : EpollCtl Id × SocksWrite) (answer : Nat → EpollCtl Id × SocksWrite) :
    TcpConnection Id :=
  let revents := reportedEvents (polled.poller.events polled.channel) ready
  let written :=
    if revents &&& POLLOUT ≠ 0 then conn.handleWrite write.1 write.2 else conn
  written.doOtherTasks answer

theorem endIteration_of_idle {polled : TcpConnection Id} (idle : polled.isWriting = false)
    (conn : TcpConnection Id) (ready : EventMask) (write : EpollCtl Id × SocksWrite)
    (answer : Nat → EpollCtl Id × SocksWrite) :
    polled.endIteration conn ready write answer = conn.doOtherTasks answer := by
  have off : polled.poller.events polled.channel &&& POLLOUT = 0 := by
    simpa [isWriting, EpollPoller.isWriting, Channel.writeEvent] using idle
  unfold endIteration
  dsimp only
  rw [if_neg (not_not.mpr (reportedEvents_pollout off ready))]

theorem handleClose_closesQuietly {conn : TcpConnection Id} (up : conn.state ≠ .kDisconnected)
    (ctl : EpollCtl Id) : conn.ClosesQuietly (conn.handleClose ctl) := by
  unfold handleClose
  rw [if_neg up]
  have events : ((conn.setState .kDisconnected).disableAll ctl).poller.events conn.channel = 0 := by
    change ((conn.poller.disableAll ctl conn.channel).1).events conn.channel = 0
    unfold EpollPoller.disableAll
    rw [EpollPoller.setInterest_events, Function.update_self]
    rfl
  refine ⟨rfl, ?_, ?_⟩
  · change ((conn.setState .kDisconnected).disableAll ctl).poller.isEventNone conn.channel = true
    unfold EpollPoller.isEventNone
    rw [events]
    rfl
  · rw [record_accepted, record_accepted]
    exact (List.append_nil _).trans (List.append_nil _)

/-- Behind callbacks of the user, `_force_close_in_loop` closes. -/
theorem executeAll_closesQuietly {conn : TcpConnection Id} {callbacks : List Functor}
    (calls : ∀ functor ∈ callbacks, functor.isCallback = true)
    (closing : conn.state = .kDisconnecting) (answer : Nat → EpollCtl Id × SocksWrite) :
    conn.ClosesQuietly (conn.executeAll (callbacks ++ [.forceCloseInLoop]) answer) := by
  induction callbacks generalizing conn answer with
  | nil =>
      change conn.ClosesQuietly (conn.forceCloseInLoop (answer 0).1)
      unfold forceCloseInLoop
      rw [if_pos (.inr closing)]
      exact handleClose_closesQuietly (by rw [closing]; decide) (answer 0).1
  | cons functor callbacks ih =>
      obtain ⟨first, others⟩ := List.forall_mem_cons.mp calls
      cases functor with
      | writeCompleteCallback =>
          have still : (conn.record .writeCompleteCallback).state = .kDisconnecting := closing
          exact (ih others still fun turn => answer (turn + 1)).of_record rfl
      | highWaterMarkCallback size =>
          have still : (conn.record (.highWaterMarkCallback size)).state = .kDisconnecting :=
            closing
          exact (ih others still fun turn => answer (turn + 1)).of_record rfl
      | _ => cases first

end TcpConnection

end Talko.Network
