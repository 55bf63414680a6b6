import Talko.Network.TcpConnectionStream

/-!
# Errors that pass

`EWOULDBLOCK` and `EINTR` say that a socket has nothing to give or to take at the moment.
`_send_in_loop` puts the data into the output buffer then; `_handle_write` and `_handle_read`
take every failed call for the end of the connection.
-/

set_option autoImplicit false

namespace Talko.Network

open Talko.Library

/-- The errors that say nothing about the connection. -/
def Errno.Transient : Errno → Prop
  | .EWOULDBLOCK | .EINTR => True
  | .EPIPE | .ECONNRESET | .other _ => False

/-- The members that call the socket. -/
inductive SocketCall where
  | sendInLoop (data : List UInt8)
  | handleWrite
  | handleRead
  deriving DecidableEq, Repr

/-- The data that a call accepts from the user. -/
def SocketCall.data : SocketCall → List UInt8
  | .sendInLoop data => data
  | .handleWrite | .handleRead => []

namespace TcpConnection

variable {Id : Type}

/-- What a call may do whose read or write failed: the state stays, no connection callback is
called, and the buffer holds what it held and what the call accepted. -/
structure Harmless (conn after : TcpConnection Id) (data : List UInt8) : Prop where
  state : after.state = conn.state
  silent : ∀ connected, after.trace.count (.connCallback connected) =
    conn.trace.count (.connCallback connected)
  kept : after.outputBuffer.readable = conn.outputBuffer.readable ++ data
  stream : after.faulted = false → after.accepted ++ after.outputBuffer.readable = after.sent

/-- A call that either makes no use of the socket or takes the error for what it is. -/
def Forgives (conn : TcpConnection Id) : SocketCall → Prop
  | .sendInLoop _ => True
  | .handleWrite => conn.isWriting = false
  | .handleRead => False

section

variable [DecidableEq Id]

/-- The call, with the socket answering `errno`. -/
def failing (ctl : EpollCtl Id) (conn : TcpConnection Id) (errno : Errno) :
    SocketCall → TcpConnection Id
  | .sendInLoop data => conn.sendInLoop ctl data (.failed errno)
  | .handleWrite => conn.handleWrite ctl (.failed errno)
  | .handleRead => conn.handleRead ctl (.failed errno)

/-- Data whose direct write fails with such an error is left over as a whole. -/
theorem socksWrite_transient {errno : Errno} (transient : errno.Transient) (data : List UInt8) :
    ∃ errno', socksWrite data (.failed errno) = .failed errno' ∧
      (socksWrite data (.failed errno)).left data = data := by
  unfold socksWrite
  dsimp only
  split
  · exact ⟨EINVAL, rfl, rfl⟩
  · cases errno with
    | EWOULDBLOCK => exact ⟨.EWOULDBLOCK, rfl, rfl⟩
    | EINTR => exact ⟨.EINTR, rfl, rfl⟩
    | EPIPE => exact transient.elim
    | ECONNRESET => exact transient.elim
    | other code => exact transient.elim

theorem sendInLoop_harmless {conn : TcpConnection Id} (sound : conn.StreamSound)
    (live : conn.state ≠ .kDisconnected) {errno : Errno} (transient : errno.Transient)
    (ctl : EpollCtl Id) (data : List UInt8) :
    conn.Harmless (conn.sendInLoop ctl data (.failed errno)) data := by
  have after := sendInLoop_streamSound sound ctl data (.failed errno)
  have stream : (conn.sendInLoop ctl data (.failed errno)).state = conn.state →
      (conn.sendInLoop ctl data (.failed errno)).faulted = false →
      (conn.sendInLoop ctl data (.failed errno)).accepted ++
        (conn.sendInLoop ctl data (.failed errno)).outputBuffer.readable =
          (conn.sendInLoop ctl data (.failed errno)).sent := by
    intro state clean
    exact after.stream (state ▸ live) clean
  obtain ⟨down, -⟩ | ⟨-, -, -, buffers⟩ | ⟨-, -, buffers⟩ :=
    sendInLoop_cases ctl conn data (.failed errno)
  · exact absurd down live
  · obtain ⟨errno', wrote, left⟩ := socksWrite_transient transient data
    rw [left, wrote] at buffers
    refine ⟨buffers.state, fun connected => ?_, buffers.readable, stream buffers.state⟩
    rw [buffers.trace]
    simp [record]
  · refine ⟨buffers.state, fun connected => ?_, buffers.readable, stream buffers.state⟩
    rw [buffers.trace]
    simp [record]

theorem handleRead_failed_state (ctl : EpollCtl Id) (conn : TcpConnection Id) (errno : Errno) :
    (conn.handleRead ctl (.failed errno)).state = .kDisconnected := by
  simp [handleRead, ByteBuffer.bbReadFd, SocksRead.n, handleError]

/-- In every open connection that steps lead to, a transient error is harmless exactly in
`_send_in_loop` and in a `_handle_write` that does not call the socket. -/
theorem transient_error_harmless_iff (poller : EpollPoller Id) (channel : Id) (sockfd : Int)
    (writeComplete highWater : Bool) (highWaterMark : Nat)
    (steps : List (EpollCtl Id × ConnStep)) (conn : TcpConnection Id)
    (reached : conn =
      run step (new poller channel sockfd writeComplete highWater highWaterMark) steps)
    (live : conn.state ≠ .kDisconnected) {errno : Errno} (transient : errno.Transient)
    (ctl : EpollCtl Id) (call : SocketCall) :
    conn.Harmless (conn.failing ctl errno call) call.data ↔ conn.Forgives call := by
  have sound : conn.StreamSound := by
    rw [reached]
    exact run_streamSound poller channel sockfd writeComplete highWater highWaterMark steps
  cases call with
  | sendInLoop data => exact iff_of_true (sendInLoop_harmless sound live transient ctl data) trivial
  | handleRead =>
      refine iff_of_false (fun harmless => live ?_) id
      exact harmless.state.symm.trans (handleRead_failed_state ctl conn errno)
  | handleWrite =>
      obtain ⟨idle, same⟩ | ⟨on, -, down⟩ | ⟨bytes, on, wrote, -⟩ :=
        handleWrite_cases ctl conn (.failed errno)
      · refine iff_of_true ?_ idle
        rw [failing, same]
        exact ⟨rfl, fun _ => rfl, (List.append_nil _).symm, sound.stream live⟩
      · refine iff_of_false (fun harmless => live ?_) (by simp [Forgives, on])
        exact harmless.state.symm.trans down
      · obtain ⟨errno', failed, -⟩ := socksWrite_transient transient conn.outputBuffer.readable
        rw [failed] at wrote
        cases wrote

end

private def upWithBuffer : List (EpollCtl Unit × ConnStep) :=
  [(mapCtl, .connEstablished), (mapCtl, .send true [1, 2, 3] (.accepted 1))]

/-- A direct write that would block leaves the data in the buffer. -/
theorem send_would_block_harmless :
    let conn := run step (new (EpollPoller.new fun _ => 0) () 5 true true 2)
      [(mapCtl, .connEstablished)]
    conn.state = .kConnected ∧
      conn.Harmless (conn.failing mapCtl .EWOULDBLOCK (.sendInLoop [1, 2])) [1, 2] := by
  have passes : Errno.Transient .EWOULDBLOCK := trivial
  refine ⟨by decide, ?_⟩
  exact (transient_error_harmless_iff _ _ _ _ _ _ [(mapCtl, .connEstablished)] _ rfl (by decide)
    passes mapCtl (.sendInLoop [1, 2])).mpr trivial

/-- A spurious event for writing or for reading closes an open connection. -/
theorem would_block_closes :
    let conn := run step (new (EpollPoller.new fun _ => 0) () 5 true true 2) upWithBuffer
    conn.state = .kConnected ∧
      (conn.failing mapCtl .EWOULDBLOCK .handleWrite).state = .kDisconnected ∧
      (conn.failing mapCtl .EINTR .handleRead).state = .kDisconnected ∧
      (conn.failing mapCtl .EINTR .handleRead).trace.count (.connCallback false) = 1 ∧
      conn.trace.count (.connCallback false) = 0 := by
  decide +kernel

end TcpConnection

end Talko.Network
