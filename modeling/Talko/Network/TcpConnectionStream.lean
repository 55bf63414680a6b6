import Talko.Network.TcpConnectionProperties

/-!
# The outbound stream

What a connection has written and what it still holds is what it was given, in order:
the direct write of `_send_in_loop` and the buffered writes of `_handle_write` hand over
at any partial write. The write interest of the channel and the output buffer are kept in
step for this.
-/

set_option autoImplicit false

namespace Talko.Network

open Talko.Library

/-!
## Reading a trace
-/

namespace Effect

def accepted : Effect → List UInt8
  | .wrote (.taken bytes) => bytes
  | _ => []

def sent : Effect → List UInt8
  | .passed data => data
  | _ => []

/-- A write that failed with one of the two errors `_send_in_loop` takes as final. -/
def isFault : Effect → Bool
  | .wrote (.failed .EPIPE) | .wrote (.failed .ECONNRESET) => true
  | _ => false

structure Quiet (effect : Effect) : Prop where
  accepted : effect.accepted = []
  sent : effect.sent = []
  isFault : effect.isFault = false

end Effect

theorem accepted_append_left {data : List UInt8} {answer : SocksWrite}
    (clean : (Effect.wrote (socksWrite data answer)).isFault = false) :
    (Effect.wrote (socksWrite data answer)).accepted ++ (socksWrite data answer).left data =
      data := by
  generalize wrote : socksWrite data answer = outcome at clean ⊢
  cases outcome with
  | taken bytes => exact socksWrite_taken_append wrote
  | failed errno =>
      cases errno with
      | EPIPE => cases clean
      | ECONNRESET => cases clean
      | _ => rfl

namespace TcpConnection

variable {Id : Type}

def accepted (conn : TcpConnection Id) : List UInt8 :=
  conn.trace.flatMap Effect.accepted

/-- All data passed to `_send_in_loop` while the state was not `kDisconnected`. -/
def sent (conn : TcpConnection Id) : List UInt8 :=
  conn.trace.flatMap Effect.sent

def faulted (conn : TcpConnection Id) : Bool :=
  conn.trace.any Effect.isFault

@[simp] theorem record_accepted (conn : TcpConnection Id) (effect : Effect) :
    (conn.record effect).accepted = conn.accepted ++ effect.accepted := by
  simp [accepted, record]

@[simp] theorem record_sent (conn : TcpConnection Id) (effect : Effect) :
    (conn.record effect).sent = conn.sent ++ effect.sent := by
  simp [sent, record]

@[simp] theorem record_faulted (conn : TcpConnection Id) (effect : Effect) :
    (conn.record effect).faulted = (conn.faulted || effect.isFault) := by
  simp [faulted, record]

/-!
## The invariant
-/

/-- The bytes taken by the socket, those in the buffer and those still in the hands of
`_send_in_loop` are those sent; the channel is writing exactly when the buffer holds
bytes. -/
structure Outbound (conn : TcpConnection Id) (rest : List UInt8) : Prop where
  stream : conn.accepted ++ conn.outputBuffer.readable ++ rest = conn.sent
  writing : conn.isWriting = true ↔ conn.outputBuffer.readable ≠ []

def StreamSound (conn : TcpConnection Id) : Prop :=
  conn.state ≠ .kDisconnected → conn.faulted = false → conn.Outbound []

theorem StreamSound.stream {conn : TcpConnection Id} (sound : conn.StreamSound)
    (live : conn.state ≠ .kDisconnected) (clean : conn.faulted = false) :
    conn.accepted ++ conn.outputBuffer.readable = conn.sent := by
  have stream := (sound live clean).stream
  rwa [List.append_nil] at stream

theorem StreamSound.frame {conn after : TcpConnection Id} (sound : conn.StreamSound)
    (effects : List Effect) (trace : after.trace = conn.trace ++ effects)
    (quiet : ∀ effect ∈ effects, effect.Quiet)
    (alive : after.state ≠ .kDisconnected → conn.state ≠ .kDisconnected)
    (buffer : after.outputBuffer = conn.outputBuffer)
    (writing : after.isWriting = conn.isWriting) : after.StreamSound := by
  intro live clean
  have noneAccepted : effects.flatMap Effect.accepted = [] :=
    List.flatMap_eq_nil_iff.mpr fun effect member => (quiet effect member).accepted
  have noneSent : effects.flatMap Effect.sent = [] :=
    List.flatMap_eq_nil_iff.mpr fun effect member => (quiet effect member).sent
  have sameAccepted : after.accepted = conn.accepted := by
    simp [accepted, trace, noneAccepted]
  have sameSent : after.sent = conn.sent := by
    simp [sent, trace, noneSent]
  have cleanBefore : conn.faulted = false := by
    simp only [faulted, trace, List.any_append, Bool.or_eq_false_iff] at clean
    exact clean.1
  obtain ⟨stream, flag⟩ := sound (alive live) cleanBefore
  exact ⟨by rw [sameAccepted, sameSent, buffer]; exact stream, by rw [writing, buffer]; exact flag⟩

theorem StreamSound.record {conn : TcpConnection Id} (sound : conn.StreamSound) {effect : Effect}
    (quiet : effect.Quiet) : (conn.record effect).StreamSound :=
  sound.frame [effect] rfl
    (fun _ member => List.mem_singleton.mp member ▸ quiet) id rfl rfl

theorem shutdownInLoop_streamSound {conn : TcpConnection Id} (sound : conn.StreamSound) :
    conn.shutdownInLoop.StreamSound := by
  unfold shutdownInLoop
  split
  · exact sound
  · exact sound.record ⟨rfl, rfl, rfl⟩

theorem shutdownInLoop_sent (conn : TcpConnection Id) : conn.shutdownInLoop.sent = conn.sent := by
  unfold shutdownInLoop
  split
  · rfl
  · exact (record_sent conn .shutdownWrite).trans (List.append_nil _)

theorem StreamSound.setState {conn : TcpConnection Id} (sound : conn.StreamSound)
    (up : conn.state ≠ .kDisconnected) (state : StateE) : (conn.setState state).StreamSound :=
  sound.frame [] (List.append_nil _).symm (by simp) (fun _ => up) rfl rfl

theorem streamSound_of_disconnected {conn : TcpConnection Id}
    (down : conn.state = .kDisconnected) : conn.StreamSound :=
  fun live _ => absurd down live

/-!
## Effects of the members on the stream
-/

theorem Buffers.outbound {conn after : TcpConnection Id} {rest : List UInt8}
    (buffers : conn.Buffers after rest) (outbound : conn.Outbound rest) : after.Outbound [] := by
  constructor
  · have sameAccepted : after.accepted = conn.accepted := by
      rw [accepted, accepted, buffers.trace]
    have sameSent : after.sent = conn.sent := by
      rw [sent, sent, buffers.trace]
    rw [sameAccepted, sameSent, buffers.readable, List.append_nil, ← List.append_assoc]
    exact outbound.stream
  · rw [buffers.writing, buffers.readable]
    have flag := outbound.writing
    cases rest with
    | nil => simpa using flag
    | cons byte bytes => simp

theorem Outbound.recordWrite {conn : TcpConnection Id} {data : List UInt8} {answer : SocksWrite}
    (outbound : conn.Outbound data) (idle : conn.outputBuffer.readable = [])
    (clean : (Effect.wrote (socksWrite data answer)).isFault = false) :
    (conn.record (.wrote (socksWrite data answer))).Outbound
      ((socksWrite data answer).left data) := by
  refine ⟨?_, outbound.writing⟩
  rw [record_accepted, record_sent]
  have stream := outbound.stream
  rw [idle, List.append_nil] at stream
  change _ ++ _ ++ conn.outputBuffer.readable ++ _ = conn.sent ++ []
  rw [idle, List.append_nil, List.append_nil, List.append_assoc, accepted_append_left clean]
  exact stream

theorem Drains.outbound {conn after : TcpConnection Id} {bytes : List UInt8}
    (drains : conn.Drains after bytes) (outbound : conn.Outbound []) : after.Outbound [] := by
  have stream := outbound.stream
  rw [List.append_nil] at stream
  constructor
  · have nowAccepted : after.accepted = conn.accepted ++ bytes := by
      rw [accepted, drains.trace, List.flatMap_append, List.flatMap_cons]
      split <;> simp [accepted, Effect.accepted]
    have sameSent : after.sent = conn.sent := by
      rw [sent, drains.trace, List.flatMap_append, List.flatMap_cons]
      split <;> simp [sent, Effect.sent]
    rw [nowAccepted, sameSent, List.append_nil, List.append_assoc, drains.split]
    exact stream
  · rw [drains.writing]
    cases after.outputBuffer.readable <;> simp

section

variable [DecidableEq Id]

/-!
## Sending
-/

theorem sendInLoop_streamSound {conn : TcpConnection Id} (sound : conn.StreamSound)
    (ctl : EpollCtl Id) (data : List UInt8) (answer : SocksWrite) :
    (conn.sendInLoop ctl data answer).StreamSound := by
  have passed : ∀ outbound : conn.Outbound [], (conn.record (.passed data)).Outbound data := by
    intro outbound
    refine ⟨?_, outbound.writing⟩
    have stream := outbound.stream
    rw [List.append_nil] at stream
    rw [record_accepted, record_sent, ← stream]
    simp [Effect.accepted, Effect.sent, record]
  obtain ⟨_, same⟩ | ⟨up, _, idle, buffers⟩ | ⟨up, _, buffers⟩ :=
    sendInLoop_cases ctl conn data answer
  · rw [same]
    exact sound
  · intro _ clean
    rw [faulted, buffers.trace, ← faulted, record_faulted, record_faulted, Bool.or_eq_false_iff,
      Bool.or_eq_false_iff] at clean
    obtain ⟨⟨before, _⟩, now⟩ := clean
    exact buffers.outbound ((passed (sound up before)).recordWrite idle now)
  · intro _ clean
    rw [faulted, buffers.trace, ← faulted, record_faulted, Bool.or_eq_false_iff] at clean
    exact buffers.outbound (passed (sound up clean.1))

/-!
## Draining and closing
-/

theorem handleWrite_streamSound {conn : TcpConnection Id} (sound : conn.StreamSound)
    (ctl : EpollCtl Id) (answer : SocksWrite) : (conn.handleWrite ctl answer).StreamSound := by
  obtain ⟨_, same⟩ | ⟨_, _, down⟩ | ⟨bytes, _, _, drains⟩ := handleWrite_cases ctl conn answer
  · rw [same]
    exact sound
  · exact streamSound_of_disconnected down
  · intro live clean
    rw [drains.state] at live
    rw [faulted, drains.trace, List.any_append, ← faulted, Bool.or_eq_false_iff] at clean
    exact drains.outbound (sound live clean.1)

theorem handleClose_streamSound (ctl : EpollCtl Id) (conn : TcpConnection Id) :
    (conn.handleClose ctl).StreamSound :=
  streamSound_of_disconnected (handleClose_state ctl conn)

theorem connEstablished_streamSound {conn : TcpConnection Id} (sound : conn.StreamSound)
    (ctl : EpollCtl Id) : (conn.connEstablished ctl).StreamSound := by
  unfold connEstablished
  split
  · exact sound
  · next connecting =>
      dsimp only
      have writing := EpollPoller.enableReading_isWriting ctl (conn.setState .kConnected).poller
        (conn.setState .kConnected).channel
      split
      · next poller enabled =>
          apply StreamSound.record _ ⟨rfl, rfl, rfl⟩
          refine sound.frame [] (List.append_nil _).symm (by simp) ?_ rfl ?_
          · intro _
            rw [Decidable.not_not.mp connecting]
            decide
          · rw [enabled] at writing
            exact writing
      · exact handleClose_streamSound ctl _

theorem connDestroyed_streamSound {conn : TcpConnection Id} (sound : conn.StreamSound)
    (ctl : EpollCtl Id) : (conn.connDestroyed ctl).StreamSound := by
  unfold connDestroyed
  dsimp only
  split
  · exact streamSound_of_disconnected rfl
  · exact sound.frame [] (List.append_nil _).symm (by simp) id rfl
      (EpollPoller.remove_isWriting ctl _ _)

theorem handleRead_streamSound {conn : TcpConnection Id} (sound : conn.StreamSound)
    (ctl : EpollCtl Id) (answer : SocksRead) : (conn.handleRead ctl answer).StreamSound := by
  unfold handleRead
  dsimp only
  split
  · apply StreamSound.record _ ⟨rfl, rfl, rfl⟩
    exact sound.frame [] (List.append_nil _).symm (by simp) id rfl rfl
  · split
    · exact handleClose_streamSound ctl _
    · exact handleClose_streamSound ctl _

theorem preserves_streamSound (ctl : EpollCtl Id) :
    Preserves ctl (StreamSound : TcpConnection Id → Prop) where
  connEstablished sound := connEstablished_streamSound sound ctl
  sendInLoop sound := sendInLoop_streamSound sound ctl
  shutdownInLoop := shutdownInLoop_streamSound
  handleClose _ := handleClose_streamSound ctl _
  handleRead sound := handleRead_streamSound sound ctl
  handleWrite sound := handleWrite_streamSound sound ctl
  connDestroyed sound := connDestroyed_streamSound sound ctl
  disconnecting sound live := sound.setState (by rcases live with up | up <;> simp [up]) _
  functors sound _ := sound.frame [] (List.append_nil _).symm (by simp) id rfl rfl
  writeComplete sound := sound.record ⟨rfl, rfl, rfl⟩
  highWaterMark sound _ := sound.record ⟨rfl, rfl, rfl⟩

/-!
## What is sent
-/

theorem handleClose_sent (ctl : EpollCtl Id) (conn : TcpConnection Id) :
    (conn.handleClose ctl).sent = conn.sent := by
  unfold handleClose
  split
  · rfl
  · simp only [record_sent, Effect.sent, List.append_nil]
    rfl

/-- `_send_in_loop` adds its data unless it finds the connection down. -/
theorem sendInLoop_sent (ctl : EpollCtl Id) (conn : TcpConnection Id) (data : List UInt8)
    (answer : SocksWrite) :
    (conn.sendInLoop ctl data answer).sent =
      conn.sent ++ if conn.state = .kDisconnected then [] else data := by
  obtain ⟨down, same⟩ | ⟨up, _, _, buffers⟩ | ⟨up, _, buffers⟩ :=
    sendInLoop_cases ctl conn data answer
  · rw [same, if_pos down, List.append_nil]
  · rw [if_neg up, sent, buffers.trace, ← sent, record_sent, record_sent]
    exact List.append_nil _
  · rw [if_neg up, sent, buffers.trace, ← sent, record_sent]
    rfl

theorem afterBufferedWrite_sent (ctl : EpollCtl Id) (conn : TcpConnection Id)
    (outcome : WriteOutcome) : (conn.afterBufferedWrite ctl outcome).sent = conn.sent := by
  have tried : (conn.record (.wrote outcome)).sent = conn.sent :=
    (record_sent conn (.wrote outcome)).trans (List.append_nil _)
  unfold afterBufferedWrite
  dsimp only
  split
  · split
    · have finishes := writeFinished_finishes ctl
        ((conn.record (.wrote outcome)).retrieveOutput outcome.n.toNat)
      rw [sent, finishes.trace, List.flatMap_append]
      refine Eq.trans ?_ (List.append_nil _)
      congr 1
      split <;> rfl
    · exact tried
  · rw [handleClose_sent]
    exact tried

theorem handleWrite_sent (ctl : EpollCtl Id) (conn : TcpConnection Id) (answer : SocksWrite) :
    (conn.handleWrite ctl answer).sent = conn.sent := by
  unfold handleWrite
  split
  · exact afterBufferedWrite_sent ctl conn _
  · rfl

theorem handleRead_sent (ctl : EpollCtl Id) (conn : TcpConnection Id) (answer : SocksRead) :
    (conn.handleRead ctl answer).sent = conn.sent := by
  unfold handleRead
  dsimp only
  split
  · exact (record_sent _ _).trans (List.append_nil _)
  · split
    · exact handleClose_sent ctl _
    · exact handleClose_sent ctl _

theorem handleEvent_sent (ctl : EpollCtl Id) (conn : TcpConnection Id) (revents : EventMask)
    (read : SocksRead) (write : SocksWrite) :
    (conn.handleEvent ctl revents read write).sent = conn.sent := by
  unfold handleEvent handleError
  simp only [apply_ite sent, handleWrite_sent, handleRead_sent, handleClose_sent, ite_self]

theorem connEstablished_sent (ctl : EpollCtl Id) (conn : TcpConnection Id) :
    (conn.connEstablished ctl).sent = conn.sent := by
  unfold connEstablished
  split
  · rfl
  · dsimp only
    split
    · exact (record_sent _ _).trans (List.append_nil _)
    · exact handleClose_sent ctl _

theorem connDestroyed_sent (ctl : EpollCtl Id) (conn : TcpConnection Id) :
    (conn.connDestroyed ctl).sent = conn.sent := by
  unfold connDestroyed
  dsimp only
  split
  · exact (record_sent _ _).trans (List.append_nil _)
  · rfl

theorem forceCloseInLoop_sent (ctl : EpollCtl Id) (conn : TcpConnection Id) :
    (conn.forceCloseInLoop ctl).sent = conn.sent := by
  unfold forceCloseInLoop
  split
  · exact handleClose_sent ctl conn
  · rfl

/-- The data with which a step calls `_send_in_loop` while the connection is not down. -/
def passes (conn : TcpConnection Id) : ConnStep → List UInt8
  | .send true message _ => if conn.state = .kConnected then message else []
  | .sendInLoop data _ => if conn.state = .kDisconnected then [] else data
  | .executeNext _ =>
      match conn.pendingFunctors with
      | .sendInLoop message :: _ => if conn.state = .kDisconnected then [] else message
      | _ => []
  | _ => []

theorem executeNext_sent (ctl : EpollCtl Id) (conn : TcpConnection Id) (answer : SocksWrite) :
    (conn.executeNext ctl answer).sent = conn.sent ++ conn.passes (.executeNext answer) := by
  unfold executeNext passes
  cases pending : conn.pendingFunctors with
  | nil => exact (List.append_nil _).symm
  | cons functor rest =>
      cases functor with
      | sendInLoop message => exact sendInLoop_sent ctl _ message answer
      | shutdownInLoop => exact (shutdownInLoop_sent _).trans (List.append_nil _).symm
      | forceCloseInLoop => exact (forceCloseInLoop_sent ctl _).trans (List.append_nil _).symm
      | writeCompleteCallback => exact record_sent _ _
      | highWaterMarkCallback size => exact record_sent _ _

/-- What has been sent are the data of the calls of `_send_in_loop`, in their order, but for
those that found the connection down. -/
theorem step_sent (conn : TcpConnection Id) (action : EpollCtl Id × ConnStep) :
    (conn.step action).sent = conn.sent ++ conn.passes action.2 := by
  obtain ⟨ctl, action⟩ := action
  have none : conn.sent = conn.sent ++ [] := (List.append_nil _).symm
  cases action with
  | connEstablished => exact (connEstablished_sent ctl conn).trans none
  | send inLoopThread message answer =>
      change (conn.send ctl inLoopThread message answer).sent = _
      unfold send
      by_cases up : conn.state = .kConnected
      · cases inLoopThread with
        | true =>
            have alive : conn.state ≠ .kDisconnected := by rw [up]; decide
            have sends := sendInLoop_sent ctl conn message answer
            rw [if_neg alive] at sends
            simpa [passes, up] using sends
        | false =>
            rw [if_pos up]
            exact none
      · cases inLoopThread <;> simp [passes, up]
  | sendInLoop data answer => exact sendInLoop_sent ctl conn data answer
  | shutdown inLoopThread =>
      change (conn.shutdown ctl inLoopThread).sent = _
      unfold shutdown
      split
      · cases inLoopThread with
        | true => exact (shutdownInLoop_sent _).trans none
        | false => exact none
      · exact none
  | forceClose =>
      change conn.forceClose.sent = _
      unfold forceClose
      split
      · exact none
      · exact none
  | handleRead answer => exact (handleRead_sent ctl conn answer).trans none
  | handleWrite answer => exact (handleWrite_sent ctl conn answer).trans none
  | handleClose => exact (handleClose_sent ctl conn).trans none
  | handleError => exact (handleClose_sent ctl conn).trans none
  | handleEvent revents read write =>
      exact (handleEvent_sent ctl conn revents read write).trans none
  | executeNext answer => exact executeNext_sent ctl conn answer
  | connDestroyed => exact (connDestroyed_sent ctl conn).trans none

/-!
## Every run
-/

theorem new_streamSound (poller : EpollPoller Id) (channel : Id) (sockfd : Int)
    (writeComplete highWater : Bool) (highWaterMark : Nat) :
    (new poller channel sockfd writeComplete highWater highWaterMark).StreamSound := by
  intro _ _
  constructor
  · simp [accepted, sent, new]
  · simp [new, isWriting, EpollPoller.isWriting, EpollPoller.newChannel]

theorem run_streamSound (poller : EpollPoller Id) (channel : Id) (sockfd : Int)
    (writeComplete highWater : Bool) (highWaterMark : Nat)
    (steps : List (EpollCtl Id × ConnStep)) :
    (run step (new poller channel sockfd writeComplete highWater highWaterMark)
      steps).StreamSound :=
  run_invariant_always StreamSound
    (fun _ action sound => (preserves_streamSound action.1).step sound action.2)
    (new_streamSound poller channel sockfd writeComplete highWater highWaterMark) steps

/-- After every run of steps, under any answers of the socket and of `epoll_ctl`: unless
the connection is down or a write has failed for good, the bytes the socket took and those
in the buffer are the data sent, in order, and the channel is writing exactly when the
buffer is not empty. -/
theorem outbound_stream (poller : EpollPoller Id) (channel : Id) (sockfd : Int)
    (writeComplete highWater : Bool) (highWaterMark : Nat)
    (steps : List (EpollCtl Id × ConnStep)) (conn : TcpConnection Id)
    (reached : conn =
      run step (new poller channel sockfd writeComplete highWater highWaterMark) steps)
    (live : conn.state ≠ .kDisconnected) (clean : conn.faulted = false) :
    conn.accepted ++ conn.outputBuffer.readable = conn.sent ∧
      (conn.isWriting = true ↔ conn.outputBuffer.readable ≠ []) := by
  have sound : conn.StreamSound := by
    rw [reached]
    exact run_streamSound poller channel sockfd writeComplete highWater highWaterMark steps
  exact ⟨sound.stream live clean, (sound live clean).writing⟩

end

private def partialSend : List (EpollCtl Unit × ConnStep) :=
  [(mapCtl, .connEstablished), (mapCtl, .send true [1, 2, 3] (.accepted 1))]

theorem outbound_stream_partialSend :
    let conn := run step (new (EpollPoller.new fun _ => 0) () 5 true true 2) partialSend
    conn.accepted = [1] ∧ conn.accepted ++ conn.outputBuffer.readable = conn.sent ∧
      (conn.isWriting = true ↔ conn.outputBuffer.readable ≠ []) :=
  ⟨by decide, outbound_stream _ _ _ _ _ _ partialSend _ rfl (by decide) (by decide)⟩

end TcpConnection

end Talko.Network
