import Talko.Network.TcpConnectionShutdown

/-!
# What a connection owes its socket

The bytes the socket has taken and those in the output buffer, whatever the state of the
connection: `_send_in_loop` adds its data as a whole or drops it as a whole, and no other member
adds or drops any. A connection that is closed keeps its buffer.
-/

set_option autoImplicit false

namespace Talko.Network

open Talko.Library

/-- The connection has gone down or a write has failed for good. -/
def Effect.isLoss : Effect → Bool
  | .connCallback false => true
  | effect => effect.isFault

namespace TcpConnection

variable {Id : Type}

/-- What the socket has taken and what it is still to take. -/
def outbound (conn : TcpConnection Id) : List UInt8 :=
  conn.accepted ++ conn.outputBuffer.readable

/-- The data that waits in the loop. -/
def messages (conn : TcpConnection Id) : List (List UInt8) :=
  conn.pendingFunctors.filterMap Functor.message?

def up (conn : TcpConnection Id) : Bool :=
  !conn.trace.any Effect.isLoss

/-- A connection that is down has been reported down. -/
def Marked (conn : TcpConnection Id) : Prop :=
  conn.state = .kDisconnected → conn.up = false

/-- A member that neither takes nor drops data. -/
structure Keeps (conn after : TcpConnection Id) : Prop where
  outbound : after.outbound = conn.outbound
  messages : after.messages = conn.messages
  up : after.up = true → conn.up = true
  marked : conn.Marked → after.Marked

theorem Keeps.refl (conn : TcpConnection Id) : conn.Keeps conn :=
  ⟨rfl, rfl, id, id⟩

theorem Keeps.trans {conn middle after : TcpConnection Id} (first : conn.Keeps middle)
    (second : middle.Keeps after) : conn.Keeps after :=
  ⟨second.outbound.trans first.outbound, second.messages.trans first.messages,
    first.up ∘ second.up, second.marked ∘ first.marked⟩

theorem up_of_trace {conn after : TcpConnection Id} {effects : List Effect}
    (trace : after.trace = conn.trace ++ effects) (still : after.up = true) : conn.up = true := by
  simp only [up, trace, List.any_append, Bool.not_or, Bool.and_eq_true] at still
  exact still.1

theorem Marked.of_trace {conn after : TcpConnection Id} (marked : conn.Marked)
    {effects : List Effect} (trace : after.trace = conn.trace ++ effects)
    (down : after.state = .kDisconnected → conn.state = .kDisconnected ∨ after.up = false) :
    after.Marked := by
  intro ended
  rcases down ended with before | now
  · cases still : after.up with
    | false => rfl
    | true => exact absurd (up_of_trace trace still) (by simp [marked before])
  · exact now

/-- The rule for a step of the state, the trace and the functors. -/
theorem keeps_of {conn after : TcpConnection Id} (effects : List Effect)
    (trace : after.trace = conn.trace ++ effects)
    (quiet : ∀ effect ∈ effects, effect.accepted = [])
    (buffer : after.outputBuffer = conn.outputBuffer) (messages : after.messages = conn.messages)
    (down : after.state = .kDisconnected → conn.state = .kDisconnected ∨ after.up = false) :
    conn.Keeps after where
  outbound := by
    have none : effects.flatMap Effect.accepted = [] := List.flatMap_eq_nil_iff.mpr quiet
    simp [TcpConnection.outbound, accepted, trace, none, buffer]
  messages := messages
  up := up_of_trace trace
  marked marked := marked.of_trace trace down

theorem record_keeps (conn : TcpConnection Id) {effect : Effect} (quiet : effect.accepted = []) :
    conn.Keeps (conn.record effect) :=
  keeps_of [effect] rfl (List.forall_mem_singleton.mpr quiet) rfl rfl .inl

theorem setState_keeps (conn : TcpConnection Id) (state : StateE)
    (live : state ≠ .kDisconnected) : conn.Keeps (conn.setState state) :=
  keeps_of [] (List.append_nil _).symm (by simp) rfl rfl fun down => absurd down live

theorem shutdownInLoop_keeps (conn : TcpConnection Id) : conn.Keeps conn.shutdownInLoop := by
  unfold shutdownInLoop
  split
  · exact .refl conn
  · exact conn.record_keeps rfl

theorem queueInLoop_messages (conn : TcpConnection Id) (functor : Functor) :
    (conn.queueInLoop functor).messages = conn.messages ++ functor.message?.toList := by
  simp only [messages, queueInLoop, List.filterMap_append]
  cases functor <;> rfl

theorem queueInLoop_keeps (conn : TcpConnection Id) {functor : Functor}
    (other : functor.message? = none) : conn.Keeps (conn.queueInLoop functor) := by
  refine keeps_of [] (List.append_nil _).symm (by simp) rfl ?_ .inl
  rw [queueInLoop_messages, other]
  exact List.append_nil _

theorem Drains.keeps {conn after : TcpConnection Id} {bytes : List UInt8}
    (drains : conn.Drains after bytes) : conn.Keeps after where
  outbound := by
    have taken : after.accepted = conn.accepted ++ bytes := by
      rw [accepted, drains.trace, List.flatMap_append, List.flatMap_cons]
      split <;> simp [accepted, Effect.accepted]
    rw [TcpConnection.outbound, taken, List.append_assoc, drains.split, TcpConnection.outbound]
  messages := drains.functors.messages
  up := up_of_trace drains.trace
  marked marked := marked.of_trace drains.trace fun down => .inl (drains.state.symm.trans down)

section

variable [DecidableEq Id]

theorem handleClose_keeps (conn : TcpConnection Id) (ctl : EpollCtl Id) :
    conn.Keeps (conn.handleClose ctl) := by
  unfold handleClose
  split
  · exact .refl conn
  · refine keeps_of [.connCallback false, .closeCallback] (List.append_assoc _ _ _) ?_ rfl rfl ?_
    · simp [Effect.accepted]
    · intro _
      exact .inr (by simp [up, record, Effect.isLoss])

theorem connEstablished_keeps (conn : TcpConnection Id) (ctl : EpollCtl Id) :
    conn.Keeps (conn.connEstablished ctl) := by
  unfold connEstablished
  split
  · exact .refl conn
  · have connected := conn.setState_keeps .kConnected (by decide)
    dsimp only
    split
    · refine connected.trans (keeps_of [.connCallback true] rfl ?_ rfl rfl ?_)
      · simp [Effect.accepted]
      · intro down
        cases down
    · next poller _ =>
        have moved : (conn.setState .kConnected).Keeps
            { conn.setState .kConnected with poller := poller } :=
          keeps_of [] (List.append_nil _).symm (by simp) rfl rfl .inl
        exact connected.trans (moved.trans (handleClose_keeps _ ctl))

theorem connDestroyed_keeps (conn : TcpConnection Id) (ctl : EpollCtl Id) :
    conn.Keeps (conn.connDestroyed ctl) := by
  unfold connDestroyed
  dsimp only
  split
  · refine keeps_of [.connCallback false] rfl ?_ rfl rfl ?_
    · simp [Effect.accepted]
    · intro _
      exact .inr (by simp [up, record, Effect.isLoss])
  · exact keeps_of [] (List.append_nil _).symm (by simp) rfl rfl .inl

theorem handleRead_keeps (conn : TcpConnection Id) (ctl : EpollCtl Id) (answer : SocksRead) :
    conn.Keeps (conn.handleRead ctl answer) := by
  have fed : conn.Keeps { conn with inputBuffer := (conn.inputBuffer.bbReadFd answer).1 } :=
    keeps_of [] (List.append_nil _).symm (by simp) rfl rfl .inl
  unfold handleRead
  dsimp only
  split
  · exact fed.trans (record_keeps _ rfl)
  · split
    · exact fed.trans (handleClose_keeps _ ctl)
    · exact fed.trans (handleClose_keeps _ ctl)

theorem handleWrite_keeps (conn : TcpConnection Id) (ctl : EpollCtl Id) (answer : SocksWrite) :
    conn.Keeps (conn.handleWrite ctl answer) := by
  unfold handleWrite
  split
  · next on =>
      generalize wrote : socksWrite conn.outputBuffer.readable answer = outcome
      cases outcome with
      | failed errno => exact (conn.record_keeps rfl).trans (handleClose_keeps _ ctl)
      | taken bytes =>
          by_cases taken : bytes = []
          · subst taken
            exact (conn.record_keeps rfl).trans (handleClose_keeps _ ctl)
          · exact (afterBufferedWrite_drains wrote taken on ctl).keeps
  · exact .refl conn

theorem shutdown_keeps (conn : TcpConnection Id) (ctl : EpollCtl Id) :
    conn.Keeps (conn.shutdown ctl true) := by
  unfold shutdown
  split
  · exact (conn.setState_keeps .kDisconnecting (by decide)).trans (shutdownInLoop_keeps _)
  · exact .refl conn

end

/-!
## Data for the socket
-/

/-- What `_send_in_loop` does with its data: it is added as a whole, or as a whole dropped. -/
structure Takes (conn after : TcpConnection Id) (data : List UInt8) : Prop where
  outbound : after.outbound = conn.outbound ++ data ∨
    after.outbound = conn.outbound ∧ after.up = false
  messages : after.messages = conn.messages
  up : after.up = true → conn.up = true
  marked : after.Marked

theorem Buffers.takes {conn after : TcpConnection Id} {data rest : List UInt8}
    {effects : List Effect}
    (buffers : ({ conn with trace := conn.trace ++ effects } : TcpConnection Id).Buffers after rest)
    (marked : conn.Marked)
    (taken : effects.flatMap Effect.accepted ++ conn.outputBuffer.readable ++ rest =
        conn.outputBuffer.readable ++ data ∨
      effects.flatMap Effect.accepted ++ conn.outputBuffer.readable ++ rest =
        conn.outputBuffer.readable ∧ effects.any Effect.isLoss = true) :
    conn.Takes after data where
  outbound := by
    have same : after.outbound = conn.accepted ++
        (effects.flatMap Effect.accepted ++ conn.outputBuffer.readable ++ rest) := by
      simp [TcpConnection.outbound, accepted, buffers.trace, buffers.readable]
    rcases taken with whole | ⟨dropped, loss⟩
    · rw [same, whole, ← List.append_assoc]
      exact .inl rfl
    · rw [same, dropped]
      exact .inr ⟨rfl, by simp [TcpConnection.up, buffers.trace, loss]⟩
  messages := buffers.functors.messages
  up := up_of_trace buffers.trace
  marked := marked.of_trace buffers.trace fun down => .inl (buffers.state.symm.trans down)

theorem left_of_isFault (data : List UInt8) {outcome : WriteOutcome}
    (fault : (Effect.wrote outcome).isFault = true) :
    outcome.left data = [] ∧ (Effect.wrote outcome).accepted = [] := by
  cases outcome with
  | taken bytes => cases fault
  | failed errno =>
      cases errno with
      | EPIPE => exact ⟨rfl, rfl⟩
      | ECONNRESET => exact ⟨rfl, rfl⟩
      | _ => cases fault

variable [DecidableEq Id]

theorem sendInLoop_takes {conn : TcpConnection Id} (marked : conn.Marked) (ctl : EpollCtl Id)
    (data : List UInt8) (answer : SocksWrite) :
    conn.Takes (conn.sendInLoop ctl data answer) data := by
  obtain ⟨down, same⟩ | ⟨_, _, drained, buffers⟩ | ⟨_, _, buffers⟩ :=
    sendInLoop_cases ctl conn data answer
  · rw [same]
    exact ⟨.inr ⟨rfl, marked down⟩, rfl, id, marked⟩
  · have called : (conn.record (.passed data)).record (.wrote (socksWrite data answer)) =
        { conn with trace := conn.trace ++ [.passed data, .wrote (socksWrite data answer)] } := by
      simp [record]
    rw [called] at buffers
    refine buffers.takes marked ?_
    rw [drained]
    -- The buffer was empty, so a write that fails for good drops this data and no other.
    have taken : [Effect.passed data, .wrote (socksWrite data answer)].flatMap Effect.accepted =
        (Effect.wrote (socksWrite data answer)).accepted := by
      have passed : (Effect.passed data).accepted = [] := rfl
      rw [List.flatMap_cons, List.flatMap_singleton, passed, List.nil_append]
    rw [taken, List.append_nil, List.nil_append]
    cases fault : (Effect.wrote (socksWrite data answer)).isFault with
    | false => exact .inl (accepted_append_left fault)
    | true =>
        obtain ⟨left, nothing⟩ := left_of_isFault data fault
        rw [left, nothing]
        exact .inr ⟨rfl, by simp [Effect.isLoss, fault]⟩
  · exact buffers.takes marked (.inl (by simp [Effect.accepted]))

end TcpConnection

end Talko.Network
