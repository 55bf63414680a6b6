import Talko.Network.EpollPollerProperties
import Talko.Network.TcpConnection

/-!
# What each member of a connection does

One law for each member that touches the socket or the output buffer, and the rule by
which a property of connections is carried over a step.
-/

set_option autoImplicit false

namespace Talko.Network

def Functor.message? : Functor → Option (List UInt8)
  | .sendInLoop message => some message
  | _ => none

def Functor.isCallback : Functor → Bool
  | .writeCompleteCallback | .highWaterMarkCallback _ => true
  | _ => false

def WriteOutcome.left (data : List UInt8) : WriteOutcome → List UInt8
  | .taken bytes => data.drop bytes.length
  | .failed errno => if errno == .EPIPE || errno == .ECONNRESET then [] else data

namespace TcpConnection

variable {Id : Type}

/-- The loop has nothing new to do for the connection but to call back the user. -/
def OnlyCallsBack (conn after : TcpConnection Id) : Prop :=
  ∃ callbacks : List Functor, (∀ functor ∈ callbacks, functor.isCallback = true) ∧
    after.pendingFunctors = conn.pendingFunctors ++ callbacks

theorem OnlyCallsBack.refl (conn : TcpConnection Id) : conn.OnlyCallsBack conn :=
  ⟨[], by simp, (List.append_nil _).symm⟩

structure Tells (conn after : TcpConnection Id) : Prop where
  state : after.state = conn.state
  trace : after.trace = conn.trace
  buffer : after.outputBuffer = conn.outputBuffer
  writing : after.isWriting = conn.isWriting
  functors : conn.OnlyCallsBack after

theorem tells_ite (conn : TcpConnection Id) (due : Prop) [Decidable due] (functor : Functor)
    (callback : functor.isCallback = true) :
    conn.Tells (if due then conn.queueInLoop functor else conn) := by
  split
  · exact ⟨rfl, rfl, rfl, rfl, [functor], by simpa using callback, rfl⟩
  · exact ⟨rfl, rfl, rfl, rfl, .refl conn⟩

theorem OnlyCallsBack.trans {conn middle after : TcpConnection Id}
    (first : conn.OnlyCallsBack middle) (second : middle.OnlyCallsBack after) :
    conn.OnlyCallsBack after := by
  obtain ⟨early, earlyCalls, same⟩ := first
  obtain ⟨late, lateCalls, final⟩ := second
  refine ⟨early ++ late, ?_, by rw [final, same, List.append_assoc]⟩
  intro functor member
  rcases List.mem_append.mp member with old | recent
  · exact earlyCalls functor old
  · exact lateCalls functor recent

structure Buffers (conn after : TcpConnection Id) (rest : List UInt8) : Prop where
  state : after.state = conn.state
  trace : after.trace = conn.trace
  readable : after.outputBuffer.readable = conn.outputBuffer.readable ++ rest
  writing : after.isWriting = (conn.isWriting || !rest.isEmpty)
  functors : conn.OnlyCallsBack after

structure Drains (conn after : TcpConnection Id) (bytes : List UInt8) : Prop where
  nonempty : bytes ≠ []
  split : bytes ++ after.outputBuffer.readable = conn.outputBuffer.readable
  state : after.state = conn.state
  trace : after.trace = conn.trace ++ .wrote (.taken bytes) ::
    if after.outputBuffer.readable = [] ∧ conn.state = .kDisconnecting then [.shutdownWrite] else []
  writing : after.isWriting = !after.outputBuffer.readable.isEmpty
  functors : conn.OnlyCallsBack after

theorem Drains.whole_iff {conn after : TcpConnection Id} {bytes : List UInt8}
    (drains : conn.Drains after bytes) :
    bytes = conn.outputBuffer.readable ↔ after.outputBuffer.readable = [] := by
  have split := drains.split
  constructor
  · intro whole
    rw [whole] at split
    exact List.append_right_eq_self.mp split
  · intro drained
    rw [drained, List.append_nil] at split
    exact split

structure Finishes (conn after : TcpConnection Id) : Prop where
  state : after.state = conn.state
  trace : after.trace =
    conn.trace ++ if conn.state = .kDisconnecting then [.shutdownWrite] else []
  buffer : after.outputBuffer = conn.outputBuffer
  writing : after.isWriting = false
  functors : conn.OnlyCallsBack after

/-!
## The input buffer
-/

section

variable (conn : TcpConnection Id) (buffer : ByteBuffer)

@[simp] theorem setInput_state : (conn.setInput buffer).state = conn.state := rfl

@[simp] theorem setInput_outputBuffer :
    (conn.setInput buffer).outputBuffer = conn.outputBuffer := rfl

@[simp] theorem setInput_highWaterMark :
    (conn.setInput buffer).highWaterMark = conn.highWaterMark := rfl

@[simp] theorem setInput_hasHighWaterMarkCallback :
    (conn.setInput buffer).hasHighWaterMarkCallback = conn.hasHighWaterMarkCallback := rfl

@[simp] theorem setInput_hasWriteCompleteCallback :
    (conn.setInput buffer).hasWriteCompleteCallback = conn.hasWriteCompleteCallback := rfl

@[simp] theorem setInput_isWriting : (conn.setInput buffer).isWriting = conn.isWriting := rfl

@[simp] theorem record_setInput (effect : Effect) :
    (conn.setInput buffer).record effect = (conn.record effect).setInput buffer := rfl

@[simp] theorem queueInLoop_setInput (functor : Functor) :
    (conn.setInput buffer).queueInLoop functor = (conn.queueInLoop functor).setInput buffer := rfl

@[simp] theorem appendOutput_setInput (data : List UInt8) :
    (conn.setInput buffer).appendOutput data = (conn.appendOutput data).setInput buffer := rfl

theorem ite_setInput (test : Prop) [Decidable test] (other : TcpConnection Id) :
    (if test then conn.setInput buffer else other.setInput buffer) =
      (if test then conn else other).setInput buffer :=
  (apply_ite (setInput · buffer) test conn other).symm

end

section

variable [DecidableEq Id]

/-!
## Sending
-/

theorem bufferRemaining_buffers (ctl : EpollCtl Id) (conn : TcpConnection Id)
    (data : List UInt8) (nwrote : Nat) :
    conn.Buffers (conn.bufferRemaining ctl data nwrote false) (data.drop nwrote) := by
  unfold bufferRemaining
  dsimp only
  rw [if_neg (by omega)]
  by_cases left : data.length - nwrote > 0
  · rw [if_pos ⟨rfl, left⟩]
    have kept : (data.drop nwrote).isEmpty = false := by
      simp only [List.isEmpty_eq_false_iff, ne_eq, List.drop_eq_nil_iff]
      omega
    generalize marked : (if conn.outputBuffer.bbBytesReadable + (data.length - nwrote) ≥
        conn.highWaterMark ∧ conn.outputBuffer.bbBytesReadable < conn.highWaterMark ∧
        conn.hasHighWaterMarkCallback = true then _ else conn) = told
    have tells : conn.Tells told := marked ▸ tells_ite conn _ _ rfl
    have appended : (told.outputBuffer.bbAppend (data.drop nwrote)).readable =
        conn.outputBuffer.readable ++ data.drop nwrote := by
      rw [FormedBuffer.bbAppend_readable, tells.buffer]
    split
    · next on =>
        have already : conn.isWriting = true := tells.writing ▸ on
        exact ⟨tells.state, tells.trace, appended, by simpa [already] using on, tells.functors⟩
    · refine ⟨tells.state, tells.trace, appended, ?_, tells.functors⟩
      change (EpollPoller.enableWriting ctl told.poller told.channel).1.isWriting told.channel = _
      rw [EpollPoller.enableWriting_isWriting, kept]
      simp
  · rw [if_neg (fun both => left both.2)]
    have drained : data.drop nwrote = [] := List.drop_eq_nil_of_le (by omega)
    rw [drained]
    exact ⟨rfl, rfl, by simp, by simp, .refl conn⟩

theorem bufferRemaining_of_fault (ctl : EpollCtl Id) (conn : TcpConnection Id)
    (data : List UInt8) (nwrote : Nat) : conn.bufferRemaining ctl data nwrote true = conn := by
  simp [bufferRemaining]

theorem afterDirectWrite_buffers (ctl : EpollCtl Id) (conn : TcpConnection Id)
    (data : List UInt8) (outcome : WriteOutcome) :
    (conn.record (.wrote outcome)).Buffers (conn.afterDirectWrite ctl data outcome)
      (outcome.left data) := by
  cases outcome with
  | taken bytes =>
      have tells := (conn.record (.wrote (.taken bytes))).tells_ite
        (data.length - bytes.length = 0 ∧ conn.hasWriteCompleteCallback = true)
        .writeCompleteCallback rfl
      unfold afterDirectWrite
      dsimp only
      generalize (if data.length - bytes.length = 0 ∧ conn.hasWriteCompleteCallback = true then _
        else _ : TcpConnection Id) = told at tells ⊢
      have buffers := bufferRemaining_buffers ctl told data bytes.length
      exact
        { state := buffers.state.trans tells.state
          trace := buffers.trace.trans tells.trace
          readable := buffers.readable.trans (by rw [tells.buffer]; rfl)
          writing := buffers.writing.trans (by rw [tells.writing]; rfl)
          functors := tells.functors.trans buffers.functors }
  | failed errno =>
      simp only [afterDirectWrite, WriteOutcome.left]
      cases (errno == .EPIPE || errno == .ECONNRESET) with
      | false => exact bufferRemaining_buffers ctl _ data 0
      | true =>
          rw [bufferRemaining_of_fault]
          exact ⟨rfl, rfl, by simp, by simp, .refl _⟩

/-- What `_send_in_loop` can do: nothing once the connection is down, a direct write when
nothing waits, and buffering otherwise. -/
theorem sendInLoop_cases (ctl : EpollCtl Id) (conn : TcpConnection Id) (data : List UInt8)
    (answer : SocksWrite) :
    (conn.state = .kDisconnected ∧ conn.sendInLoop ctl data answer = conn) ∨
    (conn.state ≠ .kDisconnected ∧ conn.isWriting = false ∧ conn.outputBuffer.readable = [] ∧
      ((conn.record (.passed data)).record (.wrote (socksWrite data answer))).Buffers
        (conn.sendInLoop ctl data answer) ((socksWrite data answer).left data)) ∨
    (conn.state ≠ .kDisconnected ∧
      (conn.isWriting = true ∨ conn.outputBuffer.readable ≠ []) ∧
      (conn.record (.passed data)).Buffers (conn.sendInLoop ctl data answer) data) := by
  by_cases down : conn.state = .kDisconnected
  · exact .inl ⟨down, by simp [sendInLoop, down]⟩
  · right
    simp only [sendInLoop, down, if_false]
    by_cases direct : (conn.record (.passed data)).isWriting = false ∧
        (conn.record (.passed data)).outputBuffer.bbBytesReadable = 0
    · rw [if_pos direct]
      obtain ⟨idle, empty⟩ := direct
      rw [FormedBuffer.bbBytesReadable_eq, List.length_eq_zero_iff] at empty
      exact .inl ⟨down, idle, empty, afterDirectWrite_buffers ctl _ data _⟩
    · rw [if_neg direct]
      refine .inr ⟨down, ?_, bufferRemaining_buffers ctl _ data 0⟩
      rw [FormedBuffer.bbBytesReadable_eq, List.length_eq_zero_iff] at direct
      by_cases busy : conn.isWriting = true
      · exact .inl busy
      · exact .inr fun empty => direct ⟨Bool.eq_false_iff.mpr busy, empty⟩

/-!
Sending neither reads nor changes the input buffer.
-/

@[simp] theorem enableWriting_setInput (ctl : EpollCtl Id) (conn : TcpConnection Id)
    (buffer : ByteBuffer) :
    (conn.setInput buffer).enableWriting ctl = (conn.enableWriting ctl).setInput buffer := rfl

@[simp] theorem bufferRemaining_setInput (ctl : EpollCtl Id) (conn : TcpConnection Id)
    (buffer : ByteBuffer) (data : List UInt8) (nwrote : Nat) (faultError : Bool) :
    (conn.setInput buffer).bufferRemaining ctl data nwrote faultError =
      (conn.bufferRemaining ctl data nwrote faultError).setInput buffer := by
  simp [bufferRemaining, ite_setInput]

@[simp] theorem afterDirectWrite_setInput (ctl : EpollCtl Id) (conn : TcpConnection Id)
    (buffer : ByteBuffer) (data : List UInt8) (outcome : WriteOutcome) :
    (conn.setInput buffer).afterDirectWrite ctl data outcome =
      (conn.afterDirectWrite ctl data outcome).setInput buffer := by
  cases outcome with
  | taken bytes =>
      unfold afterDirectWrite
      dsimp only
      by_cases tells : data.length - bytes.length = 0 ∧ conn.hasWriteCompleteCallback = true
      · have tells' : data.length - bytes.length = 0 ∧
            (conn.setInput buffer).hasWriteCompleteCallback = true := tells
        rw [if_pos tells, if_pos tells']
        simp
      · have tells' : ¬ (data.length - bytes.length = 0 ∧
            (conn.setInput buffer).hasWriteCompleteCallback = true) := tells
        rw [if_neg tells, if_neg tells']
        simp
  | failed errno => simp [afterDirectWrite]

theorem sendInLoop_setInput (ctl : EpollCtl Id) (conn : TcpConnection Id)
    (buffer : ByteBuffer) (data : List UInt8) (answer : SocksWrite) :
    (conn.setInput buffer).sendInLoop ctl data answer =
      (conn.sendInLoop ctl data answer).setInput buffer := by
  simp [sendInLoop, ite_setInput]

theorem send_setInput (ctl : EpollCtl Id) (conn : TcpConnection Id) (buffer : ByteBuffer)
    (message : List UInt8) (answer : SocksWrite) :
    (conn.setInput buffer).send ctl true message answer =
      (conn.send ctl true message answer).setInput buffer := by
  simp [send, sendInLoop_setInput, ite_setInput]

/-!
## Draining and closing
-/

@[simp] theorem handleClose_state (ctl : EpollCtl Id) (conn : TcpConnection Id) :
    (conn.handleClose ctl).state = .kDisconnected := by
  unfold handleClose
  split
  · assumption
  · rfl

/-- A new connection that is up. -/
structure Fresh (conn : TcpConnection Id) : Prop where
  trace : conn.trace = [.connCallback true]
  functors : conn.pendingFunctors = []
  buffer : conn.outputBuffer = .new
  idle : conn.isWriting = false

theorem connEstablished_fresh {poller : EpollPoller Id} {channel : Id} {sockfd : Int}
    {writeComplete highWater : Bool} {highWaterMark : Nat} {ctl : EpollCtl Id}
    (connected : ((new poller channel sockfd writeComplete highWater
      highWaterMark).connEstablished ctl).state = .kConnected) :
    ((new poller channel sockfd writeComplete highWater highWaterMark).connEstablished
      ctl).Fresh := by
  have idle : (poller.newChannel channel sockfd).isWriting channel = false := by
    simp [EpollPoller.isWriting, EpollPoller.newChannel]
  have still := EpollPoller.enableReading_isWriting ctl (poller.newChannel channel sockfd) channel
  rw [idle] at still
  unfold connEstablished at connected ⊢
  rw [if_neg (by simp [new])] at connected ⊢
  dsimp only at connected ⊢
  split at connected
  · rename_i reading enabled
    change (poller.newChannel channel sockfd).enableReading ctl channel = (reading, true) at enabled
    rw [enabled] at still
    exact ⟨rfl, rfl, rfl, still⟩
  · rw [handleClose_state] at connected
    cases connected

theorem writeFinished_finishes (ctl : EpollCtl Id) (conn : TcpConnection Id) :
    conn.Finishes (conn.writeFinished ctl) := by
  have off : (conn.disableWriting ctl).isWriting = false :=
    EpollPoller.disableWriting_isWriting ctl conn.poller conn.channel
  have tells := (conn.disableWriting ctl).tells_ite
    ((conn.disableWriting ctl).hasWriteCompleteCallback = true) .writeCompleteCallback rfl
  unfold writeFinished
  dsimp only
  generalize (if (conn.disableWriting ctl).hasWriteCompleteCallback = true then
    (conn.disableWriting ctl).queueInLoop .writeCompleteCallback
    else conn.disableWriting ctl) = told at tells ⊢
  have state : told.state = conn.state := tells.state
  have trace : told.trace = conn.trace := tells.trace
  have writing : told.isWriting = false := tells.writing.trans off
  by_cases closing : conn.state = .kDisconnecting
  · rw [if_pos (state.trans closing), shutdownInLoop, writing]
    refine ⟨state, ?_, tells.buffer, writing, tells.functors⟩
    simp [record, trace, closing]
  · rw [if_neg (fun same => closing (state.symm.trans same))]
    refine ⟨state, ?_, tells.buffer, writing, tells.functors⟩
    simp [trace, closing]

/-- A buffered write that takes something leaves the rest, and finishes when there is none. -/
theorem afterBufferedWrite_taken (conn : TcpConnection Id) {bytes : List UInt8}
    (taken : bytes ≠ []) (fits : bytes.length ≤ conn.outputBuffer.readable.length)
    (ctl : EpollCtl Id) :
    conn.afterBufferedWrite ctl (.taken bytes) =
      if conn.outputBuffer.readable.drop bytes.length = [] then
        ((conn.record (.wrote (.taken bytes))).retrieveOutput bytes.length).writeFinished ctl
      else (conn.record (.wrote (.taken bytes))).retrieveOutput bytes.length := by
  have positive : (WriteOutcome.taken bytes).n > 0 := by
    have := List.length_pos_iff.mpr taken
    simp only [WriteOutcome.n]
    omega
  have count : (WriteOutcome.taken bytes).n.toNat = bytes.length := Int.toNat_natCast _
  have empty_iff : (conn.outputBuffer.bbRetrieve bytes.length).bbBytesReadable = 0 ↔
      conn.outputBuffer.readable.drop bytes.length = [] := by
    rw [FormedBuffer.bbBytesReadable_eq, conn.outputBuffer.bbRetrieve_readable fits,
      List.length_eq_zero_iff]
  unfold afterBufferedWrite
  dsimp only
  rw [if_pos positive, count]
  exact ite_cond_congr (propext empty_iff)

theorem afterBufferedWrite_drains {conn : TcpConnection Id} {bytes : List UInt8}
    {answer : SocksWrite} (wrote : socksWrite conn.outputBuffer.readable answer = .taken bytes)
    (taken : bytes ≠ []) (on : conn.isWriting = true) (ctl : EpollCtl Id) :
    conn.Drains (conn.afterBufferedWrite ctl (.taken bytes)) bytes := by
  have split := socksWrite_taken_append wrote
  have fits : bytes.length ≤ conn.outputBuffer.readable.length := by
    rw [← split, List.length_append]
    omega
  have rest := conn.outputBuffer.bbRetrieve_readable fits
  have halves : bytes ++ (conn.outputBuffer.bbRetrieve bytes.length).readable =
      conn.outputBuffer.readable := by
    rw [rest, split]
  rw [afterBufferedWrite_taken conn taken fits ctl]
  split
  · next drained =>
      have finishes := writeFinished_finishes ctl
        ((conn.record (.wrote (.taken bytes))).retrieveOutput bytes.length)
      have empty := rest.trans drained
      refine ⟨taken, ?_, finishes.state, ?_, ?_, finishes.functors⟩
      · rw [finishes.buffer]
        exact halves
      · rw [finishes.trace, finishes.buffer]
        by_cases closing : conn.state = .kDisconnecting <;>
          simp [record, retrieveOutput, empty, closing]
      · rw [finishes.writing, finishes.buffer]
        simp [record, retrieveOutput, empty]
  · next kept =>
      have left : (conn.outputBuffer.bbRetrieve bytes.length).readable ≠ [] := rest ▸ kept
      refine ⟨taken, halves, rfl, ?_, ?_, .refl conn⟩
      · simp [record, retrieveOutput, left]
      · change conn.isWriting = !(conn.outputBuffer.bbRetrieve bytes.length).readable.isEmpty
        simp [on, left]

/-- What `_handle_write` can do: nothing without write interest, close the connection when
the write takes nothing, and drain the buffer otherwise. -/
theorem handleWrite_cases (ctl : EpollCtl Id) (conn : TcpConnection Id) (answer : SocksWrite) :
    (conn.isWriting = false ∧ conn.handleWrite ctl answer = conn) ∨
    (conn.isWriting = true ∧ (socksWrite conn.outputBuffer.readable answer).n ≤ 0 ∧
      (conn.handleWrite ctl answer).state = .kDisconnected) ∨
    ∃ bytes, conn.isWriting = true ∧
      socksWrite conn.outputBuffer.readable answer = .taken bytes ∧
      conn.Drains (conn.handleWrite ctl answer) bytes := by
  unfold handleWrite
  split
  · next on =>
      right
      generalize wrote : socksWrite conn.outputBuffer.readable answer = outcome
      cases outcome with
      | failed errno => exact .inl ⟨on, by simp [WriteOutcome.n], handleClose_state ctl _⟩
      | taken bytes =>
          by_cases taken : bytes = []
          · subst taken
            exact .inl ⟨on, by decide, handleClose_state ctl _⟩
          · exact .inr ⟨bytes, on, rfl, afterBufferedWrite_drains wrote taken on ctl⟩
  · next off => exact .inl ⟨Bool.eq_false_iff.mpr off, rfl⟩

/-!
## Steps
-/

/-- The members and changes of state that every step is made of keep a property. -/
structure Preserves (ctl : EpollCtl Id) (property : TcpConnection Id → Prop) : Prop where
  connEstablished : ∀ {conn}, property conn → property (conn.connEstablished ctl)
  sendInLoop : ∀ {conn}, property conn → ∀ data answer,
    property (conn.sendInLoop ctl data answer)
  shutdownInLoop : ∀ {conn}, property conn → property conn.shutdownInLoop
  handleClose : ∀ {conn}, property conn → property (conn.handleClose ctl)
  handleRead : ∀ {conn}, property conn → ∀ answer, property (conn.handleRead ctl answer)
  handleWrite : ∀ {conn}, property conn → ∀ answer, property (conn.handleWrite ctl answer)
  connDestroyed : ∀ {conn}, property conn → property (conn.connDestroyed ctl)
  disconnecting : ∀ {conn}, property conn →
    conn.state = .kConnected ∨ conn.state = .kDisconnecting →
    property (conn.setState .kDisconnecting)
  functors : ∀ {conn}, property conn → ∀ functors,
    property { conn with pendingFunctors := functors }
  writeComplete : ∀ {conn}, property conn → property (conn.record .writeCompleteCallback)
  highWaterMark : ∀ {conn}, property conn → ∀ size,
    property (conn.record (.highWaterMarkCallback size))

namespace Preserves

variable {ctl : EpollCtl Id} {property : TcpConnection Id → Prop}

theorem execute (preserves : Preserves ctl property) {conn : TcpConnection Id}
    (holds : property conn) (answer : SocksWrite) (functor : Functor) :
    property (conn.execute ctl answer functor) := by
  cases functor with
  | sendInLoop message => exact preserves.sendInLoop holds message answer
  | shutdownInLoop => exact preserves.shutdownInLoop holds
  | forceCloseInLoop =>
      change property (conn.forceCloseInLoop ctl)
      unfold TcpConnection.forceCloseInLoop
      split
      · exact preserves.handleClose holds
      · exact holds
  | writeCompleteCallback => exact preserves.writeComplete holds
  | highWaterMarkCallback size => exact preserves.highWaterMark holds size

theorem runInLoop (preserves : Preserves ctl property) {conn : TcpConnection Id}
    (holds : property conn) (inLoopThread : Bool) (answer : SocksWrite) (functor : Functor) :
    property (conn.runInLoop ctl inLoopThread answer functor) := by
  cases inLoopThread with
  | true => exact preserves.execute holds answer functor
  | false => exact preserves.functors holds _

theorem handleEvent (preserves : Preserves ctl property) {conn : TcpConnection Id}
    (holds : property conn) (revents : EventMask) (read : SocksRead) (write : SocksWrite) :
    property (conn.handleEvent ctl revents read write) := by
  have close : ∀ (conn : TcpConnection Id) (event : Prop) [Decidable event], property conn →
      property (if event then conn.handleClose ctl else conn) := by
    intro conn event _ before
    split
    · exact preserves.handleClose before
    · exact before
  have failed := close _ (revents &&& (POLLERR ||| POLLNVAL) ≠ 0)
    (close _ (revents &&& POLLHUP ≠ 0 ∧ revents &&& POLLIN = 0) holds)
  unfold TcpConnection.handleEvent
  dsimp only
  split
  · apply preserves.handleWrite
    split
    · exact preserves.handleRead failed read
    · exact failed
  · split
    · exact preserves.handleRead failed read
    · exact failed

/-- The rule for steps: a property that the members keep, every step keeps. -/
theorem step (preserves : Preserves ctl property) {conn : TcpConnection Id}
    (holds : property conn) (action : ConnStep) : property (conn.step (ctl, action)) := by
  cases action with
  | connEstablished => exact preserves.connEstablished holds
  | send inLoopThread message answer =>
      change property (conn.send ctl inLoopThread message answer)
      unfold TcpConnection.send
      split
      · split
        · exact preserves.sendInLoop holds message answer
        · exact preserves.runInLoop holds inLoopThread answer _
      · exact holds
  | sendInLoop data answer => exact preserves.sendInLoop holds data answer
  | shutdown inLoopThread =>
      change property (conn.shutdown ctl inLoopThread)
      unfold TcpConnection.shutdown
      split
      · next connected =>
          exact preserves.runInLoop (preserves.disconnecting holds (.inl connected)) inLoopThread _ _
      · exact holds
  | forceClose =>
      change property conn.forceClose
      unfold TcpConnection.forceClose
      split
      · next live => exact preserves.functors (preserves.disconnecting holds live) _
      · exact holds
  | handleRead answer => exact preserves.handleRead holds answer
  | handleWrite answer => exact preserves.handleWrite holds answer
  | handleClose => exact preserves.handleClose holds
  | handleError => exact preserves.handleClose holds
  | handleEvent revents read write => exact preserves.handleEvent holds revents read write
  | executeNext answer =>
      change property (conn.executeNext ctl answer)
      unfold TcpConnection.executeNext
      split
      · exact holds
      · exact preserves.execute (preserves.functors holds _) answer _
  | connDestroyed => exact preserves.connDestroyed holds

end Preserves

end

end TcpConnection

end Talko.Network
