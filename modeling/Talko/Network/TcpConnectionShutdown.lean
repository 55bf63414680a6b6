import Talko.Network.TcpConnectionStream
import Talko.Network.TcpConnectionThreads

/-!
# Graceful shutdown

`shutdown()` half-closes the socket as soon as the channel is not writing. Messages that
another thread is about to put into the loop, or has put there, do not count: they are cut
off, and their functors write to the half-closed socket. When no such message is around at
the time of the half-close, nothing is lost.
-/

set_option autoImplicit false

namespace Talko.Network

open Talko.Library

/-!
## What is promised
-/

namespace Effect

def isWrite : Effect → Bool
  | .wrote _ => true
  | _ => false

def message? : Effect → Option (List UInt8)
  | .passed data => some data
  | _ => none

end Effect

namespace SharedConnection

variable {Id : Type}

/-- Every half-close finds all messages that saw `kConnected` accepted whole, in some
order, and no write is attempted after it. -/
def Graceful (s : SharedConnection Id) : Prop :=
  ∀ before after, s.conn.trace = before ++ .shutdownWrite :: after →
    (∃ order : List (List UInt8), order.Perm s.seen ∧
      before.flatMap Effect.accepted = order.flatten) ∧
    ∀ effect ∈ after, effect.isWrite = false

/-- The messages that are on their way to `_send_in_loop`. -/
def pending (s : SharedConnection Id) : List (List UInt8) :=
  s.sends ++ s.conn.pendingFunctors.filterMap Functor.message?

/-- No write in the step meets an error of the socket: a direct write is not refused for
good, and `_handle_write` gets some bytes away. -/
def NoSocketError (s : SharedConnection Id) (action : EpollCtl Id × ThreadStep) : Prop :=
  match action.2 with
  | .loopSend message answer => (Effect.wrote (socksWrite message answer)).isFault = false
  | .executeNext answer => ∀ message, s.conn.pendingFunctors.head? = some (.sendInLoop message) →
      (Effect.wrote (socksWrite message answer)).isFault = false
  | .handleWrite answer => s.conn.isWriting = true →
      0 < (socksWrite s.conn.outputBuffer.readable answer).n
  | _ => True

/-- The step half-closes the socket: a `shutdown()` on the loop thread or a queued
`_shutdown_in_loop` that finds the channel not writing, or a `_handle_write` that drains
the buffer of a connection that is shutting down. -/
def HalfCloses (s : SharedConnection Id) (action : EpollCtl Id × ThreadStep) : Prop :=
  match action.2 with
  | .loopShutdown => s.conn.state = .kConnected ∧ s.conn.isWriting = false
  | .executeNext _ =>
      s.conn.pendingFunctors.head? = some .shutdownInLoop ∧ s.conn.isWriting = false
  | .handleWrite answer => s.conn.isWriting = true ∧ s.conn.state = .kDisconnecting ∧
      socksWrite s.conn.outputBuffer.readable answer = .taken s.conn.outputBuffer.readable
  | _ => False

def NothingPending (s : SharedConnection Id) (action : EpollCtl Id × ThreadStep) : Prop :=
  s.HalfCloses action → s.pending = []

/-!
## Accounting for the messages
-/

structure Accounts (s : SharedConnection Id) : Prop where
  sound : s.conn.StreamSound
  live : s.conn.state = .kConnected ∨ s.conn.state = .kDisconnecting
  clean : s.conn.faulted = false
  messages : (s.conn.trace.filterMap Effect.message? ++ s.pending).Perm s.seen
  unforced : .forceCloseInLoop ∉ s.conn.pendingFunctors
  announced : .shutdownInLoop ∈ s.conn.pendingFunctors ∨ 0 < s.shutdownsSet →
    s.conn.state = .kDisconnecting
  halfClosed : .shutdownWrite ∈ s.conn.trace → s.conn.state = .kDisconnecting

theorem Accounts.outbound {s : SharedConnection Id} (accounts : s.Accounts) :
    s.conn.Outbound [] := by
  apply accounts.sound _ accounts.clean
  rcases accounts.live with up | up <;> simp [up]

theorem sent_eq_flatten (trace : List Effect) :
    trace.flatMap Effect.sent = (trace.filterMap Effect.message?).flatten := by
  induction trace with
  | nil => rfl
  | cons effect rest ih =>
      cases effect <;> simp [Effect.sent, Effect.message?, List.filterMap_cons, ih]

/-- What a step does to a system whose messages are accounted for: the effects it adds to
the trace, the messages that see `kConnected` in it and whether it half-closes the
socket. -/
structure Advances (s after : SharedConnection Id) (effects : List Effect)
    (fresh : List (List UInt8)) (halfCloses : Prop) : Prop where
  trace : after.conn.trace = s.conn.trace ++ effects
  seen : after.seen = s.seen ++ fresh
  sound : after.conn.StreamSound
  clean : ∀ effect ∈ effects, effect.isFault = false
  state : after.conn.state = s.conn.state ∨ after.conn.state = .kDisconnecting
  messages : (effects.filterMap Effect.message? ++ after.pending).Perm (s.pending ++ fresh)
  unforced : .forceCloseInLoop ∉ after.conn.pendingFunctors
  announced : .shutdownInLoop ∈ after.conn.pendingFunctors ∨ 0 < after.shutdownsSet →
    after.conn.state = .kDisconnecting
  halfClosed : .shutdownWrite ∈ effects → after.conn.state = .kDisconnecting
  fresh_connected : fresh = [] ∨ s.conn.state = .kConnected
  written : ∀ effect ∈ effects, effect.isWrite = true →
    effects.filterMap Effect.message? ≠ [] ∨ s.conn.isWriting = true
  closes : halfCloses → after.pending = s.pending ∧ after.conn.outputBuffer.readable = [] ∧
    ∃ writes, .shutdownWrite ∉ writes ∧ effects = writes ++ [.shutdownWrite]
  keeps : ¬ halfCloses → .shutdownWrite ∉ effects

theorem Accounts.advance {s after : SharedConnection Id} (accounts : s.Accounts)
    {effects : List Effect} {fresh : List (List UInt8)} {halfCloses : Prop}
    (advances : s.Advances after effects fresh halfCloses) : after.Accounts where
  sound := advances.sound
  live := by
    rcases advances.state with same | closing
    · rw [same]
      exact accounts.live
    · exact .inr closing
  clean := by
    rw [TcpConnection.faulted, advances.trace, List.any_append, Bool.or_eq_false_iff]
    exact ⟨accounts.clean, List.any_eq_false.mpr fun effect member => by
      simp [advances.clean effect member]⟩
  messages := by
    rw [advances.trace, advances.seen, List.filterMap_append, List.append_assoc]
    have moved := advances.messages.append_left (s.conn.trace.filterMap Effect.message?)
    rw [← List.append_assoc _ s.pending] at moved
    exact moved.trans (accounts.messages.append_right fresh)
  unforced := advances.unforced
  announced := advances.announced
  halfClosed := by
    intro closed
    rw [advances.trace] at closed
    rcases List.mem_append.mp closed with old | recent
    · rcases advances.state with same | closing
      · rw [same]
        exact accounts.halfClosed old
      · exact closing
    · exact advances.halfClosed recent

end SharedConnection

/-!
## The members on the loop thread
-/

namespace TcpConnection

variable {Id : Type}

theorem OnlyCallsBack.messages {conn after : TcpConnection Id} (callsBack : conn.OnlyCallsBack after) :
    after.pendingFunctors.filterMap Functor.message? =
      conn.pendingFunctors.filterMap Functor.message? := by
  obtain ⟨callbacks, all, same⟩ := callsBack
  have silent : callbacks.filterMap Functor.message? = [] := by
    apply List.filterMap_eq_nil_iff.mpr
    intro functor member
    have callback := all functor member
    cases functor <;> first | rfl | cases callback
  rw [same, List.filterMap_append, silent, List.append_nil]

theorem OnlyCallsBack.mem {conn after : TcpConnection Id} (callsBack : conn.OnlyCallsBack after)
    {functor : Functor} (other : functor.isCallback = false)
    (member : functor ∈ after.pendingFunctors) : functor ∈ conn.pendingFunctors := by
  obtain ⟨callbacks, all, same⟩ := callsBack
  rw [same] at member
  rcases List.mem_append.mp member with old | recent
  · exact old
  · rw [all functor recent] at other
    cases other

structure Sends (conn after : TcpConnection Id) (message : List UInt8) (writes : List Effect) :
    Prop where
  state : after.state = conn.state
  trace : after.trace = conn.trace ++ .passed message :: writes
  writes : ∀ effect ∈ writes, effect.isWrite = true ∧ effect.isFault = false
  functors : conn.OnlyCallsBack after

namespace Sends

variable {conn after : TcpConnection Id} {message : List UInt8} {writes : List Effect}

theorem clean (sends : conn.Sends after message writes) :
    ∀ effect ∈ .passed message :: writes, effect.isFault = false := by
  intro effect member
  rcases List.mem_cons.mp member with rfl | written
  · rfl
  · exact (sends.writes effect written).2

theorem messages (sends : conn.Sends after message writes) :
    (.passed message :: writes).filterMap Effect.message? = [message] := by
  have silent : writes.filterMap Effect.message? = [] := by
    apply List.filterMap_eq_nil_iff.mpr
    intro effect member
    have write := (sends.writes effect member).1
    cases effect <;> first | rfl | cases write
  rw [List.filterMap_cons, silent]
  rfl

theorem notHalfClosed (sends : conn.Sends after message writes) :
    .shutdownWrite ∉ .passed message :: writes := by
  intro member
  rcases List.mem_cons.mp member with same | written
  · cases same
  · cases (sends.writes _ written).1

end Sends

theorem sendInLoop_sends [DecidableEq Id] {conn : TcpConnection Id}
    (up : conn.state ≠ .kDisconnected) {message : List UInt8} {answer : SocksWrite}
    (clean : (Effect.wrote (socksWrite message answer)).isFault = false) (ctl : EpollCtl Id) :
    ∃ writes, conn.Sends (conn.sendInLoop ctl message answer) message writes := by
  obtain ⟨down, _⟩ | ⟨_, _, _, buffers⟩ | ⟨_, _, buffers⟩ :=
    sendInLoop_cases ctl conn message answer
  · exact absurd down up
  · refine ⟨[.wrote (socksWrite message answer)], buffers.state, ?_, ?_, buffers.functors⟩
    · rw [buffers.trace]
      simp [record]
    · intro effect member
      rw [List.mem_singleton.mp member]
      exact ⟨rfl, clean⟩
  · exact ⟨[], buffers.state, buffers.trace, by simp, buffers.functors⟩

theorem shutdownInLoop_trace (conn : TcpConnection Id) :
    conn.shutdownInLoop.trace =
      conn.trace ++ if conn.isWriting then [] else [.shutdownWrite] := by
  unfold shutdownInLoop
  split <;> simp [record]

end TcpConnection

namespace SharedConnection

variable {Id : Type}

theorem Accounts.up {s : SharedConnection Id} (accounts : s.Accounts) :
    s.conn.state ≠ .kDisconnected := by
  rcases accounts.live with up | up <;> simp [up]

theorem Accounts.advances_refl {s : SharedConnection Id} (accounts : s.Accounts)
    {halfCloses : Prop} (never : ¬ halfCloses) : s.Advances s [] [] halfCloses where
  trace := (List.append_nil _).symm
  seen := (List.append_nil _).symm
  sound := accounts.sound
  clean := by simp
  state := .inl rfl
  messages := by simp
  unforced := accounts.unforced
  announced := accounts.announced
  halfClosed := by simp
  fresh_connected := .inl rfl
  written := by simp
  closes half := absurd half never
  keeps := by simp

theorem Accounts.advances_of_sends {s after : SharedConnection Id} (accounts : s.Accounts)
    {conn : TcpConnection Id} {message : List UInt8} {writes : List Effect}
    (sends : conn.Sends after.conn message writes) (sound : after.conn.StreamSound)
    (trace : conn.trace = s.conn.trace) (state : conn.state = s.conn.state)
    (functors : ∀ functor ∈ conn.pendingFunctors, functor ∈ s.conn.pendingFunctors)
    (waiting : after.shutdownsSet = s.shutdownsSet) {fresh : List (List UInt8)}
    (seen : after.seen = s.seen ++ fresh) (connected : fresh = [] ∨ s.conn.state = .kConnected)
    (messages : (message :: (after.sends ++ conn.pendingFunctors.filterMap Functor.message?)).Perm
      (s.pending ++ fresh)) :
    s.Advances after (.passed message :: writes) fresh False where
  trace := trace ▸ sends.trace
  seen := seen
  sound := sound
  clean := sends.clean
  state := .inl (sends.state.trans state)
  messages := by
    rw [sends.messages, pending, sends.functors.messages]
    exact messages
  unforced forced := accounts.unforced (functors _ (sends.functors.mem rfl forced))
  announced := by
    rw [waiting, sends.state, state]
    rintro (queued | waits)
    · exact accounts.announced (.inl (functors _ (sends.functors.mem rfl queued)))
    · exact accounts.announced (.inr waits)
  halfClosed closed := absurd closed sends.notHalfClosed
  fresh_connected := connected
  written _ _ _ := .inl (by simp [sends.messages])
  closes := False.elim
  keeps _ := sends.notHalfClosed

theorem Accounts.advances_of_shutdown {s after : SharedConnection Id} (accounts : s.Accounts)
    (conn : TcpConnection Id) (same : after.conn = conn.shutdownInLoop) (sound : conn.StreamSound)
    (trace : conn.trace = s.conn.trace) (state : conn.state = .kDisconnecting)
    (functors : ∀ functor ∈ conn.pendingFunctors, functor ∈ s.conn.pendingFunctors)
    (seen : after.seen = s.seen)
    (messages : after.sends ++ conn.pendingFunctors.filterMap Functor.message? = s.pending)
    (drained : conn.isWriting = false → conn.outputBuffer.readable = []) :
    s.Advances after (if conn.isWriting then [] else [.shutdownWrite]) []
      (conn.isWriting = false) := by
  have unchanged : conn.shutdownInLoop.pendingFunctors = conn.pendingFunctors := by
    unfold TcpConnection.shutdownInLoop
    split <;> rfl
  have closing : after.conn.state = .kDisconnecting := by
    rw [same]
    unfold TcpConnection.shutdownInLoop
    split <;> exact state
  exact
    { trace := by rw [same, conn.shutdownInLoop_trace, trace]
      seen := by rw [seen, List.append_nil]
      sound := same ▸ TcpConnection.shutdownInLoop_streamSound sound
      clean := by
        intro effect member
        split at member
        · cases member
        · rw [List.mem_singleton.mp member]
          rfl
      state := .inr closing
      messages := by
        rw [pending, same, unchanged, messages]
        split <;> simp [List.filterMap_cons, Effect.message?]
      unforced := by
        rw [same, unchanged]
        exact fun forced => accounts.unforced (functors _ forced)
      announced := fun _ => closing
      halfClosed := fun _ => closing
      fresh_connected := .inl rfl
      written := by
        intro effect member write
        split at member
        · cases member
        · rw [List.mem_singleton.mp member] at write
          cases write
      closes := by
        intro off
        refine ⟨by rw [pending, same, unchanged, messages], ?_, [], by simp, by simp [off]⟩
        rw [same]
        unfold TcpConnection.shutdownInLoop
        split <;> exact drained off
      keeps := by
        intro on
        simp [Bool.eq_false_iff.not_left.mp on] }

theorem Accounts.advances_of_callback {s : SharedConnection Id} (accounts : s.Accounts)
    {functor : Functor} {rest : List Functor} (found : s.conn.pendingFunctors = functor :: rest)
    (callback : functor.message? = none) {effect : Effect}
    (sound : ({ s.conn with pendingFunctors := rest }.record effect).StreamSound)
    (silent : effect.message? = none) (quiet : effect.Quiet) (unwritten : effect.isWrite = false)
    (other : effect ≠ .shutdownWrite) :
    s.Advances { s with conn := { s.conn with pendingFunctors := rest }.record effect }
      [effect] [] False where
  trace := rfl
  seen := (List.append_nil _).symm
  sound := sound
  clean := by
    intro recorded member
    rw [List.mem_singleton.mp member]
    exact quiet.isFault
  state := .inl rfl
  messages := by
    simp [pending, TcpConnection.record, found, silent, callback]
  unforced forced := by
    apply accounts.unforced
    rw [found]
    exact List.mem_cons_of_mem _ forced
  announced := by
    rintro (queued | waits)
    · apply accounts.announced (.inl _)
      rw [found]
      exact List.mem_cons_of_mem _ queued
    · exact accounts.announced (.inr waits)
  halfClosed closed := absurd (List.mem_singleton.mp closed).symm other
  fresh_connected := .inl rfl
  written recorded member write := by
    rw [List.mem_singleton.mp member, unwritten] at write
    cases write
  closes := False.elim
  keeps _ closed := other (List.mem_singleton.mp closed).symm

theorem Advances.congr {s after : SharedConnection Id} {effects : List Effect}
    {fresh : List (List UInt8)} {halfCloses other : Prop}
    (advances : s.Advances after effects fresh halfCloses) (same : halfCloses ↔ other) :
    s.Advances after effects fresh other :=
  { advances with
    closes := fun half => advances.closes (same.mpr half)
    keeps := fun unclosed => advances.keeps fun half => unclosed (same.mp half) }

theorem Accounts.drained {s : SharedConnection Id} (accounts : s.Accounts)
    (off : s.conn.isWriting = false) : s.conn.outputBuffer.readable = [] := by
  by_contra kept
  rw [accounts.outbound.writing.mpr kept] at off
  cases off

theorem mem_drainEffects {effect : Effect} {bytes : List UInt8} {closes : Prop}
    [Decidable closes]
    (member : effect ∈ .wrote (.taken bytes) :: if closes then [.shutdownWrite] else []) :
    effect = .wrote (.taken bytes) ∨ effect = .shutdownWrite ∧ closes := by
  rcases List.mem_cons.mp member with written | later
  · exact .inl written
  · split at later
    · next both => exact .inr ⟨List.mem_singleton.mp later, both⟩
    · cases later

section

variable [DecidableEq Id]

theorem testSend_advances {s : SharedConnection Id} (accounts : s.Accounts) (ctl : EpollCtl Id)
    (message : List UInt8) :
    ∃ fresh, s.Advances (s.step (ctl, .testSend message)) [] fresh False := by
  simp only [step]
  split
  · next connected =>
      refine ⟨[message], { accounts.advances_refl id with
        seen := rfl, messages := ?_, fresh_connected := .inr connected, closes := False.elim }⟩
      simp only [pending, List.filterMap_nil, List.nil_append, List.append_assoc]
      exact List.perm_append_comm.append_left s.sends
  · exact ⟨[], accounts.advances_refl id⟩

theorem queueSend_advances {s : SharedConnection Id} (accounts : s.Accounts) (ctl : EpollCtl Id)
    (position : Nat) : s.Advances (s.step (ctl, .queueSend position)) [] [] False := by
  simp only [step]
  split
  · next message found =>
      have sound : (s.conn.queueInLoop (.sendInLoop message)).StreamSound :=
        (TcpConnection.preserves_streamSound ctl).functors accounts.sound _
      have taken : (message :: s.sends.eraseIdx position).Perm s.sends := by
        obtain ⟨bound, same⟩ := List.getElem?_eq_some_iff.mp found
        rw [← same]
        exact List.getElem_cons_eraseIdx_perm bound
      refine { accounts.advances_refl id with
        sound, messages := ?_, unforced := ?_, announced := ?_, closes := False.elim }
      · simp only [pending, TcpConnection.queueInLoop, List.filterMap_append,
          List.filterMap_cons, Functor.message?, List.filterMap_nil, List.nil_append,
          List.append_nil, ← List.append_assoc]
        exact (List.perm_append_singleton _ _).trans (taken.append_right _)
      · simpa [TcpConnection.queueInLoop] using accounts.unforced
      · simpa [TcpConnection.queueInLoop, TcpConnection.setState] using accounts.announced
  · exact accounts.advances_refl id

theorem setShutdown_advances {s : SharedConnection Id} (accounts : s.Accounts)
    (ctl : EpollCtl Id) : s.Advances (s.step (ctl, .setShutdown)) [] [] False := by
  simp only [step]
  split
  · have sound : (s.conn.setState .kDisconnecting).StreamSound :=
      (TcpConnection.preserves_streamSound ctl).disconnecting accounts.sound accounts.live
    exact
      { accounts.advances_refl id with
        sound
        state := .inr rfl
        announced := fun _ => rfl
        halfClosed := fun _ => rfl }
  · exact accounts.advances_refl id

theorem queueShutdown_advances {s : SharedConnection Id} (accounts : s.Accounts)
    (ctl : EpollCtl Id) : s.Advances (s.step (ctl, .queueShutdown)) [] [] False := by
  simp only [step]
  split
  · next waiting =>
      have sound : (s.conn.queueInLoop .shutdownInLoop).StreamSound :=
        (TcpConnection.preserves_streamSound ctl).functors accounts.sound _
      refine { accounts.advances_refl id with
        sound, messages := ?_, unforced := ?_, announced := ?_, closes := False.elim }
      · simp [pending, TcpConnection.queueInLoop, List.filterMap_cons, Functor.message?]
      · simpa [TcpConnection.queueInLoop] using accounts.unforced
      · exact fun _ => accounts.announced (.inr waiting)
  · exact accounts.advances_refl id

theorem loopSend_advances {s : SharedConnection Id} (accounts : s.Accounts) (ctl : EpollCtl Id)
    {message : List UInt8} {answer : SocksWrite}
    (clean : (Effect.wrote (socksWrite message answer)).isFault = false) :
    ∃ effects fresh,
      s.Advances (s.step (ctl, .loopSend message answer)) effects fresh False := by
  simp only [step]
  by_cases connected : s.conn.state = .kConnected
  · obtain ⟨writes, sends⟩ := TcpConnection.sendInLoop_sends accounts.up clean ctl
    have sound := (TcpConnection.preserves_streamSound ctl).sendInLoop accounts.sound message answer
    simp only [TcpConnection.send, connected, if_true]
    refine ⟨.passed message :: writes, [message], ?_⟩
    apply accounts.advances_of_sends sends sound rfl rfl (fun _ => id)
    · rfl
    · rfl
    · exact .inr connected
    · exact (List.perm_append_singleton _ _).symm
  · simp only [TcpConnection.send, connected, if_false]
    exact ⟨[], [], accounts.advances_refl id⟩

theorem loopShutdown_advances {s : SharedConnection Id} (accounts : s.Accounts)
    (ctl : EpollCtl Id) :
    ∃ effects, s.Advances (s.step (ctl, .loopShutdown)) effects []
      (s.HalfCloses (ctl, .loopShutdown)) := by
  simp only [step, HalfCloses]
  by_cases connected : s.conn.state = .kConnected
  · have sound := (TcpConnection.preserves_streamSound ctl).disconnecting accounts.sound accounts.live
    have half : (s.conn.setState .kDisconnecting).isWriting = false ↔
        s.conn.state = .kConnected ∧ s.conn.isWriting = false := (and_iff_right connected).symm
    refine ⟨if s.conn.isWriting then [] else [.shutdownWrite], Advances.congr ?_ half⟩
    apply accounts.advances_of_shutdown _ _ sound rfl rfl (fun _ => id)
    · rfl
    · rfl
    · exact accounts.drained
    · simp [TcpConnection.shutdown, connected, TcpConnection.runInLoop, TcpConnection.execute]
  · simp only [TcpConnection.shutdown, connected, if_false]
    exact ⟨[], accounts.advances_refl fun half => half.1⟩

theorem handleWrite_advances {s : SharedConnection Id} (accounts : s.Accounts) (ctl : EpollCtl Id)
    {answer : SocksWrite} (moves : s.conn.isWriting = true →
      0 < (socksWrite s.conn.outputBuffer.readable answer).n) :
    ∃ effects, s.Advances (s.step (ctl, .handleWrite answer)) effects []
      (s.HalfCloses (ctl, .handleWrite answer)) := by
  have sound := (TcpConnection.preserves_streamSound ctl).handleWrite accounts.sound answer
  simp only [step, HalfCloses]
  obtain ⟨off, same⟩ | ⟨on, refused, _⟩ | ⟨bytes, on, wrote, drains⟩ :=
    TcpConnection.handleWrite_cases ctl s.conn answer
  · rw [same]
    exact ⟨[], accounts.advances_refl fun half => by simp [off] at half⟩
  · have := moves on
    omega
  · have whole_iff : socksWrite s.conn.outputBuffer.readable answer =
        .taken s.conn.outputBuffer.readable ↔
        (s.conn.handleWrite ctl answer).outputBuffer.readable = [] := by
      rw [wrote, WriteOutcome.taken.injEq]
      exact drains.whole_iff
    refine ⟨_,
      { trace := drains.trace
        seen := (List.append_nil _).symm
        sound
        clean := ?_
        state := .inl drains.state
        messages := ?_
        unforced := fun forced => accounts.unforced (drains.functors.mem rfl forced)
        announced := ?_
        halfClosed := ?_
        fresh_connected := .inl rfl
        written := fun _ _ _ => .inr on
        closes := ?_
        keeps := ?_ }⟩
    · intro effect member
      rcases mem_drainEffects member with rfl | ⟨rfl, _⟩ <;> rfl
    · rw [pending, drains.functors.messages]
      split <;> simp [List.filterMap_cons, Effect.message?, pending]
    · rw [drains.state]
      rintro (queued | waits)
      · exact accounts.announced (.inl (drains.functors.mem rfl queued))
      · exact accounts.announced (.inr waits)
    · intro closed
      rcases mem_drainEffects closed with written | ⟨_, _, closing⟩
      · cases written
      · exact drains.state.trans closing
    · rintro ⟨_, closing, whole⟩
      have drained := whole_iff.mp whole
      refine ⟨by rw [pending, drains.functors.messages]; rfl, drained,
        [.wrote (.taken bytes)], by simp, ?_⟩
      rw [if_pos ⟨drained, closing⟩]
      rfl
    · intro unclosed closed
      rcases mem_drainEffects closed with written | ⟨_, drained, closing⟩
      · cases written
      · exact unclosed ⟨on, closing, whole_iff.mpr drained⟩

theorem executeNext_advances {s : SharedConnection Id} (accounts : s.Accounts)
    (ctl : EpollCtl Id) {answer : SocksWrite}
    (clean : ∀ message, s.conn.pendingFunctors.head? = some (.sendInLoop message) →
      (Effect.wrote (socksWrite message answer)).isFault = false) :
    ∃ effects, s.Advances (s.step (ctl, .executeNext answer)) effects []
      (s.HalfCloses (ctl, .executeNext answer)) := by
  have preserves : TcpConnection.Preserves ctl (TcpConnection.StreamSound : TcpConnection Id → Prop) :=
    TcpConnection.preserves_streamSound ctl
  simp only [step, HalfCloses, TcpConnection.executeNext]
  split
  · next empty => exact ⟨[], accounts.advances_refl fun half => by simp [empty] at half⟩
  · next functor rest found =>
      have popped : { s.conn with pendingFunctors := rest }.StreamSound :=
        preserves.functors accounts.sound rest
      have inside : ∀ other ∈ rest, other ∈ s.conn.pendingFunctors := by
        intro other member
        rw [found]
        exact List.mem_cons_of_mem _ member
      have head : s.conn.pendingFunctors.head? = some functor := by rw [found]; rfl
      rw [head]
      cases functor with
      | sendInLoop message =>
          have up : { s.conn with pendingFunctors := rest }.state ≠ .kDisconnected := accounts.up
          obtain ⟨writes, sends⟩ := TcpConnection.sendInLoop_sends up (clean message head) ctl
          have half : False ↔ some (Functor.sendInLoop message) = some .shutdownInLoop ∧
              s.conn.isWriting = false := by simp
          refine ⟨.passed message :: writes, Advances.congr ?_ half⟩
          apply accounts.advances_of_sends sends
          · exact preserves.sendInLoop popped message answer
          · rfl
          · rfl
          · exact inside
          · rfl
          · exact (List.append_nil _).symm
          · exact .inl rfl
          · rw [pending, found, List.append_nil]
            exact List.perm_middle.symm
      | shutdownInLoop =>
          have closing := accounts.announced (.inl (List.mem_of_mem_head? head))
          have half : { s.conn with pendingFunctors := rest }.isWriting = false ↔
              some Functor.shutdownInLoop = some .shutdownInLoop ∧ s.conn.isWriting = false :=
            (and_iff_right rfl).symm
          refine ⟨if s.conn.isWriting then [] else [.shutdownWrite], Advances.congr ?_ half⟩
          apply accounts.advances_of_shutdown _ _ popped rfl closing inside
          · rfl
          · rw [pending, found]
            rfl
          · exact accounts.drained
          · rfl
      | forceCloseInLoop => exact absurd (List.mem_of_mem_head? head) accounts.unforced
      | writeCompleteCallback =>
          refine ⟨_, (accounts.advances_of_callback found rfl (preserves.writeComplete popped) rfl
            ⟨rfl, rfl, rfl⟩ rfl (by decide)).congr ?_⟩
          simp
      | highWaterMarkCallback size =>
          refine ⟨_, (accounts.advances_of_callback found rfl (preserves.highWaterMark popped size)
            rfl ⟨rfl, rfl, rfl⟩ rfl (by simp)).congr ?_⟩
          simp

theorem step_advances {s : SharedConnection Id} (accounts : s.Accounts)
    {action : EpollCtl Id × ThreadStep} (fine : s.NoSocketError action) :
    ∃ effects fresh, s.Advances (s.step action) effects fresh (s.HalfCloses action) := by
  obtain ⟨ctl, action⟩ := action
  cases action with
  | testSend message => exact ⟨[], testSend_advances accounts ctl message⟩
  | queueSend position => exact ⟨[], [], queueSend_advances accounts ctl position⟩
  | testShutdown =>
      simp only [step]
      split
      · exact ⟨[], [], { accounts.advances_refl id with }⟩
      · exact ⟨[], [], accounts.advances_refl id⟩
  | setShutdown => exact ⟨[], [], setShutdown_advances accounts ctl⟩
  | queueShutdown => exact ⟨[], [], queueShutdown_advances accounts ctl⟩
  | loopSend message answer => exact loopSend_advances accounts ctl fine
  | loopShutdown =>
      obtain ⟨effects, advances⟩ := loopShutdown_advances accounts ctl
      exact ⟨effects, [], advances⟩
  | executeNext answer =>
      obtain ⟨effects, advances⟩ := executeNext_advances accounts ctl fine
      exact ⟨effects, [], advances⟩
  | handleWrite answer =>
      obtain ⟨effects, advances⟩ := handleWrite_advances accounts ctl fine
      exact ⟨effects, [], advances⟩

end

/-!
## When nothing is pending
-/

/-- Once the socket is half-closed nothing is left to write, and nothing has been written
since. -/
structure Settled (s : SharedConnection Id) : Prop where
  pending : .shutdownWrite ∈ s.conn.trace → s.pending = []
  drained : .shutdownWrite ∈ s.conn.trace → s.conn.outputBuffer.readable = []
  late : s.conn.trace.Pairwise fun first later =>
    first = .shutdownWrite → later.isWrite = false

theorem accepted_of_unwritten {effects : List Effect}
    (unwritten : ∀ effect ∈ effects, effect.isWrite = false) :
    effects.flatMap Effect.accepted = [] := by
  apply List.flatMap_eq_nil_iff.mpr
  intro effect member
  have silent := unwritten effect member
  cases effect <;> first | rfl | cases silent

theorem Advances.settled_of_closed {s after : SharedConnection Id} {effects : List Effect}
    {fresh : List (List UInt8)} {halfCloses : Prop} (accounts : s.Accounts) (settled : s.Settled)
    (closed : .shutdownWrite ∈ s.conn.trace)
    (advances : s.Advances after effects fresh halfCloses) : after.Settled := by
  have noneFresh : fresh = [] := by
    rcases advances.fresh_connected with nothing | connected
    · exact nothing
    · rw [accounts.halfClosed closed] at connected
      cases connected
  have moved := advances.messages
  rw [noneFresh, settled.pending closed] at moved
  obtain ⟨noneSent, nonePending⟩ := List.append_eq_nil_iff.mp moved.eq_nil
  have off : s.conn.isWriting = false := by
    apply Bool.eq_false_iff.mpr
    intro on
    exact accounts.outbound.writing.mp on (settled.drained closed)
  have unwritten : ∀ effect ∈ effects, effect.isWrite = false := by
    intro effect member
    apply Bool.eq_false_iff.mpr
    intro write
    rcases advances.written effect member write with sent | on
    · exact sent noneSent
    · rw [off] at on
      cases on
  refine ⟨fun _ => nonePending, fun _ => ?_, ?_⟩
  · have before := accounts.outbound.stream
    have now := (accounts.advance advances).outbound.stream
    have sameAccepted : after.conn.accepted = s.conn.accepted := by
      rw [TcpConnection.accepted, advances.trace, List.flatMap_append,
        accepted_of_unwritten unwritten, List.append_nil]
      rfl
    have sameSent : after.conn.sent = s.conn.sent := by
      rw [TcpConnection.sent, advances.trace, List.flatMap_append, sent_eq_flatten effects,
        noneSent, List.flatten_nil, List.append_nil]
      rfl
    rw [sameAccepted, sameSent, ← before, settled.drained closed] at now
    simpa using now
  · rw [advances.trace]
    refine List.pairwise_append.mpr ⟨settled.late, ?_, fun _ _ later member _ => unwritten later member⟩
    exact List.pairwise_of_forall_mem_list fun _ _ later member _ => unwritten later member

theorem Advances.settled_of_open {s after : SharedConnection Id} {effects : List Effect}
    {fresh : List (List UInt8)} {halfCloses : Prop} (unclosed : .shutdownWrite ∉ s.conn.trace)
    (advances : s.Advances after effects fresh halfCloses) (idle : halfCloses → s.pending = []) :
    after.Settled := by
  by_cases half : halfCloses
  · obtain ⟨same, drained, writes, quiet, rfl⟩ := advances.closes half
    refine ⟨fun _ => by rw [same, idle half], fun _ => drained, ?_⟩
    rw [advances.trace, ← List.append_assoc]
    refine List.pairwise_append.mpr ⟨?_, List.pairwise_singleton _ _, ?_⟩
    · refine List.pairwise_of_forall_mem_list fun first member _ _ mark => ?_
      rw [mark] at member
      exact absurd member (by simp [unclosed, quiet])
    · intro _ _ later member _
      rw [List.mem_singleton.mp member]
      rfl
  · have still : .shutdownWrite ∉ after.conn.trace := by
      rw [advances.trace]
      simp [unclosed, advances.keeps half]
    refine ⟨fun closed => absurd closed still, fun closed => absurd closed still, ?_⟩
    refine List.pairwise_of_forall_mem_list fun first member _ _ mark => ?_
    rw [mark] at member
    exact absurd member still

theorem Settled.graceful {s : SharedConnection Id} (accounts : s.Accounts) (settled : s.Settled) :
    s.Graceful := by
  intro before after split
  have closed : .shutdownWrite ∈ s.conn.trace := by simp [split]
  have unwritten : ∀ effect ∈ after, effect.isWrite = false := by
    have late := settled.late
    rw [split] at late
    intro effect member
    exact (List.pairwise_cons.mp (List.pairwise_append.mp late).2.1).1 effect member rfl
  refine ⟨⟨s.conn.trace.filterMap Effect.message?, ?_, ?_⟩, unwritten⟩
  · have messages := accounts.messages
    rw [settled.pending closed, List.append_nil] at messages
    exact messages
  · have stream := accounts.outbound.stream
    rw [settled.drained closed, List.append_nil, List.append_nil, TcpConnection.sent,
      sent_eq_flatten] at stream
    rw [← stream, TcpConnection.accepted, split, List.flatMap_append, List.flatMap_cons,
      accepted_of_unwritten unwritten]
    simp [Effect.accepted]

/-!
## Every run
-/

section

variable [DecidableEq Id]

theorem step_accounts (s : SharedConnection Id) (action : EpollCtl Id × ThreadStep)
    (accounts : s.Accounts) (fine : s.NoSocketError action) : (s.step action).Accounts := by
  obtain ⟨effects, fresh, advances⟩ := step_advances accounts fine
  exact accounts.advance advances

theorem step_settled (s : SharedConnection Id) (action : EpollCtl Id × ThreadStep)
    (invariant : s.Accounts ∧ s.Settled)
    (guarded : s.NoSocketError action ∧ s.NothingPending action) :
    (s.step action).Accounts ∧ (s.step action).Settled := by
  obtain ⟨accounts, settled⟩ := invariant
  obtain ⟨fine, idle⟩ := guarded
  obtain ⟨effects, fresh, advances⟩ := step_advances accounts fine
  refine ⟨accounts.advance advances, ?_⟩
  by_cases closed : .shutdownWrite ∈ s.conn.trace
  · exact advances.settled_of_closed accounts settled closed
  · exact advances.settled_of_open closed idle

theorem run_extends {s : SharedConnection Id} (accounts : s.Accounts)
    {actions : List (EpollCtl Id × ThreadStep)} (fine : Guarded step NoSocketError s actions) :
    (∃ effects, (run step s actions).conn.trace = s.conn.trace ++ effects) ∧
      ∃ fresh, (run step s actions).seen = s.seen ++ fresh := by
  refine (run_invariant
    (fun t => t.Accounts ∧ (∃ effects, t.conn.trace = s.conn.trace ++ effects) ∧
      ∃ fresh, t.seen = s.seen ++ fresh) ?_ ⟨accounts, ⟨[], by simp⟩, [], by simp⟩ fine).2
  rintro t action ⟨accounts, ⟨effects, trace⟩, fresh, seen⟩ fine
  obtain ⟨more, other, advances⟩ := step_advances accounts fine
  refine ⟨accounts.advance advances, ⟨effects ++ more, ?_⟩, fresh ++ other, ?_⟩
  · rw [advances.trace, trace, List.append_assoc]
  · rw [advances.seen, seen, List.append_assoc]

/-- A half-close in front of bytes that are still on their way cuts them off: no later
step makes up for it. -/
theorem not_graceful_of_cut {s : SharedConnection Id} (accounts : s.Accounts)
    {action : EpollCtl Id × ThreadStep} (fine : s.NoSocketError action)
    (half : s.HalfCloses action) (cut : s.pending.flatten ≠ [])
    {rest : List (EpollCtl Id × ThreadStep)}
    (later : Guarded step NoSocketError (s.step action) rest) :
    ¬ (run step (s.step action) rest).Graceful := by
  intro graceful
  obtain ⟨effects, fresh, advances⟩ := step_advances accounts fine
  have now := accounts.advance advances
  obtain ⟨same, drained, writes, _, rfl⟩ := advances.closes half
  obtain ⟨⟨more, trace⟩, unseen, seen⟩ := run_extends now later
  rw [advances.trace, ← List.append_assoc, List.append_assoc _ [Effect.shutdownWrite]] at trace
  obtain ⟨⟨order, whole, accepted⟩, _⟩ := graceful _ _ trace
  have stream := now.outbound.stream
  rw [drained, List.append_nil, List.append_nil, TcpConnection.accepted, advances.trace,
    ← List.append_assoc, List.flatMap_append, accepted] at stream
  have total := whole.flatten.length_eq
  have counted := now.messages.flatten.length_eq
  have lost := List.length_pos_iff.mpr cut
  have sizes := congrArg List.length stream
  rw [TcpConnection.sent, sent_eq_flatten] at sizes
  rw [seen, List.flatten_append, List.length_append] at total
  rw [same, List.flatten_append, List.length_append] at counted
  rw [List.length_append] at sizes
  omega

theorem established_accounts (poller : EpollPoller Id) (channel : Id) (sockfd : Int)
    (writeComplete highWater : Bool) (highWaterMark : Nat) (ctl : EpollCtl Id)
    (conn : TcpConnection Id)
    (built : conn = (TcpConnection.new poller channel sockfd writeComplete highWater
      highWaterMark).connEstablished ctl)
    (connected : conn.state = .kConnected) : (start conn).Accounts ∧ (start conn).Settled := by
  have sound : conn.StreamSound := by
    rw [built]
    exact TcpConnection.connEstablished_streamSound
      (TcpConnection.new_streamSound poller channel sockfd writeComplete highWater highWaterMark) ctl
  have fresh : conn.Fresh := by
    rw [built] at connected ⊢
    exact TcpConnection.connEstablished_fresh connected
  obtain ⟨trace, functors, -, -⟩ := fresh
  have unclosed : .shutdownWrite ∉ conn.trace := by simp [trace]
  constructor
  · exact
      { sound
        live := .inl connected
        clean := by simp [start, TcpConnection.faulted, trace, Effect.isFault]
        messages := by simp [start, pending, trace, functors, List.filterMap_cons, Effect.message?]
        unforced := by simp [start, functors]
        announced := by simp [start, functors]
        halfClosed := fun closed => absurd closed unclosed }
  · refine ⟨fun closed => absurd closed unclosed, fun closed => absurd closed unclosed, ?_⟩
    simp [start, trace]

/-- For every interleaving without socket errors: if the socket is half-closed only when no
message is on its way, every half-close finds all messages accepted and no write comes
after it. A half-close in front of a message that is on its way and is not empty breaks
this for good. -/
theorem graceful_shutdown (poller : EpollPoller Id) (channel : Id) (sockfd : Int)
    (writeComplete highWater : Bool) (highWaterMark : Nat) (ctl : EpollCtl Id)
    (conn : TcpConnection Id)
    (built : conn = (TcpConnection.new poller channel sockfd writeComplete highWater
      highWaterMark).connEstablished ctl)
    (connected : conn.state = .kConnected) (actions : List (EpollCtl Id × ThreadStep))
    (fine : Guarded step NoSocketError (start conn) actions) :
    (Guarded step NothingPending (start conn) actions →
      (run step (start conn) actions).Graceful) ∧
    ∀ before action after, actions = before ++ action :: after →
      (run step (start conn) before).HalfCloses action →
      (run step (start conn) before).pending.flatten ≠ [] →
      ¬ (run step (start conn) actions).Graceful := by
  obtain ⟨accounts, settled⟩ := established_accounts poller channel sockfd writeComplete highWater
    highWaterMark ctl conn built connected
  constructor
  · intro idle
    have invariant := run_invariant (fun s => s.Accounts ∧ s.Settled) step_settled
      ⟨accounts, settled⟩ (fine.and idle)
    exact invariant.2.graceful invariant.1
  · rintro before action after rfl half cut
    obtain ⟨early, now, later⟩ := guarded_append.mp fine
    rw [run_append, run_cons]
    exact not_graceful_of_cut (run_invariant Accounts step_accounts accounts early) now half cut later

end

private def upConnection : TcpConnection Unit :=
  (TcpConnection.new (.new fun _ => 0) () 5 false false 0).connEstablished mapCtl

/-- Another thread has put a message of one byte into the loop when the loop thread calls
`shutdown()`: the socket is half-closed before the byte is written. -/
theorem queued_message_cut :
    ¬ (run step (start upConnection) [(mapCtl, .testSend [7]), (mapCtl, .queueSend 0),
      (mapCtl, .loopShutdown)]).Graceful := by
  intro graceful
  obtain ⟨⟨order, whole, accepted⟩, _⟩ := graceful [.connCallback true] [] (by decide)
  rw [List.perm_singleton.mp whole] at accepted
  cases accepted

private def sendAndShutdown : List (EpollCtl Unit × ThreadStep) :=
  [(mapCtl, .loopSend [1, 2] (.accepted 2)), (mapCtl, .loopShutdown)]

theorem sendAndShutdown_graceful :
    (run step (start upConnection) sendAndShutdown).Graceful := by
  have clean : (Effect.wrote (socksWrite [1, 2] (.accepted 2))).isFault = false := by decide
  have fine : Guarded step NoSocketError (start upConnection) sendAndShutdown :=
    ⟨clean, trivial, trivial⟩
  refine (graceful_shutdown (.new fun _ => 0) () 5 false false 0 mapCtl upConnection rfl (by decide)
    sendAndShutdown fine).1 ⟨False.elim, fun _ => ?_, trivial⟩
  decide

end SharedConnection

end Talko.Network
