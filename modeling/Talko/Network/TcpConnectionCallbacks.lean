import Talko.Network.TcpConnectionStream

/-!
# The callbacks for back pressure

When `_send_in_loop` and `_handle_write` queue `write_complete_callback_` and
`high_water_mark_callback_`: the first where all that was sent has been taken by the socket, the
second where a send takes the buffer over the mark.
-/

set_option autoImplicit false

namespace Talko.Network

open Talko.Library

/-- The steps that move the output buffer. -/
inductive SendStep where
  | sendInLoop (data : List UInt8) (answer : SocksWrite)
  | handleWrite (answer : SocksWrite)
  deriving DecidableEq, Repr

namespace SendStep

def toConnStep : SendStep → ConnStep
  | .sendInLoop data answer => .sendInLoop data answer
  | .handleWrite answer => .handleWrite answer

def isSend : SendStep → Bool
  | .sendInLoop _ _ => true
  | .handleWrite _ => false

end SendStep

namespace TcpConnection

variable {Id : Type}

def bufferSize (conn : TcpConnection Id) : Nat :=
  conn.outputBuffer.readable.length

/-- Both callbacks are set, and the mark is this one. -/
structure Watched (mark : Nat) (conn : TcpConnection Id) : Prop where
  writeComplete : conn.hasWriteCompleteCallback = true
  highWater : conn.hasHighWaterMarkCallback = true
  mark : conn.highWaterMark = mark

theorem Watched.of_same {conn after : TcpConnection Id} {mark : Nat} (watched : conn.Watched mark)
    (writeComplete : after.hasWriteCompleteCallback = conn.hasWriteCompleteCallback)
    (highWater : after.hasHighWaterMarkCallback = conn.hasHighWaterMarkCallback)
    (same : after.highWaterMark = conn.highWaterMark) : after.Watched mark :=
  ⟨writeComplete.trans watched.writeComplete, highWater.trans watched.highWater,
    same.trans watched.mark⟩

theorem Watched.ite {first second : TcpConnection Id} {mark : Nat} (due : Prop) [Decidable due]
    (one : first.Watched mark) (other : second.Watched mark) :
    (if due then first else second).Watched mark := by
  split
  · exact one
  · exact other

/-- The callbacks that a step queues are those that it should. -/
structure TellsExactly (mark : Nat) (conn after : TcpConnection Id) (sends : Bool)
    (functors : List Functor) : Prop where
  queued : after.pendingFunctors = conn.pendingFunctors ++ functors
  once : functors.Nodup
  complete : .writeCompleteCallback ∈ functors →
    after.outputBuffer.readable = [] ∧ after.accepted = after.sent
  drained : conn.outputBuffer.readable ≠ [] → after.outputBuffer.readable = [] →
    .writeCompleteCallback ∈ functors
  crossing : ∀ size, .highWaterMarkCallback size ∈ functors ↔
    sends = true ∧ conn.bufferSize < mark ∧ mark ≤ after.bufferSize ∧ size = after.bufferSize

/-- A step that queues `high_water_mark_callback_`. -/
def Notifies (conn after : TcpConnection Id) : Prop :=
  ∃ functors size, after.pendingFunctors = conn.pendingFunctors ++ functors ∧
    .highWaterMarkCallback size ∈ functors

theorem TellsExactly.below_of_notifies {mark : Nat} {conn after : TcpConnection Id} {sends : Bool}
    {functors : List Functor} (tells : TellsExactly mark conn after sends functors)
    (notifies : conn.Notifies after) : conn.bufferSize < mark := by
  obtain ⟨queued, size, same, member⟩ := notifies
  rw [tells.queued, List.append_cancel_left_eq] at same
  exact ((tells.crossing size).mp (same ▸ member)).2.1

/-- The callback for a size that grows by `added`. -/
def crossed (mark size added : Nat) : List Functor :=
  if size < mark ∧ mark ≤ size + added then [.highWaterMarkCallback (size + added)] else []

theorem mem_crossed {mark size added : Nat} {functor : Functor} :
    functor ∈ crossed mark size added ↔
      size < mark ∧ mark ≤ size + added ∧ functor = .highWaterMarkCallback (size + added) := by
  unfold crossed
  split
  · rename_i crosses
    simp [crosses]
  · rename_i stays
    simp only [List.not_mem_nil, false_iff]
    exact fun ⟨below, above, _⟩ => stays ⟨below, above⟩

theorem crossed_nodup (mark size added : Nat) : (crossed mark size added).Nodup := by
  unfold crossed
  split
  · exact List.nodup_singleton _
  · exact List.nodup_nil

/-- The callback of a direct write that took all of the data. -/
def completed (data : List UInt8) : WriteOutcome → List Functor
  | .taken bytes => if data.drop bytes.length = [] then [.writeCompleteCallback] else []
  | .failed _ => []

theorem completed_nodup (data : List UInt8) (outcome : WriteOutcome) :
    (completed data outcome).Nodup := by
  cases outcome with
  | failed errno => exact List.nodup_nil
  | taken bytes =>
      dsimp only [completed]
      split
      · exact List.nodup_singleton _
      · exact List.nodup_nil

theorem StreamSound.accepted_of_empty {conn : TcpConnection Id} (sound : conn.StreamSound)
    (live : conn.state ≠ .kDisconnected) (clean : conn.faulted = false)
    (empty : conn.outputBuffer.readable = []) : conn.accepted = conn.sent := by
  have stream := sound.stream live clean
  rwa [empty, List.append_nil] at stream

/-!
## The mark and the callbacks stay
-/

theorem shutdownInLoop_watched {conn : TcpConnection Id} {mark : Nat}
    (watched : conn.Watched mark) : conn.shutdownInLoop.Watched mark := by
  unfold shutdownInLoop
  split
  · exact watched
  · exact watched.of_same rfl rfl rfl

section

variable [DecidableEq Id]

theorem bufferRemaining_watched {conn : TcpConnection Id} {mark : Nat}
    (watched : conn.Watched mark) (ctl : EpollCtl Id) (data : List UInt8) (nwrote : Nat)
    (faultError : Bool) : (conn.bufferRemaining ctl data nwrote faultError).Watched mark := by
  have told (due : Prop) [Decidable due] (functor : Functor) :
      (if due then conn.queueInLoop functor else conn).Watched mark :=
    .ite due (watched.of_same rfl rfl rfl) watched
  unfold bufferRemaining
  dsimp only
  apply Watched.ite _ watched
  apply Watched.ite _ _ watched
  exact .ite _ ((told _ _).of_same rfl rfl rfl) ((told _ _).of_same rfl rfl rfl)

theorem afterDirectWrite_watched {conn : TcpConnection Id} {mark : Nat}
    (watched : conn.Watched mark) (ctl : EpollCtl Id) (data : List UInt8)
    (outcome : WriteOutcome) : (conn.afterDirectWrite ctl data outcome).Watched mark := by
  cases outcome with
  | failed errno =>
      apply bufferRemaining_watched
      exact watched.of_same rfl rfl rfl
  | taken bytes =>
      apply bufferRemaining_watched
      exact .ite _ (watched.of_same rfl rfl rfl) (watched.of_same rfl rfl rfl)

theorem sendInLoop_watched {conn : TcpConnection Id} {mark : Nat} (watched : conn.Watched mark)
    (ctl : EpollCtl Id) (data : List UInt8) (answer : SocksWrite) :
    (conn.sendInLoop ctl data answer).Watched mark := by
  have called : (conn.record (.passed data)).Watched mark := watched.of_same rfl rfl rfl
  unfold sendInLoop
  dsimp only
  apply Watched.ite _ watched
  apply Watched.ite
  · exact afterDirectWrite_watched called ctl data _
  · exact bufferRemaining_watched called ctl data 0 false

theorem handleClose_watched {conn : TcpConnection Id} {mark : Nat} (watched : conn.Watched mark)
    (ctl : EpollCtl Id) : (conn.handleClose ctl).Watched mark := by
  unfold handleClose
  split
  · exact watched
  · exact watched.of_same rfl rfl rfl

theorem writeFinished_watched {conn : TcpConnection Id} {mark : Nat}
    (watched : conn.Watched mark) (ctl : EpollCtl Id) : (conn.writeFinished ctl).Watched mark := by
  have quiet : (conn.disableWriting ctl).Watched mark := watched.of_same rfl rfl rfl
  have called : ((conn.disableWriting ctl).queueInLoop .writeCompleteCallback).Watched mark :=
    quiet.of_same rfl rfl rfl
  have told := Watched.ite ((conn.disableWriting ctl).hasWriteCompleteCallback = true) called quiet
  unfold writeFinished
  exact .ite _ (shutdownInLoop_watched told) told

theorem handleWrite_watched {conn : TcpConnection Id} {mark : Nat} (watched : conn.Watched mark)
    (ctl : EpollCtl Id) (answer : SocksWrite) : (conn.handleWrite ctl answer).Watched mark := by
  have drained (outcome : WriteOutcome) :
      ((conn.record (.wrote outcome)).retrieveOutput outcome.n.toNat).Watched mark :=
    watched.of_same rfl rfl rfl
  unfold handleWrite afterBufferedWrite
  dsimp only
  apply Watched.ite _ _ watched
  apply Watched.ite
  · exact .ite _ (writeFinished_watched (drained _) ctl) (drained _)
  · apply handleClose_watched
    exact watched.of_same rfl rfl rfl

theorem connEstablished_watched {conn : TcpConnection Id} {mark : Nat}
    (watched : conn.Watched mark) (ctl : EpollCtl Id) :
    (conn.connEstablished ctl).Watched mark := by
  unfold connEstablished
  split
  · exact watched
  · dsimp only
    split
    · exact watched.of_same rfl rfl rfl
    · apply handleClose_watched
      exact watched.of_same rfl rfl rfl

theorem connDestroyed_watched {conn : TcpConnection Id} {mark : Nat}
    (watched : conn.Watched mark) (ctl : EpollCtl Id) : (conn.connDestroyed ctl).Watched mark := by
  unfold connDestroyed
  dsimp only
  split
  · exact watched.of_same rfl rfl rfl
  · exact watched.of_same rfl rfl rfl

theorem handleRead_watched {conn : TcpConnection Id} {mark : Nat} (watched : conn.Watched mark)
    (ctl : EpollCtl Id) (answer : SocksRead) : (conn.handleRead ctl answer).Watched mark := by
  unfold handleRead
  dsimp only
  split
  · exact watched.of_same rfl rfl rfl
  · split
    · apply handleClose_watched
      exact watched.of_same rfl rfl rfl
    · apply handleClose_watched
      exact watched.of_same rfl rfl rfl

theorem preserves_watched (ctl : EpollCtl Id) (mark : Nat) :
    Preserves ctl (Watched mark : TcpConnection Id → Prop) where
  connEstablished watched := connEstablished_watched watched ctl
  sendInLoop watched := sendInLoop_watched watched ctl
  shutdownInLoop := shutdownInLoop_watched
  handleClose watched := handleClose_watched watched ctl
  handleRead watched := handleRead_watched watched ctl
  handleWrite watched := handleWrite_watched watched ctl
  connDestroyed watched := connDestroyed_watched watched ctl
  disconnecting watched _ := watched.of_same rfl rfl rfl
  functors watched _ := watched.of_same rfl rfl rfl
  writeComplete watched := watched.of_same rfl rfl rfl
  highWaterMark watched _ := watched.of_same rfl rfl rfl

/-!
## What each member queues
-/

theorem bufferRemaining_functors {conn : TcpConnection Id} {mark : Nat}
    (watched : conn.Watched mark) (ctl : EpollCtl Id) (data : List UInt8) (nwrote : Nat) :
    (conn.bufferRemaining ctl data nwrote false).pendingFunctors =
      conn.pendingFunctors ++ crossed mark conn.bufferSize (data.drop nwrote).length := by
  have size : conn.outputBuffer.bbBytesReadable = conn.bufferSize :=
    FormedBuffer.bbBytesReadable_eq conn.outputBuffer
  unfold bufferRemaining
  dsimp only
  rw [if_neg (by omega), size, watched.mark, watched.highWater]
  by_cases left : data.length - nwrote > 0
  · rw [if_pos ⟨rfl, left⟩]
    generalize marked : (if conn.bufferSize + (data.length - nwrote) ≥ mark ∧
        conn.bufferSize < mark ∧ true = true then _ else conn) = told
    have queued : told.pendingFunctors =
        conn.pendingFunctors ++ crossed mark conn.bufferSize (data.drop nwrote).length := by
      rw [← marked, crossed, List.length_drop]
      by_cases crosses : conn.bufferSize < mark ∧ mark ≤ conn.bufferSize + (data.length - nwrote)
      · rw [if_pos ⟨crosses.2, crosses.1, rfl⟩, if_pos crosses]
        rfl
      · rw [if_neg (fun all => crosses ⟨all.2.1, all.1⟩), if_neg crosses, List.append_nil]
    split
    · exact queued
    · exact queued
  · have none : data.drop nwrote = [] := List.drop_eq_nil_of_le (by omega)
    have stays : crossed mark conn.bufferSize 0 = [] := if_neg (by omega)
    rw [if_neg (fun both => left both.2), none, List.length_nil, stays, List.append_nil]

theorem afterDirectWrite_functors {conn : TcpConnection Id} {mark : Nat}
    (watched : conn.Watched mark) (ctl : EpollCtl Id) (data : List UInt8) {outcome : WriteOutcome}
    (clean : (Effect.wrote outcome).isFault = false) :
    (conn.afterDirectWrite ctl data outcome).pendingFunctors =
      conn.pendingFunctors ++
        (completed data outcome ++ crossed mark conn.bufferSize (outcome.left data).length) := by
  cases outcome with
  | taken bytes =>
      have all : data.drop bytes.length = [] ↔ data.length - bytes.length = 0 := by
        rw [List.drop_eq_nil_iff]
        omega
      simp only [afterDirectWrite, completed, WriteOutcome.left, all, watched.writeComplete,
        and_true]
      generalize marked : (if data.length - bytes.length = 0 then _ else
        conn.record (.wrote (.taken bytes))) = told
      have tells : told.pendingFunctors = conn.pendingFunctors ++
          if data.length - bytes.length = 0 then [.writeCompleteCallback] else [] := by
        rw [← marked]
        split
        · rfl
        · exact (List.append_nil _).symm
      have watchedTold : told.Watched mark ∧ told.bufferSize = conn.bufferSize := by
        rw [← marked]
        split
        · exact ⟨watched.of_same rfl rfl rfl, rfl⟩
        · exact ⟨watched.of_same rfl rfl rfl, rfl⟩
      rw [bufferRemaining_functors watchedTold.1, tells, watchedTold.2, List.append_assoc]
  | failed errno =>
      have lasting : (errno == .EPIPE || errno == .ECONNRESET) = false := by
        cases errno with
        | EPIPE => cases clean
        | ECONNRESET => cases clean
        | _ => rfl
      have told : (conn.record (.wrote (.failed errno))).Watched mark :=
        watched.of_same rfl rfl rfl
      simp only [afterDirectWrite, completed, WriteOutcome.left, lasting]
      rw [bufferRemaining_functors told]
      rfl

theorem writeFinished_functors {conn : TcpConnection Id} {mark : Nat}
    (watched : conn.Watched mark) (ctl : EpollCtl Id) :
    (conn.writeFinished ctl).pendingFunctors =
      conn.pendingFunctors ++ [.writeCompleteCallback] := by
  have set : (conn.disableWriting ctl).hasWriteCompleteCallback = true := watched.writeComplete
  unfold writeFinished
  dsimp only
  rw [if_pos set]
  split
  · unfold shutdownInLoop
    split
    · rfl
    · rfl
  · rfl

theorem afterBufferedWrite_functors {conn : TcpConnection Id} {mark : Nat}
    (watched : conn.Watched mark) (ctl : EpollCtl Id) {bytes : List UInt8}
    (taken : bytes ≠ []) (fits : bytes.length ≤ conn.outputBuffer.readable.length) :
    (conn.afterBufferedWrite ctl (.taken bytes)).pendingFunctors =
      conn.pendingFunctors ++
        if conn.outputBuffer.readable.drop bytes.length = [] then [.writeCompleteCallback]
        else [] := by
  have kept : ((conn.record (.wrote (.taken bytes))).retrieveOutput bytes.length).Watched mark :=
    watched.of_same rfl rfl rfl
  rw [afterBufferedWrite_taken conn taken fits ctl]
  split
  · rw [writeFinished_functors kept]
    rfl
  · exact (List.append_nil _).symm

/-- Closing queues nothing, keeps the buffer and goes on with the trace. -/
structure OnlyCloses (conn after : TcpConnection Id) : Prop where
  functors : after.pendingFunctors = conn.pendingFunctors
  buffer : after.outputBuffer = conn.outputBuffer
  trace : conn.trace <+: after.trace

theorem handleClose_onlyCloses (ctl : EpollCtl Id) (conn : TcpConnection Id) :
    conn.OnlyCloses (conn.handleClose ctl) := by
  unfold handleClose
  split
  · exact ⟨rfl, rfl, List.prefix_refl _⟩
  · refine ⟨rfl, rfl, [.connCallback false, .closeCallback], ?_⟩
    change conn.trace ++ _ = (conn.trace ++ _) ++ _
    rw [List.append_assoc]
    rfl

theorem handleWrite_onlyCloses {conn : TcpConnection Id} {answer : SocksWrite}
    (on : conn.isWriting = true)
    (none : (socksWrite conn.outputBuffer.readable answer).n ≤ 0) (ctl : EpollCtl Id) :
    conn.OnlyCloses (conn.handleWrite ctl answer) := by
  unfold handleWrite afterBufferedWrite
  dsimp only
  rw [if_pos on, if_neg (by omega)]
  obtain ⟨functors, buffer, trace⟩ := handleClose_onlyCloses ctl
    (conn.record (.wrote (socksWrite conn.outputBuffer.readable answer)))
  exact ⟨functors, buffer, (List.prefix_append _ _).trans trace⟩

/-!
## One step
-/

/-- What a send queues is told by what it leaves in the buffer. -/
theorem sendInLoop_functors {conn : TcpConnection Id} {mark : Nat} (watched : conn.Watched mark)
    (live : conn.state ≠ .kDisconnected) (ctl : EpollCtl Id) (data : List UInt8)
    (answer : SocksWrite) (clean : (conn.sendInLoop ctl data answer).faulted = false) :
    ∃ complete rest,
      (conn.sendInLoop ctl data answer).outputBuffer.readable =
        conn.outputBuffer.readable ++ rest ∧
      (conn.sendInLoop ctl data answer).pendingFunctors =
        conn.pendingFunctors ++ (complete ++ crossed mark conn.bufferSize rest.length) ∧
      complete.Nodup ∧
      ∀ functor ∈ complete, functor = .writeCompleteCallback ∧
        (conn.sendInLoop ctl data answer).outputBuffer.readable = [] := by
  have called : (conn.record (.passed data)).Watched mark := watched.of_same rfl rfl rfl
  unfold sendInLoop at clean ⊢
  dsimp only at clean ⊢
  rw [if_neg live] at clean ⊢
  by_cases direct : (conn.record (.passed data)).isWriting = false ∧
      (conn.record (.passed data)).outputBuffer.bbBytesReadable = 0
  · rw [if_pos direct] at clean ⊢
    have buffers := (conn.record (.passed data)).afterDirectWrite_buffers ctl data
      (socksWrite data answer)
    have unfaulted : (Effect.wrote (socksWrite data answer)).isFault = false := by
      rw [faulted, buffers.trace, ← faulted, record_faulted, Bool.or_eq_false_iff] at clean
      exact clean.2
    refine ⟨completed data (socksWrite data answer), (socksWrite data answer).left data,
      buffers.readable, afterDirectWrite_functors called ctl data unfaulted,
      completed_nodup data _, ?_⟩
    have idle : conn.outputBuffer.readable = [] := by
      rw [← List.length_eq_zero_iff, ← FormedBuffer.bbBytesReadable_eq]
      exact direct.2
    intro functor member
    rw [buffers.readable]
    change _ ∧ conn.outputBuffer.readable ++ _ = []
    rw [idle, List.nil_append]
    generalize socksWrite data answer = outcome at member
    cases outcome with
    | failed errno => cases member
    | taken bytes =>
        simp only [completed] at member
        split at member
        · rename_i all
          exact ⟨List.mem_singleton.mp member, all⟩
        · cases member
  · rw [if_neg direct]
    have buffers := (conn.record (.passed data)).bufferRemaining_buffers ctl data 0
    exact ⟨[], data.drop 0, buffers.readable, bufferRemaining_functors called ctl data 0,
      List.nodup_nil, fun _ member => absurd member List.not_mem_nil⟩

theorem sendInLoop_tells {conn : TcpConnection Id} {mark : Nat} (watched : conn.Watched mark)
    (sound : conn.StreamSound) (live : conn.state ≠ .kDisconnected) (ctl : EpollCtl Id)
    (data : List UInt8) (answer : SocksWrite)
    (clean : (conn.sendInLoop ctl data answer).faulted = false) :
    ∃ functors, TellsExactly mark conn (conn.sendInLoop ctl data answer) true functors := by
  have after := sendInLoop_streamSound sound ctl data answer
  have stays : (conn.sendInLoop ctl data answer).state ≠ .kDisconnected := by
    obtain ⟨down, -⟩ | ⟨-, -, -, buffers⟩ | ⟨-, -, buffers⟩ :=
      sendInLoop_cases ctl conn data answer
    · exact absurd down live
    · exact buffers.state ▸ live
    · exact buffers.state ▸ live
  obtain ⟨complete, rest, readable, queued, once, completes⟩ :=
    sendInLoop_functors watched live ctl data answer clean
  have size : (conn.sendInLoop ctl data answer).bufferSize = conn.bufferSize + rest.length := by
    rw [bufferSize, readable, List.length_append]
    rfl
  refine ⟨_, queued, ?_, ?_, ?_, ?_⟩
  · refine once.append (crossed_nodup _ _ _) fun functor told mark => ?_
    rw [(completes functor told).1] at mark
    cases (mem_crossed.mp mark).2.2
  · intro member
    rcases List.mem_append.mp member with told | mark
    · have empty := (completes _ told).2
      exact ⟨empty, after.accepted_of_empty stays clean empty⟩
    · cases (mem_crossed.mp mark).2.2
  · intro held empty
    rw [readable] at empty
    exact absurd (List.append_eq_nil_iff.mp empty).1 held
  · intro new
    rw [List.mem_append, mem_crossed, size]
    constructor
    · rintro (told | ⟨below, above, same⟩)
      · cases (completes _ told).1
      · cases same
        exact ⟨rfl, below, above, rfl⟩
    · rintro ⟨-, below, above, rfl⟩
      exact .inr ⟨below, above, rfl⟩

theorem handleWrite_tells {conn : TcpConnection Id} {mark : Nat} (watched : conn.Watched mark)
    (sound : conn.StreamSound) (live : conn.state ≠ .kDisconnected) (ctl : EpollCtl Id)
    (answer : SocksWrite) (clean : (conn.handleWrite ctl answer).faulted = false) :
    ∃ functors, TellsExactly mark conn (conn.handleWrite ctl answer) false functors := by
  have after := handleWrite_streamSound sound ctl answer
  have keeps : ∀ {after : TcpConnection Id}, after.pendingFunctors = conn.pendingFunctors →
      after.outputBuffer = conn.outputBuffer → TellsExactly mark conn after false [] := by
    intro after functors buffer
    refine ⟨by rw [functors, List.append_nil], List.nodup_nil, ?_, ?_, ?_⟩
    · intro member
      cases member
    · intro held empty
      rw [buffer] at empty
      exact absurd empty held
    · intro size
      exact iff_of_false List.not_mem_nil (fun all => by cases all.1)
  obtain ⟨-, same⟩ | ⟨on, none, -⟩ | ⟨bytes, on, wrote, drains⟩ :=
    handleWrite_cases ctl conn answer
  · rw [same]
    exact ⟨[], keeps rfl rfl⟩
  · obtain ⟨functors, buffer, -⟩ := handleWrite_onlyCloses on none ctl
    exact ⟨[], keeps functors buffer⟩
  · have rest : (conn.handleWrite ctl answer).outputBuffer.readable =
        conn.outputBuffer.readable.drop bytes.length := by
      rw [← drains.split, List.drop_left]
    have fits : bytes.length ≤ conn.outputBuffer.readable.length := by
      rw [← drains.split, List.length_append]
      omega
    have queued : (conn.handleWrite ctl answer).pendingFunctors = conn.pendingFunctors ++
        if (conn.handleWrite ctl answer).outputBuffer.readable = [] then [.writeCompleteCallback]
        else [] := by
      rw [rest, ← afterBufferedWrite_functors watched ctl drains.nonempty fits, handleWrite,
        if_pos on, wrote]
    refine ⟨_, queued, ?_, ?_, ?_, ?_⟩
    · split
      · exact List.nodup_singleton _
      · exact List.nodup_nil
    · intro member
      split at member
      · rename_i empty
        have stays : (conn.handleWrite ctl answer).state ≠ .kDisconnected := drains.state ▸ live
        exact ⟨empty, after.accepted_of_empty stays clean empty⟩
      · cases member
    · intro _ empty
      rw [if_pos empty]
      exact List.mem_singleton_self _
    · intro size
      refine iff_of_false (fun member => ?_) (fun all => by cases all.1)
      split at member
      · cases List.mem_singleton.mp member
      · cases member

/-!
## Every run
-/

/-- One of the two members, called in the loop. -/
def move (conn : TcpConnection Id) (action : EpollCtl Id × SendStep) : TcpConnection Id :=
  conn.step (action.1, action.2.toConnStep)

theorem move_trace (conn : TcpConnection Id) (action : EpollCtl Id × SendStep) :
    conn.trace <+: (conn.move action).trace := by
  obtain ⟨ctl, action⟩ := action
  cases action with
  | sendInLoop data answer =>
      change _ <+: (conn.sendInLoop ctl data answer).trace
      obtain ⟨-, same⟩ | ⟨-, -, -, buffers⟩ | ⟨-, -, buffers⟩ :=
        sendInLoop_cases ctl conn data answer
      · rw [same]
      · rw [buffers.trace]
        exact (List.prefix_append conn.trace _).trans (List.prefix_append _ _)
      · rw [buffers.trace]
        exact List.prefix_append _ _
  | handleWrite answer =>
      change _ <+: (conn.handleWrite ctl answer).trace
      obtain ⟨-, same⟩ | ⟨on, none, -⟩ | ⟨bytes, -, -, drains⟩ := handleWrite_cases ctl conn answer
      · rw [same]
      · exact (handleWrite_onlyCloses on none ctl).trace
      · rw [drains.trace]
        exact List.prefix_append _ _

theorem run_move_trace (conn : TcpConnection Id) (sends : List (EpollCtl Id × SendStep)) :
    conn.trace <+: (run move conn sends).trace :=
  run_invariant_always (fun after => conn.trace <+: after.trace)
    (fun after action before => before.trans (move_trace after action))
    (List.prefix_refl _) sends

theorem run_move_unfaulted {conn : TcpConnection Id} {sends : List (EpollCtl Id × SendStep)}
    (clean : (run move conn sends).faulted = false) : conn.faulted = false := by
  obtain ⟨effects, trace⟩ := run_move_trace conn sends
  rw [faulted, ← trace, List.any_append, Bool.or_eq_false_iff] at clean
  exact clean.1

theorem move_tells {conn : TcpConnection Id} {mark : Nat} (watched : conn.Watched mark)
    (sound : conn.StreamSound) (live : conn.state ≠ .kDisconnected)
    (action : EpollCtl Id × SendStep) (clean : (conn.move action).faulted = false) :
    ∃ functors, TellsExactly mark conn (conn.move action) action.2.isSend functors := by
  obtain ⟨ctl, action⟩ := action
  cases action with
  | sendInLoop data answer => exact sendInLoop_tells watched sound live ctl data answer clean
  | handleWrite answer => exact handleWrite_tells watched sound live ctl answer clean

theorem run_move_tells {start : TcpConnection Id} {mark : Nat} (watched : start.Watched mark)
    (sound : start.StreamSound) {sends : List (EpollCtl Id × SendStep)}
    (clean : (run move start sends).faulted = false)
    {first rest : List (EpollCtl Id × SendStep)} {action : EpollCtl Id × SendStep}
    (split : sends = first ++ action :: rest)
    (live : (run move start first).state ≠ .kDisconnected) :
    ∃ functors, TellsExactly mark (run move start first) (run move start (first ++ [action]))
      action.2.isSend functors := by
  have watched' : (run move start first).Watched mark :=
    run_invariant_always (Watched mark)
      (fun _ action watched => (preserves_watched action.1 mark).step watched _) watched first
  have sound' : (run move start first).StreamSound :=
    run_invariant_always StreamSound
      (fun _ action sound => (preserves_streamSound action.1).step sound _) sound first
  have unfaulted : ((run move start first).move action).faulted = false := by
    rw [split, run_append, run_cons] at clean
    exact run_move_unfaulted clean
  rw [run_append]
  exact move_tells watched' sound' live action unfaulted

/-- For every connection that steps lead to with both callbacks set, and every run of sends and
of events for writing on it in which no write fails for good: each step on the open connection
queues exactly the callbacks that it should, and between two notifications of the mark the buffer
has been below it. -/
theorem back_pressure_exact (poller : EpollPoller Id) (channel : Id) (sockfd : Int) (mark : Nat)
    (steps : List (EpollCtl Id × ConnStep)) (start : TcpConnection Id)
    (reached : start = run step (new poller channel sockfd true true mark) steps)
    (sends : List (EpollCtl Id × SendStep)) (clean : (run move start sends).faulted = false) :
    (∀ first action rest, sends = first ++ action :: rest →
      (run move start first).state ≠ .kDisconnected →
      ∃ functors, TellsExactly mark (run move start first)
        (run move start (first ++ [action])) action.2.isSend functors) ∧
    (∀ first one middle other rest, sends = first ++ one :: (middle ++ other :: rest) →
      (run move start (first ++ one :: middle)).state ≠ .kDisconnected →
      (run move start first).Notifies (run move start (first ++ [one])) →
      (run move start (first ++ one :: middle)).Notifies
        (run move start (first ++ one :: middle ++ [other])) →
      ∃ early late, middle = early ++ late ∧
        (run move start (first ++ one :: early)).bufferSize < mark) := by
  have watched : start.Watched mark := by
    rw [reached]
    exact run_invariant_always (Watched mark)
      (fun _ action watched => (preserves_watched action.1 mark).step watched action.2)
      ⟨rfl, rfl, rfl⟩ steps
  have sound : start.StreamSound := by
    rw [reached]
    exact run_streamSound poller channel sockfd true true mark steps
  constructor
  · intro first action rest split live
    exact run_move_tells watched sound clean split live
  · intro first one middle other rest split live _ notifies
    -- The buffer is below the mark just before the second of the two.
    have parts : sends = (first ++ one :: middle) ++ other :: rest := by
      rw [split, List.append_assoc, List.cons_append]
    obtain ⟨functors, tells⟩ := run_move_tells watched sound clean parts live
    exact ⟨middle, [], (List.append_nil _).symm, tells.below_of_notifies notifies⟩

end

private def sendsOverMark : List (EpollCtl Unit × SendStep) :=
  [(mapCtl, .sendInLoop [1, 2, 3] (.accepted 1)), (mapCtl, .sendInLoop [4, 5] (.accepted 9)),
    (mapCtl, .handleWrite (.accepted 3)), (mapCtl, .sendInLoop [6, 7] (.accepted 9)),
    (mapCtl, .handleWrite (.accepted 3))]

theorem sends_over_mark_told :
    let start := run step (new (EpollPoller.new fun _ => 0) () 5 true true 2)
      [(mapCtl, .connEstablished)]
    (run move start sendsOverMark).faulted = false ∧
      (run move start sendsOverMark).pendingFunctors =
        [.highWaterMarkCallback 2, .highWaterMarkCallback 3, .writeCompleteCallback] ∧
      ∃ early late, [(mapCtl, .sendInLoop [4, 5] (.accepted 9)),
          (mapCtl, .handleWrite (.accepted 3))] = early ++ late ∧
        (run move start ((mapCtl, .sendInLoop [1, 2, 3] (.accepted 1)) :: early)).bufferSize <
          2 := by
  refine ⟨by decide +kernel, by decide +kernel, ?_⟩
  exact (back_pressure_exact (EpollPoller.new fun _ => 0) () 5 2 [(mapCtl, .connEstablished)] _ rfl
    sendsOverMark (by decide +kernel)).2 [] _ _ _ _ rfl (by decide +kernel)
      ⟨[.highWaterMarkCallback 2], 2, by decide +kernel⟩
      ⟨[.highWaterMarkCallback 3], 3, by decide +kernel⟩

end TcpConnection

end Talko.Network
