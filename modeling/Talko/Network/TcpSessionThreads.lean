import Mathlib.Logic.Function.Basic
import Talko.Library.Run
import Talko.Network.TcpConnectionOutbound
import Talko.Network.TcpSession

/-!
# Sessions that several threads send on

`TcpSession::send` of the loop thread and of other threads, down to the bytes that the socket of
one connection takes. A call of another thread compresses its packet, tests `state_` and later
puts the frame into the loop; the loop thread goes to `_send_in_loop` at once, past the frames
that wait. A `shutdown` of another thread and any `force_close` test `state_`, set it and queue
their functor, and the loop can close the connection between the test and the store.
-/

set_option autoImplicit false

namespace Talko.Network

open Talko.Library

inductive CloseCall where
  | shutdown
  | forceClose
  deriving DecidableEq, Repr

namespace CloseCall

/-- The test of `state_`. -/
def passes : CloseCall → StateE → Bool
  | .shutdown, .kConnected => true
  | .forceClose, .kConnected | .forceClose, .kDisconnecting => true
  | _, _ => false

def functor : CloseCall → Functor
  | .shutdown => .shutdownInLoop
  | .forceClose => .forceCloseInLoop

end CloseCall

/-- A connection and the calls under way. `underway` are the sends behind their test of `state_`,
`closing` and `closed` the closing calls behind the test and behind the store. `asked` are the
sends that found `kConnected`, with their threads; the loop thread is `none`. -/
structure SessionThreads (Id Thread : Type) where
  conn : TcpConnection Id
  underway : Thread → Option SessionSend
  closing : List CloseCall
  closed : List CloseCall
  asked : List (Option Thread × SessionSend)

inductive SessionStep (Thread : Type) where
  | testSend (thread : Thread) (call : SessionSend)
  | queueSend (thread : Thread)
  | loopSend (call : SessionSend) (answer : SocksWrite)
  | testClose (call : CloseCall)
  | setClose (position : Nat)
  | queueClose (position : Nat)
  | loopShutdown
  | executeNext (answer : SocksWrite)
  | connEstablished
  | handleRead (answer : SocksRead)
  | handleWrite (answer : SocksWrite)
  | handleClose
  | connDestroyed

/-- `compressBuf` takes the packet, so that `send_pkg` goes on. -/
def SessionSend.compresses (zlib : Zlib) (call : SessionSend) : Bool :=
  (zlib.compressBuf call.outbuf).isSome

namespace SessionThreads

variable {Id Thread : Type} [DecidableEq Id] [DecidableEq Thread]

def start (conn : TcpConnection Id) : SessionThreads Id Thread where
  conn := conn
  underway := fun _ => none
  closing := []
  closed := []
  asked := []

/-- The system after the step, under the behaviour `epoll_ctl` shows in it. -/
def step (zlib : Zlib) (s : SessionThreads Id Thread) (action : EpollCtl Id × SessionStep Thread) :
    SessionThreads Id Thread :=
  match action with
  | (_, .testSend thread call) =>
      if s.underway thread = none ∧ call.compresses zlib ∧ s.conn.state = .kConnected then
        { s with
          underway := Function.update s.underway thread (some call)
          asked := s.asked ++ [(some thread, call)] }
      else s
  | (_, .queueSend thread) =>
      match s.underway thread with
      | none => s
      | some call =>
          { s with
            conn := s.conn.queueInLoop (.sendInLoop (call.send zlib))
            underway := Function.update s.underway thread none }
  | (ctl, .loopSend call answer) =>
      if call.compresses zlib ∧ s.conn.state = .kConnected then
        { s with
          conn := s.conn.send ctl true (call.send zlib) answer
          asked := s.asked ++ [(none, call)] }
      else s
  | (_, .testClose call) =>
      if call.passes s.conn.state then { s with closing := s.closing ++ [call] } else s
  | (_, .setClose position) =>
      match s.closing[position]? with
      | none => s
      | some call =>
          { s with
            conn := s.conn.setState .kDisconnecting
            closing := s.closing.eraseIdx position
            closed := s.closed ++ [call] }
  | (_, .queueClose position) =>
      match s.closed[position]? with
      | none => s
      | some call =>
          { s with
            conn := s.conn.queueInLoop call.functor
            closed := s.closed.eraseIdx position }
  | (ctl, .loopShutdown) => { s with conn := s.conn.shutdown ctl true }
  | (ctl, .executeNext answer) => { s with conn := s.conn.executeNext ctl answer }
  | (ctl, .connEstablished) => { s with conn := s.conn.connEstablished ctl }
  | (ctl, .handleRead answer) => { s with conn := s.conn.handleRead ctl answer }
  | (ctl, .handleWrite answer) => { s with conn := s.conn.handleWrite ctl answer }
  | (ctl, .handleClose) => { s with conn := s.conn.handleClose ctl }
  | (ctl, .connDestroyed) => { s with conn := s.conn.connDestroyed ctl }

end SessionThreads

/-- The messages that have arrived as a whole, and the bytes behind them. -/
def recvAvailable (zlib : Zlib) (behind : Nat → UInt8) (stream : List UInt8) :
    List (Int32 × Int32 × List UInt8) × List UInt8 :=
  readAvailable (recvFrame zlib behind) stream.length stream

/-!
## Torn frames
-/

namespace SessionSend

theorem length_outbuf_le {zlib : Zlib} {call : SessionSend} (compresses : call.compresses zlib) :
    call.outbuf.length ≤ maxCompressBufSize := by
  by_contra long
  have refused : zlib.compressBuf call.outbuf = none := by
    rw [Zlib.compressBuf, if_neg call.outbuf_ne_nil, if_pos (Nat.lt_of_not_le long)]
  simp [SessionSend.compresses, refused] at compresses

/-- The receiver waits for the rest of a frame, however much of it has come. -/
theorem recvFrame_torn {zlib : Zlib} (documented : zlib.Documented) (behind : Nat → UInt8)
    {call : SessionSend} (small : call.outbuf.length ≤ maxCompressBufSize)
    {front back : List UInt8} (split : front ++ back = call.send zlib) (cut : back ≠ []) :
    recvFrame zlib behind front = none := by
  obtain ⟨destbuf, sent, short, -⟩ := send_eq documented small
  generalize framed : (⟨1, Int32.ofNat call.outbuf.length, Int32.ofNat destbuf.length,
    (List.range 16).map call.reserved⟩ : ChatMsgHeader) = header at sent
  have full : header.toBytes.length = ChatMsgHeader.size := by
    apply ChatMsgHeader.length_toBytes
    rw [← framed]
    simp
  have compressed : header.compresssize.toInt.toNat = destbuf.length := by
    rw [← framed]
    exact toNat_toInt_ofNat short
  rw [sent] at split
  obtain ⟨lacking, header', missing, -⟩ | ⟨body, rfl, rest⟩ := cut_cases split
  · have lacks := List.length_pos_iff.mpr missing
    have sizes := congrArg List.length header'
    rw [List.length_append, full] at sizes
    rw [recvFrame, if_pos (by omega)]
  · have lacks := List.length_pos_iff.mpr cut
    have sizes := congrArg List.length rest
    rw [List.length_append] at sizes
    have long : ¬ (header.toBytes ++ body).length < ChatMsgHeader.size := by
      rw [List.length_append, full]
      omega
    rw [recvFrame, if_neg long, List.take_left' full, List.drop_left' full,
      ChatMsgHeader.ofBytes_toBytes]
    dsimp only
    rw [compressed, if_pos (by omega)]

end SessionSend

/-!
## Every thread's messages
-/

/-- One list is part of another in its order, and all of it while nothing is lost. -/
def Follows {Entry : Type} (lossless : Bool) (made asked : List Entry) : Prop :=
  made.Sublist asked ∧ (lossless = true → made = asked)

namespace Follows

variable {Entry : Type} {lossless : Bool} {made asked : List Entry}

theorem append (follows : Follows lossless made asked) (entries : List Entry) :
    Follows lossless (made ++ entries) (asked ++ entries) :=
  ⟨follows.1.append_right entries, fun none => by rw [follows.2 none]⟩

theorem of_sublist (follows : Follows lossless made asked) {fewer : List Entry}
    (dropped : fewer.Sublist made) : Follows false fewer asked :=
  ⟨dropped.trans follows.1, nofun⟩

theorem mono (follows : Follows lossless made asked) {still : Bool}
    (less : still = true → lossless = true) : Follows still made asked :=
  ⟨follows.1, follows.2 ∘ less⟩

end Follows

namespace SessionThreads

variable {Id Thread : Type} [DecidableEq Thread]

/-- The sends of one thread. -/
def sentBy (thread : Option Thread) (entries : List (Option Thread × SessionSend)) :
    List (Option Thread × SessionSend) :=
  entries.filter fun entry => entry.1 = thread

/-- The frames of sends, in order. -/
def frames (zlib : Zlib) (entries : List (Option Thread × SessionSend)) : List (List UInt8) :=
  entries.map fun entry => entry.2.send zlib

/-- The send of a thread that is still to be queued. -/
def unqueued (s : SessionThreads Id Thread) : Option Thread → List (Option Thread × SessionSend)
  | none => []
  | some thread => ((s.underway thread).map fun call => (some thread, call)).toList

/-- `kept` are the sends whose frames have gone to the buffer or to the socket, `queued` those
whose frames wait in the loop. -/
structure Orderly (zlib : Zlib) (s : SessionThreads Id Thread)
    (kept queued : List (Option Thread × SessionSend)) : Prop where
  outbound : s.conn.outbound = (frames zlib kept).flatten
  messages : s.conn.messages = frames zlib queued
  marked : s.conn.Marked
  follows : ∀ thread, Follows s.conn.up
    (sentBy thread (kept ++ queued) ++ s.unqueued thread) (sentBy thread s.asked)
  others : ∀ entry ∈ queued, entry.1 ≠ none
  compresses : ∀ entry ∈ s.asked, entry.2.compresses zlib

theorem sentBy_append (thread : Option Thread) (first second : List (Option Thread × SessionSend)) :
    sentBy thread (first ++ second) = sentBy thread first ++ sentBy thread second :=
  List.filter_append ..

theorem sentBy_singleton_self (thread : Option Thread) (call : SessionSend) :
    sentBy thread [(thread, call)] = [(thread, call)] := by
  simp [sentBy]

theorem sentBy_singleton_of_ne {thread other : Option Thread} (differ : other ≠ thread)
    (call : SessionSend) : sentBy thread [(other, call)] = [] := by
  simp [sentBy, differ]

theorem sentBy_none_of_others {entries : List (Option Thread × SessionSend)}
    (others : ∀ entry ∈ entries, entry.1 ≠ none) : sentBy none entries = [] :=
  List.filter_eq_nil_iff.mpr fun entry member => by simpa using others entry member

omit [DecidableEq Thread] in
theorem frames_append (zlib : Zlib) (first second : List (Option Thread × SessionSend)) :
    frames zlib (first ++ second) = frames zlib first ++ frames zlib second :=
  List.map_append

section

variable {zlib : Zlib} {s after : SessionThreads Id Thread}
  {kept queued : List (Option Thread × SessionSend)} {thread : Thread} {call : SessionSend}

omit [DecidableEq Thread] in
theorem unqueued_congr (same : after.underway = s.underway) (sender : Option Thread) :
    after.unqueued sender = s.unqueued sender := by
  cases sender with
  | none => rfl
  | some thread => rw [unqueued, unqueued, same]

theorem unqueued_update_self {waiting : Option SessionSend}
    (changed : after.underway = Function.update s.underway thread waiting) :
    after.unqueued (some thread) = (waiting.map fun call => (some thread, call)).toList := by
  rw [unqueued, changed, Function.update_self]

theorem unqueued_update_of_ne {waiting : Option SessionSend}
    (changed : after.underway = Function.update s.underway thread waiting)
    {sender : Option Thread} (differ : some thread ≠ sender) :
    after.unqueued sender = s.unqueued sender := by
  cases sender with
  | none => rfl
  | some other =>
      have elsewhere : other ≠ thread := fun same => differ (congrArg some same.symm)
      rw [unqueued, unqueued, changed, Function.update_of_ne elsewhere]

theorem Orderly.of_keeps (orderly : Orderly zlib s kept queued) (keeps : s.conn.Keeps after.conn)
    (underway : after.underway = s.underway) (asked : after.asked = s.asked) :
    Orderly zlib after kept queued where
  outbound := keeps.outbound.trans orderly.outbound
  messages := keeps.messages.trans orderly.messages
  marked := keeps.marked orderly.marked
  follows sender := by
    rw [unqueued_congr underway, asked]
    exact (orderly.follows sender).mono keeps.up
  others := orderly.others
  compresses := asked ▸ orderly.compresses

theorem Orderly.testSend (orderly : Orderly zlib s kept queued) (free : s.underway thread = none)
    (compresses : call.compresses zlib) :
    Orderly zlib
      { s with
        underway := Function.update s.underway thread (some call)
        asked := s.asked ++ [(some thread, call)] } kept queued where
  outbound := orderly.outbound
  messages := orderly.messages
  marked := orderly.marked
  follows sender := by
    have before := orderly.follows sender
    rw [sentBy_append sender s.asked]
    by_cases here : some thread = sender
    · subst here
      rw [unqueued, free] at before
      rw [unqueued_update_self rfl, sentBy_singleton_self]
      exact (List.append_nil _ ▸ before).append [(some thread, call)]
    · rw [unqueued_update_of_ne rfl here, sentBy_singleton_of_ne here, List.append_nil]
      exact before
  others := orderly.others
  compresses := by
    intro entry member
    rcases List.mem_append.mp member with old | new
    · exact orderly.compresses entry old
    · rw [List.mem_singleton.mp new]
      exact compresses

theorem Orderly.queueSend (orderly : Orderly zlib s kept queued)
    (waits : s.underway thread = some call) :
    Orderly zlib
      { s with
        conn := s.conn.queueInLoop (.sendInLoop (call.send zlib))
        underway := Function.update s.underway thread none }
      kept (queued ++ [(some thread, call)]) where
  outbound := orderly.outbound
  messages := by
    rw [TcpConnection.queueInLoop_messages, orderly.messages, frames_append]
    rfl
  marked := orderly.marked
  follows sender := by
    have before := orderly.follows sender
    rw [← List.append_assoc, sentBy_append sender (kept ++ queued)]
    by_cases here : some thread = sender
    · subst here
      rw [unqueued, waits] at before
      rw [unqueued_update_self rfl, sentBy_singleton_self]
      exact (List.append_nil _).symm ▸ before
    · rw [unqueued_update_of_ne rfl here, sentBy_singleton_of_ne here, List.append_nil]
      exact before
  others := by
    intro entry member
    rcases List.mem_append.mp member with old | new
    · exact orderly.others entry old
    · rw [List.mem_singleton.mp new]
      exact Option.some_ne_none thread
  compresses := orderly.compresses

/-- The loop thread's own send goes in front of the frames that wait. -/
theorem Orderly.loopSend (orderly : Orderly zlib s kept queued) {conn : TcpConnection Id}
    (takes : s.conn.Takes conn (call.send zlib)) (compresses : call.compresses zlib) :
    ∃ kept', Orderly zlib
      { s with
        conn := conn
        asked := s.asked ++ [(none, call)] } kept' queued := by
  have messages := takes.messages.trans orderly.messages
  have compressed : ∀ entry ∈ s.asked ++ [(none, call)], entry.2.compresses zlib := by
    intro entry member
    rcases List.mem_append.mp member with old | new
    · exact orderly.compresses entry old
    · rw [List.mem_singleton.mp new]
      exact compresses
  have nobody := sentBy_none_of_others orderly.others
  rcases takes.outbound with whole | ⟨dropped, lost⟩
  · refine ⟨kept ++ [(none, call)], ?_, messages, takes.marked, ?_, orderly.others, compressed⟩
    · rw [whole, orderly.outbound, frames_append, List.flatten_append]
      simp [frames]
    · intro sender
      have before := (orderly.follows sender).mono takes.up
      rw [sentBy_append] at before
      change Follows conn.up (sentBy sender (kept ++ [(none, call)] ++ queued) ++ s.unqueued sender) _
      rw [sentBy_append, sentBy_append, sentBy_append sender s.asked]
      cases sender with
      | none =>
          have idle : s.unqueued none = [] := rfl
          rw [nobody, idle, List.append_nil, List.append_nil] at before ⊢
          exact before.append _
      | some thread =>
          have other : sentBy (some thread) [(none, call)] = [] :=
            sentBy_singleton_of_ne (by simp) call
          rw [other, List.append_nil, List.append_nil]
          exact before
  · refine ⟨kept, dropped.trans orderly.outbound, messages, takes.marked, ?_, orderly.others,
      compressed⟩
    intro sender
    rw [lost, sentBy_append sender s.asked]
    exact ((orderly.follows sender).append _).of_sublist (List.sublist_append_left _ _)

theorem Orderly.mem_asked (orderly : Orderly zlib s kept queued)
    {entry : Option Thread × SessionSend} (member : entry ∈ kept) : entry ∈ s.asked := by
  have own : entry ∈ sentBy entry.1 (kept ++ queued) ++ s.unqueued entry.1 := by
    refine List.mem_append_left _ (List.mem_filter.mpr ⟨List.mem_append_left _ member, ?_⟩)
    exact decide_eq_true rfl
  exact (List.mem_filter.mp ((orderly.follows entry.1).1.subset own)).1

/-- The frame at the front of the loop's functors goes behind all that went before. -/
theorem Orderly.execute (orderly : Orderly zlib s kept queued) {message : List UInt8}
    {functors : List Functor} {conn : TcpConnection Id}
    (front : s.conn.pendingFunctors = .sendInLoop message :: functors)
    (takes : ({ s.conn with pendingFunctors := functors } : TcpConnection Id).Takes conn message) :
    ∃ kept' queued', Orderly zlib { s with conn := conn } kept' queued' := by
  have waiting : message :: functors.filterMap Functor.message? = frames zlib queued := by
    rw [← orderly.messages, TcpConnection.messages, front]
    rfl
  cases queued with
  | nil => cases waiting
  | cons entry queued =>
      obtain ⟨framed, later⟩ := List.cons.inj waiting
      have messages : conn.messages = frames zlib queued := takes.messages.trans later
      have others := (List.forall_mem_cons.mp orderly.others).2
      have same : kept ++ entry :: queued = kept ++ [entry] ++ queued := by
        rw [List.append_assoc, List.singleton_append]
      rcases takes.outbound with whole | ⟨dropped, lost⟩
      · refine ⟨kept ++ [entry], queued, ?_, messages, takes.marked, ?_, others,
          orderly.compresses⟩
        · have outbound : conn.outbound = s.conn.outbound ++ message := whole
          rw [outbound, orderly.outbound, framed, frames_append, List.flatten_append]
          simp [frames]
        · intro sender
          rw [← same]
          exact (orderly.follows sender).mono takes.up
      · refine ⟨kept, queued, dropped.trans orderly.outbound, messages, takes.marked, ?_, others,
          orderly.compresses⟩
        intro sender
        rw [lost]
        refine (orderly.follows sender).of_sublist (List.Sublist.append_right ?_ _)
        exact ((List.Sublist.refl kept).append (List.sublist_cons_self entry queued)).filter _

end

section

variable [DecidableEq Id] {zlib : Zlib} {s : SessionThreads Id Thread}
  {kept queued : List (Option Thread × SessionSend)}

theorem Orderly.executeNext (orderly : Orderly zlib s kept queued) (ctl : EpollCtl Id)
    (answer : SocksWrite) :
    ∃ kept' queued', Orderly zlib { s with conn := s.conn.executeNext ctl answer } kept' queued' := by
  unfold TcpConnection.executeNext
  cases functors : s.conn.pendingFunctors with
  | nil => exact ⟨kept, queued, orderly⟩
  | cons functor rest =>
      have popped : functor.message? = none →
          s.conn.Keeps { s.conn with pendingFunctors := rest } := by
        intro other
        refine TcpConnection.keeps_of [] (List.append_nil _).symm (by simp) rfl ?_ .inl
        rw [TcpConnection.messages, TcpConnection.messages, functors, List.filterMap_cons, other]
      have executed : ∀ {conn : TcpConnection Id}, functor.message? = none →
          ({ s.conn with pendingFunctors := rest } : TcpConnection Id).Keeps conn →
          ∃ kept' queued', Orderly zlib { s with conn := conn } kept' queued' :=
        fun other keeps => ⟨kept, queued, orderly.of_keeps ((popped other).trans keeps) rfl rfl⟩
      cases functor with
      | sendInLoop message =>
          have marked : ({ s.conn with pendingFunctors := rest } : TcpConnection Id).Marked :=
            orderly.marked
          have takes := TcpConnection.sendInLoop_takes marked ctl message answer
          exact orderly.execute functors takes
      | shutdownInLoop => exact executed rfl (TcpConnection.shutdownInLoop_keeps _)
      | forceCloseInLoop =>
          refine executed rfl ?_
          change TcpConnection.Keeps _ (TcpConnection.forceCloseInLoop ctl _)
          unfold TcpConnection.forceCloseInLoop
          split
          · exact TcpConnection.handleClose_keeps _ ctl
          · exact .refl _
      | writeCompleteCallback => exact executed rfl (TcpConnection.record_keeps _ rfl)
      | highWaterMarkCallback size => exact executed rfl (TcpConnection.record_keeps _ rfl)

theorem step_orderly (orderly : Orderly zlib s kept queued)
    (action : EpollCtl Id × SessionStep Thread) :
    ∃ kept' queued', Orderly zlib (s.step zlib action) kept' queued' := by
  obtain ⟨ctl, action⟩ := action
  have keeps : ∀ {conn : TcpConnection Id} {closing closed : List CloseCall},
      s.conn.Keeps conn → ∃ kept' queued', Orderly zlib
        { s with conn := conn, closing := closing, closed := closed } kept' queued' :=
    fun keeps => ⟨kept, queued, orderly.of_keeps keeps rfl rfl⟩
  cases action with
  | testSend thread call =>
      unfold step
      dsimp only
      split
      · next passes => exact ⟨kept, queued, orderly.testSend passes.1 passes.2.1⟩
      · exact ⟨kept, queued, orderly⟩
  | queueSend thread =>
      unfold step
      dsimp only
      split
      · exact ⟨kept, queued, orderly⟩
      · next call waits => exact ⟨kept, queued ++ [(some thread, call)], orderly.queueSend waits⟩
  | loopSend call answer =>
      unfold step
      dsimp only
      split
      · next passes =>
          rw [TcpConnection.send, if_pos passes.2, if_pos rfl]
          have takes := TcpConnection.sendInLoop_takes orderly.marked ctl (call.send zlib) answer
          obtain ⟨kept', sent⟩ := orderly.loopSend takes passes.1
          exact ⟨kept', queued, sent⟩
      · exact ⟨kept, queued, orderly⟩
  | testClose call =>
      unfold step
      dsimp only
      split
      · exact keeps (.refl _)
      · exact ⟨kept, queued, orderly⟩
  | setClose position =>
      unfold step
      dsimp only
      split
      · exact ⟨kept, queued, orderly⟩
      · exact keeps (s.conn.setState_keeps .kDisconnecting (by decide))
  | queueClose position =>
      unfold step
      dsimp only
      split
      · exact ⟨kept, queued, orderly⟩
      · next call _ =>
          have other : call.functor.message? = none := by cases call <;> rfl
          exact keeps (s.conn.queueInLoop_keeps other)
  | loopShutdown => exact keeps (s.conn.shutdown_keeps ctl)
  | executeNext answer => exact orderly.executeNext ctl answer
  | connEstablished => exact keeps (s.conn.connEstablished_keeps ctl)
  | handleRead answer => exact keeps (s.conn.handleRead_keeps ctl answer)
  | handleWrite answer => exact keeps (s.conn.handleWrite_keeps ctl answer)
  | handleClose => exact keeps (s.conn.handleClose_keeps ctl)
  | connDestroyed => exact keeps (s.conn.connDestroyed_keeps ctl)

theorem start_orderly (zlib : Zlib) (poller : EpollPoller Id) (channel : Id) (sockfd : Int)
    (writeComplete highWater : Bool) (highWaterMark : Nat) :
    Orderly zlib (start (.new poller channel sockfd writeComplete highWater highWaterMark) :
      SessionThreads Id Thread) [] [] where
  outbound := by simp [start, TcpConnection.outbound, TcpConnection.accepted, TcpConnection.new, frames]
  messages := rfl
  marked := nofun
  follows sender := by
    cases sender <;> exact ⟨.refl _, fun _ => rfl⟩
  others := nofun
  compresses := nofun

theorem run_orderly (zlib : Zlib) (poller : EpollPoller Id) (channel : Id) (sockfd : Int)
    (writeComplete highWater : Bool) (highWaterMark : Nat)
    (steps : List (EpollCtl Id × SessionStep Thread)) :
    ∃ kept queued, Orderly zlib
      (run (step zlib) (start (.new poller channel sockfd writeComplete highWater highWaterMark) :
        SessionThreads Id Thread) steps) kept queued :=
  run_invariant_always (fun s => ∃ kept queued, Orderly zlib s kept queued)
    (fun _ action ⟨_, _, orderly⟩ => step_orderly orderly action)
    ⟨[], [], start_orderly zlib poller channel sockfd writeComplete highWater highWaterMark⟩ steps

/-- After every run, of any threads and under any answers of the socket and of `epoll_ctl`: the
receiver has got whole messages and a part of the next frame. They, the frames in the buffer, the
frames in the loop and the call under way are in the order in which their thread made the calls,
none of them twice, and they are all its calls unless the connection has been down or a write has
failed for good. The receiver has got all that was buffered once the buffer is empty. -/
theorem threads_messages_arrive (documented : zlib.Documented) (behind : Nat → UInt8)
    (poller : EpollPoller Id) (channel : Id) (sockfd : Int) (writeComplete highWater : Bool)
    (highWaterMark : Nat) (steps : List (EpollCtl Id × SessionStep Thread))
    (reached : s = run (step zlib)
      (start (.new poller channel sockfd writeComplete highWater highWaterMark)) steps) :
    ∃ (arrived leaving queued : List (Option Thread × SessionSend)) (rest : List UInt8),
      recvAvailable zlib behind s.conn.accepted =
        (arrived.map fun entry => entry.2.message, rest) ∧
      rest ++ s.conn.outputBuffer.readable = (frames zlib leaving).flatten ∧
      s.conn.messages = frames zlib queued ∧
      (∀ thread, Follows s.conn.up
        (sentBy thread (arrived ++ leaving ++ queued) ++ s.unqueued thread)
        (sentBy thread s.asked)) ∧
      (s.conn.outputBuffer.readable = [] → leaving = []) := by
  obtain ⟨kept, queued, orderly⟩ := run_orderly zlib poller channel sockfd writeComplete highWater
    highWaterMark steps
  rw [← reached] at orderly
  have small : ∀ entry ∈ kept, entry.2.outbuf.length ≤ maxCompressBufSize := fun entry member =>
    SessionSend.length_outbuf_le (orderly.compresses entry (orderly.mem_asked member))
  have whole : s.conn.accepted ++ s.conn.outputBuffer.readable =
      kept.flatMap fun entry => entry.2.send zlib := by
    rw [List.flatMap_def]
    exact orderly.outbound
  obtain ⟨arrived, leaving, rest, split, reads, behindThem, ended⟩ := readAvailable_append
    (fun entry member rest => SessionSend.recvFrame_send documented behind (small entry member) rest)
    (fun entry member _ _ joined cut =>
      SessionSend.recvFrame_torn documented behind (small entry member) joined cut)
    (fun entry member => SessionSend.send_ne_nil documented (small entry member))
    (if_pos (by decide)) whole (Nat.le_refl _)
  refine ⟨arrived, leaving, queued, rest, reads, ?_, orderly.messages, ?_, ended⟩
  · rw [behindThem, List.flatMap_def]
    rfl
  · rw [← split]
    exact orderly.follows

end

private def greeting : SessionSend where
  cmd := 1003
  seq := 1
  data := [104, 105]
  str := fun _ => 0
  reserved := fun _ => 0

/-- What zlib makes of the packet of the greeting. -/
private def greetingZlib : Zlib :=
  .packing [0, 0, 0, 17, 0, 0, 0, 0, 3, 235, 0, 0, 0, 1, 2, 104, 105]
    [120, 156, 99, 96, 96, 16, 100, 0, 2, 230, 215, 64, 130, 145, 41, 35, 19, 0, 9, 181, 1, 212]

/-- Another thread's frame waits in the loop while the loop thread sends its own; the socket
takes the first frame and a part of the second. -/
private def greetings : List (EpollCtl Unit × SessionStep Unit) :=
  [(mapCtl, .connEstablished), (mapCtl, .testSend () greeting), (mapCtl, .queueSend ()),
    (mapCtl, .loopSend greeting (.accepted 30)), (mapCtl, .executeNext (.accepted 0)),
    (mapCtl, .handleWrite (.accepted 40))]

theorem greetings_arrive :
    let s : SessionThreads Unit Unit := run (step greetingZlib)
      (start (.new (EpollPoller.new fun _ => 0) () 5 true true 2)) greetings
    s.asked.length = 2 ∧ s.conn.accepted.length = 70 ∧
      ∃ (arrived leaving queued : List (Option Unit × SessionSend)) (rest : List UInt8),
        recvAvailable greetingZlib (fun _ => 0) s.conn.accepted =
          (arrived.map fun entry => entry.2.message, rest) ∧
        rest ++ s.conn.outputBuffer.readable = (frames greetingZlib leaving).flatten ∧
        s.conn.messages = frames greetingZlib queued ∧
        (∀ thread, Follows s.conn.up
          (sentBy thread (arrived ++ leaving ++ queued) ++ s.unqueued thread)
          (sentBy thread s.asked)) ∧
        (s.conn.outputBuffer.readable = [] → leaving = []) :=
  ⟨by decide +kernel, by decide +kernel,
    threads_messages_arrive (Zlib.packing_documented (by decide) (by decide)) (fun _ => 0)
      _ _ _ _ _ _ greetings rfl⟩

end SessionThreads

end Talko.Network
