import Talko.Network.TcpConnectionProperties

/-!
# The life cycle of a connection

The states of a connection are passed through in one direction, and the state decides which
of `conn_callback_` and `close_callback_` the user has seen so far. `msg_callback_` has no
such discipline: `_handle_read` does not look at the state, and `Channel::handle_event`
still calls it for an event that has just closed the connection.
-/

set_option autoImplicit false

namespace Talko.Network

open Talko.Library

def StateE.rank : StateE → Nat
  | .kConnecting => 0
  | .kConnected => 1
  | .kDisconnecting => 2
  | .kDisconnected => 3

theorem StateE.rank_le_kDisconnected (state : StateE) : state.rank ≤ StateE.kDisconnected.rank := by
  cases state with
  | kConnecting => decide
  | kConnected => decide
  | kDisconnecting => decide
  | kDisconnected => decide

namespace Effect

def isNotification : Effect → Bool
  | .connCallback _ | .closeCallback => true
  | _ => false

def isMessage : Effect → Bool
  | .msgCallback _ => true
  | _ => false

def isInternal (effect : Effect) : Bool :=
  !effect.isNotification && !effect.isMessage

end Effect

/-- The notifications that a connection in the given state has made. -/
def StateE.Told : StateE → List Effect → Prop
  | .kConnecting, told => told = []
  | .kConnected, told => told = [.connCallback true]
  | .kDisconnecting, told => told = [.connCallback true]
  | .kDisconnected, told =>
      told = [.connCallback false, .closeCallback] ∨
        told = [.connCallback true, .connCallback false, .closeCallback] ∨
        told = [.connCallback true, .connCallback false]

/-- Whatever the state is, the notifications are some of the three there are, in order. -/
theorem StateE.Told.sublist {state : StateE} {told : List Effect} (holds : state.Told told) :
    told.Sublist [.connCallback true, .connCallback false, .closeCallback] := by
  cases state with
  | kConnecting =>
      cases holds
      decide
  | kConnected =>
      cases holds
      decide
  | kDisconnecting =>
      cases holds
      decide
  | kDisconnected =>
      rcases holds with closed | both | destroyed
      · rw [closed]
        decide
      · rw [both]
      · rw [destroyed]
        decide

namespace TcpConnection

variable {Id : Type}

def notifications (conn : TcpConnection Id) : List Effect :=
  conn.trace.filter Effect.isNotification

/-- The state stays, and the trace grows by nothing that the user's connection and message
callbacks see. -/
def Quiet (conn after : TcpConnection Id) : Prop :=
  after.state = conn.state ∧
    ∃ added : List Effect, (∀ effect ∈ added, effect.isInternal = true) ∧
      after.trace = conn.trace ++ added

theorem Quiet.of_eq {conn after : TcpConnection Id} (state : after.state = conn.state)
    (trace : after.trace = conn.trace) : conn.Quiet after :=
  ⟨state, [], by simp, by simpa using trace⟩

theorem Quiet.refl (conn : TcpConnection Id) : conn.Quiet conn :=
  .of_eq rfl rfl

theorem record_quiet (conn : TcpConnection Id) {effect : Effect}
    (inner : effect.isInternal = true) : conn.Quiet (conn.record effect) :=
  ⟨rfl, [effect], by simpa using inner, rfl⟩

theorem Quiet.trans {conn middle after : TcpConnection Id} (first : conn.Quiet middle)
    (second : middle.Quiet after) : conn.Quiet after := by
  obtain ⟨sameState, early, earlyInner, earlyTrace⟩ := first
  obtain ⟨finalState, late, lateInner, lateTrace⟩ := second
  refine ⟨finalState.trans sameState, early ++ late, ?_, ?_⟩
  · intro effect member
    rcases List.mem_append.mp member with old | recent
    · exact earlyInner effect old
    · exact lateInner effect recent
  · rw [lateTrace, earlyTrace, List.append_assoc]

theorem Quiet.notifications {conn after : TcpConnection Id} (quiet : conn.Quiet after) :
    after.notifications = conn.notifications := by
  obtain ⟨-, added, inner, trace⟩ := quiet
  have none : added.filter Effect.isNotification = [] := by
    rw [List.filter_eq_nil_iff]
    intro effect member told
    have := inner effect member
    simp [Effect.isInternal, told] at this
  rw [TcpConnection.notifications, trace, List.filter_append, none, List.append_nil]
  rfl

theorem notifications_of_trace {conn after : TcpConnection Id} {added : List Effect}
    (trace : after.trace = conn.trace ++ added) :
    after.notifications = conn.notifications ++ added.filter Effect.isNotification := by
  rw [notifications, trace, List.filter_append]
  rfl

theorem Buffers.quiet {conn after : TcpConnection Id} {rest : List UInt8}
    (buffers : conn.Buffers after rest) : conn.Quiet after :=
  .of_eq buffers.state buffers.trace

theorem Drains.quiet {conn after : TcpConnection Id} {bytes : List UInt8}
    (drains : conn.Drains after bytes) : conn.Quiet after := by
  refine ⟨drains.state, _, ?_, drains.trace⟩
  intro effect member
  rcases List.mem_cons.mp member with wrote | finished
  · subst wrote
    rfl
  · split at finished
    · cases List.mem_singleton.mp finished
      rfl
    · cases finished

/-- The trace grows by no call of `msg_callback_`. -/
def Unheard (conn after : TcpConnection Id) : Prop :=
  ∃ added : List Effect, (∀ effect ∈ added, effect.isMessage = false) ∧
    after.trace = conn.trace ++ added

theorem Quiet.unheard {conn after : TcpConnection Id} (quiet : conn.Quiet after) :
    conn.Unheard after := by
  obtain ⟨-, added, inner, trace⟩ := quiet
  refine ⟨added, ?_, trace⟩
  intro effect member
  have := inner effect member
  simpa [Effect.isInternal] using (Bool.and_eq_true_iff.mp this).2

theorem Unheard.trans {conn middle after : TcpConnection Id} (first : conn.Unheard middle)
    (second : middle.Unheard after) : conn.Unheard after := by
  obtain ⟨early, earlySilent, earlyTrace⟩ := first
  obtain ⟨late, lateSilent, lateTrace⟩ := second
  refine ⟨early ++ late, ?_, by rw [lateTrace, earlyTrace, List.append_assoc]⟩
  intro effect member
  rcases List.mem_append.mp member with old | recent
  · exact earlySilent effect old
  · exact lateSilent effect recent

theorem shutdownInLoop_quiet (conn : TcpConnection Id) : conn.Quiet conn.shutdownInLoop := by
  unfold shutdownInLoop
  split
  · exact .refl conn
  · exact conn.record_quiet rfl

/-- A connection that is not before the given state, with the notifications that its own
state stands for. -/
structure LifeCycle (floor : StateE) (conn : TcpConnection Id) : Prop where
  floor_le : floor.rank ≤ conn.state.rank
  told : conn.state.Told conn.notifications

theorem LifeCycle.quiet {floor : StateE} {conn after : TcpConnection Id}
    (cycle : LifeCycle floor conn) (quiet : conn.Quiet after) : LifeCycle floor after := by
  refine ⟨?_, ?_⟩
  · rw [quiet.1]
    exact cycle.floor_le
  · rw [quiet.1, quiet.notifications]
    exact cycle.told

/-- What a member that leaves the connection in a state of its choice has to say. -/
theorem LifeCycle.of_trace {floor state : StateE} {conn after : TcpConnection Id}
    {added : List Effect} (reaches : after.state = state)
    (trace : after.trace = conn.trace ++ added) (floor_le : floor.rank ≤ state.rank)
    (told : state.Told (conn.notifications ++ added.filter Effect.isNotification)) :
    LifeCycle floor after := by
  subst reaches
  refine ⟨floor_le, ?_⟩
  rw [notifications_of_trace trace]
  exact told

theorem LifeCycle.disconnecting {floor : StateE} {conn : TcpConnection Id}
    (cycle : LifeCycle floor conn)
    (live : conn.state = .kConnected ∨ conn.state = .kDisconnecting) :
    LifeCycle floor (conn.setState .kDisconnecting) := by
  have told := cycle.told
  have rank := cycle.floor_le
  rcases live with up | closing
  · rw [up] at told rank
    have advances : StateE.kConnected.rank ≤ StateE.kDisconnecting.rank := by decide
    exact ⟨rank.trans advances, told⟩
  · rw [closing] at told rank
    exact ⟨rank, told⟩

section

variable [DecidableEq Id]

/-!
## What the members say
-/

theorem sendInLoop_quiet (ctl : EpollCtl Id) (conn : TcpConnection Id) (data : List UInt8)
    (answer : SocksWrite) : conn.Quiet (conn.sendInLoop ctl data answer) := by
  obtain ⟨-, same⟩ | ⟨-, -, -, buffers⟩ | ⟨-, -, buffers⟩ :=
    sendInLoop_cases ctl conn data answer
  · exact .of_eq (by rw [same]) (by rw [same])
  · exact ((conn.record_quiet rfl).trans (record_quiet _ rfl)).trans buffers.quiet
  · exact (conn.record_quiet rfl).trans buffers.quiet

theorem handleClose_cases (ctl : EpollCtl Id) (conn : TcpConnection Id) :
    (conn.state = .kDisconnected ∧ conn.handleClose ctl = conn) ∨
    (conn.state ≠ .kDisconnected ∧ (conn.handleClose ctl).state = .kDisconnected ∧
      (conn.handleClose ctl).trace = conn.trace ++ [.connCallback false, .closeCallback]) := by
  unfold handleClose
  split
  · next down => exact .inl ⟨down, rfl⟩
  · next live => exact .inr ⟨live, rfl, by simp [record, disableAll, setState]⟩

theorem handleRead_cases (ctl : EpollCtl Id) (conn : TcpConnection Id) (answer : SocksRead) :
    (0 < answer.n ∧ (conn.handleRead ctl answer).state = conn.state ∧
      ∃ input, (conn.handleRead ctl answer).trace = conn.trace ++ [.msgCallback input]) ∨
    (answer.n ≤ 0 ∧ ∃ fed, conn.Quiet fed ∧ conn.handleRead ctl answer = fed.handleClose ctl) := by
  have count : (conn.inputBuffer.bbReadFd answer).2 = answer.n := by
    unfold ByteBuffer.bbReadFd
    dsimp only
    split
    · rfl
    · split <;> rfl
  unfold handleRead
  dsimp only
  rw [count]
  split
  · next some => exact .inl ⟨some, rfl, _, rfl⟩
  · next none =>
      refine .inr ⟨by omega, { conn with inputBuffer := (conn.inputBuffer.bbReadFd answer).1 },
        .of_eq rfl rfl, ?_⟩
      split
      · rfl
      · rfl

theorem handleWrite_quiet_or_closes (ctl : EpollCtl Id) (conn : TcpConnection Id)
    (answer : SocksWrite) :
    conn.Quiet (conn.handleWrite ctl answer) ∨
      ∃ tried, conn.Quiet tried ∧ conn.handleWrite ctl answer = tried.handleClose ctl := by
  unfold handleWrite
  split
  · next on =>
      generalize wrote : socksWrite conn.outputBuffer.readable answer = outcome
      cases outcome with
      | failed errno => exact .inr ⟨_, conn.record_quiet rfl, rfl⟩
      | taken bytes =>
          by_cases taken : bytes = []
          · subst taken
            exact .inr ⟨_, conn.record_quiet rfl, rfl⟩
          · exact .inl (afterBufferedWrite_drains wrote taken on ctl).quiet
  · exact .inl (.refl conn)

theorem connEstablished_cases (ctl : EpollCtl Id) (conn : TcpConnection Id) :
    (conn.state ≠ .kConnecting ∧ conn.connEstablished ctl = conn) ∨
    (conn.state = .kConnecting ∧ (conn.connEstablished ctl).state = .kConnected ∧
      (conn.connEstablished ctl).trace = conn.trace ++ [.connCallback true]) ∨
    (conn.state = .kConnecting ∧ (conn.connEstablished ctl).state = .kDisconnected ∧
      (conn.connEstablished ctl).trace = conn.trace ++ [.connCallback false, .closeCallback]) := by
  unfold connEstablished
  split
  · next other => exact .inl ⟨other, rfl⟩
  · next connecting =>
      have fresh := Decidable.not_not.mp connecting
      right
      dsimp only
      split
      · exact .inl ⟨fresh, rfl, rfl⟩
      · next poller _ =>
          obtain ⟨down, -⟩ | ⟨-, state, trace⟩ := handleClose_cases ctl
            { conn.setState .kConnected with poller := poller }
          · cases down
          · exact .inr ⟨fresh, state, trace⟩

theorem connDestroyed_cases (ctl : EpollCtl Id) (conn : TcpConnection Id) :
    (conn.state ≠ .kConnected ∧ conn.Quiet (conn.connDestroyed ctl)) ∨
    (conn.state = .kConnected ∧ (conn.connDestroyed ctl).state = .kDisconnected ∧
      (conn.connDestroyed ctl).trace = conn.trace ++ [.connCallback false]) := by
  unfold connDestroyed
  dsimp only
  split
  · next up => exact .inr ⟨up, rfl, rfl⟩
  · next other => exact .inl ⟨other, .of_eq rfl rfl⟩

/-!
## Notifications
-/

theorem LifeCycle.handleClose {floor : StateE} {conn : TcpConnection Id}
    (cycle : LifeCycle floor conn) (ctl : EpollCtl Id) :
    LifeCycle floor (conn.handleClose ctl) := by
  obtain ⟨-, same⟩ | ⟨live, state, trace⟩ := handleClose_cases ctl conn
  · rw [same]
    exact cycle
  · refine .of_trace state trace floor.rank_le_kDisconnected ?_
    have told := cycle.told
    cases before : conn.state with
    | kConnecting =>
        simp only [before, StateE.Told] at told
        exact .inl (by rw [told]; rfl)
    | kConnected =>
        simp only [before, StateE.Told] at told
        exact .inr (.inl (by rw [told]; rfl))
    | kDisconnecting =>
        simp only [before, StateE.Told] at told
        exact .inr (.inl (by rw [told]; rfl))
    | kDisconnected => exact absurd before live

theorem LifeCycle.handleRead {floor : StateE} {conn : TcpConnection Id}
    (cycle : LifeCycle floor conn) (ctl : EpollCtl Id) (answer : SocksRead) :
    LifeCycle floor (conn.handleRead ctl answer) := by
  obtain ⟨-, state, input, trace⟩ | ⟨-, fed, quiet, closed⟩ := handleRead_cases ctl conn answer
  · refine .of_trace state trace cycle.floor_le ?_
    simpa [Effect.isNotification] using cycle.told
  · rw [closed]
    exact (cycle.quiet quiet).handleClose ctl

theorem LifeCycle.handleWrite {floor : StateE} {conn : TcpConnection Id}
    (cycle : LifeCycle floor conn) (ctl : EpollCtl Id) (answer : SocksWrite) :
    LifeCycle floor (conn.handleWrite ctl answer) := by
  obtain quiet | ⟨tried, quiet, closed⟩ := handleWrite_quiet_or_closes ctl conn answer
  · exact cycle.quiet quiet
  · rw [closed]
    exact (cycle.quiet quiet).handleClose ctl

theorem LifeCycle.connEstablished {floor : StateE} {conn : TcpConnection Id}
    (cycle : LifeCycle floor conn) (ctl : EpollCtl Id) :
    LifeCycle floor (conn.connEstablished ctl) := by
  have told := cycle.told
  have rank := cycle.floor_le
  obtain ⟨-, same⟩ | ⟨fresh, state, trace⟩ | ⟨fresh, state, trace⟩ :=
    connEstablished_cases ctl conn
  · rw [same]
    exact cycle
  · simp only [fresh, StateE.Told] at told
    rw [fresh] at rank
    have advances : StateE.kConnecting.rank ≤ StateE.kConnected.rank := by decide
    refine .of_trace state trace (rank.trans advances) ?_
    rw [told]
    rfl
  · simp only [fresh, StateE.Told] at told
    refine .of_trace state trace floor.rank_le_kDisconnected ?_
    rw [told]
    exact .inl rfl

theorem LifeCycle.connDestroyed {floor : StateE} {conn : TcpConnection Id}
    (cycle : LifeCycle floor conn) (ctl : EpollCtl Id) :
    LifeCycle floor (conn.connDestroyed ctl) := by
  obtain ⟨-, quiet⟩ | ⟨up, state, trace⟩ := connDestroyed_cases ctl conn
  · exact cycle.quiet quiet
  · have told := cycle.told
    simp only [up, StateE.Told] at told
    refine .of_trace state trace floor.rank_le_kDisconnected ?_
    rw [told]
    exact .inr (.inr rfl)

theorem lifeCycle_preserves (ctl : EpollCtl Id) (floor : StateE) :
    Preserves ctl (@LifeCycle Id floor) where
  connEstablished cycle := cycle.connEstablished ctl
  sendInLoop cycle data answer := cycle.quiet (sendInLoop_quiet ctl _ data answer)
  shutdownInLoop cycle := cycle.quiet (shutdownInLoop_quiet _)
  handleClose cycle := cycle.handleClose ctl
  handleRead cycle answer := cycle.handleRead ctl answer
  handleWrite cycle answer := cycle.handleWrite ctl answer
  connDestroyed cycle := cycle.connDestroyed ctl
  disconnecting cycle live := cycle.disconnecting live
  functors cycle _ := cycle.quiet (.of_eq rfl rfl)
  writeComplete cycle := cycle.quiet (record_quiet _ rfl)
  highWaterMark cycle _ := cycle.quiet (record_quiet _ rfl)

theorem run_lifeCycle {floor : StateE} {conn : TcpConnection Id} (cycle : LifeCycle floor conn)
    (actions : List (EpollCtl Id × ConnStep)) : LifeCycle floor (run step conn actions) :=
  run_invariant_always (LifeCycle floor)
    (fun _ action holds => (lifeCycle_preserves action.1 floor).step holds action.2) cycle actions

/-- In every order of steps and with every answer of the kernel, the state of a connection
only advances, the user is told at most once that it is up and at most once that it is down,
never in the opposite order, and the server is told at most once that it is closed. -/
theorem states_advance_and_notify_once (poller : EpollPoller Id) (channel : Id) (sockfd : Int)
    (writeComplete highWater : Bool) (highWaterMark : Nat)
    (actions more : List (EpollCtl Id × ConnStep)) :
    let start := new poller channel sockfd writeComplete highWater highWaterMark
    let conn := run step start actions
    conn.state.rank ≤ (run step start (actions ++ more)).state.rank ∧
      conn.trace.count (.connCallback true) ≤ 1 ∧
      conn.trace.count (.connCallback false) ≤ 1 ∧
      conn.trace.count .closeCallback ≤ 1 ∧
      conn.trace.Pairwise fun earlier later =>
        earlier = .connCallback false → later ≠ .connCallback true := by
  intro start conn
  have fresh : LifeCycle .kConnecting start := ⟨le_refl _, rfl⟩
  have cycle : LifeCycle .kConnecting conn := run_lifeCycle fresh actions
  have distinct : conn.notifications.Nodup := cycle.told.sublist.nodup (by decide)
  have once : ∀ effect : Effect, effect.isNotification = true → conn.trace.count effect ≤ 1 := by
    intro effect notified
    rw [← List.count_filter notified]
    exact List.nodup_iff_count_le_one.mp distinct effect
  refine ⟨?_, once _ rfl, once _ rfl, once _ rfl, ?_⟩
  · rw [run_append]
    have again : LifeCycle conn.state conn := ⟨le_refl _, cycle.told⟩
    exact (run_lifeCycle again more).floor_le
  · have ordered : conn.notifications.Pairwise fun earlier later =>
        earlier = .connCallback false → later ≠ .connCallback true :=
      List.Pairwise.sublist cycle.told.sublist (by decide)
    refine (List.pairwise_filter.mp ordered).imp ?_
    intro earlier later apart down up
    exact apart (by rw [down]; rfl) (by rw [up]; rfl) down up

/-!
## Messages
-/

theorem handleClose_unheard (ctl : EpollCtl Id) (conn : TcpConnection Id) :
    conn.Unheard (conn.handleClose ctl) := by
  obtain ⟨-, same⟩ | ⟨-, -, trace⟩ := handleClose_cases ctl conn
  · rw [same]
    exact (Quiet.refl conn).unheard
  · exact ⟨_, by simp [Effect.isMessage], trace⟩

theorem handleWrite_unheard (ctl : EpollCtl Id) (conn : TcpConnection Id)
    (answer : SocksWrite) : conn.Unheard (conn.handleWrite ctl answer) := by
  obtain quiet | ⟨tried, quiet, closed⟩ := handleWrite_quiet_or_closes ctl conn answer
  · exact quiet.unheard
  · rw [closed]
    exact quiet.unheard.trans (handleClose_unheard ctl tried)

theorem connEstablished_unheard (ctl : EpollCtl Id) (conn : TcpConnection Id) :
    conn.Unheard (conn.connEstablished ctl) := by
  obtain ⟨-, same⟩ | ⟨-, -, trace⟩ | ⟨-, -, trace⟩ := connEstablished_cases ctl conn
  · rw [same]
    exact (Quiet.refl conn).unheard
  · exact ⟨_, by simp [Effect.isMessage], trace⟩
  · exact ⟨_, by simp [Effect.isMessage], trace⟩

theorem connDestroyed_unheard (ctl : EpollCtl Id) (conn : TcpConnection Id) :
    conn.Unheard (conn.connDestroyed ctl) := by
  obtain ⟨-, quiet⟩ | ⟨-, -, trace⟩ := connDestroyed_cases ctl conn
  · exact quiet.unheard
  · exact ⟨_, by simp [Effect.isMessage], trace⟩

theorem execute_unheard (ctl : EpollCtl Id) (conn : TcpConnection Id) (answer : SocksWrite)
    (functor : Functor) : conn.Unheard (conn.execute ctl answer functor) := by
  cases functor with
  | sendInLoop message => exact (sendInLoop_quiet ctl conn message answer).unheard
  | shutdownInLoop => exact conn.shutdownInLoop_quiet.unheard
  | forceCloseInLoop =>
      change conn.Unheard (conn.forceCloseInLoop ctl)
      unfold forceCloseInLoop
      split
      · exact handleClose_unheard ctl conn
      · exact (Quiet.refl conn).unheard
  | writeCompleteCallback => exact (conn.record_quiet rfl).unheard
  | highWaterMarkCallback size => exact (conn.record_quiet rfl).unheard

theorem runInLoop_unheard (ctl : EpollCtl Id) (conn : TcpConnection Id) (inLoopThread : Bool)
    (answer : SocksWrite) (functor : Functor) :
    conn.Unheard (conn.runInLoop ctl inLoopThread answer functor) := by
  cases inLoopThread with
  | true => exact execute_unheard ctl conn answer functor
  | false => exact ⟨[], by simp, (List.append_nil _).symm⟩

end

/-- No `msg_callback_` comes behind a `conn_callback_` in the state `kDisconnected`. -/
def SilentOnceDown (trace : List Effect) : Prop :=
  trace.Pairwise fun earlier later => earlier = .connCallback false → later.isMessage = false

theorem Unheard.silentOnceDown_iff {conn after : TcpConnection Id}
    (unheard : conn.Unheard after) :
    SilentOnceDown after.trace ↔ SilentOnceDown conn.trace := by
  obtain ⟨added, silent, trace⟩ := unheard
  rw [trace, SilentOnceDown, List.pairwise_append]
  constructor
  · intro holds
    exact holds.1
  · intro holds
    refine ⟨holds, List.pairwise_of_forall_mem_list ?_, ?_⟩
    · intro _ _ later member _
      exact silent later member
    · intro _ _ later member _
      exact silent later member

theorem LifeCycle.down_iff {floor : StateE} {conn : TcpConnection Id}
    (cycle : LifeCycle floor conn) :
    conn.state = .kDisconnected ↔ .connCallback false ∈ conn.trace := by
  have told := cycle.told
  have seen : .connCallback false ∈ conn.trace ↔ .connCallback false ∈ conn.notifications := by
    simp [notifications, Effect.isNotification]
  rw [seen]
  cases state : conn.state with
  | kConnecting =>
      simp only [state, StateE.Told] at told
      simp [told]
  | kConnected =>
      simp only [state, StateE.Told] at told
      simp [told]
  | kDisconnecting =>
      simp only [state, StateE.Told] at told
      simp [told]
  | kDisconnected =>
      rw [state] at told
      rcases told with closed | both | destroyed
      · simp [closed]
      · simp [both]
      · simp [destroyed]

/-- A read that delivers bytes happens on a connection that is not down, and in an event
that does not close it first. -/
def ReadsLive (conn : TcpConnection Id) : EpollCtl Id × ConnStep → Prop
  | (_, .handleRead answer) => 0 < answer.n → conn.state ≠ .kDisconnected
  | (_, .handleEvent revents read _) =>
      0 < read.n ∧ revents &&& (POLLIN ||| POLLPRI ||| POLLRDHUP) ≠ 0 →
        conn.state ≠ .kDisconnected ∧
          ¬ (revents &&& POLLHUP ≠ 0 ∧ revents &&& POLLIN = 0) ∧
          revents &&& (POLLERR ||| POLLNVAL) = 0
  | _ => True

variable [DecidableEq Id]

theorem handleRead_silentOnceDown_iff {floor : StateE} {conn : TcpConnection Id}
    (cycle : LifeCycle floor conn) (ctl : EpollCtl Id) (answer : SocksRead) :
    SilentOnceDown (conn.handleRead ctl answer).trace ↔
      SilentOnceDown conn.trace ∧ (0 < answer.n → conn.state ≠ .kDisconnected) := by
  obtain ⟨delivers, -, input, trace⟩ | ⟨empty, fed, quiet, closed⟩ :=
    handleRead_cases ctl conn answer
  · have told : SilentOnceDown (conn.trace ++ [.msgCallback input]) ↔
        SilentOnceDown conn.trace ∧ .connCallback false ∉ conn.trace := by
      simp only [SilentOnceDown, List.pairwise_append, List.pairwise_singleton,
        List.mem_singleton, true_and, forall_eq]
      refine and_congr_right fun _ => ⟨?_, ?_⟩
      · intro clear down
        cases clear _ down rfl
      · intro clear earlier member down
        exact absurd (down ▸ member) clear
    rw [trace, told, ← cycle.down_iff]
    simp [delivers]
  · rw [closed, (handleClose_unheard ctl fed).silentOnceDown_iff,
      quiet.unheard.silentOnceDown_iff]
    exact (and_iff_left fun delivers => absurd delivers (by omega)).symm

/-- A handler that closes the connection when its event is there. -/
structure ClosesIf (event : Prop) (conn after : TcpConnection Id) : Prop where
  unheard : conn.Unheard after
  down_iff : after.state = .kDisconnected ↔ conn.state = .kDisconnected ∨ event
  cycle : ∀ {floor}, LifeCycle floor conn → LifeCycle floor after

theorem closesIf_ite (ctl : EpollCtl Id) (conn : TcpConnection Id) (event : Prop)
    [Decidable event] : ClosesIf event conn (if event then conn.handleClose ctl else conn) := by
  split
  · next seen =>
      exact ⟨handleClose_unheard ctl conn, by simp [seen], fun cycle => cycle.handleClose ctl⟩
  · next unseen => exact ⟨(Quiet.refl conn).unheard, by simp [unseen], fun cycle => cycle⟩

theorem handleEvent_silentOnceDown_iff {floor : StateE} {conn : TcpConnection Id}
    (cycle : LifeCycle floor conn) (ctl : EpollCtl Id) (revents : EventMask)
    (read : SocksRead) (write : SocksWrite) :
    SilentOnceDown (conn.handleEvent ctl revents read write).trace ↔
      SilentOnceDown conn.trace ∧ conn.ReadsLive (ctl, .handleEvent revents read write) := by
  unfold handleEvent ReadsLive
  dsimp only
  have hangs := closesIf_ite ctl conn (revents &&& POLLHUP ≠ 0 ∧ revents &&& POLLIN = 0)
  generalize (if revents &&& POLLHUP ≠ 0 ∧ revents &&& POLLIN = 0 then conn.handleClose ctl
    else conn) = hungUp at hangs ⊢
  have fails := closesIf_ite ctl hungUp (revents &&& (POLLERR ||| POLLNVAL) ≠ 0)
  have failed_eq : (if revents &&& (POLLERR ||| POLLNVAL) ≠ 0 then hungUp.handleError ctl
    else hungUp) = if revents &&& (POLLERR ||| POLLNVAL) ≠ 0 then hungUp.handleClose ctl
    else hungUp := rfl
  rw [failed_eq]
  generalize (if revents &&& (POLLERR ||| POLLNVAL) ≠ 0 then hungUp.handleClose ctl
    else hungUp) = failed at fails ⊢
  have written : ∀ readable : TcpConnection Id,
      SilentOnceDown (if revents &&& POLLOUT ≠ 0 then readable.handleWrite ctl write
        else readable).trace ↔ SilentOnceDown readable.trace := by
    intro readable
    split
    · exact (handleWrite_unheard ctl readable write).silentOnceDown_iff
    · rfl
  rw [written]
  split
  · next reads =>
      rw [handleRead_silentOnceDown_iff (fails.cycle (hangs.cycle cycle)),
        fails.unheard.silentOnceDown_iff, hangs.unheard.silentOnceDown_iff]
      have live_iff : failed.state ≠ .kDisconnected ↔ conn.state ≠ .kDisconnected ∧
          ¬ (revents &&& POLLHUP ≠ 0 ∧ revents &&& POLLIN = 0) ∧
          revents &&& (POLLERR ||| POLLNVAL) = 0 := by
        rw [ne_eq, fails.down_iff, hangs.down_iff, not_or, not_or, Decidable.not_not, and_assoc]
      rw [live_iff]
      simp only [reads, ne_eq, not_false_eq_true, and_true]
  · next skips =>
      rw [fails.unheard.silentOnceDown_iff, hangs.unheard.silentOnceDown_iff]
      exact (and_iff_left fun both => absurd both.2 skips).symm

theorem step_silentOnceDown_iff {floor : StateE} {conn : TcpConnection Id}
    (cycle : LifeCycle floor conn) (action : EpollCtl Id × ConnStep) :
    SilentOnceDown (conn.step action).trace ↔
      SilentOnceDown conn.trace ∧ conn.ReadsLive action := by
  have unaffected : ∀ {after : TcpConnection Id}, conn.Unheard after →
      (SilentOnceDown after.trace ↔ SilentOnceDown conn.trace ∧ True) := by
    intro after unheard
    rw [unheard.silentOnceDown_iff, and_true]
  obtain ⟨ctl, action⟩ := action
  cases action with
  | connEstablished => exact unaffected (connEstablished_unheard ctl conn)
  | send inLoopThread message answer =>
      refine unaffected (?_ : conn.Unheard (conn.send ctl inLoopThread message answer))
      unfold send
      split
      · split
        · exact (sendInLoop_quiet ctl conn message answer).unheard
        · exact runInLoop_unheard ctl conn _ answer _
      · exact (Quiet.refl conn).unheard
  | sendInLoop data answer => exact unaffected (sendInLoop_quiet ctl conn data answer).unheard
  | shutdown inLoopThread =>
      refine unaffected (?_ : conn.Unheard (conn.shutdown ctl inLoopThread))
      unfold shutdown
      split
      · exact runInLoop_unheard ctl (conn.setState .kDisconnecting) _ _ _
      · exact (Quiet.refl conn).unheard
  | forceClose =>
      refine unaffected (?_ : conn.Unheard conn.forceClose)
      unfold forceClose
      split
      · exact ⟨[], by simp, (List.append_nil _).symm⟩
      · exact (Quiet.refl conn).unheard
  | handleRead answer => exact handleRead_silentOnceDown_iff cycle ctl answer
  | handleWrite answer => exact unaffected (handleWrite_unheard ctl conn answer)
  | handleClose => exact unaffected (handleClose_unheard ctl conn)
  | handleError => exact unaffected (handleClose_unheard ctl conn)
  | handleEvent revents read write =>
      exact handleEvent_silentOnceDown_iff cycle ctl revents read write
  | executeNext answer =>
      refine unaffected (?_ : conn.Unheard (conn.executeNext ctl answer))
      unfold executeNext
      split
      · exact (Quiet.refl conn).unheard
      · next functor rest _ =>
          exact execute_unheard ctl { conn with pendingFunctors := rest } answer functor
  | connDestroyed => exact unaffected (connDestroyed_unheard ctl conn)

theorem run_silentOnceDown_iff {floor : StateE} {conn : TcpConnection Id}
    (cycle : LifeCycle floor conn) (actions : List (EpollCtl Id × ConnStep)) :
    SilentOnceDown (run step conn actions).trace ↔
      SilentOnceDown conn.trace ∧ Guarded step ReadsLive conn actions := by
  induction actions generalizing conn with
  | nil => simp
  | cons action rest ih =>
      have next := (lifeCycle_preserves action.1 floor).step cycle action.2
      rw [run_cons, ih next, step_silentOnceDown_iff cycle, guarded_cons, and_assoc]

/-- No message follows the notification that a connection is down exactly when every read
that delivers bytes finds the connection live. -/
theorem message_after_down_iff (poller : EpollPoller Id) (channel : Id) (sockfd : Int)
    (writeComplete highWater : Bool) (highWaterMark : Nat)
    (actions : List (EpollCtl Id × ConnStep)) :
    let start := new poller channel sockfd writeComplete highWater highWaterMark
    SilentOnceDown (run step start actions).trace ↔ Guarded step ReadsLive start actions := by
  intro start
  have fresh : LifeCycle .kConnecting start := ⟨le_refl _, rfl⟩
  rw [run_silentOnceDown_iff fresh]
  exact and_iff_right List.Pairwise.nil

private theorem singleByte_fits : [(65 : UInt8)].length ≤ extrabufSize := by decide

private def singleByte : Delivery := ⟨[65], Nat.zero_lt_one, singleByte_fits⟩

private def errorAndInput : List (EpollCtl Unit × ConnStep) :=
  [(mapCtl, .connEstablished),
    (mapCtl, .handleEvent (POLLERR ||| POLLIN) (.delivered singleByte) (.accepted 0))]

/-- The error closes the connection and the input of the same event still reaches the
user. -/
theorem error_with_input_delivers :
    ¬ SilentOnceDown
      (run step (new (.new fun _ => 0) () 5 false false 0) errorAndInput).trace := by
  intro silent
  have fresh : LifeCycle .kConnecting (new (.new fun _ => 0) () 5 false false 0) :=
    ⟨le_refl _, rfl⟩
  obtain ⟨-, -, reads, -⟩ := (run_silentOnceDown_iff fresh errorAndInput).mp silent
  obtain ⟨-, -, noError⟩ := reads ⟨by decide, by decide⟩
  exact absurd noError (by decide)

end TcpConnection

end Talko.Network
