import Talko.Network.TcpConnectionProperties

/-!
# Destroying a connection

`conn_destroyed` clears the interest of the channel only in the state `kConnected`, and
`Channel::remove` does nothing while some interest is left. A connection that is destroyed
while it shuts down therefore stays registered.
-/

set_option autoImplicit false

namespace Talko.Network

open Talko.Library

variable {Id : Type} [DecidableEq Id]

/-!
## A channel that has its descriptor for itself
-/

namespace EpollPoller

/-- A registry in order in which no other channel holds the channel's descriptor. -/
structure Owns (p : EpollPoller Id) (channel : Id) : Prop where
  consistent : p.Consistent
  ownable : ∀ other, p.channels (p.fd channel) = some other → other = channel

theorem Owns.assign {p : EpollPoller Id} {channel : Id} (owns : p.Owns channel)
    (events : EventMask) (index : ChannelIndex) {calls : List EpollCall}
    (succeeded : ∀ call ∈ calls, call.succeeded = true) :
    (p.assign channel events index calls).Owns channel where
  consistent := owns.consistent.assign owns.ownable events index succeeded
  ownable := by
    intro other held
    simp only [EpollPoller.assign, Function.update_self] at held
    split at held
    · cases held
    · exact (Option.some.inj held).symm

theorem Owns.setInterest {p : EpollPoller Id} {channel : Id} (owns : p.Owns channel)
    (events : EventMask) :
    (p.setInterest mapCtl channel events).1.Owns channel ∧
      (p.setInterest mapCtl channel events).2 = true ∧
      (events ≠ 0 → (p.setInterest mapCtl channel events).1.index channel = .added) := by
  by_cases armed : p.index channel = .added
  · by_cases idle : events = Channel.noneEvent
    · rw [idle, setInterest_of_disarmed owns.consistent armed]
      exact ⟨owns.assign _ _ (by simp), rfl, fun kept => absurd rfl kept⟩
    · rw [setInterest_of_armed owns.consistent armed idle]
      exact ⟨owns.assign _ _ (by simp), rfl, fun _ => by simp [EpollPoller.assign]⟩
  · rw [setInterest_of_unarmed owns.consistent armed owns.ownable]
    exact ⟨owns.assign _ _ (by simp), rfl, fun _ => by simp [EpollPoller.assign]⟩

theorem Owns.remove {p : EpollPoller Id} {channel : Id} (owns : p.Owns channel) :
    (p.remove mapCtl channel).Owns channel := by
  by_cases registered : p.events channel = 0 ∧ p.channels (p.fd channel) = some channel
  · obtain ⟨calls, succeeded, removed⟩ :=
      remove_of_registered owns.consistent registered.1 registered.2
    rw [removed]
    exact owns.assign _ _ succeeded
  · rw [remove_of_unregistered (Decidable.not_and_iff_or_not.mp registered)]
    exact owns

/-- The channel and its descriptor are gone from the map and the kernel's set. -/
def Unregistered (p : EpollPoller Id) (channel : Id) : Prop :=
  (∀ fd, p.channels fd ≠ some channel) ∧ p.kernel (p.fd channel) = none

theorem Owns.remove_unregistered_iff {p : EpollPoller Id} {channel : Id}
    (owns : p.Owns channel) :
    (p.remove mapCtl channel).Unregistered channel ↔
      (p.channels (p.fd channel) = some channel → p.events channel = 0) := by
  have elsewhere : ∀ fd, p.channels fd = some channel → fd = p.fd channel :=
    fun fd held => (owns.consistent.channels_fd fd channel held).symm
  by_cases owned : p.channels (p.fd channel) = some channel
  · by_cases idle : p.events channel = 0
    · obtain ⟨calls, _, removed⟩ := remove_of_registered owns.consistent idle owned
      rw [removed]
      refine ⟨fun _ _ => idle, fun _ => ⟨?_, by simp [EpollPoller.assign]⟩⟩
      intro fd held
      by_cases same : fd = p.fd channel
      · simp [EpollPoller.assign, same] at held
      · simp only [EpollPoller.assign, Function.update_of_ne same] at held
        exact same (elsewhere fd held)
    · rw [remove_of_unregistered (.inl idle)]
      refine ⟨fun gone => absurd owned (gone.1 _), fun allowed => absurd (allowed owned) idle⟩
  · rw [remove_of_unregistered (.inr owned)]
    refine ⟨fun _ held => absurd held owned, fun _ => ⟨?_, ?_⟩⟩
    · intro fd held
      exact owned (elsewhere fd held ▸ held)
    · apply owns.consistent.kernel_none
      cases held : p.channels (p.fd channel) with
      | none => rfl
      | some other =>
          rw [owns.ownable other held] at held
          exact absurd held owned

theorem call_elsewhere {p : EpollPoller Id} (consistent : p.Consistent) {channel : Id}
    {call : ChannelCall Id} (apart : p.fd call.channel ≠ p.fd channel) :
    (p.call mapCtl call).channels (p.fd channel) = p.channels (p.fd channel) ∧
      (p.call mapCtl call).events channel = p.events channel ∧
      (p.call mapCtl call).index channel = p.index channel := by
  have other : channel ≠ call.channel := fun same => apart (congrArg p.fd same.symm)
  obtain same | ⟨_, events, same⟩ | ⟨_, events, index, calls, _, same⟩ :=
    call_cases consistent call
  · rw [same]
    exact ⟨rfl, rfl, rfl⟩
  · rw [same]
    exact ⟨rfl, Function.update_of_ne other _ _, rfl⟩
  · rw [same]
    exact ⟨Function.update_of_ne apart.symm _ _, Function.update_of_ne other _ _,
      Function.update_of_ne other _ _⟩

theorem Owns.call {p : EpollPoller Id} {channel : Id} (owns : p.Owns channel)
    {call : ChannelCall Id} (apart : p.fd call.channel ≠ p.fd channel) :
    (p.call mapCtl call).Owns channel := by
  refine ⟨call_consistent p call owns.consistent, ?_⟩
  rw [call_fd, (call_elsewhere owns.consistent apart).1]
  exact owns.ownable

end EpollPoller

/-!
## The channel of a connection
-/

/-- What the state of a connection says about its channel: a connection that is up reads,
one that is down has no interest left. -/
structure Attached (state : StateE) (channel : Id) (p : EpollPoller Id) : Prop where
  owns : p.Owns channel
  down : state = .kDisconnected → p.events channel = 0
  reading : state = .kConnected ∨ state = .kDisconnecting →
    p.index channel = .added ∧ p.events channel &&& Channel.readEvent ≠ 0#32

namespace Attached

variable {state : StateE} {channel : Id} {p : EpollPoller Id}

theorem setInterest (attached : Attached state channel p) (up : state ≠ .kDisconnected)
    {events : EventMask} (reads : p.events channel &&& Channel.readEvent ≠ 0#32 →
      events &&& Channel.readEvent ≠ 0#32) :
    Attached state channel (p.setInterest mapCtl channel events).1 := by
  obtain ⟨owns, _, added⟩ := attached.owns.setInterest events
  have now : (p.setInterest mapCtl channel events).1.events channel = events := by
    rw [EpollPoller.setInterest_events, Function.update_self]
  refine ⟨owns, fun closed => absurd closed up, fun live => ?_⟩
  have kept := reads (attached.reading live).2
  rw [now]
  exact ⟨added (ne_zero_of_and_ne_zero kept), kept⟩

theorem enableWriting (attached : Attached state channel p) (up : state ≠ .kDisconnected) :
    Attached state channel (p.enableWriting mapCtl channel).1 := by
  have disjoint : Channel.writeEvent &&& Channel.readEvent = 0#32 := by decide
  apply attached.setInterest up
  rw [set_and_of_disjoint disjoint]
  exact id

theorem disableWriting (attached : Attached state channel p) (up : state ≠ .kDisconnected) :
    Attached state channel (p.disableWriting mapCtl channel).1 := by
  have disjoint : Channel.writeEvent &&& Channel.readEvent = 0#32 := by decide
  apply attached.setInterest up
  rw [clear_and_of_disjoint disjoint]
  exact id

theorem disableAll (attached : Attached state channel p) :
    Attached .kDisconnected channel (p.disableAll mapCtl channel).1 := by
  refine ⟨(attached.owns.setInterest _).1, fun _ => ?_, fun live => ?_⟩
  · unfold EpollPoller.disableAll
    rw [EpollPoller.setInterest_events, Function.update_self]
    rfl
  · rcases live with up | up <;> cases up

theorem enableReading (attached : Attached state channel p) :
    (p.enableReading mapCtl channel).2 = true ∧
      Attached .kConnected channel (p.enableReading mapCtl channel).1 := by
  obtain ⟨owns, succeeded, added⟩ :=
    attached.owns.setInterest (p.events channel ||| Channel.readEvent)
  have reads : (p.events channel ||| Channel.readEvent) &&& Channel.readEvent ≠ 0#32 := by
    rw [set_and_self]
    decide
  refine ⟨succeeded, owns, fun closed => (by cases closed), fun _ => ?_⟩
  unfold EpollPoller.enableReading
  rw [EpollPoller.setInterest_events, Function.update_self]
  exact ⟨added (ne_zero_of_and_ne_zero reads), reads⟩

theorem remove (attached : Attached state channel p) :
    Attached state channel (p.remove mapCtl channel) := by
  by_cases idle : p.events channel = 0
  · have same := (EpollPoller.remove_events_fd mapCtl p channel).1
    refine ⟨attached.owns.remove, fun closed => ?_, fun live => ?_⟩
    · rw [same]
      exact attached.down closed
    · exact absurd idle (ne_zero_of_and_ne_zero (attached.reading live).2)
  · rw [EpollPoller.remove_of_unregistered (.inl idle)]
    exact attached

omit [DecidableEq Id] in
theorem setState (attached : Attached state channel p)
    (live : state = .kConnected ∨ state = .kDisconnecting) :
    Attached .kDisconnecting channel p :=
  ⟨attached.owns, fun closed => (by cases closed), fun _ => attached.reading live⟩

end Attached

namespace TcpConnection

def ChannelAttached (conn : TcpConnection Id) : Prop :=
  Attached conn.state conn.channel conn.poller

theorem handleClose_attached {conn : TcpConnection Id} (attached : conn.ChannelAttached) :
    (conn.handleClose mapCtl).ChannelAttached := by
  unfold handleClose
  split
  · exact attached
  · exact attached.disableAll

theorem bufferRemaining_attached {conn : TcpConnection Id} (attached : conn.ChannelAttached)
    (up : conn.state ≠ .kDisconnected) (data : List UInt8) (nwrote : Nat) (faultError : Bool) :
    (conn.bufferRemaining mapCtl data nwrote faultError).ChannelAttached := by
  have filled : ∀ told : TcpConnection Id, told.ChannelAttached → told.state ≠ .kDisconnected →
      (if told.isWriting then told else told.enableWriting mapCtl).ChannelAttached := by
    intro told before unclosed
    split
    · exact before
    · exact before.enableWriting unclosed
  unfold bufferRemaining
  dsimp only
  split
  · exact attached
  · split
    · split
      · exact filled _ attached up
      · exact filled _ attached up
    · exact attached

theorem afterDirectWrite_attached {conn : TcpConnection Id} (attached : conn.ChannelAttached)
    (up : conn.state ≠ .kDisconnected) (data : List UInt8) (outcome : WriteOutcome) :
    (conn.afterDirectWrite mapCtl data outcome).ChannelAttached := by
  cases outcome with
  | taken bytes =>
      apply bufferRemaining_attached
      · split <;> exact attached
      · split <;> exact up
  | failed errno =>
      apply bufferRemaining_attached
      · exact attached
      · exact up

theorem sendInLoop_attached {conn : TcpConnection Id} (attached : conn.ChannelAttached)
    (data : List UInt8) (answer : SocksWrite) :
    (conn.sendInLoop mapCtl data answer).ChannelAttached := by
  unfold sendInLoop
  split
  · exact attached
  · next up =>
      dsimp only
      split
      · apply afterDirectWrite_attached
        · exact attached
        · exact up
      · apply bufferRemaining_attached
        · exact attached
        · exact up

omit [DecidableEq Id] in
theorem shutdownInLoop_attached {conn : TcpConnection Id} (attached : conn.ChannelAttached) :
    conn.shutdownInLoop.ChannelAttached := by
  unfold shutdownInLoop
  split
  · exact attached
  · exact attached

theorem writeFinished_attached {conn : TcpConnection Id} (attached : conn.ChannelAttached)
    (up : conn.state ≠ .kDisconnected) : (conn.writeFinished mapCtl).ChannelAttached := by
  have quiet : (conn.disableWriting mapCtl).ChannelAttached := attached.disableWriting up
  unfold writeFinished
  dsimp only
  split
  · split
    · exact shutdownInLoop_attached quiet
    · exact quiet
  · split
    · exact shutdownInLoop_attached quiet
    · exact quiet

theorem afterBufferedWrite_attached {conn : TcpConnection Id} (attached : conn.ChannelAttached)
    (up : conn.state ≠ .kDisconnected) (outcome : WriteOutcome) :
    (conn.afterBufferedWrite mapCtl outcome).ChannelAttached := by
  unfold afterBufferedWrite
  dsimp only
  split
  · split
    · apply writeFinished_attached
      · exact attached
      · exact up
    · exact attached
  · apply handleClose_attached
    exact attached

theorem handleWrite_attached {conn : TcpConnection Id} (attached : conn.ChannelAttached)
    (answer : SocksWrite) : (conn.handleWrite mapCtl answer).ChannelAttached := by
  unfold handleWrite
  split
  · next on =>
      have up : conn.state ≠ .kDisconnected := by
        intro closed
        have quiet := attached.down closed
        simp [isWriting, EpollPoller.isWriting, quiet] at on
      exact afterBufferedWrite_attached attached up _
  · exact attached

theorem handleRead_attached {conn : TcpConnection Id} (attached : conn.ChannelAttached)
    (answer : SocksRead) : (conn.handleRead mapCtl answer).ChannelAttached := by
  unfold handleRead
  dsimp only
  split
  · exact attached
  · split
    · apply handleClose_attached
      exact attached
    · apply handleClose_attached
      exact attached

theorem connEstablished_attached {conn : TcpConnection Id} (attached : conn.ChannelAttached) :
    (conn.connEstablished mapCtl).ChannelAttached := by
  obtain ⟨succeeded, connected⟩ := attached.enableReading
  unfold connEstablished
  split
  · exact attached
  · dsimp only
    split
    · next poller enabled =>
        replace enabled : conn.poller.enableReading mapCtl conn.channel = (poller, true) := enabled
        rw [enabled] at connected
        exact connected
    · next poller enabled =>
        replace enabled : conn.poller.enableReading mapCtl conn.channel = (poller, false) := enabled
        rw [enabled] at succeeded
        cases succeeded

theorem connDestroyed_attached {conn : TcpConnection Id} (attached : conn.ChannelAttached) :
    (conn.connDestroyed mapCtl).ChannelAttached := by
  unfold connDestroyed
  dsimp only
  split
  · exact attached.disableAll.remove
  · exact attached.remove

theorem preserves_attached :
    Preserves mapCtl (ChannelAttached : TcpConnection Id → Prop) where
  connEstablished := connEstablished_attached
  sendInLoop := sendInLoop_attached
  shutdownInLoop := shutdownInLoop_attached
  handleClose := handleClose_attached
  handleRead := handleRead_attached
  handleWrite := handleWrite_attached
  connDestroyed := connDestroyed_attached
  disconnecting attached live := attached.setState live
  functors attached _ := attached
  writeComplete attached := attached
  highWaterMark attached _ := attached

/-!
## Once established
-/

theorem sendInLoop_state (ctl : EpollCtl Id) (conn : TcpConnection Id) (data : List UInt8)
    (answer : SocksWrite) : (conn.sendInLoop ctl data answer).state = conn.state := by
  obtain ⟨_, same⟩ | ⟨_, _, _, buffers⟩ | ⟨_, _, buffers⟩ := sendInLoop_cases ctl conn data answer
  · rw [same]
  · exact buffers.state
  · exact buffers.state

def Established (conn : TcpConnection Id) : Prop :=
  conn.state ≠ .kConnecting

theorem handleClose_established (ctl : EpollCtl Id) (conn : TcpConnection Id) :
    (conn.handleClose ctl).Established := by
  rw [Established, handleClose_state]
  decide

theorem handleWrite_established {conn : TcpConnection Id} (established : conn.Established)
    (ctl : EpollCtl Id) (answer : SocksWrite) : (conn.handleWrite ctl answer).Established := by
  obtain ⟨_, same⟩ | ⟨_, _, down⟩ | ⟨bytes, _, _, drains⟩ := handleWrite_cases ctl conn answer
  · rw [same]
    exact established
  · rw [Established, down]
    decide
  · rw [Established, drains.state]
    exact established

theorem handleRead_established {conn : TcpConnection Id} (established : conn.Established)
    (ctl : EpollCtl Id) (answer : SocksRead) : (conn.handleRead ctl answer).Established := by
  unfold handleRead
  dsimp only
  split
  · exact established
  · split
    · exact handleClose_established ctl _
    · exact handleClose_established ctl _

theorem connEstablished_established (ctl : EpollCtl Id) (conn : TcpConnection Id) :
    (conn.connEstablished ctl).Established := by
  unfold connEstablished
  split
  · assumption
  · dsimp only
    split
    · exact (by decide : StateE.kConnected ≠ .kConnecting)
    · exact handleClose_established ctl _

theorem connDestroyed_established {conn : TcpConnection Id} (established : conn.Established)
    (ctl : EpollCtl Id) : (conn.connDestroyed ctl).Established := by
  unfold connDestroyed
  dsimp only
  split
  · exact (by decide : StateE.kDisconnected ≠ .kConnecting)
  · exact established

theorem preserves_established (ctl : EpollCtl Id) :
    Preserves ctl (Established : TcpConnection Id → Prop) where
  connEstablished _ := connEstablished_established ctl _
  sendInLoop established data answer := by
    rw [Established, sendInLoop_state]
    exact established
  shutdownInLoop established := by
    unfold shutdownInLoop
    split <;> exact established
  handleClose _ := handleClose_established ctl _
  handleRead established := handleRead_established established ctl
  handleWrite established := handleWrite_established established ctl
  connDestroyed established := connDestroyed_established established ctl
  disconnecting _ _ := (by decide : StateE.kDisconnecting ≠ .kConnecting)
  functors established _ := established
  writeComplete established := established
  highWaterMark established _ := established

end TcpConnection

/-!
## A connection among the channels of its loop
-/

inductive LoopAction (Id : Type) where
  | connection (action : ConnStep)
  | elsewhere (call : ChannelCall Id)

namespace TcpConnection

def loopStep (conn : TcpConnection Id) : LoopAction Id → TcpConnection Id
  | .connection action => conn.step (mapCtl, action)
  | .elsewhere call => { conn with poller := conn.poller.call mapCtl call }

/-- No other channel of the loop uses the descriptor of the connection. -/
def DescriptorOwned (conn : TcpConnection Id) : LoopAction Id → Prop
  | .connection _ => True
  | .elsewhere call => conn.poller.fd call.channel ≠ conn.poller.fd conn.channel

theorem loopStep_attached (conn : TcpConnection Id) (action : LoopAction Id)
    (attached : conn.ChannelAttached) (owned : conn.DescriptorOwned action) :
    (conn.loopStep action).ChannelAttached := by
  cases action with
  | connection action => exact preserves_attached.step attached action
  | elsewhere call =>
      obtain ⟨_, events, index⟩ := EpollPoller.call_elsewhere attached.owns.consistent owned
      refine ⟨attached.owns.call owned, ?_, ?_⟩
      · change _ → (conn.poller.call mapCtl call).events conn.channel = 0
        rw [events]
        exact attached.down
      · change _ → (conn.poller.call mapCtl call).index conn.channel = _ ∧
          (conn.poller.call mapCtl call).events conn.channel &&& _ ≠ _
        rw [events, index]
        exact attached.reading

theorem loopStep_established (conn : TcpConnection Id) (action : LoopAction Id)
    (established : conn.Established) : (conn.loopStep action).Established := by
  cases action with
  | connection action => exact (preserves_established mapCtl).step established action
  | elsewhere call => exact established

theorem run_established {conn : TcpConnection Id} {actions : List (LoopAction Id)}
    (called : .connection .connEstablished ∈ actions) :
    (run loopStep conn actions).Established := by
  obtain ⟨before, after, rfl⟩ := List.append_of_mem called
  rw [run_append, run_cons]
  exact run_invariant_always Established loopStep_established
    (connEstablished_established mapCtl _) after

theorem new_attached {poller : EpollPoller Id} (consistent : poller.Consistent) {channel : Id}
    {sockfd : Int} (fresh : ∀ fd, poller.channels fd ≠ some channel)
    (free : poller.channels sockfd = none) (writeComplete highWater : Bool) (highWaterMark : Nat) :
    (new poller channel sockfd writeComplete highWater highWaterMark).ChannelAttached := by
  have other : ∀ fd subject, poller.channels fd = some subject → subject ≠ channel := by
    intro fd subject held same
    rw [same] at held
    exact fresh fd held
  refine ⟨⟨⟨?_, consistent.kernel_owner, ?_, consistent.succeeded⟩, ?_⟩, ?_, ?_⟩
  · intro fd subject held
    change Function.update poller.fd channel sockfd subject = fd
    rw [Function.update_of_ne (other fd subject held)]
    exact consistent.channels_fd fd subject held
  · intro subject
    by_cases same : subject = channel
    · subst same
      simp only [new, EpollPoller.Registered, EpollPoller.newChannel, Function.update_self]
      exact fresh sockfd
    · simpa [new, EpollPoller.Registered, EpollPoller.newChannel, Function.update_of_ne same]
        using consistent.registered subject
  · intro subject held
    simp [new, EpollPoller.newChannel, free] at held
  · intro closed
    cases closed
  · intro live
    rcases live with up | up <;> cases up

/-- What `conn_destroyed` finds of an established connection decides whether it unregisters
it: nothing is left of the registration exactly if the connection was not shutting down. -/
theorem connDestroyed_unregistered_iff {conn : TcpConnection Id}
    (attached : conn.ChannelAttached) (established : conn.Established) :
    (conn.connDestroyed mapCtl).poller.Unregistered conn.channel ↔
      conn.state ≠ .kDisconnecting := by
  unfold connDestroyed
  dsimp only
  cases found : conn.state with
  | kConnecting => exact absurd found established
  | kConnected =>
      rw [if_pos rfl]
      have quiet : Attached .kDisconnected conn.channel (conn.poller.disableAll mapCtl conn.channel).1 :=
        attached.disableAll
      refine iff_of_true (quiet.owns.remove_unregistered_iff.mpr fun _ => quiet.down rfl) ?_
      decide
  | kDisconnected =>
      rw [if_neg (by decide)]
      refine iff_of_true (attached.owns.remove_unregistered_iff.mpr fun _ => attached.down found) ?_
      decide
  | kDisconnecting =>
      rw [if_neg (by decide)]
      obtain ⟨added, reads⟩ := attached.reading (.inr found)
      have registered := attached.owns.consistent.registered conn.channel
      simp only [EpollPoller.Registered, added] at registered
      refine iff_of_false (fun gone => ?_) (fun same => same rfl)
      exact ne_zero_of_and_ne_zero reads
        (attached.owns.remove_unregistered_iff.mp gone registered.1)

/-- For every run of a connection from its construction past `conn_established`, on a loop
with any history and among any calls on channels with other descriptors: `conn_destroyed`
unregisters the connection exactly if it does not find it shutting down. -/
theorem destroyed_unregistered_iff (fd : Id → Int) (history : List (ChannelCall Id))
    (poller : EpollPoller Id) (past : poller = run (EpollPoller.call mapCtl) (.new fd) history)
    {channel : Id} {sockfd : Int} (fresh : ∀ fd, poller.channels fd ≠ some channel)
    (free : poller.channels sockfd = none) (writeComplete highWater : Bool) (highWaterMark : Nat)
    (actions : List (LoopAction Id)) (conn : TcpConnection Id)
    (reached : conn =
      run loopStep (new poller channel sockfd writeComplete highWater highWaterMark) actions)
    (owned : Guarded loopStep DescriptorOwned
      (new poller channel sockfd writeComplete highWater highWaterMark) actions)
    (established : .connection .connEstablished ∈ actions) :
    (conn.connDestroyed mapCtl).poller.Unregistered conn.channel ↔
      conn.state ≠ .kDisconnecting := by
  have consistent : poller.Consistent := by
    rw [past]
    exact run_invariant_always EpollPoller.Consistent EpollPoller.call_consistent
      (EpollPoller.new_consistent fd) history
  apply connDestroyed_unregistered_iff
  · rw [reached]
    exact run_invariant ChannelAttached loopStep_attached
      (new_attached consistent fresh free writeComplete highWater highWaterMark) owned
  · rw [reached]
    exact run_established established

private def shutDown : TcpConnection Unit :=
  run loopStep (new (.new fun _ => 0) () 5 false false 0)
    [.connection .connEstablished, .connection (.shutdown true)]

/-- The map of the poller still has the channel of the destroyed connection. -/
theorem shutDown_stays_registered :
    ¬ (shutDown.connDestroyed mapCtl).poller.Unregistered () := by
  intro gone
  exact gone.1 5 (by decide)

theorem closed_unregistered :
    let conn := run loopStep (new (.new fun _ => 0) () 5 false false 0)
      [.connection .connEstablished, .connection (.handleRead .closed)]
    (conn.connDestroyed mapCtl).poller.Unregistered () := by
  refine (destroyed_unregistered_iff (fun _ => 0) [] _ rfl ?_ ?_ false false 0
    [.connection .connEstablished, .connection (.handleRead .closed)] _ rfl ?_ ?_).mpr ?_
  · intro fd held
    cases held
  · rfl
  · exact ⟨trivial, trivial, trivial⟩
  · exact List.mem_cons_self
  · decide

end TcpConnection

end Talko.Network
