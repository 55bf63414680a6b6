import Talko.Network.EpollPollerProperties

/-!
# Interest and registration

A channel that loses its last interest is taken out of the kernel's set, and one that is not in
the set is put there by the next call, whether that leaves it any interest or not. A call that
fails has changed the interest of its channel already, and the index and the map where it was
about to add the channel.
-/

set_option autoImplicit false

namespace Talko.Network

open Talko.Library

/-- The five members of a channel that set its interest. -/
inductive InterestMember where
  | enableReading
  | disableReading
  | enableWriting
  | disableWriting
  | disableAll
  deriving DecidableEq, Repr

/-- The `events_` that a member leaves. -/
def InterestMember.events (current : EventMask) : InterestMember → EventMask
  | .enableReading => current ||| Channel.readEvent
  | .disableReading => current &&& ~~~Channel.readEvent
  | .enableWriting => current ||| Channel.writeEvent
  | .disableWriting => current &&& ~~~Channel.writeEvent
  | .disableAll => Channel.noneEvent

namespace EpollPoller

variable {Id : Type}

/-!
## Channels without interest
-/

/-- What the kernel's set holds belongs to channels with interest. -/
def IdleUnregistered (p : EpollPoller Id) : Prop :=
  ∀ channel mask, p.kernel (p.fd channel) = some (mask, channel) →
    p.events channel ≠ Channel.noneEvent

/-- The channel is in the kernel's set, or its descriptor belongs to another channel. -/
def Settled (p : EpollPoller Id) (channel : Id) : Prop :=
  p.index channel = .added ∨ ∃ other, p.channels (p.fd channel) = some other ∧ other ≠ channel

/-- A member that leaves no interest finds the channel settled. -/
def DisablesSettled (p : EpollPoller Id) : ChannelCall Id → Prop
  | .enableReading _ | .enableWriting _ | .remove _ => True
  | .disableReading channel =>
      InterestMember.disableReading.events (p.events channel) = Channel.noneEvent →
        p.Settled channel
  | .disableWriting channel =>
      InterestMember.disableWriting.events (p.events channel) = Channel.noneEvent →
        p.Settled channel
  | .disableAll channel => p.Settled channel

theorem new_idleUnregistered (fd : Id → Int) : (new fd).IdleUnregistered := by
  intro channel mask held
  cases held

section

variable [DecidableEq Id]

theorem IdleUnregistered.assign_iff {p : EpollPoller Id} (idle : p.IdleUnregistered)
    (channel : Id) (events : EventMask) (index : ChannelIndex) (calls : List EpollCall) :
    (p.assign channel events index calls).IdleUnregistered ↔
      (index = .added → events ≠ Channel.noneEvent) := by
  constructor
  · intro after added none
    refine after channel events ?_ ?_
    · simp [assign, added]
    · simpa [assign] using none
  · intro kept subject mask held
    simp only [assign] at held ⊢
    by_cases shared : p.fd subject = p.fd channel
    · rw [shared, Function.update_self] at held
      split at held
      · rename_i added
        cases held
        rw [Function.update_self]
        exact kept added
      · cases held
    · have different : subject ≠ channel := fun same => shared (by rw [same])
      rw [Function.update_of_ne shared] at held
      rw [Function.update_of_ne different]
      exact idle subject mask held

theorem setInterest_idleUnregistered_iff {p : EpollPoller Id} (consistent : p.Consistent)
    (idle : p.IdleUnregistered) (channel : Id) (events : EventMask) :
    (p.setInterest mapCtl channel events).1.IdleUnregistered ↔
      (events = Channel.noneEvent → p.Settled channel) := by
  by_cases taken : ∃ other, p.channels (p.fd channel) = some other ∧ other ≠ channel
  · obtain ⟨other, held, foreign⟩ := taken
    refine iff_of_true ?_ fun _ => .inr ⟨other, held, foreign⟩
    rw [setInterest_of_taken consistent held foreign]
    intro subject mask entry
    by_cases same : subject = channel
    · have owned := consistent.kernel_owner _ mask subject entry
      rw [same] at owned
      exact absurd (Option.some.inj (held.symm.trans owned)) foreign
    · simpa [setEvents, same] using idle subject mask entry
  · have ownable : ∀ other, p.channels (p.fd channel) = some other → other = channel := by
      intro other held
      by_contra foreign
      exact taken ⟨other, held, foreign⟩
    by_cases armed : p.index channel = .added
    · refine iff_of_true ?_ fun _ => .inl armed
      by_cases none : events = Channel.noneEvent
      · rw [none, setInterest_of_disarmed consistent armed]
        exact (idle.assign_iff channel _ _ _).mpr fun added => by cases added
      · rw [setInterest_of_armed consistent armed none]
        exact (idle.assign_iff channel _ _ _).mpr fun _ => none
    · rw [setInterest_of_unarmed consistent armed ownable]
      rw [idle.assign_iff]
      constructor
      · intro kept none
        exact absurd none (kept rfl)
      · intro settled _ none
        rcases settled none with added | other
        · exact armed added
        · exact taken other

theorem call_idleUnregistered_iff (p : EpollPoller Id) (call : ChannelCall Id)
    (consistent : p.Consistent) (idle : p.IdleUnregistered) :
    (p.call mapCtl call).IdleUnregistered ↔ p.DisablesSettled call := by
  have enabled : ∀ (mask : EventMask), mask ≠ 0 → ∀ current : EventMask,
      current ||| mask ≠ Channel.noneEvent := by
    intro mask some current none
    have seen := set_and_self current mask
    rw [none] at seen
    exact some (seen.symm.trans BitVec.zero_and)
  cases call with
  | enableReading channel =>
      refine ((setInterest_idleUnregistered_iff consistent idle channel _).trans ?_)
      exact iff_of_true (fun none => absurd none (enabled _ (by decide) _)) trivial
  | enableWriting channel =>
      refine ((setInterest_idleUnregistered_iff consistent idle channel _).trans ?_)
      exact iff_of_true (fun none => absurd none (enabled _ (by decide) _)) trivial
  | disableReading channel => exact setInterest_idleUnregistered_iff consistent idle channel _
  | disableWriting channel => exact setInterest_idleUnregistered_iff consistent idle channel _
  | disableAll channel =>
      refine ((setInterest_idleUnregistered_iff consistent idle channel _).trans ?_)
      exact forall_prop_of_true rfl
  | remove channel =>
      refine iff_of_true ?_ trivial
      change (p.remove mapCtl channel).IdleUnregistered
      by_cases registered : p.events channel = 0 ∧ p.channels (p.fd channel) = some channel
      · obtain ⟨quiet, owned⟩ := registered
        obtain ⟨calls, -, removed⟩ := remove_of_registered consistent quiet owned
        rw [removed]
        exact (idle.assign_iff channel _ _ _).mpr fun added => by cases added
      · rw [remove_of_unregistered (Decidable.not_and_iff_or_not.mp registered)]
        exact idle

/-- At every point of a run of calls on channels of one loop the kernel's set holds channels
with interest only, exactly when every call that leaves its channel without interest finds it
in the set, or turned away from a descriptor of another channel. -/
theorem idle_unregistered_iff (fd : Id → Int) (calls : List (ChannelCall Id)) :
    (∀ first, first <+: calls → (run (call mapCtl) (new fd) first).IdleUnregistered) ↔
      Guarded (call mapCtl) DisablesSettled (new fd) calls :=
  forall_prefix_iff_guarded Consistent IdleUnregistered call_consistent
    call_idleUnregistered_iff (new_consistent fd) (new_idleUnregistered fd) calls

end

/-- A channel that was never enabled is registered by `disable_all`, and the second call of it
on a channel that was enabled registers that one again. -/
theorem disable_registers :
    (¬ (run (call mapCtl) (new fun _ : Unit => 5) [.disableAll ()]).IdleUnregistered) ∧
      (run (call mapCtl) (new fun _ : Unit => 5)
        [.enableReading (), .disableAll ()]).kernel 5 = none ∧
      ¬ (run (call mapCtl) (new fun _ : Unit => 5)
        [.enableReading (), .disableAll (), .disableAll ()]).IdleUnregistered := by
  refine ⟨fun idle => ?_, by decide, fun idle => ?_⟩
  · exact idle () 0 (by decide) (by decide)
  · exact idle () 0 (by decide) (by decide)

/-!
## Calls that fail
-/

/-- The channel's interest and index, the map and the kernel's set are as before. -/
structure NoTrace (p after : EpollPoller Id) : Prop where
  events : after.events = p.events
  index : after.index = p.index
  channels : after.channels = p.channels
  kernel : after.kernel = p.kernel

/-- `update_channel` returns before it changes anything. -/
def Refused (p : EpollPoller Id) (channel : Id) : Prop :=
  match p.index channel with
  | .new => (p.channels (p.fd channel)).isSome = true
  | .added | .deleted => p.channels (p.fd channel) ≠ some channel

/-- The operation that `update_channel` asks for. -/
def operation (p : EpollPoller Id) (channel : Id) (events : EventMask) : EpollOp :=
  match p.index channel with
  | .new | .deleted => .add
  | .added => if events = Channel.noneEvent then .del else .mod

/-- The call is accepted, or it is about to change neither the interest nor the index. -/
def FailsClean (ctl : EpollCtl Id) (p : EpollPoller Id) (channel : Id) (events : EventMask) :
    Prop :=
  (¬ p.Refused channel ∧
    (ctl p.kernel (p.operation channel events) (p.fd channel) (events, channel)).isSome = true) ∨
    ((p.Refused channel ∨ p.index channel = .added) ∧ events = p.events channel)

section

variable [DecidableEq Id]

/-- The five members. -/
def interest (ctl : EpollCtl Id) (p : EpollPoller Id) (channel : Id) :
    InterestMember → EpollPoller Id × Bool
  | .enableReading => p.enableReading ctl channel
  | .disableReading => p.disableReading ctl channel
  | .enableWriting => p.enableWriting ctl channel
  | .disableWriting => p.disableWriting ctl channel
  | .disableAll => p.disableAll ctl channel

theorem interest_eq (ctl : EpollCtl Id) (p : EpollPoller Id) (channel : Id)
    (member : InterestMember) :
    p.interest ctl channel member =
      p.setInterest ctl channel (member.events (p.events channel)) := by
  cases member with
  | _ => rfl

theorem setInterest_of_refused {p : EpollPoller Id} {channel : Id} (refused : p.Refused channel)
    (ctl : EpollCtl Id) (events : EventMask) :
    p.setInterest ctl channel events = (p.setEvents channel events, false) := by
  unfold Refused at refused
  cases found : p.index channel with
  | new =>
      rw [found] at refused
      simp only [setInterest, updateChannel, setEvents, found, refused, if_true]
  | added =>
      rw [found] at refused
      have foreign : p.channels (p.fd channel) ≠ some channel := refused
      simp [setInterest, updateChannel, setEvents, found, foreign]
  | deleted =>
      rw [found] at refused
      have foreign : p.channels (p.fd channel) ≠ some channel := refused
      simp [setInterest, updateChannel, setEvents, found, foreign]

theorem setInterest_of_accepted {ctl : EpollCtl Id} {p : EpollPoller Id} {channel : Id}
    (known : ¬ p.Refused channel) {events : EventMask}
    (accepted : (ctl p.kernel (p.operation channel events) (p.fd channel)
      (events, channel)).isSome = true) :
    (p.setInterest ctl channel events).2 = true := by
  unfold Refused at known
  unfold operation at accepted
  obtain ⟨kernel, set⟩ := Option.isSome_iff_exists.mp accepted
  cases found : p.index channel with
  | new =>
      rw [found] at known set
      simp [setInterest, updateChannel, setEvents, setIndex, update, found, known, set]
  | added =>
      rw [found] at known set
      by_cases none : events = Channel.noneEvent
      · simp [setInterest, updateChannel, setEvents, update, isEventNone, found,
          Decidable.not_not.mp known, none] at set ⊢
        simp [set]
      · simp [setInterest, updateChannel, setEvents, update, isEventNone, found,
          Decidable.not_not.mp known, none] at set ⊢
        simp [set]
  | deleted =>
      rw [found] at known set
      simp [setInterest, updateChannel, setEvents, setIndex, update, found,
        Decidable.not_not.mp known, set]

/-- What a call leaves that `epoll_ctl` does not accept: the new interest, and the channel as
added. -/
theorem setInterest_of_failed {ctl : EpollCtl Id} {p : EpollPoller Id} {channel : Id}
    (known : ¬ p.Refused channel) {events : EventMask}
    (failed : ctl p.kernel (p.operation channel events) (p.fd channel) (events, channel) = none) :
    (p.setInterest ctl channel events).2 = false ∧
      (p.setInterest ctl channel events).1.events = Function.update p.events channel events ∧
      (p.setInterest ctl channel events).1.index = Function.update p.index channel .added ∧
      (p.setInterest ctl channel events).1.channels =
        Function.update p.channels (p.fd channel) (some channel) ∧
      (p.setInterest ctl channel events).1.kernel = p.kernel := by
  unfold Refused at known
  unfold operation at failed
  cases found : p.index channel with
  | new =>
      rw [found] at known failed
      simp [setInterest, updateChannel, setEvents, setIndex, update, found, known, failed]
  | added =>
      rw [found] at known failed
      have owned := Decidable.not_not.mp known
      have sameIndex : Function.update p.index channel .added = p.index := by
        rw [← found, Function.update_eq_self]
      have sameOwner : Function.update p.channels (p.fd channel) (some channel) = p.channels := by
        rw [← owned, Function.update_eq_self]
      by_cases none : events = Channel.noneEvent
      · simp [setInterest, updateChannel, setEvents, update, isEventNone, found, owned, none,
          sameIndex, sameOwner] at failed ⊢
        simp [failed]
      · simp [setInterest, updateChannel, setEvents, update, isEventNone, found, owned, none,
          sameIndex, sameOwner] at failed ⊢
        simp [failed]
  | deleted =>
      rw [found] at known failed
      have owned := Decidable.not_not.mp known
      have sameOwner : Function.update p.channels (p.fd channel) (some channel) = p.channels := by
        rw [← owned, Function.update_eq_self]
      simp [setInterest, updateChannel, setEvents, setIndex, update, found, owned, failed,
        sameOwner]

theorem setInterest_noTrace_iff (ctl : EpollCtl Id) (p : EpollPoller Id) (channel : Id)
    (events : EventMask) :
    ((p.setInterest ctl channel events).2 = false →
      p.NoTrace (p.setInterest ctl channel events).1) ↔ p.FailsClean ctl channel events := by
  have same_iff : Function.update p.events channel events = p.events ↔
      events = p.events channel := Function.update_eq_self_iff
  by_cases refused : p.Refused channel
  · rw [setInterest_of_refused refused]
    constructor
    · intro clean
      exact .inr ⟨.inl refused, same_iff.mp (clean rfl).events⟩
    · rintro (⟨known, -⟩ | ⟨-, same⟩) -
      · exact absurd refused known
      · exact ⟨same_iff.mpr same, rfl, rfl, rfl⟩
  · cases answer : ctl p.kernel (p.operation channel events) (p.fd channel) (events, channel) with
    | some kernel =>
        have accepted : (ctl p.kernel (p.operation channel events) (p.fd channel)
            (events, channel)).isSome = true := by rw [answer]; rfl
        refine iff_of_true (fun failed => ?_) (.inl ⟨refused, accepted⟩)
        rw [setInterest_of_accepted refused accepted] at failed
        cases failed
    | none =>
        obtain ⟨fails, newEvents, newIndex, newChannels, newKernel⟩ :=
          setInterest_of_failed refused answer
        constructor
        · intro clean
          obtain ⟨sameEvents, sameIndex, -, -⟩ := clean fails
          refine .inr ⟨.inr ?_, same_iff.mp (newEvents.symm.trans sameEvents)⟩
          exact (Function.update_eq_self_iff.mp (newIndex.symm.trans sameIndex)).symm
        · rintro (⟨-, accepted⟩ | ⟨unmoved | added, same⟩) -
          · rw [answer] at accepted
            cases accepted
          · exact absurd unmoved refused
          · have owned : p.channels (p.fd channel) = some channel := by
              unfold Refused at refused
              rw [added] at refused
              exact Decidable.not_not.mp refused
            refine ⟨newEvents.trans (same_iff.mpr same), newIndex.trans ?_, newChannels.trans ?_,
              newKernel⟩
            · rw [← added, Function.update_eq_self]
            · rw [← owned, Function.update_eq_self]

/-- For every state of the poller, every channel, every member that sets its interest and every
behaviour of `epoll_ctl`: a call that fails leaves no trace exactly when it is accepted after
all, or leaves the interest as it is and does not add the channel. -/
theorem failed_call_noTrace_iff (ctl : EpollCtl Id) (p : EpollPoller Id) (channel : Id)
    (member : InterestMember) :
    ((p.interest ctl channel member).2 = false → p.NoTrace (p.interest ctl channel member).1) ↔
      p.FailsClean ctl channel (member.events (p.events channel)) := by
  rw [interest_eq]
  exact setInterest_noTrace_iff ctl p channel _

end

/-- The first registration of a channel is not accepted: the call fails, and the channel stands in
the map as added, with interest in reading. -/
theorem failed_enableReading_leaves_trace :
    let p : EpollPoller Unit := new fun _ => 5
    let after := p.interest (fun _ _ _ _ => none) () .enableReading
    p.Consistent ∧ after.2 = false ∧ after.1.index () = .added ∧ p.index () = .new ∧
      after.1.channels 5 = some () ∧ after.1.events () = Channel.readEvent ∧
      ¬ p.NoTrace after.1 := by
  refine ⟨new_consistent _, by decide, by decide, by decide, by decide, by decide, ?_⟩
  intro clean
  have same := congrFun clean.index ()
  revert same
  decide

end EpollPoller

end Talko.Network
