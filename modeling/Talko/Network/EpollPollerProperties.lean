import Talko.Library.Bitmask
import Talko.Network.EpollPoller

/-!
# The three views of a registration

Which channels are registered is kept three times: in each channel's `index_`, in the
poller's `channels_` and in the kernel's set. The members of a channel change them at
different points; here they are shown to agree after every call.
-/

set_option autoImplicit false

namespace Talko.Network.EpollPoller

open Talko.Library

variable {Id : Type}

/-!
## What the members do to the interest of a channel
-/

@[simp] theorem update_events (ctl : EpollCtl Id) (p : EpollPoller Id) (operation : EpollOp)
    (channel : Id) : (p.update ctl operation channel).1.events = p.events := by
  unfold update
  split <;> rfl

@[simp] theorem update_fd (ctl : EpollCtl Id) (p : EpollPoller Id) (operation : EpollOp)
    (channel : Id) : (p.update ctl operation channel).1.fd = p.fd := by
  unfold update
  split <;> rfl

section

variable [DecidableEq Id]

@[simp] theorem setIndex_events (p : EpollPoller Id) (channel : Id) (index : ChannelIndex) :
    (p.setIndex channel index).events = p.events := rfl

@[simp] theorem setIndex_fd (p : EpollPoller Id) (channel : Id) (index : ChannelIndex) :
    (p.setIndex channel index).fd = p.fd := rfl

theorem updateChannel_events_fd (ctl : EpollCtl Id) (p : EpollPoller Id) (channel : Id) :
    (p.updateChannel ctl channel).1.events = p.events ∧
      (p.updateChannel ctl channel).1.fd = p.fd := by
  unfold updateChannel
  cases p.index channel with
  | new =>
      dsimp only
      split <;> simp
  | deleted =>
      dsimp only
      split
      · simp
      · split <;> simp
  | added =>
      dsimp only
      split
      · simp
      · split
        · have events := update_events ctl p .del channel
          have fd := update_fd ctl p .del channel
          split
          · next q updated =>
              rw [updated] at events fd
              exact ⟨events, fd⟩
          · next q updated =>
              rw [updated] at events fd
              exact ⟨events, fd⟩
        · simp

theorem setInterest_events (ctl : EpollCtl Id) (p : EpollPoller Id) (channel : Id)
    (events : EventMask) :
    (p.setInterest ctl channel events).1.events = Function.update p.events channel events :=
  (updateChannel_events_fd ctl (p.setEvents channel events) channel).1

theorem setInterest_fd (ctl : EpollCtl Id) (p : EpollPoller Id) (channel : Id)
    (events : EventMask) : (p.setInterest ctl channel events).1.fd = p.fd :=
  (updateChannel_events_fd ctl (p.setEvents channel events) channel).2

theorem remove_events_fd (ctl : EpollCtl Id) (p : EpollPoller Id) (channel : Id) :
    (p.remove ctl channel).events = p.events ∧ (p.remove ctl channel).fd = p.fd := by
  unfold remove removeChannel
  split
  · split
    · simp
    · cases p.index channel <;> simp
  · simp

@[simp] theorem enableWriting_isWriting (ctl : EpollCtl Id) (p : EpollPoller Id) (channel : Id) :
    (p.enableWriting ctl channel).1.isWriting channel = true := by
  unfold isWriting enableWriting
  rw [setInterest_events, Function.update_self, set_and_self]
  rfl

@[simp] theorem disableWriting_isWriting (ctl : EpollCtl Id) (p : EpollPoller Id) (channel : Id) :
    (p.disableWriting ctl channel).1.isWriting channel = false := by
  unfold isWriting disableWriting
  rw [setInterest_events, Function.update_self, clear_and_self]
  rfl

@[simp] theorem enableReading_isWriting (ctl : EpollCtl Id) (p : EpollPoller Id) (channel : Id) :
    (p.enableReading ctl channel).1.isWriting channel = p.isWriting channel := by
  have disjoint : Channel.readEvent &&& Channel.writeEvent = 0#32 := by decide
  unfold isWriting enableReading
  rw [setInterest_events, Function.update_self, set_and_of_disjoint disjoint]

@[simp] theorem remove_isWriting (ctl : EpollCtl Id) (p : EpollPoller Id) (channel : Id) :
    (p.remove ctl channel).isWriting channel = p.isWriting channel := by
  unfold isWriting
  rw [(remove_events_fd ctl p channel).1]

end

/-!
## The invariant
-/

def Registered (p : EpollPoller Id) (channel : Id) : Prop :=
  match p.index channel with
  | .new => p.channels (p.fd channel) ≠ some channel
  | .added => p.channels (p.fd channel) = some channel ∧
      p.kernel (p.fd channel) = some (p.events channel, channel)
  | .deleted => p.channels (p.fd channel) = some channel ∧ p.kernel (p.fd channel) = none

/-- The joint invariant over all channels, those that share a descriptor included. -/
structure Consistent (p : EpollPoller Id) : Prop where
  channels_fd : ∀ fd channel, p.channels fd = some channel → p.fd channel = fd
  kernel_owner : ∀ fd mask channel, p.kernel fd = some (mask, channel) →
    p.channels fd = some channel
  registered : ∀ channel, p.Registered channel
  succeeded : ∀ call ∈ p.calls, call.succeeded = true

theorem new_consistent (fd : Id → Int) : (new fd).Consistent where
  channels_fd := by simp [new]
  kernel_owner := by simp [new]
  registered := by simp [new, Registered]
  succeeded := by simp [new]

theorem Consistent.kernel_none {p : EpollPoller Id} (consistent : p.Consistent) {fd : Int}
    (absent : p.channels fd = none) : p.kernel fd = none := by
  cases held : p.kernel fd with
  | none => rfl
  | some entry =>
      have owned := consistent.kernel_owner fd entry.1 entry.2 held
      rw [absent] at owned
      cases owned

theorem Consistent.index_of_not_owner {p : EpollPoller Id} (consistent : p.Consistent)
    {channel : Id} (foreign : p.channels (p.fd channel) ≠ some channel) :
    p.index channel = .new := by
  have registered := consistent.registered channel
  unfold Registered at registered
  cases found : p.index channel with
  | new => rfl
  | added =>
      rw [found] at registered
      exact absurd registered.1 foreign
  | deleted =>
      rw [found] at registered
      exact absurd registered.1 foreign

/-!
## Rewriting the slot of one descriptor
-/

section

variable [DecidableEq Id]

/-- The three views with a new index of one channel, and with the owner of its descriptor
and the entry of the kernel's set that this index stands for. -/
def assign (p : EpollPoller Id) (channel : Id) (events : EventMask) (index : ChannelIndex)
    (calls : List EpollCall) : EpollPoller Id :=
  { p with
    events := Function.update p.events channel events
    index := Function.update p.index channel index
    channels := Function.update p.channels (p.fd channel)
      (if index = .new then none else some channel)
    kernel := Function.update p.kernel (p.fd channel)
      (if index = .added then some (events, channel) else none)
    calls := p.calls ++ calls }

theorem assign_registered (p : EpollPoller Id) (channel : Id) (events : EventMask)
    (index : ChannelIndex) (calls : List EpollCall) :
    (p.assign channel events index calls).Registered channel := by
  cases index <;> simp [Registered, assign]

theorem Consistent.assign {p : EpollPoller Id} (consistent : p.Consistent) {channel : Id}
    (ownable : ∀ other, p.channels (p.fd channel) = some other → other = channel)
    (events : EventMask) (index : ChannelIndex) {calls : List EpollCall}
    (succeeded : ∀ call ∈ calls, call.succeeded = true) :
    (p.assign channel events index calls).Consistent where
  channels_fd := by
    intro fd other held
    by_cases same : fd = p.fd channel
    · subst same
      simp only [EpollPoller.assign, Function.update_self] at held
      split at held
      · cases held
      · cases held
        rfl
    · simp only [EpollPoller.assign, Function.update_of_ne same] at held
      exact consistent.channels_fd fd other held
  kernel_owner := by
    intro fd mask other held
    by_cases same : fd = p.fd channel
    · subst same
      simp only [EpollPoller.assign, Function.update_self] at held ⊢
      split at held
      · next added =>
          cases held
          simp [added]
      · cases held
    · simp only [EpollPoller.assign, Function.update_of_ne same] at held ⊢
      exact consistent.kernel_owner fd mask other held
  registered := by
    intro other
    by_cases same : other = channel
    · rw [same]
      exact assign_registered p channel events index calls
    · have before := consistent.registered other
      by_cases shared : p.fd other = p.fd channel
      · have foreign : p.channels (p.fd other) ≠ some other := by
          rw [shared]
          exact fun held => same (ownable other held)
        have fresh := consistent.index_of_not_owner foreign
        simp only [Registered, EpollPoller.assign, Function.update_of_ne same, fresh, shared,
          Function.update_self]
        split
        · exact fun held => by cases held
        · exact fun held => same (Option.some.inj held).symm
      · simpa only [Registered, EpollPoller.assign, Function.update_of_ne same,
          Function.update_of_ne shared] using before
  succeeded := by
    intro call member
    rcases List.mem_append.mp member with old | recent
    · exact consistent.succeeded call old
    · exact succeeded call recent

theorem Consistent.update_index {p : EpollPoller Id} (consistent : p.Consistent) {channel : Id}
    {index : ChannelIndex} (found : p.index channel = index) (known : index ≠ .new) :
    Function.update p.index channel index = p.index ∧
      Function.update p.channels (p.fd channel) (some channel) = p.channels := by
  have registered := consistent.registered channel
  have owned : p.channels (p.fd channel) = some channel := by
    unfold Registered at registered
    cases index with
    | new => exact absurd rfl known
    | added =>
        rw [found] at registered
        exact registered.1
    | deleted =>
        rw [found] at registered
        exact registered.1
  constructor
  · rw [← found, Function.update_eq_self]
  · rw [← owned, Function.update_eq_self]

/-!
## What the members of a channel do to a registry in order
-/

theorem setInterest_of_taken {p : EpollPoller Id} (consistent : p.Consistent)
    {channel other : Id} (taken : p.channels (p.fd channel) = some other)
    (foreign : other ≠ channel) (events : EventMask) :
    p.setInterest mapCtl channel events = (p.setEvents channel events, false) := by
  have fresh : p.index channel = .new := by
    apply consistent.index_of_not_owner
    rw [taken]
    exact fun held => foreign (Option.some.inj held)
  simp [setInterest, updateChannel, setEvents, fresh, taken]

theorem setInterest_of_unarmed {p : EpollPoller Id} (consistent : p.Consistent) {channel : Id}
    (unarmed : p.index channel ≠ .added)
    (ownable : ∀ other, p.channels (p.fd channel) = some other → other = channel)
    (events : EventMask) :
    p.setInterest mapCtl channel events =
      (p.assign channel events .added [⟨.add, p.fd channel, true⟩], true) := by
  have registered := consistent.registered channel
  unfold Registered at registered
  cases found : p.index channel with
  | added => exact absurd found unarmed
  | new =>
      rw [found] at registered
      have free : p.channels (p.fd channel) = none := by
        cases held : p.channels (p.fd channel) with
        | none => rfl
        | some other =>
            rw [ownable other held] at held
            exact absurd held registered
      have absent := consistent.kernel_none free
      simp [setInterest, updateChannel, update, setEvents, setIndex, assign, found, free, absent,
        mapCtl]
  | deleted =>
      have same := (consistent.update_index found (by decide)).2
      rw [found] at registered
      obtain ⟨owned, absent⟩ := registered
      simp [setInterest, updateChannel, update, setEvents, setIndex, assign, found, owned, absent,
        mapCtl, same]

theorem setInterest_of_armed {p : EpollPoller Id} (consistent : p.Consistent) {channel : Id}
    (armed : p.index channel = .added) {events : EventMask} (kept : events ≠ 0) :
    p.setInterest mapCtl channel events =
      (p.assign channel events .added [⟨.mod, p.fd channel, true⟩], true) := by
  obtain ⟨sameIndex, sameOwner⟩ := consistent.update_index armed (by decide)
  have registered := consistent.registered channel
  simp only [Registered, armed] at registered
  obtain ⟨owned, held⟩ := registered
  have left : (events == Channel.noneEvent) = false := beq_eq_false_iff_ne.mpr kept
  simp [setInterest, updateChannel, update, setEvents, assign, armed, owned, held, mapCtl,
    isEventNone, left, sameIndex, sameOwner]

theorem setInterest_of_disarmed {p : EpollPoller Id} (consistent : p.Consistent) {channel : Id}
    (armed : p.index channel = .added) :
    p.setInterest mapCtl channel Channel.noneEvent =
      (p.assign channel Channel.noneEvent .deleted [⟨.del, p.fd channel, true⟩], true) := by
  obtain ⟨_, sameOwner⟩ := consistent.update_index armed (by decide)
  have registered := consistent.registered channel
  simp only [Registered, armed] at registered
  obtain ⟨owned, held⟩ := registered
  simp [setInterest, updateChannel, update, setEvents, setIndex, assign, armed, owned, held,
    mapCtl, isEventNone, sameOwner]

theorem remove_of_unregistered {p : EpollPoller Id} {channel : Id}
    (held : p.events channel ≠ 0 ∨ p.channels (p.fd channel) ≠ some channel) (ctl : EpollCtl Id) :
    p.remove ctl channel = p := by
  unfold remove removeChannel
  split
  · next quiet =>
      rw [if_pos]
      rcases held with kept | foreign
      · exact absurd (eq_of_beq quiet) kept
      · exact Or.inl foreign
  · rfl

theorem remove_of_registered {p : EpollPoller Id} (consistent : p.Consistent) {channel : Id}
    (idle : p.events channel = 0) (owned : p.channels (p.fd channel) = some channel) :
    ∃ calls, (∀ call ∈ calls, call.succeeded = true) ∧
      p.remove mapCtl channel = p.assign channel 0 .new calls := by
  have registered := consistent.registered channel
  unfold Registered at registered
  have quiet : p.isEventNone channel = true := by simp [isEventNone, idle, Channel.noneEvent]
  unfold remove removeChannel
  rw [if_pos quiet, if_neg (by simp [owned, quiet])]
  cases found : p.index channel with
  | new =>
      rw [found] at registered
      exact absurd owned registered
  | added =>
      rw [found] at registered
      refine ⟨[⟨.del, p.fd channel, true⟩], by simp, ?_⟩
      simpa [update, setIndex, assign, registered.2, mapCtl] using idle
  | deleted =>
      rw [found] at registered
      have sameEntry : Function.update p.kernel (p.fd channel) none = p.kernel := by
        rw [← registered.2, Function.update_eq_self]
      exact ⟨[], by simp, by simpa [setIndex, assign, sameEntry] using idle⟩

/-- What an interest member can do to a registry in order: a channel whose descriptor
another one holds is turned away, any other gets a new slot by one call of `epoll_ctl`. -/
theorem setInterest_cases {p : EpollPoller Id} (consistent : p.Consistent) (channel : Id)
    (events : EventMask) :
    (p.channels (p.fd channel) ≠ some channel ∧
      p.setInterest mapCtl channel events = (p.setEvents channel events, false)) ∨
    ((∀ other, p.channels (p.fd channel) = some other → other = channel) ∧
      ∃ index epollCall, epollCall.succeeded = true ∧
        p.setInterest mapCtl channel events = (p.assign channel events index [epollCall], true)) := by
  by_cases taken : ∃ other, p.channels (p.fd channel) = some other ∧ other ≠ channel
  · obtain ⟨other, held, foreign⟩ := taken
    refine .inl ⟨?_, setInterest_of_taken consistent held foreign events⟩
    rw [held]
    exact fun same => foreign (Option.some.inj same)
  · have ownable : ∀ other, p.channels (p.fd channel) = some other → other = channel := by
      intro other held
      by_contra foreign
      exact taken ⟨other, held, foreign⟩
    refine .inr ⟨ownable, ?_⟩
    by_cases armed : p.index channel = .added
    · by_cases idle : events = Channel.noneEvent
      · rw [idle]
        exact ⟨_, _, rfl, setInterest_of_disarmed consistent armed⟩
      · exact ⟨_, _, rfl, setInterest_of_armed consistent armed idle⟩
    · exact ⟨_, _, rfl, setInterest_of_unarmed consistent armed ownable events⟩

/-- What a call can do to a registry in order: nothing, a new interest in a channel that is
turned away, or a new slot for a descriptor that no other channel holds. -/
theorem call_cases {p : EpollPoller Id} (consistent : p.Consistent) (call : ChannelCall Id) :
    p.call mapCtl call = p ∨
    (p.channels (p.fd call.channel) ≠ some call.channel ∧
      ∃ events, p.call mapCtl call = p.setEvents call.channel events) ∨
    ((∀ other, p.channels (p.fd call.channel) = some other → other = call.channel) ∧
      ∃ events index calls, (∀ epollCall ∈ calls, epollCall.succeeded = true) ∧
        p.call mapCtl call = p.assign call.channel events index calls) := by
  have interest : ∀ channel events,
      (p.channels (p.fd channel) ≠ some channel ∧
        ∃ mask, (p.setInterest mapCtl channel events).1 = p.setEvents channel mask) ∨
      ((∀ other, p.channels (p.fd channel) = some other → other = channel) ∧
        ∃ mask index calls, (∀ epollCall ∈ calls, epollCall.succeeded = true) ∧
          (p.setInterest mapCtl channel events).1 = p.assign channel mask index calls) := by
    intro channel events
    obtain ⟨foreign, same⟩ | ⟨ownable, index, epollCall, succeeded, same⟩ :=
      setInterest_cases consistent channel events
    · exact .inl ⟨foreign, events, by rw [same]⟩
    · exact .inr ⟨ownable, events, index, [epollCall], by simpa using succeeded, by rw [same]⟩
  cases call with
  | remove channel =>
      by_cases registered : p.events channel = 0 ∧ p.channels (p.fd channel) = some channel
      · obtain ⟨idle, owned⟩ := registered
        obtain ⟨calls, succeeded, removed⟩ := remove_of_registered consistent idle owned
        refine .inr (.inr ⟨?_, 0, .new, calls, succeeded, removed⟩)
        intro other held
        rw [ChannelCall.channel, owned] at held
        exact (Option.some.inj held).symm
      · exact .inl (remove_of_unregistered (Decidable.not_and_iff_or_not.mp registered) mapCtl)
  | _ => exact .inr (interest _ _)

theorem Consistent.setEvents {p : EpollPoller Id} (consistent : p.Consistent) {channel : Id}
    (foreign : p.channels (p.fd channel) ≠ some channel) (events : EventMask) :
    (p.setEvents channel events).Consistent := by
  refine ⟨consistent.channels_fd, consistent.kernel_owner, ?_, consistent.succeeded⟩
  intro subject
  by_cases same : subject = channel
  · subst same
    simp only [Registered, EpollPoller.setEvents, consistent.index_of_not_owner foreign]
    exact foreign
  · simpa [Registered, EpollPoller.setEvents, same] using consistent.registered subject

theorem call_consistent (p : EpollPoller Id) (call : ChannelCall Id) (consistent : p.Consistent) :
    (p.call mapCtl call).Consistent := by
  obtain same | ⟨foreign, events, same⟩ | ⟨ownable, events, index, calls, succeeded, same⟩ :=
    call_cases consistent call
  · rw [same]
    exact consistent
  · rw [same]
    exact consistent.setEvents foreign events
  · rw [same]
    exact consistent.assign ownable events index succeeded

theorem call_fd (ctl : EpollCtl Id) (p : EpollPoller Id) (call : ChannelCall Id) :
    (p.call ctl call).fd = p.fd := by
  cases call with
  | remove channel => exact (remove_events_fd ctl p channel).2
  | _ => exact setInterest_fd ctl p _ _

/-!
## Events
-/

theorem fillActiveChannels_of_owned (reported : List (Id × EventMask)) {p : EpollPoller Id}
    (owned : ∀ event ∈ reported, p.channels (p.fd event.1) = some event.1) (active : List Id) :
    (p.fillActiveChannels reported active).2 = active ++ reported.map Prod.fst := by
  induction reported generalizing p active with
  | nil => simp [fillActiveChannels]
  | cons event rest ih =>
      have first := owned event List.mem_cons_self
      simp only [fillActiveChannels, first, ne_eq, not_true_eq_false, if_false]
      rw [ih]
      · simp
      · intro other member
        exact owned other (List.mem_cons_of_mem _ member)

end

/-!
## Every run of calls
-/

/-- The three views agree: each value of a channel's index stands for one state of the
map and of the kernel's set. -/
def ViewsAgree (p : EpollPoller Id) : Prop :=
  ∀ channel,
    (p.index channel = .added ↔ p.channels (p.fd channel) = some channel ∧
      p.kernel (p.fd channel) = some (p.events channel, channel)) ∧
    (p.index channel = .deleted ↔ p.channels (p.fd channel) = some channel ∧
      p.kernel (p.fd channel) = none) ∧
    (p.index channel = .new ↔ p.channels (p.fd channel) ≠ some channel)

theorem Consistent.viewsAgree {p : EpollPoller Id} (consistent : p.Consistent) :
    p.ViewsAgree := by
  intro channel
  have registered := consistent.registered channel
  unfold Registered at registered
  cases found : p.index channel with
  | new =>
      rw [found] at registered
      simp [registered]
  | added =>
      rw [found] at registered
      simp [registered]
  | deleted =>
      rw [found] at registered
      simp [registered]

/-- The events a kernel can report from its set: each names a channel of the set, with any
mask. -/
def Reportable (p : EpollPoller Id) (reported : List (Id × EventMask)) : Prop :=
  ∀ event ∈ reported, ∃ fd mask, p.kernel fd = some (mask, event.1)

/-- After every sequence of calls on channels of one loop the index of each channel, the
poller's map and the kernel's set agree, no `epoll_ctl` has failed, and no reported event
makes `_fill_active_channels` return early. -/
theorem registry_invariant [DecidableEq Id] (fd : Id → Int) (calls : List (ChannelCall Id)) :
    let p := run (call mapCtl) (new fd) calls
    p.ViewsAgree ∧ (∀ epollCall ∈ p.calls, epollCall.succeeded = true) ∧
      ∀ reported, p.Reportable reported →
        (p.fillActiveChannels reported []).2 = reported.map Prod.fst := by
  intro p
  have consistent : p.Consistent :=
    run_invariant_always Consistent call_consistent (new_consistent fd) calls
  refine ⟨consistent.viewsAgree, consistent.succeeded, ?_⟩
  intro reported reportable
  apply fillActiveChannels_of_owned
  intro event member
  obtain ⟨descriptor, mask, held⟩ := reportable event member
  have owned := consistent.kernel_owner descriptor mask event.1 held
  rw [consistent.channels_fd descriptor event.1 owned]
  exact owned

end Talko.Network.EpollPoller
