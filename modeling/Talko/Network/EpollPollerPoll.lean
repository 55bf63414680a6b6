import Talko.Network.EpollPollerProperties

/-!
# Polls

`EpollPoller::poll` between the calls of the channels. The kernel stores the events of ready
channels in `events_`, as many as it holds, and the vector doubles when it comes back full. A
poll that leaves ready channels out happens only while the vector is too short for them, so the
whole life of a poller has few such polls.
-/

set_option autoImplicit false

namespace Talko.Network

open Talko.Library

/-- `init_event_list_size_`. -/
def initEventListSize : Nat := 16

/-- What the kernel has for `epoll_wait`: the events of all ready channels in some order, or a
signal. -/
inductive EpollWait (Id : Type) where
  | ready (events : List (Id × EventMask))
  | interrupted

/-- A poller with the size of `events_` and the channels that the last poll made active.
`filled` counts the polls that filled the vector and `missed` those that left a ready channel
out; `most` is the largest number of channels that were ready at a poll. -/
structure PollingPoller (Id : Type) where
  poller : EpollPoller Id
  size : Nat
  activeChannels : List Id
  filled : Nat
  missed : Nat
  most : Nat

inductive PollingStep (Id : Type) where
  | call (call : ChannelCall Id)
  | poll (answer : EpollWait Id)

namespace PollingPoller

variable {Id : Type} [DecidableEq Id]

def new (fd : Id → Int) : PollingPoller Id where
  poller := .new fd
  size := initEventListSize
  activeChannels := []
  filled := 0
  missed := 0
  most := 0

/-- `poll` with the ready channels in the kernel's order. -/
def pollReady (state : PollingPoller Id) (events : List (Id × EventMask)) : PollingPoller Id :=
  let stored := events.take state.size
  let result := state.poller.fillActiveChannels stored []
  { state with
    poller := result.1
    activeChannels := result.2
    size := if stored.length = state.size then state.size * 2 else state.size
    filled := if stored.length = state.size then state.filled + 1 else state.filled
    missed := if state.size < events.length then state.missed + 1 else state.missed
    most := max state.most events.length }

def step (state : PollingPoller Id) : PollingStep Id → PollingPoller Id
  | .call call => { state with poller := state.poller.call mapCtl call }
  | .poll .interrupted => { state with activeChannels := [] }
  | .poll (.ready events) => state.pollReady events

/-!
## The vector
-/

/-- The vector has doubled with each poll that filled it, so it is no longer than the ready
channels made it. -/
structure Sized (state : PollingPoller Id) : Prop where
  size : state.size = initEventListSize * 2 ^ state.filled
  filled : state.filled = 0 ∨ initEventListSize * 2 ^ (state.filled - 1) ≤ state.most
  within : state.missed ≤ state.filled
  missed : state.missed = 0 ∨ initEventListSize * 2 ^ (state.missed - 1) < state.most

theorem Sized.pollReady {state : PollingPoller Id} (sized : state.Sized)
    (events : List (Id × EventMask)) : (state.pollReady events).Sized := by
  have size := sized.size
  have below : state.most ≤ max state.most events.length := Nat.le_max_left _ _
  have reached : events.length ≤ max state.most events.length := Nat.le_max_right _ _
  have missed : state.missed = 0 ∨
      initEventListSize * 2 ^ (state.missed - 1) < max state.most events.length :=
    sized.missed.imp_right fun less => Nat.lt_of_lt_of_le less below
  unfold PollingPoller.pollReady
  dsimp only
  rw [List.length_take]
  by_cases full : min state.size events.length = state.size
  · have fits : state.size ≤ events.length := min_eq_left_iff.mp full
    rw [if_pos full, if_pos full]
    refine ⟨?_, .inr ?_, ?_, ?_⟩
    · rw [size, Nat.pow_succ, Nat.mul_assoc]
    · rw [Nat.add_sub_cancel, ← size]
      exact fits.trans reached
    · dsimp only
      split
      · exact Nat.succ_le_succ sized.within
      · exact Nat.le_succ_of_le sized.within
    · dsimp only
      split
      · next exceeds =>
          -- The poll missed some: the vector was shorter than the ready channels.
          right
          rw [Nat.add_sub_cancel]
          have doubled : 2 ^ state.missed ≤ 2 ^ state.filled :=
            Nat.pow_le_pow_right (by decide) sized.within
          calc initEventListSize * 2 ^ state.missed
            _ ≤ initEventListSize * 2 ^ state.filled := Nat.mul_le_mul_left _ doubled
            _ = state.size := size.symm
            _ < events.length := exceeds
            _ ≤ _ := reached
      · exact missed
  · have short : ¬ state.size < events.length := by
      intro exceeds
      exact full (Nat.min_eq_left (Nat.le_of_lt exceeds))
    rw [if_neg full, if_neg full, if_neg short]
    exact ⟨size, sized.filled.imp_right fun most => most.trans below, sized.within, missed⟩

/-!
## The active channels
-/

/-- Filling in the events changes nothing but `revents_`. -/
theorem fillActiveChannels_consistent (events : List (Id × EventMask)) {poller : EpollPoller Id}
    (consistent : poller.Consistent) (active : List Id) :
    (poller.fillActiveChannels events active).1.Consistent := by
  induction events generalizing poller active with
  | nil => exact consistent
  | cons event rest ih =>
      unfold EpollPoller.fillActiveChannels
      split
      · exact consistent
      · have same : (poller.setRevents event.1 event.2).Consistent :=
          ⟨consistent.channels_fd, consistent.kernel_owner, consistent.registered,
            consistent.succeeded⟩
        exact ih same _

omit [DecidableEq Id] in
theorem owned_of_reportable {poller : EpollPoller Id} (consistent : poller.Consistent)
    {events : List (Id × EventMask)} (reportable : poller.Reportable events) :
    ∀ event ∈ events, poller.channels (poller.fd event.1) = some event.1 := by
  intro event member
  obtain ⟨descriptor, mask, held⟩ := reportable event member
  have owned := consistent.kernel_owner descriptor mask event.1 held
  rw [consistent.channels_fd descriptor event.1 owned]
  exact owned

theorem pollReady_active {state : PollingPoller Id} (consistent : state.poller.Consistent)
    {events : List (Id × EventMask)} (reportable : state.poller.Reportable events) :
    (state.pollReady events).activeChannels = (events.take state.size).map Prod.fst := by
  have stored : ∀ event ∈ events.take state.size,
      state.poller.channels (state.poller.fd event.1) = some event.1 :=
    fun event member => owned_of_reportable consistent reportable event (List.mem_of_mem_take member)
  exact (EpollPoller.fillActiveChannels_of_owned _ stored []).trans (List.nil_append _)

/-!
## Every run
-/

structure Sound (state : PollingPoller Id) : Prop extends Sized state where
  consistent : state.poller.Consistent

omit [DecidableEq Id] in
theorem new_sound (fd : Id → Int) : (new fd).Sound :=
  ⟨⟨rfl, .inl rfl, Nat.le_refl 0, .inl rfl⟩, EpollPoller.new_consistent fd⟩

theorem Sound.step {state : PollingPoller Id} (sound : state.Sound) (action : PollingStep Id) :
    (state.step action).Sound := by
  cases action with
  | call call =>
      exact ⟨⟨sound.size, sound.filled, sound.within, sound.missed⟩,
        EpollPoller.call_consistent state.poller call sound.consistent⟩
  | poll answer =>
      cases answer with
      | interrupted =>
          exact ⟨⟨sound.size, sound.filled, sound.within, sound.missed⟩, sound.consistent⟩
      | ready events =>
          exact ⟨sound.toSized.pollReady events,
            fillActiveChannels_consistent _ sound.consistent []⟩

/-- In every run of channel calls and polls, a poll makes the channels active whose events the
vector held, in the kernel's order, and all ready ones when they fit. The vector never grows
beyond twice the most channels ready at once, and when these are never more than `16 * 2 ^ k`,
at most `k` polls of the whole run have left a ready channel out. -/
theorem polls_miss_few (fd : Id → Int) (actions : List (PollingStep Id)) :
    let state := run step (new fd) actions
    (∀ events, state.poller.Reportable events →
        let after := state.step (.poll (.ready events))
        after.activeChannels = (events.take state.size).map Prod.fst ∧
          (events.length ≤ state.size → after.activeChannels = events.map Prod.fst ∧
            after.missed = state.missed)) ∧
      state.size ≤ max initEventListSize (2 * state.most) ∧
      ∀ doublings, state.most ≤ initEventListSize * 2 ^ doublings →
        state.missed ≤ doublings := by
  intro state
  have sound : state.Sound :=
    run_invariant_always Sound (fun _ action sound => sound.step action) (new_sound fd) actions
  refine ⟨?_, ?_, ?_⟩
  · intro events reportable after
    have active := pollReady_active sound.consistent reportable
    refine ⟨active, fun fits => ⟨?_, if_neg (Nat.not_lt.mpr fits)⟩⟩
    rw [List.take_of_length_le fits] at active
    exact active
  · rw [sound.size]
    rcases sound.filled with none' | grown
    · rw [none', Nat.pow_zero, Nat.mul_one]
      exact Nat.le_max_left _ _
    · refine le_trans ?_ (Nat.le_max_right _ _)
      cases filled : state.filled with
      | zero =>
          rw [filled] at grown
          have twice : state.most ≤ 2 * state.most := Nat.le_mul_of_pos_left _ (by decide)
          exact grown.trans twice
      | succ count =>
          rw [filled, Nat.add_sub_cancel] at grown
          calc initEventListSize * 2 ^ (count + 1)
            _ = 2 * (initEventListSize * 2 ^ count) := by rw [Nat.pow_succ', Nat.mul_left_comm]
            _ ≤ 2 * state.most := Nat.mul_le_mul_left 2 grown
  · intro doublings enough
    rcases sound.missed with none' | missed
    · rw [none']
      exact Nat.zero_le doublings
    · have powers : 2 ^ (state.missed - 1) < 2 ^ doublings :=
        Nat.lt_of_mul_lt_mul_left (missed.trans_le enough)
      have fewer := (Nat.pow_lt_pow_iff_right (by decide)).mp powers
      exact Nat.le_of_pred_lt fewer

end PollingPoller

end Talko.Network
