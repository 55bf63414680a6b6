import Talko.Service.NetServerProperties

/-!
# Which files the server of `net_server.cpp` touches

As long as `start` waits on the server's own epoll instance, the numbers that `handle_events` works
on are its own. A file of another thread can be closed only behind a constructor that failed: by
the destructor, whose members have kept the numbers, or by `process_message`, when `epoll_fd_`
names an epoll instance of another thread by then.
-/

set_option autoImplicit false

namespace Talko.Service

open Talko.Library

namespace NetServer

variable {Client : Type}

/-!
## What the server closes
-/

/-- The number that the next call closes. -/
def closing (s : NetServer Client) : Option Nat :=
  match s.place with
  | .closesServer _ | .destroysServer => s.serverFd
  | .closesEpoll | .destroysEpoll => s.epollFd
  | .refuses fd | .hangsUp fd => some fd
  | _ => none

theorem closeServer_closed (s : NetServer Client) :
    s.closeServer.closed = s.closed ++ (s.serverFd.map s.files.owner?).toList := by
  obtain ⟨absent, same⟩ | ⟨fd, present, closed⟩ := s.closeServer_cases
  · rw [same, absent]
    exact (List.append_nil _).symm
  · rw [closed, present]
    rfl

theorem closeEpoll_closed (s : NetServer Client) :
    s.closeEpoll.closed = s.closed ++ (s.epollFd.map s.files.owner?).toList := by
  obtain ⟨absent, same⟩ | ⟨fd, present, closed⟩ := s.closeEpoll_cases
  · rw [same, absent]
    exact (List.append_nil _).symm
  · rw [closed, present]
    rfl

theorem watch_closed (s : NetServer Client) (fd : Nat) : (s.watch fd).closed = s.closed := by
  unfold watch
  split <;> rfl

theorem proceed_closed (s : NetServer Client) (succeeds : Bool) :
    (s.proceed succeeds).closed = s.closed ++ (s.closing.map s.files.owner?).toList := by
  unfold NetServer.proceed closing
  cases place : s.place with
  | closesServer withEpoll => exact s.closeServer_closed
  | destroysServer => exact s.closeServer_closed
  | closesEpoll => exact s.closeEpoll_closed
  | destroysEpoll => exact s.closeEpoll_closed
  | refuses fd | hangsUp fd => rfl
  | creates =>
      obtain failed | ⟨room, opened⟩ := tryOpen_cases s.files succeeds .listening
      · dsimp only
        rw [failed]
        exact (List.append_nil _).symm
      · dsimp only
        rw [opened]
        exact (List.append_nil _).symm
  | createsEpoll =>
      obtain failed | ⟨room, opened⟩ := tryOpen_cases s.files succeeds .epoll
      · dsimp only
        rw [failed]
        exact (List.append_nil _).symm
      · dsimp only
        rw [opened]
        exact (List.append_nil _).symm
  | addsListening => cases succeeds <;> exact (List.append_nil _).symm
  | adds client fd =>
      dsimp only
      split
      · exact (s.watch_closed fd).trans (List.append_nil _).symm
      · exact (List.append_nil _).symm
  | handles =>
      dsimp only
      split <;> exact (List.append_nil _).symm
  | binds | listens | waits | gone => exact (List.append_nil _).symm

/-!
## Behind the epoll instance of another thread
-/

/-- `epoll_ctl` failed in the constructor, and `start` has waited on an epoll instance of another
thread since. All that holds of a number in hand is that `accept` gave it. -/
structure Adrift (s : NetServer Client) : Prop where
  server : s.serverOpen = false
  epoll : s.epollOpen = false
  behind : s.place.constructs = false
  accepted : ∀ fd, s.place.accepted = some fd → ∃ client, (fd, .client client) ∈ s.files.files

/-- Clients stay, and the place as well. -/
theorem Adrift.of_clients {s after : NetServer Client} (adrift : s.Adrift)
    (server : after.serverOpen = s.serverOpen) (epoll : after.epollOpen = s.epollOpen)
    (place : after.place = s.place)
    (clients : ∀ fd client, (fd, .client client) ∈ s.files.files →
      (fd, .client client) ∈ after.files.files) : after.Adrift where
  server := server.trans adrift.server
  epoll := epoll.trans adrift.epoll
  behind := by
    rw [place]
    exact adrift.behind
  accepted fd here := by
    rw [place] at here
    obtain ⟨client, named⟩ := adrift.accepted fd here
    exact ⟨client, clients fd client named⟩

/-- To a place where no client is in hand. -/
theorem Adrift.to {s after : NetServer Client} (adrift : s.Adrift)
    (server : after.serverOpen = s.serverOpen) (epoll : after.epollOpen = s.epollOpen)
    (behind : after.place.constructs = false) (settled : after.place.accepted = none) :
    after.Adrift where
  server := server.trans adrift.server
  epoll := epoll.trans adrift.epoll
  behind := behind
  accepted fd here := by
    rw [settled] at here
    cases here

theorem closeServer_epollOpen (s : NetServer Client) : s.closeServer.epollOpen = s.epollOpen := by
  obtain ⟨_, same⟩ | ⟨fd, _, closed⟩ := s.closeServer_cases
  · rw [same]
  · rw [closed]
    rfl

theorem closeEpoll_serverOpen (s : NetServer Client) : s.closeEpoll.serverOpen = s.serverOpen := by
  obtain ⟨_, same⟩ | ⟨fd, _, closed⟩ := s.closeEpoll_cases
  · rw [same]
  · rw [closed]
    rfl

theorem Adrift.closeServer {s : NetServer Client} (adrift : s.Adrift) :
    (s.closeServer.moveTo .destroysEpoll).Adrift where
  server := by
    obtain ⟨_, same⟩ | ⟨fd, _, closed⟩ := s.closeServer_cases
    · rw [same]
      exact adrift.server
    · rw [closed]
      rfl
  epoll := s.closeServer_epollOpen.trans adrift.epoll
  behind := rfl
  accepted := nofun

theorem Adrift.closeEpoll {s : NetServer Client} (adrift : s.Adrift) :
    (s.closeEpoll.moveTo .gone).Adrift where
  server := s.closeEpoll_serverOpen.trans adrift.server
  epoll := by
    obtain ⟨_, same⟩ | ⟨fd, _, closed⟩ := s.closeEpoll_cases
    · rw [same]
      exact adrift.epoll
    · rw [closed]
      rfl
  behind := rfl
  accepted := nofun

theorem Adrift.watch {s : NetServer Client} (adrift : s.Adrift) (fd : Nat) :
    ((s.watch fd).moveTo .handles).Adrift := by
  unfold NetServer.watch
  split
  · exact adrift.to rfl rfl rfl rfl
  · exact adrift.to rfl rfl rfl rfl

theorem Adrift.proceed {s : NetServer Client} (adrift : s.Adrift) (succeeds : Bool) :
    (s.proceed succeeds).Adrift := by
  have behind := adrift.behind
  unfold NetServer.proceed
  cases place : s.place with
  | waits | gone => exact adrift
  | handles =>
      dsimp only
      split
      · exact adrift.to rfl rfl rfl rfl
      · exact adrift
  | adds client fd =>
      dsimp only
      split
      · exact adrift.watch fd
      · refine ⟨adrift.server, adrift.epoll, rfl, fun other here => ?_⟩
        cases here
        exact adrift.accepted fd (by rw [place]; rfl)
  | refuses fd | hangsUp fd => exact adrift.to rfl rfl rfl rfl
  | destroysServer => exact adrift.closeServer
  | destroysEpoll => exact adrift.closeEpoll
  | creates | binds | listens | createsEpoll | addsListening | closesServer withEpoll
  | closesEpoll =>
      rw [place] at behind
      cases behind

theorem Adrift.acceptClient {s : NetServer Client} (adrift : s.Adrift) (client : Option Client) :
    (s.acceptClient client).Adrift := by
  cases client with
  | none => exact adrift
  | some client =>
      unfold NetServer.acceptClient
      dsimp only
      obtain ⟨_, failed⟩ | ⟨room, opened⟩ := s.files.openFile_cases (.client client)
      · rw [failed]
        exact adrift
      · rw [opened]
        refine ⟨adrift.server, adrift.epoll, rfl, fun fd here => ?_⟩
        cases here
        exact ⟨client, List.mem_cons_self⟩

theorem Adrift.takeEvent {s : NetServer Client} (adrift : s.Adrift) (fd : Nat)
    (rest : List Nat) : (s.takeEvent fd rest).Adrift :=
  adrift.of_clients rfl rfl rfl fun _ _ named => named

/-!
## Every run
-/

theorem foreign_iff {s : NetServer Client} {fd : Nat} :
    s.foreign fd = true ↔ ∃ owner, s.files.owner? fd = some owner ∧ owner.isOther = true := by
  unfold foreign
  cases s.files.owner? fd with
  | none => simp
  | some owner => simp

/-- Closing a file of another thread leaves those of the server. -/
theorem mem_close_of_foreign {s : NetServer Client} {closed : Nat}
    (foreign : s.foreign closed = true) {owner : ServerFile Client} (own : owner.isOther = false)
    (fd : Nat) : (fd, owner) ∈ (s.files.close closed).files ↔ (fd, owner) ∈ s.files.files := by
  obtain ⟨closer, found, other⟩ := foreign_iff.mp foreign
  refine FileTable.mem_close_of_ne (FileTable.mem_of_owner? found) owner ?_ fd
  rintro rfl
  exact absurd (own.symm.trans other) (by decide)

theorem mem_openOther {files : FileTable (ServerFile Client)} (isEpoll : Bool)
    (room : ¬ files.full) {owner : ServerFile Client} (own : owner.isOther = false) (fd : Nat) :
    (fd, owner) ∈ (files.add (.other isEpoll) room).files ↔ (fd, owner) ∈ files.files := by
  refine FileTable.mem_add_of_ne room ?_ fd
  rintro rfl
  cases own

theorem Sound.epollWait {s : NetServer Client} (sound : s.Sound) (place : s.place = .waits)
    (epollOpen : s.epollOpen = true) (ready : List Nat) :
    ({ s with events := s.reported ready, place := .handles } : NetServer Client).Sound := by
  have allowed := sound.allowed
  rw [place] at allowed
  have serverOpen := (eq_of_beq allowed).trans epollOpen
  have moved : (s.moveTo .handles).Serves :=
    sound.toServes.moveTo (by rw [place]; rfl) rfl nofun
  rw [reported_own (sound.epollOwner_of_open epollOpen)]
  exact
    { toOwns := sound.toOwns.of_files rfl rfl rfl rfl (fun _ => Iff.rfl) (fun _ => Iff.rfl)
      watched := sound.watched
      clients := moved.clients
      events := by
        refine ⟨(ready.nodup_dedup.filter _).sublist (List.take_sublist _ _), ?_⟩
        intro fd member
        exact of_decide_eq_true (List.mem_filter.mp (List.mem_of_mem_take member)).2
      current := nofun
      idle := nofun
      allowed := Bool.and_eq_true_iff.mpr ⟨serverOpen, epollOpen⟩
      handled := sound.handled }

section

variable [DecidableEq Client]

theorem Adrift.step {s : NetServer Client} (adrift : s.Adrift) (action : NetServerStep Client) :
    (s.step action).Adrift := by
  cases action with
  | openOther isEpoll =>
      unfold NetServer.step
      dsimp only
      obtain ⟨_, failed⟩ | ⟨room, opened⟩ := s.files.openFile_cases (.other isEpoll)
      · rw [failed]
        exact adrift
      · rw [opened]
        exact adrift.of_clients rfl rfl rfl fun fd client named =>
          (mem_openOther isEpoll room rfl fd).mpr named
  | closeOther fd =>
      unfold NetServer.step
      dsimp only
      split
      · next foreign =>
          exact adrift.of_clients rfl rfl rfl fun other client named =>
            (mem_close_of_foreign foreign rfl other).mpr named
      · exact adrift
  | proceed succeeds => exact adrift.proceed succeeds
  | start =>
      unfold NetServer.step
      dsimp only
      split
      · exact adrift.of_clients rfl rfl rfl fun _ _ named => named
      · exact adrift
  | stop => exact adrift.of_clients rfl rfl rfl fun _ _ named => named
  | epollWait ready =>
      unfold NetServer.step
      dsimp only
      split
      · exact adrift.to rfl rfl rfl rfl
      · exact adrift
  | acceptClient client =>
      unfold NetServer.step
      dsimp only
      split
      · next fd rest _ _ =>
          split
          · exact (adrift.takeEvent fd rest).acceptClient _
          · exact adrift
      · exact adrift
  | readClient bytesRead =>
      unfold NetServer.step
      dsimp only
      split
      · next fd rest _ _ =>
          split
          · exact adrift
          · split
            · exact adrift.to rfl rfl rfl rfl
            · exact adrift.takeEvent fd rest
      · exact adrift
  | destroy =>
      unfold NetServer.step
      dsimp only
      split
      · exact adrift.to rfl rfl rfl rfl
      · exact adrift

/-- An `epoll_wait` that succeeds is on the server's own instance. -/
def WaitsOwn (s : NetServer Client) : NetServerStep Client → Prop
  | .epollWait _ => s.place = .waits → s.running = true → s.canWait = true → s.epollOpen = true
  | _ => True

instance (s : NetServer Client) (action : NetServerStep Client) : Decidable (s.WaitsOwn action) :=
  match action with
  | .epollWait _ =>
      inferInstanceAs (Decidable
        (s.place = .waits → s.running = true → s.canWait = true → s.epollOpen = true))
  | .openOther _ | .closeOther _ | .proceed _ | .start | .stop | .acceptClient _ | .readClient _
  | .destroy => isTrue trivial

theorem Sound.step {s : NetServer Client} (sound : s.Sound) (action : NetServerStep Client)
    (own : s.WaitsOwn action) : (s.step action).Sound := by
  cases action with
  | openOther isEpoll =>
      unfold NetServer.step
      dsimp only
      obtain ⟨_, failed⟩ | ⟨room, opened⟩ := s.files.openFile_cases (.other isEpoll)
      · rw [failed]
        exact sound
      · rw [opened]
        exact sound.files fun owner own fd => mem_openOther isEpoll room own fd
  | closeOther fd =>
      unfold NetServer.step
      dsimp only
      split
      · next foreign =>
          exact sound.files fun owner own other => mem_close_of_foreign foreign own other
      · exact sound
  | proceed succeeds => exact sound.proceed succeeds
  | start =>
      unfold NetServer.step
      dsimp only
      split
      · exact sound.setRunning true
      · exact sound
  | stop => exact sound.setRunning false
  | epollWait ready =>
      unfold NetServer.step
      dsimp only
      split
      · next waits => exact sound.epollWait waits.1 (own waits.1 waits.2.1 waits.2.2) ready
      · exact sound
  | acceptClient client =>
      unfold NetServer.step
      dsimp only
      split
      · next fd rest place next =>
          split
          · exact (sound.takeEvent place next).acceptClient place _
          · exact sound
      · exact sound
  | readClient bytesRead =>
      unfold NetServer.step
      dsimp only
      split
      · next fd rest place next =>
          split
          · exact sound
          · next client =>
              split
              · exact sound.hangUp place next client
              · exact sound.takeEvent place next
      · exact sound
  | destroy =>
      unfold NetServer.step
      dsimp only
      split
      · next place =>
          have allowed := sound.allowed
          have nothing := sound.idle (by rw [place]; rfl)
          rw [place] at allowed
          have moved : (s.moveTo .destroysServer).Sound :=
            sound.moveTo (by rw [place]; rfl) rfl (fun _ => nothing) allowed
          exact moved.setRunning false
      · exact sound

/-- An `epoll_wait` on another instance leaves a server without its two descriptors adrift. -/
theorem Sound.step_adrift {s : NetServer Client} (sound : s.Sound)
    {action : NetServerStep Client} (strays : ¬ s.WaitsOwn action) : (s.step action).Adrift := by
  cases action with
  | epollWait ready =>
      simp only [WaitsOwn, not_forall] at strays
      obtain ⟨place, running, waits, closed⟩ := strays
      have epollDown : s.epollOpen = false := Bool.not_eq_true _ ▸ closed
      have allowed := sound.allowed
      rw [place] at allowed
      have serverDown := (eq_of_beq allowed).trans epollDown
      simp only [NetServer.step, place, running, waits, and_self, if_true]
      exact ⟨serverDown, epollDown, rfl, nofun⟩
  | _ => exact absurd trivial strays

/-- In every run whose `epoll_wait`s are all on the server's own instance, whatever other threads
open and close: `accept` and `read` are called with the listening socket or with a client's
descriptor, and until the destructor closes the epoll descriptor every client that has one is in
its set, unless it is the one whose `epoll_ctl` or whose `close` behind that comes next. -/
theorem events_about_own_files (limit : Nat) (actions : List (NetServerStep Client))
    (own : Guarded step WaitsOwn (new limit) actions) :
    let s := run step (new limit) actions
    (∀ hit ∈ s.handled, hit = some .listening ∨ ∃ client, hit = some (.client client)) ∧
      (s.epollOpen = true → ∀ fd client, (fd, .client client) ∈ s.files.files →
        fd ∈ s.watched ∨ s.place = .adds client fd ∨ s.place = .refuses fd) := by
  have sound := run_invariant Sound (fun _ action sound own => sound.step action own)
    (new_sound limit) own
  exact ⟨sound.handled, fun _ => sound.clients⟩

/-- Two clients, of which the first hangs up; another thread has an epoll instance too. -/
theorem two_clients_handled :
    let actions : List (NetServerStep Nat) :=
      [.proceed true, .proceed true, .proceed true, .proceed true, .proceed true, .openOther true,
        .start, .epollWait [0], .acceptClient (some 7), .proceed true, .proceed true,
        .epollWait [3, 0], .readClient 0, .proceed true, .acceptClient (some 8), .proceed true]
    let s := run step (new 8) actions
    (∀ hit ∈ s.handled, hit = some .listening ∨ ∃ client, hit = some (.client client)) ∧
      s.handled = [some .listening, some (.client 7), some .listening] ∧ s.watched = [3, 0] := by
  have own : Guarded step WaitsOwn (new 8 : NetServer Nat)
      [.proceed true, .proceed true, .proceed true, .proceed true, .proceed true, .openOther true,
        .start, .epollWait [0], .acceptClient (some 7), .proceed true, .proceed true,
        .epollWait [3, 0], .readClient 0, .proceed true, .acceptClient (some 8),
        .proceed true] := by decide
  exact ⟨(events_about_own_files 8 _ own).1, by decide, by decide⟩

end

/-!
## Files of other threads
-/

/-- A number that the server closes once more, or one that it has from an epoll instance of
another thread. -/
def doubtful (s : NetServer Client) : Option Nat :=
  match s.place with
  | .destroysServer => if s.serverOpen then none else s.serverFd
  | .destroysEpoll => if s.epollOpen then none else s.epollFd
  | .hangsUp fd => if s.epollOpen then none else some fd
  | _ => none

/-- No other thread has a number of that kind when it is closed. -/
def ClosesOwn (s : NetServer Client) : NetServerStep Client → Prop
  | .proceed _ => ∀ fd ∈ s.doubtful, s.foreign fd = false
  | _ => True

instance (s : NetServer Client) (action : NetServerStep Client) : Decidable (s.ClosesOwn action) :=
  match action with
  | .proceed _ => inferInstanceAs (Decidable (∀ fd ∈ s.doubtful, s.foreign fd = false))
  | .openOther _ | .closeOther _ | .start | .stop | .epollWait _ | .acceptClient _ | .readClient _
  | .destroy => isTrue trivial

theorem not_foreign_of_mem {s : NetServer Client} {fd : Nat} {owner : ServerFile Client}
    (listed : (fd, owner) ∈ s.files.files) (own : owner.isOther = false) :
    s.foreign fd = false := by
  rw [foreign, FileTable.owner?_eq_some listed]
  exact own

theorem closing_of_doubtful {s : NetServer Client} {fd : Nat} (doubt : s.doubtful = some fd) :
    s.closing = some fd := by
  unfold doubtful at doubt
  unfold closing
  cases place : s.place with
  | destroysServer =>
      simp only [place, Option.ite_none_left_eq_some] at doubt
      exact doubt.2
  | destroysEpoll =>
      simp only [place, Option.ite_none_left_eq_some] at doubt
      exact doubt.2
  | hangsUp other =>
      simp only [place, Option.ite_none_left_eq_some] at doubt
      exact doubt.2
  | _ => simp [place] at doubt

/-- The constructor and `handle_events` close only what the server has opened. -/
theorem Sound.own_of_closing {s : NetServer Client} (sound : s.Sound) {fd : Nat}
    (closes : s.closing = some fd) (sure : s.doubtful ≠ some fd) : s.foreign fd = false := by
  have ofServer : s.serverFd = some fd → s.serverOpen = true → s.foreign fd = false := by
    intro named opened
    obtain ⟨server, member, listed⟩ := sound.server opened
    cases named.symm.trans member
    exact not_foreign_of_mem listed rfl
  have ofEpoll : s.epollFd = some fd → s.epollOpen = true → s.foreign fd = false := by
    intro named opened
    obtain ⟨epoll, member, listed⟩ := sound.epoll opened
    cases named.symm.trans member
    exact not_foreign_of_mem listed rfl
  have ofClient : s.place.current = some fd → s.foreign fd = false := by
    intro here
    obtain ⟨_, client, named⟩ := sound.current fd here
    exact not_foreign_of_mem named rfl
  have allowed := sound.allowed
  unfold closing at closes
  unfold doubtful at sure
  cases place : s.place with
  | closesServer withEpoll =>
      simp only [place] at closes allowed
      cases withEpoll <;> exact ofServer closes (Bool.and_eq_true_iff.mp allowed).1
  | destroysServer =>
      simp only [place] at closes sure
      cases opened : s.serverOpen with
      | true => exact ofServer closes opened
      | false => simp [opened, closes] at sure
  | closesEpoll =>
      simp only [place] at closes allowed
      exact ofEpoll closes (Bool.and_eq_true_iff.mp allowed).2
  | destroysEpoll =>
      simp only [place] at closes sure
      cases opened : s.epollOpen with
      | true => exact ofEpoll closes opened
      | false => simp [opened, closes] at sure
  | refuses other | hangsUp other =>
      simp only [place] at closes
      exact ofClient (by rw [place]; exact closes)
  | _ => simp [place] at closes

/-- Adrift the one number that is surely the server's own is that of a client just accepted. -/
theorem Adrift.own_of_closing {s : NetServer Client} (adrift : s.Adrift) {fd : Nat}
    (closes : s.closing = some fd) (sure : s.doubtful ≠ some fd) : s.foreign fd = false := by
  have behind := adrift.behind
  unfold closing at closes
  unfold doubtful at sure
  cases place : s.place with
  | refuses other =>
      simp only [place] at closes
      obtain ⟨client, named⟩ := adrift.accepted fd (by rw [place]; exact closes)
      exact not_foreign_of_mem named rfl
  | destroysServer =>
      simp only [place] at closes
      simp [place, adrift.server, closes] at sure
  | destroysEpoll =>
      simp only [place] at closes
      simp [place, adrift.epoll, closes] at sure
  | hangsUp other =>
      simp only [place] at closes
      simp [place, adrift.epoll, closes] at sure
  | closesServer withEpoll | closesEpoll =>
      rw [place] at behind
      cases behind
  | _ => simp [place] at closes

theorem acceptClient_closed (s : NetServer Client) (client : Option Client) :
    (s.acceptClient client).closed = s.closed := by
  cases client with
  | none => rfl
  | some client =>
      unfold NetServer.acceptClient
      dsimp only
      split <;> rfl

/-- What the next call closes is no file of another thread exactly when it is in no doubt, or
when the number in doubt is nobody's. -/
theorem closesOwn_iff {s : NetServer Client} (either : s.Sound ∨ s.Adrift) (succeeds : Bool) :
    (∀ fd ∈ s.closing, s.foreign fd = false) ↔ s.ClosesOwn (.proceed succeeds) := by
  constructor
  · intro own fd doubt
    exact own fd (closing_of_doubtful doubt)
  · intro own fd closes
    by_cases doubt : s.doubtful = some fd
    · exact own fd doubt
    · obtain sound | adrift := either
      · exact sound.own_of_closing closes doubt
      · exact adrift.own_of_closing closes doubt

section

variable [DecidableEq Client]

theorem step_closed (s : NetServer Client) {action : NetServerStep Client}
    (passive : ∀ succeeds, action ≠ .proceed succeeds) : (s.step action).closed = s.closed := by
  cases action with
  | proceed succeeds => exact absurd rfl (passive succeeds)
  | openOther =>
      unfold NetServer.step
      dsimp only
      split <;> rfl
  | acceptClient client =>
      unfold NetServer.step
      dsimp only
      split
      · split
        · exact acceptClient_closed _ _
        · rfl
      · rfl
  | readClient bytesRead =>
      unfold NetServer.step
      dsimp only
      split
      · split
        · rfl
        · split <;> rfl
      · rfl
  | stop => rfl
  | _ =>
      unfold NetServer.step
      dsimp only
      split <;> rfl

/-- A run from the constructor on waits on the server's own instance, or is adrift. -/
theorem run_sound_or_adrift (s : NetServer Client) (action : NetServerStep Client)
    (either : s.Sound ∨ s.Adrift) : (s.step action).Sound ∨ (s.step action).Adrift := by
  obtain sound | adrift := either
  · by_cases own : s.WaitsOwn action
    · exact .inl (sound.step action own)
    · exact .inr (sound.step_adrift own)
  · exact .inr (adrift.step action)

/-- In every run, whatever other threads open and close: the server never closes a file of theirs
exactly when no number that it closes once more, in a destructor behind a constructor that failed
after `socket`, and none that an epoll instance of another thread has given it, is another
thread's at that moment. -/
theorem foreign_never_closed_iff (limit : Nat) (actions : List (NetServerStep Client)) :
    (∀ first, first <+: actions → ∀ hit ∈ (run step (new limit : NetServer Client) first).closed,
        hit.any ServerFile.isOther = false) ↔
      Guarded step ClosesOwn (new limit) actions := by
  let own : NetServer Client → Prop := fun s => ∀ hit ∈ s.closed, hit.any ServerFile.isOther = false
  have initial : (new limit : NetServer Client).Sound ∨ (new limit : NetServer Client).Adrift :=
    .inl (new_sound limit)
  refine forall_prefix_iff_guarded (fun s => s.Sound ∨ s.Adrift) own run_sound_or_adrift ?_ initial
    nofun actions
  intro s action either kept
  by_cases passive : ∀ succeeds, action ≠ .proceed succeeds
  · have meets : s.ClosesOwn action := by
      cases action with
      | proceed succeeds => exact absurd rfl (passive succeeds)
      | _ => trivial
    simp only [own, s.step_closed passive]
    exact iff_of_true kept meets
  · obtain ⟨succeeds, rfl⟩ := not_forall_not.mp passive
    rw [← closesOwn_iff either succeeds]
    have closed : (s.step (.proceed succeeds)).closed =
        s.closed ++ (s.closing.map s.files.owner?).toList := s.proceed_closed succeeds
    simp only [own, closed, List.forall_mem_append, and_iff_right kept]
    cases s.closing with
    | none => exact iff_of_true nofun nofun
    | some fd =>
        constructor
        · intro here other same
          cases same
          exact here _ List.mem_cons_self
        · intro here hit member
          rw [List.mem_singleton.mp member]
          exact here fd rfl

/-- `listen` fails, another thread gets the number, and the destructor closes it. -/
example : ¬ Guarded step ClosesOwn (new 8 : NetServer Unit)
    [.proceed true, .proceed true, .proceed false, .proceed true, .openOther false, .destroy,
      .proceed true] := by
  decide

/-- `epoll_ctl` fails, another thread's epoll instance gets the number, and `start` hangs up on
one of its sockets. -/
example : ¬ Guarded step ClosesOwn (new 8 : NetServer Unit)
    [.proceed true, .proceed true, .proceed true, .proceed true, .proceed false, .proceed true,
      .proceed true, .openOther false, .openOther true, .openOther false, .start, .epollWait [2],
      .readClient 0, .proceed true] := by
  decide

end

end NetServer

end Talko.Service
