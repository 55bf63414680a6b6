import Talko.Service.NetServer

/-!
# The descriptors of the server of `net_server.cpp`

The two members name their descriptors until the server closes them, and as long as `start` waits
on the server's own epoll instance every client is watched: a list of events names no descriptor
twice, so that closing one client cannot hit the next one that gets its number.
-/

set_option autoImplicit false

namespace Talko.Service

open Talko.Library

namespace ServerPlace

variable {Client : Type}

/-- Whether the listening socket and the epoll descriptor can be open there. -/
def allows : ServerPlace Client → Bool → Bool → Bool
  | .creates, server, epoll | .gone, server, epoll => !server && !epoll
  | .binds, server, epoll | .listens, server, epoll | .createsEpoll, server, epoll
  | .closesServer false, server, epoll => server && !epoll
  | .addsListening, server, epoll | .closesServer true, server, epoll
  | .handles, server, epoll | .adds _ _, server, epoll | .refuses _, server, epoll
  | .hangsUp _, server, epoll => server && epoll
  | .closesEpoll, server, epoll => !server && epoll
  | .waits, server, epoll | .destroysServer, server, epoll => server == epoll
  | .destroysEpoll, server, _ => !server

/-- The client that `handle_events` has taken out of its events. -/
def current : ServerPlace Client → Option Nat
  | .adds _ fd | .refuses fd | .hangsUp fd => some fd
  | _ => none

/-- The client that `accept` has just given. -/
def accepted : ServerPlace Client → Option Nat
  | .adds _ fd | .refuses fd => some fd
  | _ => none

/-- The constructor is under way. -/
def constructs : ServerPlace Client → Bool
  | .creates | .binds | .listens | .createsEpoll | .addsListening | .closesServer _
  | .closesEpoll => true
  | _ => false

/-- `handle_events` is under way. -/
def serves : ServerPlace Client → Bool
  | .handles | .adds _ _ | .refuses _ | .hangsUp _ => true
  | _ => false

end ServerPlace

namespace NetServer

variable {Client : Type}

/-!
## The descriptors of the server itself
-/

/-- The members name the two descriptors as long as the server has not closed them. -/
structure Owns (s : NetServer Client) : Prop where
  server : s.serverOpen = true → ∃ fd, s.serverFd = some fd ∧ (fd, .listening) ∈ s.files.files
  listening : ∀ fd, (fd, .listening) ∈ s.files.files → s.serverFd = some fd ∧ s.serverOpen = true
  epoll : s.epollOpen = true → ∃ fd, s.epollFd = some fd ∧ (fd, .epoll) ∈ s.files.files
  epollFile : ∀ fd, (fd, .epoll) ∈ s.files.files → s.epollFd = some fd ∧ s.epollOpen = true

theorem Owns.epollOwner_of_open {s : NetServer Client} (owns : s.Owns)
    (opened : s.epollOpen = true) : s.epollOwner = some .epoll := by
  obtain ⟨fd, member, listed⟩ := owns.epoll opened
  rw [epollOwner, member]
  exact FileTable.owner?_eq_some listed

theorem watch_own {s : NetServer Client} (own : s.epollOwner = some .epoll) (fd : Nat) :
    s.watch fd = { s with watched := fd :: s.watched } := by
  simp only [watch, own]

theorem reported_own {s : NetServer Client} (own : s.epollOwner = some .epoll)
    (ready : List Nat) : s.reported ready =
      (ready.dedup.filter fun fd => fd ∈ s.watched).take maxEvents := by
  simp only [reported, own]

theorem Owns.of_files {s after : NetServer Client} (owns : s.Owns)
    (serverFd : after.serverFd = s.serverFd) (serverOpen : after.serverOpen = s.serverOpen)
    (epollFd : after.epollFd = s.epollFd) (epollOpen : after.epollOpen = s.epollOpen)
    (listening : ∀ fd, (fd, .listening) ∈ after.files.files ↔ (fd, .listening) ∈ s.files.files)
    (epoll : ∀ fd, (fd, .epoll) ∈ after.files.files ↔ (fd, .epoll) ∈ s.files.files) :
    after.Owns where
  server := by simpa only [serverOpen, serverFd, listening] using owns.server
  listening := by simpa only [serverOpen, serverFd, listening] using owns.listening
  epoll := by simpa only [epollOpen, epollFd, epoll] using owns.epoll
  epollFile := by simpa only [epollOpen, epollFd, epoll] using owns.epollFile

theorem Owns.closeClient {s : NetServer Client} (owns : s.Owns) {fd : Nat} {client : Client}
    (named : (fd, .client client) ∈ s.files.files) : (s.closeFd fd).Owns :=
  owns.of_files rfl rfl rfl rfl (FileTable.mem_close_of_ne named .listening nofun)
    (FileTable.mem_close_of_ne named .epoll nofun)

theorem closeServer_cases (s : NetServer Client) :
    (s.serverFd = none ∧ s.closeServer = s) ∨
      ∃ fd, s.serverFd = some fd ∧ s.closeServer = { s.closeFd fd with serverOpen := false } := by
  unfold closeServer
  cases s.serverFd with
  | none => exact .inl ⟨rfl, rfl⟩
  | some fd => exact .inr ⟨fd, rfl, rfl⟩

theorem closeEpoll_cases (s : NetServer Client) :
    (s.epollFd = none ∧ s.closeEpoll = s) ∨
      ∃ fd, s.epollFd = some fd ∧ s.closeEpoll = { s.closeFd fd with epollOpen := false } := by
  unfold closeEpoll
  cases s.epollFd with
  | none => exact .inl ⟨rfl, rfl⟩
  | some fd => exact .inr ⟨fd, rfl, rfl⟩

/-- The number may have gone to another file, but not to the epoll descriptor. -/
theorem Owns.closeServer {s : NetServer Client} (owns : s.Owns)
    (apart : s.epollOpen = true → s.serverOpen = true) : s.closeServer.Owns := by
  obtain ⟨absent, same⟩ | ⟨fd, member, closed⟩ := s.closeServer_cases
  · rw [same]
    exact owns
  · rw [closed]
    refine ⟨nofun, ?_, ?_, ?_⟩
    · intro named listed
      obtain ⟨old, differ⟩ := FileTable.mem_close.mp listed
      have same := (owns.listening named old).1
      rw [member] at same
      exact absurd (Option.some.inj same).symm differ
    · intro opened
      obtain ⟨server, serverFd, listed⟩ := owns.server (apart opened)
      obtain ⟨epoll, epollFd, epollListed⟩ := owns.epoll opened
      rw [member] at serverFd
      obtain rfl := Option.some.inj serverFd
      exact ⟨epoll, epollFd, (FileTable.mem_close_of_ne listed .epoll nofun epoll).mpr epollListed⟩
    · intro named listed
      exact owns.epollFile named (FileTable.mem_close.mp listed).1

/-- The epoll descriptor is closed behind the listening socket. -/
theorem Owns.closeEpoll {s : NetServer Client} (owns : s.Owns) (down : s.serverOpen = false) :
    s.closeEpoll.Owns := by
  obtain ⟨absent, same⟩ | ⟨fd, member, closed⟩ := s.closeEpoll_cases
  · rw [same]
    exact owns
  · rw [closed]
    refine ⟨fun opened => absurd (down.symm.trans opened) (by decide), ?_, nofun, ?_⟩
    · intro named listed
      exact owns.listening named (FileTable.mem_close.mp listed).1
    · intro named listed
      obtain ⟨old, differ⟩ := FileTable.mem_close.mp listed
      have same := (owns.epollFile named old).1
      rw [member] at same
      exact absurd (Option.some.inj same).symm differ

theorem closeServer_serverOpen {s : NetServer Client} (owns : s.Owns) :
    s.closeServer.serverOpen = false := by
  obtain ⟨absent, same⟩ | ⟨fd, _, closed⟩ := s.closeServer_cases
  · rw [same]
    cases opened : s.serverOpen with
    | false => rfl
    | true =>
        obtain ⟨fd, present, _⟩ := owns.server opened
        rw [absent] at present
        cases present
  · rw [closed]

theorem closeEpoll_epollOpen {s : NetServer Client} (owns : s.Owns) :
    s.closeEpoll.epollOpen = false := by
  obtain ⟨absent, same⟩ | ⟨fd, _, closed⟩ := s.closeEpoll_cases
  · rw [same]
    cases opened : s.epollOpen with
    | false => rfl
    | true =>
        obtain ⟨fd, present, _⟩ := owns.epoll opened
        rw [absent] at present
        cases present
  · rw [closed]

/-!
## The clients
-/

/-- Every client that has a descriptor is watched, unless it is the one that `handle_events` has
just accepted, and the events still to come are watched, each once. -/
structure Serves (s : NetServer Client) : Prop where
  watched : ∀ fd ∈ s.watched,
    (fd, .listening) ∈ s.files.files ∨ ∃ client, (fd, .client client) ∈ s.files.files
  clients : ∀ fd client, (fd, .client client) ∈ s.files.files →
    fd ∈ s.watched ∨ s.place = .adds client fd ∨ s.place = .refuses fd
  events : s.events.Nodup ∧ ∀ fd ∈ s.events, fd ∈ s.watched
  current : ∀ fd, s.place.current = some fd →
    fd ∉ s.events ∧ ∃ client, (fd, .client client) ∈ s.files.files
  idle : s.place.serves = false → s.events = []

/-- The same clients and the same listening socket. -/
theorem Serves.of_files {s after : NetServer Client} (serves : s.Serves)
    (watched : after.watched = s.watched) (events : after.events = s.events)
    (place : after.place = s.place)
    (listening : ∀ fd, (fd, .listening) ∈ after.files.files ↔ (fd, .listening) ∈ s.files.files)
    (clients : ∀ client fd, (fd, .client client) ∈ after.files.files ↔
      (fd, .client client) ∈ s.files.files) : after.Serves where
  watched := by simpa only [watched, listening, clients] using serves.watched
  clients := by simpa only [watched, place, clients] using serves.clients
  events := by simpa only [events, watched] using serves.events
  current := by simpa only [events, place, clients] using serves.current
  idle := by simpa only [events, place] using serves.idle

/-- To a place where `handle_events` has nothing in hand. -/
theorem Serves.moveTo {s : NetServer Client} (serves : s.Serves) (settled : s.place.current = none)
    {place : ServerPlace Client} (next : place.current = none)
    (idle : place.serves = false → s.events = []) : (s.moveTo place).Serves where
  watched := serves.watched
  clients fd client listed := by
    rcases serves.clients fd client listed with known | adding | refusing
    · exact .inl known
    · rw [adding] at settled
      cases settled
    · rw [refusing] at settled
      cases settled
  events := serves.events
  current fd here := by
    change place.current = some fd at here
    rw [next] at here
    cases here
  idle := idle

/-- A number is closed that no event is about; a client just accepted is that number. -/
theorem Serves.closeFd {s : NetServer Client} (serves : s.Serves) (fd : Nat)
    (absent : fd ∉ s.events)
    (current : ∀ other, s.place.current = some other → other = fd)
    {place : ServerPlace Client} (next : place.current = none)
    (idle : place.serves = false → s.events = []) : ((s.closeFd fd).moveTo place).Serves where
  watched other listed := by
    obtain ⟨old, differ⟩ := List.mem_filter.mp listed
    have differ := of_decide_eq_true differ
    rcases serves.watched other old with listening | ⟨client, named⟩
    · exact .inl (FileTable.mem_close.mpr ⟨listening, differ⟩)
    · exact .inr ⟨client, FileTable.mem_close.mpr ⟨named, differ⟩⟩
  clients other client listed := by
    obtain ⟨old, differ⟩ := FileTable.mem_close.mp listed
    left
    rcases serves.clients other client old with known | adding | refusing
    · exact List.mem_filter.mpr ⟨known, decide_eq_true differ⟩
    · exact absurd (current other (by rw [adding]; rfl)) differ
    · exact absurd (current other (by rw [refusing]; rfl)) differ
  events := by
    refine ⟨serves.events.1, fun other member => ?_⟩
    refine List.mem_filter.mpr ⟨serves.events.2 other member, decide_eq_true ?_⟩
    rintro rfl
    exact absent member
  current other here := by
    change place.current = some other at here
    rw [next] at here
    cases here
  idle := idle

/-!
## Steps
-/

structure Sound (s : NetServer Client) : Prop extends Owns s, Serves s where
  allowed : s.place.allows s.serverOpen s.epollOpen = true
  handled : ∀ hit ∈ s.handled, hit = some .listening ∨ ∃ client, hit = some (.client client)

theorem new_sound (limit : Nat) : (new limit : NetServer Client).Sound where
  server := nofun
  listening := nofun
  epoll := nofun
  epollFile := nofun
  watched := nofun
  clients := nofun
  events := ⟨List.nodup_nil, nofun⟩
  current := nofun
  idle _ := rfl
  allowed := rfl
  handled := nofun

/-- Another file comes or goes. -/
theorem Sound.files {s : NetServer Client} (sound : s.Sound)
    {files : FileTable (ServerFile Client)}
    (same : ∀ owner : ServerFile Client, owner.isOther = false → ∀ fd,
      ((fd, owner) ∈ files.files ↔ (fd, owner) ∈ s.files.files)) :
    ({ s with files := files } : NetServer Client).Sound where
  toOwns := sound.toOwns.of_files rfl rfl rfl rfl (same .listening rfl) (same .epoll rfl)
  toServes := sound.toServes.of_files rfl rfl rfl (same .listening rfl)
    fun client => same (.client client) rfl
  allowed := sound.allowed
  handled := sound.handled

theorem Sound.moveTo {s : NetServer Client} (sound : s.Sound) (settled : s.place.current = none)
    {place : ServerPlace Client} (next : place.current = none)
    (idle : place.serves = false → s.events = [])
    (allowed : place.allows s.serverOpen s.epollOpen = true) : (s.moveTo place).Sound where
  toOwns := sound.toOwns.of_files rfl rfl rfl rfl (fun _ => Iff.rfl) (fun _ => Iff.rfl)
  toServes := sound.toServes.moveTo settled next idle
  allowed := allowed
  handled := sound.handled

/-- One of the server's own descriptors goes, outside `handle_events`. -/
theorem Sound.closeOwn {s : NetServer Client} (sound : s.Sound) (outside : s.place.serves = false)
    (settled : s.place.current = none) (fd : Nat) {serverOpen epollOpen : Bool}
    (owns : ({ s.closeFd fd with serverOpen := serverOpen, epollOpen := epollOpen } :
      NetServer Client).Owns)
    {place : ServerPlace Client} (next : place.current = none)
    (allowed : place.allows serverOpen epollOpen = true) :
    (({ s.closeFd fd with serverOpen := serverOpen, epollOpen := epollOpen } :
      NetServer Client).moveTo place).Sound := by
  have nothing := sound.idle outside
  have serves := sound.toServes.closeFd fd (by rw [nothing]; exact List.not_mem_nil)
    (by rw [settled]; exact nofun) next fun _ => nothing
  exact
    { toOwns := owns.of_files rfl rfl rfl rfl (fun _ => Iff.rfl) (fun _ => Iff.rfl)
      toServes := serves.of_files rfl rfl rfl (fun _ => Iff.rfl) (fun _ _ => Iff.rfl)
      allowed := allowed
      handled := sound.handled }

theorem Sound.setRunning {s : NetServer Client} (sound : s.Sound) (running : Bool) :
    ({ s with running := running } : NetServer Client).Sound where
  toOwns := sound.toOwns.of_files rfl rfl rfl rfl (fun _ => Iff.rfl) (fun _ => Iff.rfl)
  toServes := sound.toServes.of_files rfl rfl rfl (fun _ => Iff.rfl) (fun _ _ => Iff.rfl)
  allowed := sound.allowed
  handled := sound.handled

theorem Sound.closeServer {s : NetServer Client} (sound : s.Sound)
    (outside : s.place.serves = false) (settled : s.place.current = none)
    (apart : s.epollOpen = true → s.serverOpen = true) {place : ServerPlace Client}
    (next : place.current = none) (allowed : place.allows false s.epollOpen = true) :
    (s.closeServer.moveTo place).Sound := by
  have owns := sound.toOwns.closeServer apart
  have down := closeServer_serverOpen sound.toOwns
  obtain ⟨_, same⟩ | ⟨fd, _, closed⟩ := s.closeServer_cases
  · rw [same] at down ⊢
    exact sound.moveTo settled next (fun _ => sound.idle outside) (by rw [down]; exact allowed)
  · rw [closed] at owns ⊢
    exact sound.closeOwn outside settled fd owns next allowed

theorem Sound.closeEpoll {s : NetServer Client} (sound : s.Sound)
    (outside : s.place.serves = false) (settled : s.place.current = none)
    (down : s.serverOpen = false) {place : ServerPlace Client}
    (next : place.current = none) (allowed : place.allows s.serverOpen false = true) :
    (s.closeEpoll.moveTo place).Sound := by
  have owns := sound.toOwns.closeEpoll down
  have shut := closeEpoll_epollOpen sound.toOwns
  obtain ⟨_, same⟩ | ⟨fd, _, closed⟩ := s.closeEpoll_cases
  · rw [same] at shut ⊢
    exact sound.moveTo settled next (fun _ => sound.idle outside) (by rw [shut]; exact allowed)
  · rw [closed] at owns ⊢
    exact sound.closeOwn outside settled fd owns next allowed

theorem opened_of_serves {s : NetServer Client} (sound : s.Sound)
    (serving : s.place.serves = true) : s.serverOpen = true ∧ s.epollOpen = true := by
  have allowed := sound.allowed
  cases place : s.place with
  | handles | adds client fd | refuses fd | hangsUp fd =>
      rw [place] at allowed
      exact Bool.and_eq_true_iff.mp allowed
  | _ =>
      rw [place] at serving
      cases serving

/-- The client that `handle_events` has in hand goes. -/
theorem Sound.closeClient {s : NetServer Client} (sound : s.Sound) {fd : Nat}
    (here : s.place.current = some fd) (serving : s.place.serves = true) :
    ((s.closeFd fd).moveTo .handles).Sound := by
  obtain ⟨absent, client, named⟩ := sound.current fd here
  obtain ⟨serverOpen, epollOpen⟩ := opened_of_serves sound serving
  have only : ∀ other, s.place.current = some other → other = fd := by
    intro other there
    rw [here] at there
    exact (Option.some.inj there).symm
  have owns := sound.toOwns.closeClient named
  exact
    { toOwns := owns.of_files rfl rfl rfl rfl (fun _ => Iff.rfl) (fun _ => Iff.rfl)
      toServes := sound.toServes.closeFd fd absent only rfl nofun
      allowed := Bool.and_eq_true_iff.mpr ⟨serverOpen, epollOpen⟩
      handled := sound.handled }

theorem Sound.creates {s : NetServer Client} (sound : s.Sound) (place : s.place = .creates)
    (room : ¬ s.files.full) :
    ({ s with
      files := s.files.add .listening room
      serverFd := some s.files.next
      serverOpen := true
      place := .binds } : NetServer Client).Sound := by
  have allowed := sound.allowed
  rw [place] at allowed
  obtain ⟨serverDown, epollDown⟩ := Bool.and_eq_true_iff.mp allowed
  have serverDown : s.serverOpen = false := Bool.not_eq_true' _ ▸ serverDown
  have epollDown : s.epollOpen = false := Bool.not_eq_true' _ ▸ epollDown
  have moved : (s.moveTo .binds).Serves :=
    sound.toServes.moveTo (by rw [place]; rfl) rfl fun _ => sound.idle (by rw [place]; rfl)
  exact
    { server := fun _ => ⟨s.files.next, rfl, List.mem_cons_self⟩
      listening := by
        intro fd listed
        rcases (FileTable.mem_add room).mp listed with new | old
        · cases new
          exact ⟨rfl, rfl⟩
        · exact absurd (serverDown.symm.trans (sound.listening fd old).2) (by decide)
      epoll := fun opened => absurd (epollDown.symm.trans opened) (by decide)
      epollFile := fun fd listed =>
        sound.epollFile fd (FileTable.mem_of_mem_add room listed nofun)
      watched := by
        intro fd member
        rcases sound.watched fd member with listening | ⟨client, named⟩
        · exact .inl (List.mem_cons_of_mem _ listening)
        · exact .inr ⟨client, List.mem_cons_of_mem _ named⟩
      clients := fun fd client listed =>
        moved.clients fd client (FileTable.mem_of_mem_add room listed nofun)
      events := sound.events
      current := nofun
      idle := moved.idle
      allowed := by
        change (true && !s.epollOpen) = true
        rw [epollDown]
        rfl
      handled := sound.handled }

theorem Serves.add {s : NetServer Client} (serves : s.Serves) (opener : ServerFile Client)
    (room : ¬ s.files.full) (foreign : ∀ client, .client client ≠ opener) :
    ({ s with files := s.files.add opener room } : NetServer Client).Serves where
  watched fd member := by
    rcases serves.watched fd member with listening | ⟨client, named⟩
    · exact .inl (List.mem_cons_of_mem _ listening)
    · exact .inr ⟨client, List.mem_cons_of_mem _ named⟩
  clients fd client listed :=
    serves.clients fd client (FileTable.mem_of_mem_add room listed (foreign client))
  events := serves.events
  current fd here := by
    obtain ⟨absent, client, named⟩ := serves.current fd here
    exact ⟨absent, client, List.mem_cons_of_mem _ named⟩
  idle := serves.idle

theorem Sound.createsEpoll {s : NetServer Client} (sound : s.Sound)
    (place : s.place = .createsEpoll) (room : ¬ s.files.full) :
    ({ s with
      files := s.files.add .epoll room
      epollFd := some s.files.next
      epollOpen := true
      place := .addsListening } : NetServer Client).Sound := by
  have allowed := sound.allowed
  rw [place] at allowed
  obtain ⟨opened, epollDown⟩ := Bool.and_eq_true_iff.mp allowed
  have epollDown : s.epollOpen = false := Bool.not_eq_true' _ ▸ epollDown
  have moved : (s.moveTo .addsListening).Serves :=
    sound.toServes.moveTo (by rw [place]; rfl) rfl fun _ => sound.idle (by rw [place]; rfl)
  have added := moved.add .epoll room nofun
  exact
    { toServes := added.of_files rfl rfl rfl (fun _ => Iff.rfl) (fun _ _ => Iff.rfl)
      server := fun _ => by
        obtain ⟨fd, member, listed⟩ := sound.server opened
        exact ⟨fd, member, List.mem_cons_of_mem _ listed⟩
      listening := fun fd listed => sound.listening fd (FileTable.mem_of_mem_add room listed nofun)
      epoll := fun _ => ⟨s.files.next, rfl, List.mem_cons_self⟩
      epollFile := by
        intro fd listed
        rcases (FileTable.mem_add room).mp listed with new | old
        · cases new
          exact ⟨rfl, rfl⟩
        · exact absurd (epollDown.symm.trans (sound.epollFile fd old).2) (by decide)
      allowed := Bool.and_eq_true_iff.mpr ⟨opened, rfl⟩
      handled := sound.handled }

theorem Sound.addsListening {s : NetServer Client} (sound : s.Sound)
    (place : s.place = .addsListening) :
    ({ s with watched := s.serverFd.toList ++ s.watched, place := .waits } :
      NetServer Client).Sound := by
  have allowed := sound.allowed
  rw [place] at allowed
  obtain ⟨serverOpen, epollOpen⟩ := Bool.and_eq_true_iff.mp allowed
  obtain ⟨fd, member, listed⟩ := sound.server serverOpen
  have moved : (s.moveTo .waits).Serves :=
    sound.toServes.moveTo (by rw [place]; rfl) rfl fun _ => sound.idle (by rw [place]; rfl)
  have nothing := sound.idle (by rw [place]; rfl)
  exact
    { toOwns := sound.toOwns.of_files rfl rfl rfl rfl (fun _ => Iff.rfl) (fun _ => Iff.rfl)
      watched := by
        intro other watched
        rcases List.mem_append.mp watched with new | old
        · rw [member] at new
          rw [List.mem_singleton.mp new]
          exact .inl listed
        · exact sound.watched other old
      clients := by
        intro other client named
        rcases moved.clients other client named with known | adding | refusing
        · exact .inl (List.mem_append_right _ known)
        · exact .inr (.inl adding)
        · exact .inr (.inr refusing)
      events := ⟨sound.events.1, fun other member =>
        List.mem_append_right _ (sound.events.2 other member)⟩
      current := nofun
      idle := fun _ => nothing
      allowed := by
        change (s.serverOpen == s.epollOpen) = true
        rw [serverOpen, epollOpen]
        rfl
      handled := sound.handled }

/-- `epoll_ctl` has taken the new client. -/
theorem Sound.watch {s : NetServer Client} (sound : s.Sound) {client : Client} {fd : Nat}
    (place : s.place = .adds client fd) :
    ((s.watch fd).moveTo .handles).Sound := by
  obtain ⟨absent, owner, named⟩ := sound.current fd (by rw [place]; rfl)
  have opened := opened_of_serves sound (by rw [place]; rfl)
  rw [watch_own (sound.epollOwner_of_open opened.2)]
  exact
    { toOwns := sound.toOwns.of_files rfl rfl rfl rfl (fun _ => Iff.rfl) (fun _ => Iff.rfl)
      watched := by
        intro other watched
        rcases List.mem_cons.mp watched with rfl | old
        · exact .inr ⟨owner, named⟩
        · exact sound.watched other old
      clients := by
        intro other known listed
        left
        rcases sound.clients other known listed with old | adding | refusing
        · exact List.mem_cons_of_mem _ old
        · rw [place] at adding
          cases adding
          exact List.mem_cons_self
        · rw [place] at refusing
          cases refusing
      events := ⟨sound.events.1, fun other member =>
        List.mem_cons_of_mem _ (sound.events.2 other member)⟩
      current := nofun
      idle := nofun
      allowed := Bool.and_eq_true_iff.mpr opened
      handled := sound.handled }

theorem Sound.refuse {s : NetServer Client} (sound : s.Sound) {client : Client} {fd : Nat}
    (place : s.place = .adds client fd) : (s.moveTo (.refuses fd)).Sound := by
  have opened := opened_of_serves sound (by rw [place]; rfl)
  exact
    { toOwns := sound.toOwns.of_files rfl rfl rfl rfl (fun _ => Iff.rfl) (fun _ => Iff.rfl)
      watched := sound.watched
      clients := by
        intro other known listed
        rcases sound.clients other known listed with old | adding | refusing
        · exact .inl old
        · rw [place] at adding
          cases adding
          exact .inr (.inr rfl)
        · rw [place] at refusing
          cases refusing
      events := sound.events
      current := by
        intro other here
        cases here
        exact sound.current fd (by rw [place]; rfl)
      idle := nofun
      allowed := Bool.and_eq_true_iff.mpr opened
      handled := sound.handled }

/-- What a call that opens a file can give. -/
theorem tryOpen_cases (files : FileTable (ServerFile Client)) (succeeds : Bool)
    (owner : ServerFile Client) :
    (if succeeds then files.openFile owner else none) = none ∨
      ∃ room : ¬ files.full, (if succeeds then files.openFile owner else none) =
        some (files.next, files.add owner room) := by
  cases succeeds with
  | false => exact .inl rfl
  | true =>
      obtain ⟨_, failed⟩ | ⟨room, opened⟩ := files.openFile_cases owner
      · exact .inl failed
      · exact .inr ⟨room, opened⟩

theorem Sound.proceed {s : NetServer Client} (sound : s.Sound) (succeeds : Bool) :
    (s.proceed succeeds).Sound := by
  have allowed := sound.allowed
  have nothing := sound.idle
  unfold NetServer.proceed
  cases place : s.place with
  | creates =>
      rw [place] at allowed nothing
      dsimp only
      obtain failed | ⟨room, opened⟩ := tryOpen_cases s.files succeeds .listening
      · rw [failed]
        refine sound.moveTo (by rw [place]; rfl) rfl (fun _ => nothing rfl) ?_
        obtain ⟨server, epoll⟩ := Bool.and_eq_true_iff.mp allowed
        change (s.serverOpen == s.epollOpen) = true
        rw [(Bool.not_eq_true' _).mp server, (Bool.not_eq_true' _).mp epoll]
        rfl
      · rw [opened]
        exact sound.creates place room
  | binds | listens =>
      rw [place] at allowed nothing
      refine sound.moveTo (by rw [place]; rfl) ?_ (fun _ => nothing rfl) ?_
      · cases succeeds <;> rfl
      · cases succeeds <;> exact allowed
  | createsEpoll =>
      rw [place] at allowed nothing
      dsimp only
      obtain failed | ⟨room, opened⟩ := tryOpen_cases s.files succeeds .epoll
      · rw [failed]
        exact sound.moveTo (by rw [place]; rfl) rfl (fun _ => nothing rfl) allowed
      · rw [opened]
        exact sound.createsEpoll place room
  | addsListening =>
      rw [place] at allowed nothing
      cases succeeds with
      | true => exact sound.addsListening place
      | false => exact sound.moveTo (by rw [place]; rfl) rfl (fun _ => nothing rfl) allowed
  | closesServer withEpoll =>
      rw [place] at allowed
      cases withEpoll with
      | false =>
          obtain ⟨server, epoll⟩ := Bool.and_eq_true_iff.mp allowed
          refine sound.closeServer (by rw [place]; rfl) (by rw [place]; rfl) (fun _ => server) rfl ?_
          rw [(Bool.not_eq_true' _).mp epoll]
          rfl
      | true =>
          obtain ⟨server, epoll⟩ := Bool.and_eq_true_iff.mp allowed
          refine sound.closeServer (by rw [place]; rfl) (by rw [place]; rfl) (fun _ => server) rfl ?_
          rw [epoll]
          rfl
  | closesEpoll =>
      rw [place] at allowed
      have down := (Bool.not_eq_true' _).mp (Bool.and_eq_true_iff.mp allowed).1
      refine sound.closeEpoll (by rw [place]; rfl) (by rw [place]; rfl) down rfl ?_
      rw [down]
      rfl
  | waits | gone => exact sound
  | handles =>
      dsimp only
      split
      · next finished =>
          refine sound.moveTo (by rw [place]; rfl) rfl (fun _ => finished) ?_
          obtain ⟨server, epoll⟩ := opened_of_serves sound (by rw [place]; rfl)
          rw [server, epoll]
          rfl
      · exact sound
  | adds client fd =>
      dsimp only
      split
      · exact sound.watch place
      · exact sound.refuse place
  | refuses fd | hangsUp fd => exact sound.closeClient (by rw [place]; rfl) (by rw [place]; rfl)
  | destroysServer =>
      rw [place] at allowed
      have same := eq_of_beq allowed
      refine sound.closeServer (by rw [place]; rfl) (by rw [place]; rfl)
        (fun opened => same.trans opened) rfl rfl
  | destroysEpoll =>
      rw [place] at allowed
      have down := (Bool.not_eq_true' _).mp allowed
      refine sound.closeEpoll (by rw [place]; rfl) (by rw [place]; rfl) down rfl ?_
      rw [down]
      rfl

/-!
## Events
-/

theorem Serves.mem_files {s : NetServer Client} (serves : s.Serves) {fd : Nat}
    (watched : fd ∈ s.watched) : fd ∈ s.files.files.map Prod.fst := by
  rcases serves.watched fd watched with listening | ⟨client, named⟩
  · exact List.mem_map.mpr ⟨_, listening, rfl⟩
  · exact List.mem_map.mpr ⟨_, named, rfl⟩

theorem Sound.takeEvent {s : NetServer Client} (sound : s.Sound) (place : s.place = .handles)
    {fd : Nat} {rest : List Nat} (next : s.events = fd :: rest) : (s.takeEvent fd rest).Sound := by
  obtain ⟨distinct, watched⟩ := sound.events
  rw [next] at distinct watched
  exact
    { toOwns := sound.toOwns.of_files rfl rfl rfl rfl (fun _ => Iff.rfl) (fun _ => Iff.rfl)
      watched := sound.watched
      clients := sound.clients
      events := ⟨(List.nodup_cons.mp distinct).2, fun other member =>
        watched other (List.mem_cons_of_mem _ member)⟩
      current := by
        intro other here
        change s.place.current = some other at here
        rw [place] at here
        cases here
      idle := by
        intro outside
        change s.place.serves = false at outside
        rw [place] at outside
        cases outside
      allowed := sound.allowed
      handled := by
        intro hit member
        rcases List.mem_append.mp member with old | new
        · exact sound.handled hit old
        · rw [List.mem_singleton.mp new]
          rcases sound.watched fd (watched fd List.mem_cons_self) with listening | ⟨client, named⟩
          · exact .inl (FileTable.owner?_eq_some listening)
          · exact .inr ⟨client, FileTable.owner?_eq_some named⟩ }

theorem Sound.acceptClient {s : NetServer Client} (sound : s.Sound) (place : s.place = .handles)
    (client : Option Client) : (s.acceptClient client).Sound := by
  cases client with
  | none => exact sound
  | some client =>
      unfold NetServer.acceptClient
      dsimp only
      obtain ⟨_, failed⟩ | ⟨room, opened⟩ := s.files.openFile_cases (.client client)
      · rw [failed]
        exact sound
      · rw [opened]
        -- The number is new, so that no event is about it.
        have fresh : ∀ fd ∈ s.events, fd ≠ s.files.next := by
          rintro fd member rfl
          exact s.files.next_not_mem (sound.toServes.mem_files (sound.events.2 _ member))
        have opened := opened_of_serves sound (by rw [place]; rfl)
        exact
          { toOwns := sound.toOwns.of_files rfl rfl rfl rfl
              (FileTable.mem_add_of_ne room nofun) (FileTable.mem_add_of_ne room nofun)
            watched := by
              intro fd member
              rcases sound.watched fd member with listening | ⟨known, named⟩
              · exact .inl (List.mem_cons_of_mem _ listening)
              · exact .inr ⟨known, List.mem_cons_of_mem _ named⟩
            clients := by
              intro fd known listed
              rcases (FileTable.mem_add room).mp listed with new | old
              · cases new
                exact .inr (.inl rfl)
              · rcases sound.clients fd known old with watched | adding | refusing
                · exact .inl watched
                · rw [place] at adding
                  cases adding
                · rw [place] at refusing
                  cases refusing
            events := sound.events
            current := by
              intro fd here
              cases here
              exact ⟨fun member => fresh _ member rfl, client, List.mem_cons_self⟩
            idle := nofun
            allowed := Bool.and_eq_true_iff.mpr opened
            handled := sound.handled }

/-- What `read` was called with is the descriptor of a client. -/
theorem Sound.hangUp {s : NetServer Client} (sound : s.Sound) (place : s.place = .handles)
    {fd : Nat} {rest : List Nat} (next : s.events = fd :: rest) (client : s.serverFd ≠ some fd) :
    ((s.takeEvent fd rest).moveTo (.hangsUp fd)).Sound := by
  have taken := sound.takeEvent place next
  obtain ⟨distinct, watched⟩ := sound.events
  rw [next] at distinct watched
  have opened := opened_of_serves sound (by rw [place]; rfl)
  exact
    { toOwns := taken.toOwns.of_files rfl rfl rfl rfl (fun _ => Iff.rfl) (fun _ => Iff.rfl)
      watched := taken.watched
      clients := by
        intro other known listed
        rcases sound.clients other known listed with old | adding | refusing
        · exact .inl old
        · rw [place] at adding
          cases adding
        · rw [place] at refusing
          cases refusing
      events := taken.events
      current := by
        intro other here
        cases here
        refine ⟨(List.nodup_cons.mp distinct).1, ?_⟩
        rcases sound.watched fd (watched fd List.mem_cons_self) with listening | named
        · exact absurd (sound.listening fd listening).1 client
        · exact named
      idle := nofun
      allowed := Bool.and_eq_true_iff.mpr opened
      handled := taken.handled }

end NetServer

end Talko.Service
