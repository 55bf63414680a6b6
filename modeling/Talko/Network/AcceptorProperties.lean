import Mathlib.Data.List.Induction
import Talko.Network.Acceptor

/-!
# What the acceptor owns

Every connection that arrives is handed on, refused, aborted or still waiting, and the acceptor
closes no file but its own, whatever the other threads do between its system calls. As long as
none of them opens a file there, the reserve comes back and the listening socket never stays
full of connections that nobody takes.
-/

set_option autoImplicit false

namespace Talko.Network

open Talko.Library

namespace Acceptor

variable {Client : Type}

/-!
## No descriptor is lost or closed twice
-/

/-- Every connection is somewhere, the descriptors of the acceptor are those `idle_fd_` names,
and it has closed nothing but its own. -/
structure Sound (arrived : List Client) (acceptor : Acceptor Client) : Prop where
  sequence : acceptor.taken ++ acceptor.backlog = arrived
  parts : (acceptor.handed.map Prod.fst ++ (acceptor.refused ++ acceptor.aborted)).Perm
    acceptor.taken
  own : ∀ entry ∈ acceptor.files.files, entry.2.acceptors = true →
    acceptor.idleFd = some entry.1 ∧ acceptor.place.names entry.2 = true
  idle : ∀ fd, acceptor.idleFd = some fd → acceptor.place.inUse = true →
    ∃ owner, acceptor.place.names owner = true ∧ (fd, owner) ∈ acceptor.files.files
  closed : ∀ hit ∈ acceptor.closed, ∀ owner, hit = some owner → owner.acceptors = true

theorem names_acceptors {place : AcceptPlace} {owner : FileOwner Client}
    (names : place.names owner = true) : owner.acceptors = true := by
  cases owner with
  | reserve => rfl
  | refusal client => rfl
  | conn client => cases place <;> cases names
  | other => cases place <;> cases names

theorem names_closesIdle (owner : FileOwner Client) :
    AcceptPlace.closesIdle.names owner = AcceptPlace.waiting.names owner := by
  cases owner <;> rfl

theorem unopened_sound (limit : Nat) (newConnCallback : Bool) :
    Sound [] (unopened limit newConnCallback : Acceptor Client) :=
  ⟨rfl, .refl _, nofun, nofun, nofun⟩

/-- At a place where `idle_fd_` names nothing no file is the acceptor's. -/
theorem Sound.unowned {arrived : List Client} {acceptor : Acceptor Client}
    (sound : acceptor.Sound arrived)
    (nameless : ∀ owner : FileOwner Client, acceptor.place.names owner = false) :
    ∀ entry ∈ acceptor.files.files, entry.2.acceptors ≠ true := by
  intro entry member acceptors
  have names := (sound.own entry member acceptors).2
  exact absurd ((nameless entry.2).symm.trans names) (by decide)

theorem openIdle_cases (acceptor : Acceptor Client) (opens : Bool) :
    ((opens = false ∨ acceptor.files.full) ∧
        acceptor.openIdle opens = { acceptor with idleFd := none }) ∨
      ∃ room : ¬ acceptor.files.full, acceptor.openIdle opens =
        { acceptor with
          files := acceptor.files.add .reserve room
          idleFd := some acceptor.files.next } := by
  unfold openIdle
  cases opens with
  | false => exact .inl ⟨.inl rfl, rfl⟩
  | true =>
      rw [if_pos rfl]
      obtain ⟨full, opened⟩ | ⟨room, opened⟩ := acceptor.files.openFile_cases .reserve
      · exact .inl ⟨.inr full, by rw [opened]⟩
      · exact .inr ⟨room, by rw [opened]⟩

/-- The reserve is opened where no file is the acceptor's. -/
theorem Sound.openIdle {arrived : List Client} {acceptor : Acceptor Client}
    (sound : acceptor.Sound arrived) (here : acceptor.place = .opensIdle) (opens : Bool) :
    Sound arrived { acceptor.openIdle opens with place := .waiting } := by
  have free := sound.unowned (by rw [here]; exact fun owner => by cases owner <;> rfl)
  obtain ⟨_, opened⟩ | ⟨room, opened⟩ := acceptor.openIdle_cases opens
  · rw [opened]
    exact ⟨sound.sequence, sound.parts,
      fun entry member acceptors => absurd acceptors (free entry member), nofun, sound.closed⟩
  · rw [opened]
    refine ⟨sound.sequence, sound.parts, ?_, ?_, sound.closed⟩
    · intro entry member acceptors
      rcases (FileTable.mem_add room).mp member with rfl | old
      · exact ⟨rfl, rfl⟩
      · exact absurd acceptors (free entry old)
    · intro fd idle _
      obtain rfl := Option.some.inj idle
      exact ⟨.reserve, rfl, List.mem_cons_self⟩

/-- Another file comes or goes. -/
theorem Sound.files {arrived : List Client} {acceptor : Acceptor Client}
    (sound : acceptor.Sound arrived) {files : FileTable (FileOwner Client)}
    (same : ∀ fd owner, owner.acceptors = true →
      ((fd, owner) ∈ files.files ↔ (fd, owner) ∈ acceptor.files.files)) :
    Sound arrived { acceptor with files := files } where
  sequence := sound.sequence
  parts := sound.parts
  own := fun entry member acceptors =>
    sound.own entry ((same entry.1 entry.2 acceptors).mp member) acceptors
  idle := by
    intro fd idle inUse
    obtain ⟨owner, names, member⟩ := sound.idle fd idle inUse
    exact ⟨owner, names, (same fd owner (names_acceptors names)).mpr member⟩
  closed := sound.closed

theorem Sound.openOther {arrived : List Client} {acceptor : Acceptor Client}
    (sound : acceptor.Sound arrived) : acceptor.openOther.Sound arrived := by
  unfold Acceptor.openOther
  obtain ⟨_, opened⟩ | ⟨room, opened⟩ := acceptor.files.openFile_cases .other
  · rw [opened]
    exact sound
  · rw [opened]
    refine sound.files fun fd owner acceptors => FileTable.mem_add_of_ne room ?_ fd
    rintro rfl
    cases acceptors

theorem Sound.closeOther {arrived : List Client} {acceptor : Acceptor Client}
    (sound : acceptor.Sound arrived) (fd : Nat) : (acceptor.closeOther fd).Sound arrived := by
  unfold Acceptor.closeOther
  cases found : acceptor.files.owner? fd with
  | none => exact sound
  | some owner =>
      dsimp only
      split
      · exact sound
      · next foreign =>
          have named := FileTable.mem_of_owner? found
          refine sound.files fun other owner' acceptors =>
            FileTable.mem_close_of_ne named owner' ?_ other
          rintro rfl
          exact foreign acceptors

/-- Behind the close of `idle_fd_` no file is the acceptor's. -/
theorem Sound.closeIdle {arrived : List Client} {acceptor : Acceptor Client}
    (sound : acceptor.Sound arrived) (inUse : acceptor.place.inUse = true) {place : AcceptPlace}
    (free : place.inUse = false) :
    Sound arrived { acceptor.closeFd acceptor.idleFd with place := place } := by
  cases idle : acceptor.idleFd with
  | none =>
      refine ⟨sound.sequence, sound.parts, ?_, ?_, ?_⟩
      · intro entry member acceptors
        exact absurd ((sound.own entry member acceptors).1.symm.trans idle) nofun
      · intro fd _ used
        exact absurd (free.symm.trans used) (by decide)
      · intro hit member owner same
        rcases List.mem_append.mp member with earlier | latest
        · exact sound.closed hit earlier owner same
        · cases List.mem_singleton.mp latest
          cases same
  | some fd =>
      obtain ⟨owner, names, member⟩ := sound.idle fd idle inUse
      refine ⟨sound.sequence, sound.parts, ?_, ?_, ?_⟩
      · intro entry left acceptors
        obtain ⟨before, other⟩ := FileTable.mem_close.mp left
        have same := (sound.own entry before acceptors).1
        rw [idle, Option.some.injEq] at same
        exact absurd same.symm other
      · intro fd' _ used
        exact absurd (free.symm.trans used) (by decide)
      · intro hit hits owner' same
        rcases List.mem_append.mp hits with earlier | latest
        · exact sound.closed hit earlier owner' same
        · rw [List.mem_singleton, FileTable.owner?_eq_some member] at latest
          rw [latest, Option.some.injEq] at same
          exact same ▸ names_acceptors names

/-- What `accept` gives. -/
theorem sockAccept_cases (acceptor : Acceptor Client) (owner : Client → FileOwner Client) :
    ((acceptor.backlog = [] ∨ acceptor.files.full) ∧ acceptor.sockAccept owner = none) ∨
      ∃ client rest, ∃ room : ¬ acceptor.files.full, acceptor.backlog = client :: rest ∧
        acceptor.sockAccept owner = some (client, acceptor.files.next,
          { acceptor with
            files := acceptor.files.add (owner client) room
            backlog := rest
            taken := acceptor.taken ++ [client] }) := by
  unfold sockAccept
  cases backlog : acceptor.backlog with
  | nil => exact .inl ⟨.inl rfl, rfl⟩
  | cons client rest =>
      obtain ⟨full, opened⟩ | ⟨room, opened⟩ := acceptor.files.openFile_cases (owner client)
      · exact .inl ⟨.inr full, by simp [opened]⟩
      · exact .inr ⟨client, rest, room, rfl, by simp [opened]⟩

theorem perm_middle_singleton {first second : List Client} {all : List Client}
    (perm : (first ++ second).Perm all) (client : Client) :
    (first ++ [client] ++ second).Perm (all ++ [client]) := by
  have moved : (first ++ [client] ++ second).Perm (first ++ second ++ [client]) := by
    rw [List.append_assoc, List.append_assoc]
    exact List.Perm.append_left first List.perm_append_comm
  exact moved.trans (perm.append_right [client])

theorem abortAccept_files (acceptor : Acceptor Client) :
    acceptor.abortAccept.files = acceptor.files := by
  unfold abortAccept
  split <;> rfl

theorem Sound.abortAccept {arrived : List Client} {acceptor : Acceptor Client}
    (sound : acceptor.Sound arrived) : acceptor.abortAccept.Sound arrived := by
  have sequence := sound.sequence
  unfold Acceptor.abortAccept
  cases backlog : acceptor.backlog with
  | nil => exact sound
  | cons client rest =>
      rw [backlog] at sequence
      refine ⟨by simpa using sequence, ?_, sound.own, sound.idle, sound.closed⟩
      simpa [List.append_assoc] using sound.parts.append_right [client]

theorem Sound.refused_parts {arrived : List Client} {acceptor : Acceptor Client}
    (sound : acceptor.Sound arrived) (client : Client) :
    (acceptor.handed.map Prod.fst ++
      (acceptor.refused ++ [client] ++ acceptor.aborted)).Perm (acceptor.taken ++ [client]) := by
  have parts : (acceptor.handed.map Prod.fst ++ acceptor.refused ++ acceptor.aborted).Perm
      acceptor.taken := by
    rw [List.append_assoc]
    exact sound.parts
  simpa [List.append_assoc] using perm_middle_singleton parts client

/-- A descriptor that is opened and closed again. -/
theorem mem_close_add {files : FileTable (FileOwner Client)} {opener : FileOwner Client}
    (room : ¬ files.full) {fd : Nat} {owner : FileOwner Client} :
    (fd, owner) ∈ ((files.add opener room).close files.next).files ↔ (fd, owner) ∈ files.files := by
  rw [FileTable.mem_close, FileTable.mem_add room]
  constructor
  · rintro ⟨new | old, other⟩
    · cases new
      exact absurd rfl other
    · exact old
  · intro old
    refine ⟨.inr old, fun taken => files.next_not_mem ?_⟩
    have number : fd = files.next := taken
    exact number ▸ List.mem_map.mpr ⟨(fd, owner), old, rfl⟩

theorem Sound.handOver {arrived : List Client} {acceptor : Acceptor Client}
    (sound : acceptor.Sound arrived) {client : Client} {rest : List Client}
    (backlog : acceptor.backlog = client :: rest) (room : ¬ acceptor.files.full) :
    Sound arrived (Acceptor.handOver
      { acceptor with
        files := acceptor.files.add
          ((if acceptor.newConnCallback = true then FileOwner.conn else .refusal) client) room
        backlog := rest
        taken := acceptor.taken ++ [client] } client acceptor.files.next) := by
  have sequence := sound.sequence
  rw [backlog] at sequence
  unfold Acceptor.handOver
  cases callback : acceptor.newConnCallback with
  | true =>
      rw [if_pos rfl]
      have fresh : Sound arrived
          { acceptor with files := acceptor.files.add (.conn client) room } := by
        refine sound.files fun fd owner acceptors => FileTable.mem_add_of_ne room ?_ fd
        rintro rfl
        cases acceptors
      refine ⟨by simpa using sequence, ?_, fresh.own, fresh.idle, fresh.closed⟩
      simpa [List.append_assoc] using perm_middle_singleton sound.parts client
  | false =>
      rw [if_neg (by decide)]
      have opened : (acceptor.files.next, FileOwner.refusal client) ∈
          (acceptor.files.add (.refusal client) room).files :=
        (FileTable.mem_add room).mpr (.inl rfl)
      have fresh : Sound arrived { acceptor with
          files := (acceptor.files.add (.refusal client) room).close acceptor.files.next } :=
        sound.files fun fd owner _ => mem_close_add room
      refine ⟨by simpa [closeFd] using sequence, sound.refused_parts client, fresh.own,
        fresh.idle, ?_⟩
      intro hit hits owner same
      rcases List.mem_append.mp hits with earlier | latest
      · exact sound.closed hit earlier owner same
      · rw [List.mem_singleton.mp latest] at same
        cases same.symm.trans (FileTable.owner?_eq_some opened)
        rfl

theorem Sound.handleRead {arrived : List Client} {acceptor : Acceptor Client}
    (sound : acceptor.Sound arrived) (here : acceptor.place = .waiting) (answer : AcceptAnswer) :
    (acceptor.handleRead answer).Sound arrived := by
  cases answer with
  | interrupted => exact sound
  | connAborted => exact sound.abortAccept
  | tries keepsErrno =>
      unfold Acceptor.handleRead
      dsimp only
      obtain ⟨_, failed⟩ | ⟨client, rest, room, backlog, accepted⟩ := acceptor.sockAccept_cases
        (if acceptor.newConnCallback = true then .conn else .refusal)
      · rw [failed]
        dsimp only
        split
        · refine ⟨sound.sequence, sound.parts, ?_, ?_, sound.closed⟩
          · intro entry member acceptors
            obtain ⟨idle, names⟩ := sound.own entry member acceptors
            rw [here] at names
            exact ⟨idle, (names_closesIdle entry.2).trans names⟩
          · intro fd idle _
            obtain ⟨owner, names, member⟩ := sound.idle fd idle (by rw [here]; rfl)
            rw [here] at names
            exact ⟨owner, (names_closesIdle owner).trans names, member⟩
        · exact sound
      · rw [accepted]
        exact sound.handOver backlog room

/-- The connection accepted in place of the reserve. -/
theorem Sound.acceptIdle {arrived : List Client} {acceptor : Acceptor Client}
    (sound : acceptor.Sound arrived) (here : acceptor.place = .accepts) (answer : AcceptAnswer) :
    Sound arrived { acceptor.acceptIdle answer with place := .closesAccepted } := by
  have free := sound.unowned (by rw [here]; exact fun owner => by cases owner <;> rfl)
  have sequence := sound.sequence
  unfold Acceptor.acceptIdle
  cases answer with
  | interrupted =>
      exact ⟨sequence, sound.parts,
        fun entry member acceptors => absurd acceptors (free entry member), nofun, sound.closed⟩
  | connAborted =>
      have aborted := sound.abortAccept
      refine ⟨aborted.sequence, aborted.parts, ?_, nofun, aborted.closed⟩
      rw [abortAccept_files]
      exact fun entry member acceptors => absurd acceptors (free entry member)
  | tries keepsErrno =>
      dsimp only
      obtain ⟨_, failed⟩ | ⟨client, rest, room, backlog, accepted⟩ :=
        acceptor.sockAccept_cases .refusal
      · rw [failed]
        exact ⟨sequence, sound.parts,
          fun entry member acceptors => absurd acceptors (free entry member), nofun, sound.closed⟩
      · rw [accepted]
        rw [backlog] at sequence
        refine ⟨by simpa using sequence, sound.refused_parts client, ?_, ?_, sound.closed⟩
        · intro entry member acceptors
          rcases (FileTable.mem_add room).mp member with rfl | old
          · exact ⟨rfl, rfl⟩
          · exact absurd acceptors (free entry old)
        · intro fd idle _
          obtain rfl := Option.some.inj idle
          exact ⟨.refusal client, rfl, List.mem_cons_self⟩

theorem Sound.proceed {arrived : List Client} {acceptor : Acceptor Client}
    (sound : acceptor.Sound arrived) (answer : AcceptAnswer) (opens : Bool) :
    (acceptor.proceed answer opens).Sound arrived := by
  unfold Acceptor.proceed
  cases place : acceptor.place with
  | waiting => exact sound
  | closesIdle => exact sound.closeIdle (by rw [place]; rfl) rfl
  | accepts => exact sound.acceptIdle place answer
  | closesAccepted => exact sound.closeIdle (by rw [place]; rfl) rfl
  | opensIdle => exact sound.openIdle place opens

theorem new_sound (limit : Nat) (newConnCallback opens : Bool) :
    Sound [] (new limit newConnCallback opens : Acceptor Client) :=
  (unopened_sound limit newConnCallback).openIdle rfl opens

theorem Sound.step {arrived : List Client} {acceptor : Acceptor Client}
    (sound : acceptor.Sound arrived) (action : AcceptStep Client) :
    (acceptor.step action).Sound (arrived ++ arrivals [action]) := by
  cases action with
  | arrive client =>
      have sequence := sound.sequence
      refine ⟨?_, sound.parts, sound.own, sound.idle, sound.closed⟩
      change acceptor.taken ++ (acceptor.backlog ++ [client]) = arrived ++ [client]
      rw [← List.append_assoc, sequence]
  | openOther =>
      rw [arrivals, List.filterMap_cons_none rfl, List.filterMap_nil, List.append_nil]
      exact sound.openOther
  | closeOther fd =>
      rw [arrivals, List.filterMap_cons_none rfl, List.filterMap_nil, List.append_nil]
      exact sound.closeOther fd
  | handleRead answer =>
      rw [arrivals, List.filterMap_cons_none rfl, List.filterMap_nil, List.append_nil]
      change Sound arrived
        (if acceptor.place = .waiting then acceptor.handleRead answer else acceptor)
      split
      · next here => exact sound.handleRead here answer
      · exact sound
  | proceed answer opens =>
      rw [arrivals, List.filterMap_cons_none rfl, List.filterMap_nil, List.append_nil]
      exact sound.proceed answer opens

theorem run_sound (limit : Nat) (newConnCallback opens : Bool)
    (actions : List (AcceptStep Client)) :
    (run step (new limit newConnCallback opens) actions).Sound (arrivals actions) := by
  induction actions using List.reverseRecOn with
  | nil => exact new_sound limit newConnCallback opens
  | append_singleton first action ih =>
      rw [run_append, arrivals, List.filterMap_append]
      exact ih.step action

/-- However the system calls of the acceptor go, and however the other threads open and close
files between them, every connection that arrived is still in the listening socket or was, in
the order of arrival, handed on, refused or aborted, once; the acceptor closes no file but its
reserve and the connections it refuses; and outside `_handle_read` its only open file is the one
in `idle_fd_`. -/
theorem run_conserves (limit : Nat) (newConnCallback opens : Bool)
    (actions : List (AcceptStep Client)) :
    let acceptor := run step (new limit newConnCallback opens) actions
    acceptor.taken ++ acceptor.backlog = arrivals actions ∧
      (acceptor.handed.map Prod.fst ++ (acceptor.refused ++ acceptor.aborted)).Perm
        acceptor.taken ∧
      (∀ hit ∈ acceptor.closed, ∀ owner, hit = some owner → owner.acceptors = true) ∧
      (acceptor.place = .waiting → ∀ fd owner, owner.acceptors = true →
        ((fd, owner) ∈ acceptor.files.files ↔ owner = .reserve ∧ acceptor.idleFd = some fd)) := by
  intro acceptor
  have sound : acceptor.Sound (arrivals actions) := run_sound limit newConnCallback opens actions
  refine ⟨sound.sequence, sound.parts, sound.closed, ?_⟩
  intro waiting fd owner acceptors
  have only : ∀ owner : FileOwner Client, acceptor.place.names owner = true → owner = .reserve := by
    intro owner names
    rw [waiting] at names
    cases owner with
    | reserve => rfl
    | _ => cases names
  constructor
  · intro member
    obtain ⟨idle, names⟩ := sound.own (fd, owner) member acceptors
    exact ⟨only owner names, idle⟩
  · rintro ⟨rfl, idle⟩
    obtain ⟨owner, names, member⟩ := sound.idle fd idle (by rw [waiting]; rfl)
    rwa [only owner names] at member

/-!
## Running out of descriptors
-/

/-- No other thread opens a file while the acceptor stands between its system calls, `errno`
outlives the log line, and `open` of the reserve fails for want of a descriptor only. -/
def Undisturbed (acceptor : Acceptor Client) : AcceptStep Client → Prop
  | .openOther => acceptor.place = .waiting
  | .handleRead (.tries keepsErrno) => keepsErrno = true
  | .proceed _ opens => acceptor.place = .opensIdle → opens = true
  | _ => True

instance (acceptor : Acceptor Client) (action : AcceptStep Client) :
    Decidable (acceptor.Undisturbed action) :=
  match action with
  | .openOther => inferInstanceAs (Decidable (acceptor.place = .waiting))
  | .handleRead (.tries keepsErrno) => inferInstanceAs (Decidable (keepsErrno = true))
  | .proceed _ opens => inferInstanceAs (Decidable (acceptor.place = .opensIdle → opens = true))
  | .arrive _ | .closeOther _ | .handleRead .connAborted | .handleRead .interrupted =>
      inferInstanceAs (Decidable True)

/-- `idle_fd_` names the open reserve. -/
def reserveHeld (acceptor : Acceptor Client) : Prop :=
  ∃ fd, acceptor.idleFd = some fd ∧ (fd, .reserve) ∈ acceptor.files.files

/-- The reserve is held, or a descriptor is left for it. -/
def Prepared (acceptor : Acceptor Client) : Prop :=
  match acceptor.place with
  | .waiting | .closesIdle => acceptor.reserveHeld
  | .accepts | .opensIdle => ¬ acceptor.files.full
  | .closesAccepted =>
      (acceptor.idleFd = none ∧ ¬ acceptor.files.full) ∨
        ∃ fd client, acceptor.idleFd = some fd ∧ (fd, .refusal client) ∈ acceptor.files.files

theorem proceed_closesIdle {acceptor : Acceptor Client} (here : acceptor.place = .closesIdle)
    (answer : AcceptAnswer) (opens : Bool) :
    acceptor.proceed answer opens =
      { acceptor.closeFd acceptor.idleFd with place := .accepts } := by
  simp [proceed, here]

theorem proceed_accepts {acceptor : Acceptor Client} (here : acceptor.place = .accepts)
    (answer : AcceptAnswer) (opens : Bool) :
    acceptor.proceed answer opens =
      { acceptor.acceptIdle answer with place := .closesAccepted } := by
  simp [proceed, here]

theorem proceed_closesAccepted {acceptor : Acceptor Client}
    (here : acceptor.place = .closesAccepted) (answer : AcceptAnswer) (opens : Bool) :
    acceptor.proceed answer opens =
      { acceptor.closeFd acceptor.idleFd with place := .opensIdle } := by
  simp [proceed, here]

/-- The `accept` in place of the reserve, when a descriptor is left. -/
theorem acceptIdle_tries_cases {acceptor : Acceptor Client} (room : ¬ acceptor.files.full)
    (keepsErrno : Bool) :
    (acceptor.backlog = [] ∧
        acceptor.acceptIdle (.tries keepsErrno) = { acceptor with idleFd := none }) ∨
      ∃ client rest, acceptor.backlog = client :: rest ∧
        acceptor.acceptIdle (.tries keepsErrno) =
          { acceptor with
            files := acceptor.files.add (.refusal client) room
            backlog := rest
            taken := acceptor.taken ++ [client]
            idleFd := some acceptor.files.next
            refused := acceptor.refused ++ [client] } := by
  unfold acceptIdle
  dsimp only
  obtain ⟨empty | full, failed⟩ | ⟨client, rest, _, backlog, accepted⟩ :=
    acceptor.sockAccept_cases .refusal
  · rw [failed]
    exact .inl ⟨empty, rfl⟩
  · exact absurd full room
  · rw [accepted]
    exact .inr ⟨client, rest, backlog, rfl⟩

theorem openIdle_of_room {acceptor : Acceptor Client} (room : ¬ acceptor.files.full) :
    acceptor.openIdle true =
      { acceptor with
        files := acceptor.files.add .reserve room
        idleFd := some acceptor.files.next } := by
  obtain ⟨failed | full, _⟩ | ⟨_, opened⟩ := acceptor.openIdle_cases true
  · cases failed
  · exact absurd full room
  · exact opened

theorem Prepared.acceptIdle {acceptor : Acceptor Client} (room : ¬ acceptor.files.full)
    (answer : AcceptAnswer) :
    Prepared { acceptor.acceptIdle answer with place := .closesAccepted } := by
  cases answer with
  | interrupted => exact .inl ⟨rfl, room⟩
  | connAborted =>
      refine .inl ⟨rfl, ?_⟩
      change ¬ acceptor.abortAccept.files.full
      rw [abortAccept_files]
      exact room
  | tries keepsErrno =>
      obtain ⟨_, moved⟩ | ⟨client, _, _, moved⟩ := acceptIdle_tries_cases room keepsErrno
      · rw [moved]
        exact .inl ⟨rfl, room⟩
      · rw [moved]
        exact .inr ⟨_, client, rfl, List.mem_cons_self⟩

theorem Prepared.openIdle {acceptor : Acceptor Client} (room : ¬ acceptor.files.full) :
    Prepared { acceptor.openIdle true with place := .waiting } := by
  rw [openIdle_of_room room]
  exact ⟨_, rfl, List.mem_cons_self⟩

theorem Prepared.proceed {acceptor : Acceptor Client} (prepared : acceptor.Prepared)
    {answer : AcceptAnswer} {opens : Bool}
    (undisturbed : acceptor.Undisturbed (.proceed answer opens)) :
    (acceptor.proceed answer opens).Prepared := by
  unfold Prepared at prepared
  cases place : acceptor.place with
  | waiting =>
      rw [place] at prepared
      have same : acceptor.proceed answer opens = acceptor := by simp [Acceptor.proceed, place]
      rw [same, Prepared, place]
      exact prepared
  | closesIdle =>
      rw [place] at prepared
      obtain ⟨fd, idle, member⟩ := prepared
      rw [proceed_closesIdle place, idle]
      exact FileTable.not_full_close_of_mem member
  | accepts =>
      rw [place] at prepared
      rw [proceed_accepts place]
      exact Prepared.acceptIdle prepared answer
  | closesAccepted =>
      rw [place] at prepared
      rw [proceed_closesAccepted place]
      rcases prepared with ⟨idle, room⟩ | ⟨fd, client, idle, member⟩
      · rw [idle]
        exact room
      · rw [idle]
        exact FileTable.not_full_close_of_mem member
  | opensIdle =>
      rw [place] at prepared
      have same : acceptor.proceed answer opens =
          { acceptor.openIdle opens with place := .waiting } := by simp [Acceptor.proceed, place]
      rw [same, undisturbed place]
      exact Prepared.openIdle prepared

theorem new_prepared {limit : Nat} (positive : 0 < limit) (newConnCallback : Bool) :
    (new limit newConnCallback true : Acceptor Client).Prepared := by
  have room : ¬ (unopened limit newConnCallback : Acceptor Client).files.full :=
    Nat.not_le_of_lt positive
  exact Prepared.openIdle room

/-- The files of the acceptor stay, and so does the room. -/
theorem Prepared.files {acceptor : Acceptor Client} (prepared : acceptor.Prepared)
    {files : FileTable (FileOwner Client)}
    (kept : ∀ fd owner, owner.acceptors = true → (fd, owner) ∈ acceptor.files.files →
      (fd, owner) ∈ files.files)
    (room : acceptor.place ≠ .waiting → ¬ acceptor.files.full → ¬ files.full) :
    Prepared { acceptor with files := files } := by
  unfold Prepared at prepared ⊢
  cases place : acceptor.place with
  | waiting | closesIdle =>
      rw [place] at prepared
      obtain ⟨fd, idle, member⟩ := prepared
      exact ⟨fd, idle, kept fd .reserve rfl member⟩
  | accepts | opensIdle =>
      rw [place] at prepared
      exact room (by rw [place]; decide) prepared
  | closesAccepted =>
      rw [place] at prepared
      rcases prepared with ⟨idle, left⟩ | ⟨fd, client, idle, member⟩
      · exact .inl ⟨idle, room (by rw [place]; decide) left⟩
      · exact .inr ⟨fd, client, idle, kept fd (.refusal client) rfl member⟩

theorem Prepared.closeOther {acceptor : Acceptor Client} (prepared : acceptor.Prepared)
    (fd : Nat) : (acceptor.closeOther fd).Prepared := by
  unfold Acceptor.closeOther
  cases found : acceptor.files.owner? fd with
  | none => exact prepared
  | some owner =>
      dsimp only
      split
      · exact prepared
      · next foreign =>
          refine prepared.files ?_ (fun _ left => FileTable.not_full_close left)
          intro other owner' acceptors member
          refine FileTable.mem_close.mpr ⟨member, fun same => foreign ?_⟩
          have named := FileTable.owner?_eq_some member
          have here : other = fd := same
          rw [here, found] at named
          cases named
          exact acceptors

theorem Prepared.openOther {acceptor : Acceptor Client} (prepared : acceptor.Prepared)
    (here : acceptor.place = .waiting) : acceptor.openOther.Prepared := by
  unfold Acceptor.openOther
  obtain ⟨_, opened⟩ | ⟨room, opened⟩ := acceptor.files.openFile_cases .other
  · rw [opened]
    exact prepared
  · rw [opened]
    refine prepared.files ?_ (fun elsewhere => absurd here elsewhere)
    intro fd owner _ member
    exact (FileTable.mem_add room).mpr (.inr member)

theorem reserveHeld_of_waiting {acceptor : Acceptor Client} (prepared : acceptor.Prepared)
    (here : acceptor.place = .waiting) : acceptor.reserveHeld := by
  rw [Prepared, here] at prepared
  exact prepared

theorem prepared_of_waiting {acceptor : Acceptor Client} (held : acceptor.reserveHeld)
    (here : acceptor.place = .waiting) : acceptor.Prepared := by
  rw [Prepared, here]
  exact held

/-- The connection that a call of `_handle_read` takes, with a descriptor left. -/
structure Takes (acceptor after : Acceptor Client) (refuses : Prop) : Prop where
  backlog : after.backlog = acceptor.backlog.tail
  taken : after.taken = acceptor.taken ++ acceptor.backlog.take 1
  place : after.place = .waiting
  refused : refuses → after.refused = acceptor.refused ++ acceptor.backlog.take 1 ∧
    after.handed = acceptor.handed
  handed : ¬ refuses → after.refused = acceptor.refused ∧
    after.handed.map Prod.fst = acceptor.handed.map Prod.fst ++ acceptor.backlog.take 1

/-- The first `accept` with `errno` kept. -/
theorem handleRead_tries_cases (acceptor : Acceptor Client) :
    (acceptor.files.full ∧
        acceptor.handleRead (.tries true) = { acceptor with place := .closesIdle }) ∨
      (¬ acceptor.files.full ∧ acceptor.backlog = [] ∧
        acceptor.handleRead (.tries true) = acceptor) ∨
      ∃ client rest, ∃ room : ¬ acceptor.files.full, acceptor.backlog = client :: rest ∧
        acceptor.handleRead (.tries true) =
          handOver { acceptor with
            files := acceptor.files.add
              (if acceptor.newConnCallback then .conn client else .refusal client) room
            backlog := rest
            taken := acceptor.taken ++ [client] } client acceptor.files.next := by
  unfold handleRead
  dsimp only
  obtain ⟨none', failed⟩ | ⟨client, rest, room, backlog, accepted⟩ := acceptor.sockAccept_cases
    (if acceptor.newConnCallback = true then .conn else .refusal)
  · rw [failed]
    dsimp only
    by_cases full : acceptor.files.full
    · rw [if_pos ⟨full, rfl⟩]
      exact .inl ⟨full, rfl⟩
    · rw [if_neg (fun both => full both.1)]
      exact .inr (.inl ⟨full, none'.resolve_right full, rfl⟩)
  · rw [accepted]
    refine .inr (.inr ⟨client, rest, room, backlog, ?_⟩)
    cases callback : acceptor.newConnCallback <;> rfl

/-- What the first `accept` gives is handed on, or closed when nobody wants it. -/
theorem Prepared.handOver {acceptor : Acceptor Client} (prepared : acceptor.Prepared)
    (here : acceptor.place = .waiting) (room : ¬ acceptor.files.full)
    (owner : FileOwner Client) (client : Client) (rest : List Client) :
    Prepared (handOver { acceptor with
      files := acceptor.files.add owner room
      backlog := rest
      taken := acceptor.taken ++ [client] } client acceptor.files.next) := by
  obtain ⟨fd, idle, member⟩ := reserveHeld_of_waiting prepared here
  have stays : (fd, .reserve) ∈ (acceptor.files.add owner room).files :=
    (FileTable.mem_add room).mpr (.inr member)
  unfold Acceptor.handOver
  dsimp only
  split
  · exact prepared_of_waiting ⟨fd, idle, stays⟩ here
  · refine prepared_of_waiting ⟨fd, idle, FileTable.mem_close.mpr ⟨stays, fun same => ?_⟩⟩ here
    have taken : fd = acceptor.files.next := same
    exact acceptor.files.next_not_mem (taken ▸ List.mem_map.mpr ⟨(fd, .reserve), member, rfl⟩)

theorem Prepared.handleRead {acceptor : Acceptor Client} (prepared : acceptor.Prepared)
    (here : acceptor.place = .waiting) {answer : AcceptAnswer}
    (undisturbed : acceptor.Undisturbed (.handleRead answer)) :
    (acceptor.handleRead answer).Prepared := by
  have held := reserveHeld_of_waiting prepared here
  cases answer with
  | interrupted => exact prepared
  | connAborted =>
      unfold Acceptor.handleRead abortAccept
      cases backlog : acceptor.backlog with
      | nil => exact prepared
      | cons client rest => exact prepared_of_waiting held here
  | tries keepsErrno =>
      obtain rfl : keepsErrno = true := undisturbed
      obtain ⟨_, moved⟩ | ⟨_, _, moved⟩ | ⟨client, rest, room, _, moved⟩ :=
        acceptor.handleRead_tries_cases
      · rw [moved]
        exact held
      · rw [moved]
        exact prepared
      · rw [moved]
        exact prepared.handOver here room _ client rest

theorem Prepared.step {acceptor : Acceptor Client} (prepared : acceptor.Prepared)
    {action : AcceptStep Client} (undisturbed : acceptor.Undisturbed action) :
    (acceptor.step action).Prepared := by
  cases action with
  | arrive client => exact prepared
  | openOther => exact prepared.openOther undisturbed
  | closeOther fd => exact prepared.closeOther fd
  | handleRead answer =>
      change Prepared (if acceptor.place = .waiting then acceptor.handleRead answer else acceptor)
      split
      · next here => exact prepared.handleRead here undisturbed
      · exact prepared
  | proceed answer opens => exact prepared.proceed undisturbed

/-- The next system call behind `EMFILE` meets no error of its own. -/
def succeed (acceptor : Acceptor Client) : Acceptor Client :=
  acceptor.proceed (.tries true) true

/-- One call of `_handle_read` that no other step interrupts. -/
def event : List (AcceptStep Client) :=
  .handleRead (.tries true) :: List.replicate 4 (.proceed (.tries true) true)

theorem succeed_of_waiting {acceptor : Acceptor Client} (here : acceptor.place = .waiting) :
    acceptor.succeed.succeed.succeed.succeed = acceptor := by
  simp [succeed, proceed, here]

/-- The second of the four system calls behind `EMFILE`. -/
theorem succeed_accepts_takes {acceptor : Acceptor Client} (here : acceptor.place = .accepts)
    (room : ¬ acceptor.files.full) :
    let next := acceptor.succeed
    next.place = .closesAccepted ∧ ¬ (next.closeFd next.idleFd).files.full ∧
      next.backlog = acceptor.backlog.tail ∧
      next.taken = acceptor.taken ++ acceptor.backlog.take 1 ∧
      next.refused = acceptor.refused ++ acceptor.backlog.take 1 ∧
      next.handed = acceptor.handed := by
  intro next
  have same : next = { acceptor.acceptIdle (.tries true) with place := .closesAccepted } :=
    proceed_accepts here (.tries true) true
  obtain ⟨empty, moved⟩ | ⟨client, rest, backlog, moved⟩ := acceptIdle_tries_cases room true
  · rw [same, moved, empty]
    exact ⟨rfl, room, rfl, (List.append_nil _).symm, (List.append_nil _).symm, rfl⟩
  · rw [same, moved, backlog]
    exact ⟨rfl, FileTable.not_full_close_of_mem List.mem_cons_self, rfl, rfl, rfl, rfl⟩

/-- The last two of them. -/
theorem succeed_closes_opens {acceptor : Acceptor Client}
    (here : acceptor.place = .closesAccepted)
    (room : ¬ (acceptor.closeFd acceptor.idleFd).files.full) :
    let next := acceptor.succeed.succeed
    next.place = .waiting ∧ next.backlog = acceptor.backlog ∧ next.taken = acceptor.taken ∧
      next.refused = acceptor.refused ∧ next.handed = acceptor.handed := by
  intro next
  have closes : acceptor.succeed = { acceptor.closeFd acceptor.idleFd with place := .opensIdle } :=
    proceed_closesAccepted here (.tries true) true
  have opens : next = { acceptor.succeed.openIdle true with place := .waiting } := by
    change acceptor.succeed.proceed (.tries true) true = _
    simp [proceed, closes]
  have left : ¬ acceptor.succeed.files.full := by
    rw [closes]
    exact room
  have kept : acceptor.succeed.backlog = acceptor.backlog ∧
      acceptor.succeed.taken = acceptor.taken ∧ acceptor.succeed.refused = acceptor.refused ∧
      acceptor.succeed.handed = acceptor.handed := by
    rw [closes]
    cases acceptor.idleFd with
    | none => exact ⟨rfl, rfl, rfl, rfl⟩
    | some fd => exact ⟨rfl, rfl, rfl, rfl⟩
  rw [opens, openIdle_of_room left]
  exact ⟨rfl, kept⟩

theorem refusal_takes {acceptor : Acceptor Client} (held : acceptor.reserveHeld)
    (here : acceptor.place = .closesIdle) {refuses : Prop} (does : refuses) :
    acceptor.Takes acceptor.succeed.succeed.succeed.succeed refuses := by
  obtain ⟨fd, idle, member⟩ := held
  have closed : acceptor.succeed = { acceptor.closeFd acceptor.idleFd with place := .accepts } :=
    proceed_closesIdle here (.tries true) true
  rw [idle] at closed
  have room : ¬ acceptor.succeed.files.full := by
    rw [closed]
    exact FileTable.not_full_close_of_mem member
  have same : acceptor.succeed.backlog = acceptor.backlog ∧
      acceptor.succeed.taken = acceptor.taken ∧ acceptor.succeed.refused = acceptor.refused ∧
      acceptor.succeed.handed = acceptor.handed := by
    rw [closed]
    exact ⟨rfl, rfl, rfl, rfl⟩
  obtain ⟨backlog, taken, refused, handed⟩ := same
  obtain ⟨there, left, backlog', taken', refused', handed'⟩ :=
    succeed_accepts_takes (by rw [closed]) room
  obtain ⟨waiting, backlog'', taken'', refused'', handed''⟩ := succeed_closes_opens there left
  refine ⟨?_, ?_, waiting, fun _ => ⟨?_, ?_⟩, fun does' => absurd does does'⟩
  · rw [backlog'', backlog', backlog]
  · rw [taken'', taken', taken, backlog]
  · rw [refused'', refused', refused, backlog]
  · rw [handed'', handed', handed]

theorem event_takes {acceptor : Acceptor Client} (held : acceptor.reserveHeld)
    (here : acceptor.place = .waiting) :
    acceptor.Takes (run step acceptor event)
      (acceptor.files.full ∨ acceptor.newConnCallback = false) := by
  have begun : acceptor.step (.handleRead (.tries true)) = acceptor.handleRead (.tries true) :=
    if_pos here
  change acceptor.Takes
    (acceptor.step (.handleRead (.tries true))).succeed.succeed.succeed.succeed _
  rw [begun]
  obtain ⟨full, moved⟩ | ⟨room, empty, moved⟩ | ⟨client, rest, room, backlog, moved⟩ :=
    acceptor.handleRead_tries_cases
  · rw [moved]
    have refuses : acceptor.files.full ∨ acceptor.newConnCallback = false := .inl full
    have held' : reserveHeld { acceptor with place := .closesIdle } := held
    have takes := refusal_takes held' rfl refuses
    exact ⟨takes.backlog, takes.taken, takes.place, takes.refused, takes.handed⟩
  · rw [moved, succeed_of_waiting here]
    refine ⟨?_, ?_, here, fun _ => ⟨?_, rfl⟩, fun _ => ⟨rfl, ?_⟩⟩
    · rw [empty]
      rfl
    · rw [empty]
      exact (List.append_nil _).symm
    · rw [empty]
      exact (List.append_nil _).symm
    · rw [empty]
      exact (List.append_nil _).symm
  · rw [moved]
    unfold handOver
    dsimp only
    cases callback : acceptor.newConnCallback with
    | true =>
        rw [if_pos rfl, succeed_of_waiting (by exact here)]
        refine ⟨?_, ?_, here, fun refuses => ?_, fun _ => ⟨rfl, ?_⟩⟩
        · rw [backlog]
          rfl
        · rw [backlog]
          rfl
        · rcases refuses with full | without
          · exact absurd full room
          · cases without
        · rw [backlog]
          simp
    | false =>
        rw [if_neg (by decide), succeed_of_waiting (by exact here)]
        refine ⟨?_, ?_, here, fun _ => ⟨?_, rfl⟩, fun accepts => absurd (.inr rfl) accepts⟩
        · rw [backlog]
          rfl
        · rw [backlog]
          rfl
        · rw [backlog]
          rfl

theorem event_undisturbed {acceptor : Acceptor Client} :
    Guarded step Undisturbed acceptor (event : List (AcceptStep Client)) :=
  ⟨rfl, fun _ => rfl, fun _ => rfl, fun _ => rfl, fun _ => rfl, trivial⟩

theorem run_prepared {limit : Nat} (positive : 0 < limit) {newConnCallback : Bool}
    {actions : List (AcceptStep Client)}
    (undisturbed : Guarded step Undisturbed (new limit newConnCallback true) actions) :
    (run step (new limit newConnCallback true) actions).Prepared :=
  run_invariant Prepared (fun _ _ prepared met => prepared.step met)
    (new_prepared positive newConnCallback) undisturbed

/-- Any number of events, one after the other. -/
theorem events_take {acceptor : Acceptor Client} (prepared : acceptor.Prepared)
    (here : acceptor.place = .waiting) (count : Nat) :
    let after := run step acceptor (List.replicate count event).flatten
    after.backlog = acceptor.backlog.drop count ∧
      after.taken = acceptor.taken ++ acceptor.backlog.take count ∧
      after.place = .waiting ∧ after.reserveHeld := by
  induction count with
  | zero => exact ⟨rfl, (List.append_nil _).symm, here, reserveHeld_of_waiting prepared here⟩
  | succ count ih =>
      obtain ⟨backlog, taken, waiting, held⟩ := ih
      have takes := event_takes held waiting
      have still := run_invariant Prepared (fun _ _ prepared met => prepared.step met)
        (prepared_of_waiting held waiting) event_undisturbed
      rw [List.replicate_succ', List.flatten_append, run_append, List.flatten_singleton]
      refine ⟨?_, ?_, takes.place, reserveHeld_of_waiting still takes.place⟩
      · rw [takes.backlog, backlog, List.tail_drop]
      · rw [takes.taken, taken, backlog, List.append_assoc, ← List.take_add]

/-- While no other thread opens a file between its system calls and only a full table keeps it
from opening its reserve, the acceptor holds the reserve whenever it waits. A call of
`_handle_read` whose `accept` is not interrupted then takes the oldest connection, with
descriptors left or without, handing it on or refusing it, so that as many calls as connections
wait empty the listening socket. -/
theorem run_never_stuck {limit : Nat} (positive : 0 < limit) (newConnCallback : Bool)
    {actions : List (AcceptStep Client)}
    (undisturbed : Guarded step Undisturbed (new limit newConnCallback true) actions) :
    let acceptor := run step (new limit newConnCallback true) actions
    acceptor.place = .waiting →
      acceptor.reserveHeld ∧
        acceptor.Takes (run step acceptor event)
          (acceptor.files.full ∨ acceptor.newConnCallback = false) ∧
        ∀ count,
          let after := run step acceptor (List.replicate count event).flatten
          after.backlog = acceptor.backlog.drop count ∧
            after.taken = acceptor.taken ++ acceptor.backlog.take count ∧ after.reserveHeld := by
  intro acceptor waiting
  have prepared : acceptor.Prepared := run_prepared positive undisturbed
  have held := reserveHeld_of_waiting prepared waiting
  refine ⟨held, event_takes held waiting, fun count => ?_⟩
  obtain ⟨backlog, taken, _, still⟩ := events_take prepared waiting count
  exact ⟨backlog, taken, still⟩

/-- Two descriptors, one for the reserve and one for the listening socket, and two connections
that wait. -/
theorem full_table_drains :
    (run step (new 2 true true) [.openOther, .arrive 1, .arrive 2]).place = .waiting ∧
      (run step (run step (new 2 true true) [.openOther, .arrive 1, .arrive 2])
        (List.replicate 2 event).flatten).backlog = [] :=
  ⟨by decide,
    ((run_never_stuck (by decide) true (by decide :
      Guarded step Undisturbed (new 2 true true : Acceptor Nat) [.openOther, .arrive 1, .arrive 2])
      (by decide)).2.2 2).1⟩

/-- A file that another thread opens in the place of the reserve leaves the acceptor without
one, and the connection stays in the listening socket. -/
private def disturbed : List (AcceptStep Nat) :=
  [.openOther, .arrive 1, .handleRead (.tries true), .proceed (.tries true) true, .openOther,
    .proceed (.tries true) true, .proceed (.tries true) true, .proceed (.tries true) true]

example :
    (run step (new 2 true true) disturbed).place = .waiting ∧
      (run step (new 2 true true) disturbed).idleFd = none ∧
      (run step (run step (new 2 true true) disturbed) event).backlog = [1] := by
  decide

end Acceptor

end Talko.Network
