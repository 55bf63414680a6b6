import Talko.Network.ConnectionHolders
import Talko.Network.TcpConnection

/-!
# Events for a connection that may go meanwhile

One connection as its loop sees it: the poll lists its channel, and `handle_event` goes through
the tests of `revents_` with the bare pointer of that channel, which lives as long as the
connection. No `tie_` keeps the connection during a pass; a callback of the channel does while it
runs. The loop is one of the pool or the server's own: on its own loop the server removes a
connection, and destroys it in `stop`, at once and in the middle of a pass. The other channels of
the pass, the timers and the frame functor are where further steps come from.

A call of `shutdown` or `force_close` tests and stores `state_` in one step, and `epoll_ctl`
does not fail for a channel that gives up its interest.
-/

set_option autoImplicit false

namespace Talko.Network

open Talko.Library

/-- The tests of `revents_` in `handle_event`, each in front of its callback. -/
inductive EventTest where
  | hangUp
  | error
  | readable
  | writable
  deriving DecidableEq, Repr

def EventTest.all : List EventTest :=
  [.hangUp, .error, .readable, .writable]

/-- A connection behind `new_conn`. `tests` are what `handle_event` has still to test in the pass
under way, `calling` tells that a callback of the channel runs, `registered` that the channel has
an interest in the epoll set; `stale` tells that `revents_` has been tested in the freed
channel. -/
structure HandledConn extends ConnHolders where
  onBase : Bool
  state : StateE
  registered : Bool
  tests : List EventTest
  calling : Bool
  stale : Bool

/-- `reported` is what the poll finds out about the channel, `enabled` the answer of
`enable_reading`. `callback` tells whether the event tested for has happened. -/
inductive HandledStep where
  | advance (reported enabled : Bool)
  | test (callback : Bool)
  | handleClose
  | leave
  | lock
  | release
  | setDisconnecting
  | call (functor : ConnFunctor)
  | runRemoval
  | stop
  | quit
  deriving DecidableEq, Repr

namespace HandledConn

/-- Some shared pointer is left. -/
def alive (s : HandledConn) : Bool :=
  s.toConnHolders.alive || s.calling

def queueInLoop (s : HandledConn) (functor : ConnFunctor) : HandledConn :=
  { s with toConnHolders := s.toConnHolders.queueInLoop functor }

/-- The server takes the connection out of `conn_map_` and queues `conn_destroyed`. -/
def unmap (s : HandledConn) : HandledConn :=
  { s with toConnHolders := s.toConnHolders.unmap }

/-- `remove_conn` on its way through the loop of the server. -/
def removeConn (s : HandledConn) : HandledConn :=
  if s.onBase then s.unmap else { s with removals := s.removals + 1 }

def handleClose (s : HandledConn) : HandledConn :=
  if s.state = .kDisconnected then s
  else ({ s with state := .kDisconnected, registered := false }).removeConn

def connEstablished (s : HandledConn) (enabled : Bool) : HandledConn :=
  if s.state ≠ .kConnecting then s
  else if enabled then { s with state := .kConnected, registered := true }
  else ({ s with state := .kConnected }).handleClose

/-- A channel that still has an interest stays registered. -/
def connDestroyed (s : HandledConn) : HandledConn :=
  if s.state = .kConnected then { s with state := .kDisconnected, registered := false } else s

def execute (s : HandledConn) (enabled : Bool) : ConnFunctor → HandledConn
  | .connEstablished => s.connEstablished enabled
  | .connDestroyed => s.connDestroyed
  | .forceCloseInLoop =>
      if s.state = .kConnected ∨ s.state = .kDisconnecting then s.handleClose else s
  | .writeComplete | .highWaterMark | .sendInLoop | .shutdownInLoop => s

/-- Behind `new_conn`, wherever the loop stands. -/
def accepted (onBase enabled : Bool) (place : LoopPlace) : HandledConn :=
  let mapped : HandledConn := {
    toConnHolders := .accepted place []
    onBase := onBase
    state := .kConnecting
    registered := false
    tests := []
    calling := false
    stale := false }
  if onBase then mapped.connEstablished enabled else mapped.queueInLoop .connEstablished

/-- The loop thread moves. The kernel reports no channel whose descriptor is closed, and a pass
goes on to the functors when every channel of its list is through. -/
def advance (s : HandledConn) (reported enabled : Bool) : HandledConn :=
  let moved := { s with toConnHolders := s.toConnHolders.advance }
  match s.loop.place with
  | .polling =>
      { moved with tests := if reported && s.registered && s.alive then EventTest.all else [] }
  | .handling => if s.tests = [] ∧ s.calling = false then moved else s
  | .executing =>
      match s.loop.functors with
      | [] => moved
      | functor :: _ => moved.execute enabled functor
  | _ => moved

/-- The next test of `revents_`, and the call of its callback. -/
def test (s : HandledConn) (callback : Bool) : HandledConn :=
  match s.tests with
  | [] => s
  | _ :: rest =>
      if s.calling then s
      else
        { s with
          tests := rest
          calling := callback && s.alive
          stale := s.stale || !s.alive }

/-- Someone who has a shared pointer, in the loop or elsewhere. -/
def held (s : HandledConn) : Bool :=
  0 < s.callers || s.calling

/-- `stop` of the server; on its own loop `run_in_loop` executes `conn_destroyed` at once. -/
def stop (s : HandledConn) : HandledConn :=
  if s.onBase then
    if s.mapped then ({ s with mapped := false }).connDestroyed else s
  else s.unmap

def step (s : HandledConn) : HandledStep → HandledConn
  | .advance reported enabled => s.advance reported enabled
  | .test callback => s.test callback
  | .handleClose => if s.calling then s.handleClose else s
  | .leave => { s with calling := false }
  | .lock => if s.alive then { s with callers := s.callers + 1 } else s
  | .release => { s with toConnHolders := s.toConnHolders.release }
  | .setDisconnecting =>
      if s.held ∧ (s.state = .kConnected ∨ s.state = .kDisconnecting) then
        { s with state := .kDisconnecting }
      else s
  | .call functor =>
      if s.held ∧ functor ≠ .connEstablished ∧ functor ≠ .connDestroyed then
        s.queueInLoop functor
      else s
  | .runRemoval => { s with toConnHolders := s.toConnHolders.runRemoval }
  | .stop => s.stop
  | .quit => { s with toConnHolders := s.toConnHolders.quit }

/-- A connection that is half closed and still has an interest. -/
def halfClosed (s : HandledConn) : Bool :=
  s.state = .kDisconnecting && s.registered

/-- `conn_destroyed` finds no connection half closed. -/
def DestroysClosed (s : HandledConn) : HandledStep → Prop
  | .advance _ _ =>
      s.loop.place = .executing → s.loop.functors.head? = some .connDestroyed →
        s.halfClosed = false
  | .stop => s.onBase = true → s.mapped = true → s.halfClosed = false
  | _ => True

/-- The server stops on the loop of the connection only when the pass is through with it, or
while a functor keeps it. -/
def SparesPass (s : HandledConn) : HandledStep → Prop
  | .stop => s.onBase = true → s.mapped = true → s.tests = [] ∨ s.pendingHolds = true
  | _ => True

def Covered (s : HandledConn) (action : HandledStep) : Prop :=
  s.DestroysClosed action ∧ s.SparesPass action

instance (s : HandledConn) (action : HandledStep) : Decidable (s.DestroysClosed action) :=
  match action with
  | .advance _ _ =>
      inferInstanceAs (Decidable (s.loop.place = .executing →
        s.loop.functors.head? = some .connDestroyed → s.halfClosed = false))
  | .stop => inferInstanceAs (Decidable (s.onBase = true → s.mapped = true → s.halfClosed = false))
  | .test _ | .handleClose | .leave | .lock | .release | .setDisconnecting | .call _ | .runRemoval
  | .quit => inferInstanceAs (Decidable True)

instance (s : HandledConn) (action : HandledStep) : Decidable (s.SparesPass action) :=
  match action with
  | .stop =>
      inferInstanceAs (Decidable (s.onBase = true → s.mapped = true →
        s.tests = [] ∨ s.pendingHolds = true))
  | .advance _ _ | .test _ | .handleClose | .leave | .lock | .release | .setDisconnecting | .call _
  | .runRemoval | .quit => inferInstanceAs (Decidable True)

instance (s : HandledConn) (action : HandledStep) : Decidable (s.Covered action) :=
  inferInstanceAs (Decidable (s.DestroysClosed action ∧ s.SparesPass action))

/-!
## What keeps a connection through a pass
-/

/-- The functors for the connection that are still to be called. -/
def queue (s : HandledConn) : List ConnFunctor :=
  s.loop.functors ++ s.loop.pendingFunctors

/-- While the pass has tests left, the map or a waiting functor keeps the connection, and
neither goes before the pass ends. A registered channel belongs to a connection that the server
has not finished with. -/
structure Kept (s : HandledConn) : Prop where
  pass : s.tests ≠ [] →
    s.loop.place = .handling ∧ (s.mapped = true ∨ s.pendingHolds = true)
  between : s.Between
  registered : s.registered = true → s.mapped = true ∨ .connDestroyed ∈ s.queue
  opened : s.registered = true → s.state = .kConnected ∨ s.state = .kDisconnecting
  connecting : s.state = .kConnecting → ∃ rest, s.queue = .connEstablished :: rest ∧
    (s.mapped = true ∨ .connDestroyed ∈ rest)
  base : s.onBase = true → s.removals = 0 ∧ s.state ≠ .kConnecting
  fresh : s.stale = false

section

variable {s : HandledConn}

theorem queueInLoop_queue (s : HandledConn) (functor : ConnFunctor) :
    (s.queueInLoop functor).queue = s.queue ++ [functor] :=
  (List.append_assoc ..).symm

theorem queueInLoop_pendingHolds (s : HandledConn) (functor : ConnFunctor) :
    (s.queueInLoop functor).pendingHolds = (s.pendingHolds || functor.holds) :=
  s.toConnHolders.pendingHolds_queueInLoop functor

theorem Kept.queueInLoop (kept : s.Kept) (functor : ConnFunctor) :
    (s.queueInLoop functor).Kept where
  pass := by
    intro tests
    rw [queueInLoop_pendingHolds]
    refine (kept.pass tests).imp_right (.imp_right fun holds => ?_)
    rw [holds, Bool.true_or]
  between := kept.between
  registered := by
    intro registered
    rw [queueInLoop_queue]
    exact (kept.registered registered).imp_right (List.mem_append_left _)
  opened := kept.opened
  connecting := by
    intro connecting
    obtain ⟨rest, front, keeps⟩ := kept.connecting connecting
    refine ⟨rest ++ [functor], ?_, keeps.imp_right (List.mem_append_left _)⟩
    rw [queueInLoop_queue, front, List.cons_append]
  base := kept.base
  fresh := kept.fresh

theorem Kept.unmap (kept : s.Kept) : s.unmap.Kept := by
  unfold HandledConn.unmap ConnHolders.unmap
  split
  · have destroys : ConnFunctor.connDestroyed ∈ s.queue ++ [.connDestroyed] :=
      List.mem_append_right _ (List.mem_singleton.mpr rfl)
    exact {
      pass := by
        intro tests
        rw [ConnHolders.pendingHolds_queueInLoop]
        exact ⟨(kept.pass tests).1, .inr (Bool.or_true _)⟩
      between := kept.between
      registered := fun _ => .inr (queueInLoop_queue s .connDestroyed ▸ destroys)
      opened := kept.opened
      connecting := by
        intro connecting
        obtain ⟨rest, front, _⟩ := kept.connecting connecting
        refine ⟨rest ++ [.connDestroyed], ?_, .inr (by simp)⟩
        refine (queueInLoop_queue s .connDestroyed).trans ?_
        rw [front, List.cons_append]
      base := kept.base
      fresh := kept.fresh }
  · exact kept

/-- A connection goes down and gives up its interest. -/
theorem Kept.down (kept : s.Kept) :
    Kept { s with state := .kDisconnected, registered := false } where
  pass := kept.pass
  between := kept.between
  registered := nofun
  opened := nofun
  connecting := nofun
  base := fun base => ⟨(kept.base base).1, nofun⟩
  fresh := kept.fresh

theorem Kept.removeConn (kept : s.Kept) : s.removeConn.Kept := by
  unfold HandledConn.removeConn
  split
  · exact kept.unmap
  · next pool =>
      exact ⟨kept.pass, kept.between, kept.registered, kept.opened, kept.connecting,
        fun base => absurd base pool, kept.fresh⟩

theorem Kept.handleClose (kept : s.Kept) : s.handleClose.Kept := by
  unfold HandledConn.handleClose
  split
  · exact kept
  · exact kept.down.removeConn

/-!
## The loop thread
-/

/-- The loop thread has taken the first functor of its vector. -/
def popped (s : HandledConn) (functor : ConnFunctor) (rest : List ConnFunctor) : HandledConn :=
  { s with toConnHolders := s.toConnHolders.popped functor rest }

theorem Kept.popped {functor : ConnFunctor} {rest : List ConnFunctor} (kept : s.Kept)
    (front : s.loop.functors = functor :: rest) (here : s.loop.place = .executing)
    (later : s.state ≠ .kConnecting) (unfinished : s.registered = true → functor ≠ .connDestroyed) :
    (s.popped functor rest).Kept where
  pass := kept.pass
  between := fun elsewhere => absurd here elsewhere
  registered := by
    intro registered
    refine (kept.registered registered).imp_right fun member => ?_
    rw [queue, front, List.cons_append] at member
    exact (List.mem_cons.mp member).resolve_left (unfinished registered).symm
  opened := kept.opened
  connecting := fun connecting => absurd connecting later
  base := kept.base
  fresh := kept.fresh

/-- The first functor of a connection is `conn_established`, and the map or `conn_destroyed`
keeps it behind that. -/
theorem Kept.established {functor : ConnFunctor} {rest : List ConnFunctor} (kept : s.Kept)
    (front : s.loop.functors = functor :: rest) (here : s.loop.place = .executing)
    (connecting : s.state = .kConnecting) (enabled : Bool) :
    ((s.popped functor rest).execute enabled functor).Kept := by
  obtain ⟨waiting, first, keeps⟩ := kept.connecting connecting
  rw [queue, front, List.cons_append] at first
  obtain ⟨rfl, behind⟩ := List.cons.inj first
  have connected : ∀ registered : Bool,
      Kept { s.popped .connEstablished rest with
        state := .kConnected, registered := registered } := fun registered => {
    pass := kept.pass
    between := fun elsewhere => absurd here elsewhere
    registered := by
      intro _
      rw [← behind] at keeps
      exact keeps
    opened := fun _ => .inl rfl
    connecting := nofun
    base := fun base => ⟨(kept.base base).1, nofun⟩
    fresh := kept.fresh }
  have early : (s.popped .connEstablished rest).state = .kConnecting := connecting
  change ((s.popped .connEstablished rest).connEstablished enabled).Kept
  unfold connEstablished
  rw [if_neg (not_not.mpr early)]
  split
  · exact connected true
  · exact (connected s.registered).handleClose

theorem Kept.execute {functor : ConnFunctor} {rest : List ConnFunctor} (kept : s.Kept)
    (front : s.loop.functors = functor :: rest) (here : s.loop.place = .executing)
    (clean : functor = .connDestroyed → s.halfClosed = false) (enabled : Bool) :
    ((s.popped functor rest).execute enabled functor).Kept := by
  by_cases connecting : s.state = .kConnecting
  · exact kept.established front here connecting enabled
  · have other : functor ≠ .connDestroyed → (s.popped functor rest).Kept :=
      fun other => kept.popped front here connecting fun _ => other
    cases functor with
    | connEstablished =>
        change ((s.popped .connEstablished rest).connEstablished enabled).Kept
        have late : (s.popped .connEstablished rest).state ≠ .kConnecting := connecting
        rw [connEstablished, if_pos late]
        exact other nofun
    | connDestroyed =>
        change ((s.popped .connDestroyed rest).connDestroyed).Kept
        unfold connDestroyed
        split
        · exact {
            pass := kept.pass
            between := fun elsewhere => absurd here elsewhere
            registered := nofun
            opened := nofun
            connecting := nofun
            base := fun base => ⟨(kept.base base).1, nofun⟩
            fresh := kept.fresh }
        · next closed =>
            refine kept.popped front here connecting fun registered => ?_
            have half : s.state = .kDisconnecting :=
              (kept.opened registered).resolve_left closed
            have unclean := clean rfl
            simp [halfClosed, half, registered] at unclean
    | forceCloseInLoop =>
        change (if _ then _ else _ : HandledConn).Kept
        split
        · exact (other nofun).handleClose
        · exact other nofun
    | writeComplete | highWaterMark | sendInLoop | shutdownInLoop => exact other nofun

/-- A move of the loop thread that meets neither the poll nor the functors. -/
theorem Kept.passes (kept : s.Kept) (through : s.tests = []) (idle : s.loop.place ≠ .executing)
    {loop : EventLoop ConnFunctor} (passes : ConnHolders.Passes s.loop loop) :
    Kept { s with loop := loop } where
  pass := fun tests => absurd through tests
  between := fun _ => by
    rw [passes.functors]
    exact kept.between idle
  registered := by
    rw [queue, passes.functors, passes.pendingFunctors]
    exact kept.registered
  opened := kept.opened
  connecting := by
    rw [queue, passes.functors, passes.pendingFunctors]
    exact kept.connecting
  base := kept.base
  fresh := kept.fresh

theorem Kept.poll (kept : s.Kept) (here : s.loop.place = .polling) (reported : Bool) :
    Kept { s with
      loop := s.loop.moveTo .handling
      tests := if reported && s.registered && s.alive then EventTest.all else [] } := by
  have idle := kept.between (by rw [here]; decide)
  exact {
    pass := by
      intro tests
      refine ⟨rfl, ?_⟩
      have registered : s.registered = true := by
        by_contra unregistered
        simp [unregistered] at tests
      refine (kept.registered registered).imp_right fun member => ?_
      rw [queue, idle.1, List.nil_append] at member
      exact List.any_eq_true.mpr ⟨.connDestroyed, member, rfl⟩
    between := fun _ => idle
    registered := kept.registered
    opened := kept.opened
    connecting := kept.connecting
    base := kept.base
    fresh := kept.fresh }

theorem Kept.swapped (kept : s.Kept) (here : s.loop.place = .swapping) (through : s.tests = []) :
    Kept { s with toConnHolders := s.toConnHolders.swapped } := by
  have idle := kept.between (by rw [here]; decide)
  have same : queue { s with toConnHolders := s.toConnHolders.swapped } = s.queue := by
    rw [queue, queue, idle.1, List.nil_append]
    exact List.append_nil _
  exact {
    pass := fun tests => absurd through tests
    between := fun elsewhere => absurd rfl elsewhere
    registered := by
      rw [same]
      exact kept.registered
    opened := kept.opened
    connecting := by
      rw [same]
      exact kept.connecting
    base := kept.base
    fresh := kept.fresh }

theorem Kept.passEnded (kept : s.Kept) (through : s.tests = []) (done : s.loop.functors = []) :
    Kept { s with toConnHolders := s.toConnHolders.passEnded } where
  pass := fun tests => absurd through tests
  between := fun _ => ⟨done, rfl⟩
  registered := kept.registered
  opened := kept.opened
  connecting := kept.connecting
  base := kept.base
  fresh := kept.fresh

theorem Kept.advance (kept : s.Kept) {reported enabled : Bool}
    (clean : s.DestroysClosed (.advance reported enabled)) : (s.advance reported enabled).Kept := by
  have through : s.loop.place ≠ .handling → s.tests = [] := fun elsewhere =>
    by_contra fun tests => elsewhere (kept.pass tests).1
  unfold HandledConn.advance
  cases here : s.loop.place with
  | polling =>
      have moved : s.toConnHolders.advance =
          { s.toConnHolders with loop := s.loop.moveTo .handling } := by
        simp [ConnHolders.advance, EventLoop.advance, here]
      rw [moved]
      exact kept.poll here reported
  | swapping =>
      rw [ConnHolders.advance_swapping here]
      exact kept.swapped here (through (by rw [here]; decide))
  | executing =>
      dsimp only
      cases front : s.loop.functors with
      | nil =>
          rw [ConnHolders.advance_end here front]
          exact kept.passEnded (through (by rw [here]; decide)) front
      | cons functor rest =>
          rw [ConnHolders.advance_call here front]
          refine kept.execute front here ?_ enabled
          rintro rfl
          exact clean here (by rw [front]; rfl)
  | handling =>
      obtain ⟨moved, passes⟩ := ConnHolders.advance_passes s.toConnHolders
        (by rw [here]; decide) (by rw [here]; decide)
      dsimp only
      split
      · next done =>
          rw [moved]
          exact kept.passes done.1 (by rw [here]; decide) passes
      · exact kept
  | outside | testing | timers | frame | returned =>
      obtain ⟨moved, passes⟩ := ConnHolders.advance_passes s.toConnHolders
        (by rw [here]; decide) (by rw [here]; decide)
      rw [moved]
      exact kept.passes (through (by rw [here]; decide)) (by rw [here]; decide) passes

/-- A test finds the channel there. -/
theorem Kept.test (kept : s.Kept) (callback : Bool) : (s.test callback).Kept := by
  unfold HandledConn.test
  split
  · exact kept
  · next rest tests =>
      have left : s.tests ≠ [] := by
        rw [tests]
        exact List.cons_ne_nil _ _
      obtain ⟨here, keeps⟩ := kept.pass left
      have alive : s.alive = true := by
        rcases keeps with mapped | holds
        · rw [HandledConn.alive, ConnHolders.alive_of_mapped mapped, Bool.true_or]
        · rw [HandledConn.alive, ConnHolders.alive_of_pending holds, Bool.true_or]
      split
      · exact kept
      · exact {
          pass := fun _ => ⟨here, keeps⟩
          between := kept.between
          registered := kept.registered
          opened := kept.opened
          connecting := kept.connecting
          base := kept.base
          fresh := by
            dsimp only
            rw [kept.fresh, alive]
            rfl }

/-- The server destroys the connection at once, in a pass that is through with it or while a
functor keeps it. -/
theorem Kept.destroy (kept : s.Kept) (base : s.onBase = true) (whole : s.halfClosed = false)
    (spared : s.tests = [] ∨ s.pendingHolds = true) :
    ({ s with mapped := false }).connDestroyed.Kept := by
  have pass : s.tests ≠ [] →
      s.loop.place = .handling ∧ (false = true ∨ s.pendingHolds = true) := fun tests =>
    ⟨(kept.pass tests).1, .inr (spared.resolve_left tests)⟩
  have fields := kept.base base
  unfold connDestroyed
  split
  · exact {
      pass := pass
      between := kept.between
      registered := nofun
      opened := nofun
      connecting := nofun
      base := fun _ => ⟨fields.1, nofun⟩
      fresh := kept.fresh }
  · next closed =>
      have unregistered : s.registered = true → False := by
        intro registered
        have half : s.state = .kDisconnecting := (kept.opened registered).resolve_left closed
        simp [halfClosed, half, registered] at whole
      exact {
        pass := pass
        between := kept.between
        registered := fun registered => (unregistered registered).elim
        opened := kept.opened
        connecting := fun connecting => absurd connecting fields.2
        base := kept.base
        fresh := kept.fresh }

theorem Kept.stop (kept : s.Kept) (covered : s.Covered .stop) : s.stop.Kept := by
  unfold HandledConn.stop
  split
  · next base =>
      split
      · next mapped => exact kept.destroy base (covered.1 base mapped) (covered.2 base mapped)
      · exact kept
  · exact kept.unmap

/-- The pointers of other threads and of callbacks have no part in it. -/
theorem Kept.of_pointers (kept : s.Kept) (callers : Nat) (calling : Bool) :
    Kept { s with callers := callers, calling := calling } :=
  ⟨kept.pass, kept.between, kept.registered, kept.opened, kept.connecting, kept.base, kept.fresh⟩

theorem Kept.setDisconnecting (kept : s.Kept) : Kept { s with state := .kDisconnecting } where
  pass := kept.pass
  between := kept.between
  registered := kept.registered
  opened := fun _ => .inr rfl
  connecting := nofun
  base := fun base => ⟨(kept.base base).1, nofun⟩
  fresh := kept.fresh

theorem Kept.runRemoval (kept : s.Kept) :
    Kept { s with toConnHolders := s.toConnHolders.runRemoval } := by
  unfold ConnHolders.runRemoval
  split
  · exact kept
  · next some =>
      have unmapped := kept.unmap
      exact ⟨unmapped.pass, unmapped.between, unmapped.registered, unmapped.opened,
        unmapped.connecting, fun base => absurd (kept.base base).1 some, unmapped.fresh⟩

theorem Kept.step (kept : s.Kept) (action : HandledStep) (covered : s.Covered action) :
    (s.step action).Kept := by
  cases action with
  | advance reported enabled => exact kept.advance covered.1
  | test callback => exact kept.test callback
  | handleClose =>
      change Kept (if _ then _ else _)
      split
      · exact kept.handleClose
      · exact kept
  | leave => exact kept.of_pointers s.callers false
  | lock =>
      change Kept (if _ then _ else _)
      split
      · exact kept.of_pointers (s.callers + 1) s.calling
      · exact kept
  | release => exact kept.of_pointers (s.callers - 1) s.calling
  | setDisconnecting =>
      change Kept (if _ then _ else _)
      split
      · exact kept.setDisconnecting
      · exact kept
  | call functor =>
      change Kept (if _ then _ else _)
      split
      · exact kept.queueInLoop functor
      · exact kept
  | runRemoval => exact kept.runRemoval
  | stop => exact kept.stop covered
  | quit =>
      exact ⟨kept.pass, kept.between, kept.registered, kept.opened, kept.connecting, kept.base,
        kept.fresh⟩

end

/-- The pass has tests left for a connection that nobody keeps but threads. -/
structure Orphaned (s : HandledConn) : Prop where
  tests : s.tests ≠ []
  unmapped : s.mapped = false
  removals : s.removals = 0
  calling : s.calling = false
  pending : s.pendingHolds = false
  batch : s.batch = []

/-- The threads let go, and the pass comes to its next test. -/
theorem Orphaned.stales {count : Nat} {s : HandledConn} (orphaned : s.Orphaned)
    (callers : s.callers = count) :
    ∃ after, Guarded step Covered s after ∧ (run step s after).stale = true := by
  induction count generalizing s with
  | zero =>
      refine ⟨[.test false], ⟨⟨trivial, trivial⟩, trivial⟩, ?_⟩
      have emptied : s.batchHolds = false := by
        rw [ConnHolders.batchHolds, orphaned.batch]
        rfl
      have freed : s.alive = false := by
        simp [alive, ConnHolders.alive, orphaned.unmapped, callers, orphaned.removals,
          orphaned.calling, orphaned.pending, emptied]
      obtain ⟨first, rest, tests⟩ := List.exists_cons_of_ne_nil orphaned.tests
      simp [step, test, tests, orphaned.calling, freed]
  | succ count ih =>
      have released : Orphaned { s with callers := s.callers - 1 } :=
        ⟨orphaned.tests, orphaned.unmapped, orphaned.removals, orphaned.calling, orphaned.pending,
          orphaned.batch⟩
      obtain ⟨after, guarded, stale⟩ := ih released (by rw [callers]; rfl)
      exact ⟨.release :: after, ⟨⟨trivial, trivial⟩, guarded⟩, stale⟩

end HandledConn

end Talko.Network
