import Mathlib.Data.List.Dedup
import Talko.Library.FileTable
import Talko.Library.Run

/-!
# The server of `net_server.cpp`

`Server` with the descriptors of its process. The constructor makes five system calls; where one
behind `socket` fails it closes what it has opened and keeps the numbers in its members. The
destructor closes the members that are not `-1`. `handle_events` goes through the events of one
`epoll_wait`, and other threads open and close files between any two of its calls. One of theirs
that is an epoll instance can get the number that `epoll_fd_` has kept; `epoll_wait` then succeeds
on it, and its events are about whatever that thread has put into it.
-/

set_option autoImplicit false

namespace Talko.Service

open Talko.Library

/-- Who has opened a descriptor. The files of other threads are epoll instances and others. -/
inductive ServerFile (Client : Type) where
  | listening
  | epoll
  | client (client : Client)
  | other (isEpoll : Bool)
  deriving DecidableEq, Repr

def ServerFile.isOther {Client : Type} : ServerFile Client → Bool
  | .other _ => true
  | .listening | .epoll | .client _ => false

/-- Before which system call the thread of the server stands; `waits` and `handles` are the
places of `handle_events` before `epoll_wait` and before the next event. -/
inductive ServerPlace (Client : Type) where
  | creates
  | binds
  | listens
  | createsEpoll
  | addsListening
  | closesServer (withEpoll : Bool)
  | closesEpoll
  | waits
  | handles
  | adds (client : Client) (fd : Nat)
  | refuses (fd : Nat)
  | hangsUp (fd : Nat)
  | destroysServer
  | destroysEpoll
  | gone
  deriving DecidableEq, Repr

/-- The members, with `-1` as `none`, and the set of the server's own epoll instance. `serverOpen`
and `epollOpen` say that the server has not closed its two descriptors yet. `handled` are the
owners of the numbers that `accept` and `read` were called with, `closed` those of the numbers the
server has closed. -/
structure NetServer (Client : Type) where
  files : FileTable (ServerFile Client)
  serverFd : Option Nat
  epollFd : Option Nat
  running : Bool
  place : ServerPlace Client
  watched : List Nat
  events : List Nat
  serverOpen : Bool
  epollOpen : Bool
  handled : List (Option (ServerFile Client))
  closed : List (Option (ServerFile Client))

/-- A step of another thread or of the thread of the server. `ready` are the descriptors that
`epoll_wait` finds ready; an `accept` that fails gives no client. -/
inductive NetServerStep (Client : Type) where
  | openOther (isEpoll : Bool)
  | closeOther (fd : Nat)
  | proceed (succeeds : Bool)
  | start
  | stop
  | epollWait (ready : List Nat)
  | acceptClient (client : Option Client)
  | readClient (bytesRead : Int)
  | destroy
  deriving DecidableEq, Repr

namespace NetServer

variable {Client : Type}

def maxEvents : Nat := 10

/-- Before the constructor, in a process with no other file. -/
def new (limit : Nat) : NetServer Client where
  files := .empty limit
  serverFd := none
  epollFd := none
  running := false
  place := .creates
  watched := []
  events := []
  serverOpen := false
  epollOpen := false
  handled := []
  closed := []

def moveTo (s : NetServer Client) (place : ServerPlace Client) : NetServer Client :=
  { s with place := place }

/-- `close`, which also takes the number out of the epoll set. -/
def closeFd (s : NetServer Client) (fd : Nat) : NetServer Client :=
  { s with
    files := s.files.close fd
    watched := s.watched.filter fun other => other ≠ fd
    closed := s.closed ++ [s.files.owner? fd] }

def closeServer (s : NetServer Client) : NetServer Client :=
  match s.serverFd with
  | none => s
  | some fd => { s.closeFd fd with serverOpen := false }

def closeEpoll (s : NetServer Client) : NetServer Client :=
  match s.epollFd with
  | none => s
  | some fd => { s.closeFd fd with epollOpen := false }

/-- Who has the number in `epoll_fd_`. -/
def epollOwner (s : NetServer Client) : Option (ServerFile Client) :=
  s.epollFd.bind s.files.owner?

/-- `epoll_fd_` names an epoll instance. -/
def canWait (s : NetServer Client) : Bool :=
  match s.epollOwner with
  | some .epoll | some (.other true) => true
  | some .listening | some (.client _) | some (.other false) | none => false

/-- `epoll_ctl` puts a client into the instance that `epoll_fd_` names. -/
def watch (s : NetServer Client) (fd : Nat) : NetServer Client :=
  match s.epollOwner with
  | some .epoll => { s with watched := fd :: s.watched }
  | _ => s

/-- The events of one `epoll_wait`. The server's own instance gives each watched number once;
what is in another one, and under which numbers, the server does not know. -/
def reported (s : NetServer Client) (ready : List Nat) : List Nat :=
  match s.epollOwner with
  | some .epoll => (ready.dedup.filter fun fd => fd ∈ s.watched).take maxEvents
  | _ => ready.take maxEvents

/-- The next system call of the constructor, of an event or of the destructor. -/
def proceed (s : NetServer Client) (succeeds : Bool) : NetServer Client :=
  match s.place with
  | .creates =>
      match if succeeds then s.files.openFile .listening else none with
      | none => s.moveTo .waits
      | some (fd, files) =>
          { s with files := files, serverFd := some fd, serverOpen := true, place := .binds }
  | .binds => s.moveTo (if succeeds then .listens else .closesServer false)
  | .listens => s.moveTo (if succeeds then .createsEpoll else .closesServer false)
  | .createsEpoll =>
      match if succeeds then s.files.openFile .epoll else none with
      | none => s.moveTo (.closesServer false)
      | some (fd, files) =>
          { s with files := files, epollFd := some fd, epollOpen := true, place := .addsListening }
  | .addsListening =>
      if succeeds then { s with watched := s.serverFd.toList ++ s.watched, place := .waits }
      else s.moveTo (.closesServer true)
  | .closesServer withEpoll => s.closeServer.moveTo (if withEpoll then .closesEpoll else .waits)
  | .closesEpoll => s.closeEpoll.moveTo .waits
  | .handles => if s.events = [] then s.moveTo .waits else s
  | .adds _ fd =>
      if succeeds && s.canWait then (s.watch fd).moveTo .handles else s.moveTo (.refuses fd)
  | .refuses fd | .hangsUp fd => (s.closeFd fd).moveTo .handles
  | .destroysServer => s.closeServer.moveTo .destroysEpoll
  | .destroysEpoll => s.closeEpoll.moveTo .gone
  | .waits | .gone => s

/-- The number names a file of another thread. -/
def foreign (s : NetServer Client) (fd : Nat) : Bool :=
  (s.files.owner? fd).any ServerFile.isOther

/-- The number names a socket that connections or bytes can come from. -/
def isSocket (s : NetServer Client) (fd : Nat) : Bool :=
  match s.files.owner? fd with
  | some .listening | some (.client _) | some (.other false) => true
  | some .epoll | some (.other true) | none => false

/-- The new connection gets a descriptor before `epoll_ctl` is called for it. -/
def acceptClient (s : NetServer Client) : Option Client → NetServer Client
  | none => s
  | some client =>
      match s.files.openFile (.client client) with
      | none => s
      | some (fd, files) => { s with files := files, place := .adds client fd }

/-- The next event, taken from `events`. -/
def takeEvent (s : NetServer Client) (fd : Nat) (rest : List Nat) : NetServer Client :=
  { s with events := rest, handled := s.handled ++ [s.files.owner? fd] }

def step [DecidableEq Client] (s : NetServer Client) : NetServerStep Client → NetServer Client
  | .openOther isEpoll =>
      match s.files.openFile (.other isEpoll) with
      | none => s
      | some (_, files) => { s with files := files }
  | .closeOther fd =>
      if s.foreign fd then { s with files := s.files.close fd } else s
  | .proceed succeeds => s.proceed succeeds
  | .start => if s.place = .waits then { s with running := true } else s
  | .stop => { s with running := false }
  | .epollWait ready =>
      if s.place = .waits ∧ s.running = true ∧ s.canWait = true then
        { s with events := s.reported ready, place := .handles }
      else s
  | .acceptClient client =>
      match s.place, s.events with
      | .handles, fd :: rest =>
          if s.serverFd = some fd then
            (s.takeEvent fd rest).acceptClient (if s.isSocket fd then client else none)
          else s
      | _, _ => s
  | .readClient bytesRead =>
      match s.place, s.events with
      | .handles, fd :: rest =>
          if s.serverFd = some fd then s
          else if bytesRead ≤ 0 ∨ s.isSocket fd = false then
            (s.takeEvent fd rest).moveTo (.hangsUp fd)
          else s.takeEvent fd rest
      | _, _ => s
  | .destroy => if s.place = .waits then { s with running := false, place := .destroysServer } else s

end NetServer

end Talko.Service
