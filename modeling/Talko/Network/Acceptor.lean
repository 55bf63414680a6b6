import Talko.Library.FileTable
import Talko.Library.Run

/-!
# The acceptor

`Acceptor::_handle_read` with the descriptors of the process and the connections that wait in
the listening socket. `accept` fails with `EMFILE` when no descriptor is left, whether or not a
connection waits. The acceptor then gives up its reserve in `idle_fd_`, accepts and closes one
connection and opens the reserve again: four system calls, between which the other threads open
and close descriptors.
-/

set_option autoImplicit false

namespace Talko.Network

open Talko.Library

/-- Who has opened a descriptor: the acceptor as its reserve or to refuse a connection, the
connection it was handed to, anything else. -/
inductive FileOwner (Client : Type) where
  | reserve
  | refusal (client : Client)
  | conn (client : Client)
  | other
  deriving DecidableEq, Repr

/-- The acceptor alone may close it. -/
def FileOwner.acceptors {Client : Type} : FileOwner Client → Bool
  | .reserve | .refusal _ => true
  | _ => false

/-- Where `_handle_read` stands: outside, or before one of its system calls behind `EMFILE`. -/
inductive AcceptPlace where
  | waiting
  | closesIdle
  | accepts
  | closesAccepted
  | opensIdle
  deriving DecidableEq, Repr

/-- What `idle_fd_` names at a place. -/
def AcceptPlace.names {Client : Type} : AcceptPlace → FileOwner Client → Bool
  | .waiting, .reserve | .closesIdle, .reserve => true
  | .closesAccepted, .refusal _ => true
  | _, _ => false

/-- `idle_fd_` is read before it is set again. -/
def AcceptPlace.inUse : AcceptPlace → Bool
  | .waiting | .closesIdle | .closesAccepted => true
  | _ => false

/-- `backlog` are the connections in the listening socket; a negative `idle_fd_` is `none`.
`taken` are those that `accept` has taken out, in order, `handed` those given to
`new_conn_callback_` with their descriptors, `refused` those closed at once, `aborted` those
`accept` reported as `ECONNABORTED`. `closed` are the owners of what the acceptor has closed. -/
structure Acceptor (Client : Type) where
  files : FileTable (FileOwner Client)
  backlog : List Client
  newConnCallback : Bool
  idleFd : Option Nat
  place : AcceptPlace
  taken : List Client
  handed : List (Client × Nat)
  refused : List Client
  aborted : List Client
  closed : List (Option (FileOwner Client))

/-- How `accept` goes: as the descriptors and the backlog have it, or with an error of the
connection or of a signal. `keepsErrno` says that `errno` is still the one of `accept4` behind
the log line. -/
inductive AcceptAnswer where
  | tries (keepsErrno : Bool)
  | connAborted
  | interrupted
  deriving DecidableEq, Repr

/-- A step of the kernel, of the other threads or of the acceptor. Behind `EMFILE` the second
`accept` has an answer of its own, and `opens` says whether `open` of the reserve finds no error
but a full table. -/
inductive AcceptStep (Client : Type) where
  | arrive (client : Client)
  | openOther
  | closeOther (fd : Nat)
  | handleRead (answer : AcceptAnswer)
  | proceed (answer : AcceptAnswer) (opens : Bool)
  deriving DecidableEq, Repr

namespace Acceptor

variable {Client : Type}

/-- `accept` of the oldest connection, with its descriptor. -/
def sockAccept (acceptor : Acceptor Client) (owner : Client → FileOwner Client) :
    Option (Client × Nat × Acceptor Client) :=
  match acceptor.backlog with
  | [] => none
  | client :: rest =>
      (acceptor.files.openFile (owner client)).map fun opened =>
        (client, opened.1,
          { acceptor with
            files := opened.2
            backlog := rest
            taken := acceptor.taken ++ [client] })

/-- `accept` reports the oldest connection as `ECONNABORTED`. -/
def abortAccept (acceptor : Acceptor Client) : Acceptor Client :=
  match acceptor.backlog with
  | [] => acceptor
  | client :: rest =>
      { acceptor with
        backlog := rest
        taken := acceptor.taken ++ [client]
        aborted := acceptor.aborted ++ [client] }

/-- `close`, also of a negative number. -/
def closeFd (acceptor : Acceptor Client) : Option Nat → Acceptor Client
  | none => { acceptor with closed := acceptor.closed ++ [none] }
  | some fd =>
      { acceptor with
        files := acceptor.files.close fd
        closed := acceptor.closed ++ [acceptor.files.owner? fd] }

/-- `idle_fd_ = open("/dev/null")`. -/
def openIdle (acceptor : Acceptor Client) (opens : Bool) : Acceptor Client :=
  match if opens then acceptor.files.openFile .reserve else none with
  | none => { acceptor with idleFd := none }
  | some (fd, files) => { acceptor with files := files, idleFd := some fd }

/-- `idle_fd_ = accept(..)`, for a connection to close. -/
def acceptIdle (acceptor : Acceptor Client) : AcceptAnswer → Acceptor Client
  | .interrupted => { acceptor with idleFd := none }
  | .connAborted => { acceptor.abortAccept with idleFd := none }
  | .tries _ =>
      match acceptor.sockAccept .refusal with
      | none => { acceptor with idleFd := none }
      | some (client, fd, accepted) =>
          { accepted with idleFd := some fd, refused := accepted.refused ++ [client] }

/-- The first `accept` succeeded. -/
def handOver (acceptor : Acceptor Client) (client : Client) (fd : Nat) : Acceptor Client :=
  if acceptor.newConnCallback then { acceptor with handed := acceptor.handed ++ [(client, fd)] }
  else { acceptor.closeFd (some fd) with refused := acceptor.refused ++ [client] }

/-- `_handle_read` up to its test of `errno`. -/
def handleRead (acceptor : Acceptor Client) : AcceptAnswer → Acceptor Client
  | .interrupted => acceptor
  | .connAborted => acceptor.abortAccept
  | .tries keepsErrno =>
      match acceptor.sockAccept (if acceptor.newConnCallback then .conn else .refusal) with
      | some (client, fd, accepted) => accepted.handOver client fd
      | none =>
          if acceptor.files.full ∧ keepsErrno = true then { acceptor with place := .closesIdle }
          else acceptor

/-- The next system call behind `EMFILE`. -/
def proceed (acceptor : Acceptor Client) (answer : AcceptAnswer) (opens : Bool) :
    Acceptor Client :=
  match acceptor.place with
  | .waiting => acceptor
  | .closesIdle => { acceptor.closeFd acceptor.idleFd with place := .accepts }
  | .accepts => { acceptor.acceptIdle answer with place := .closesAccepted }
  | .closesAccepted => { acceptor.closeFd acceptor.idleFd with place := .opensIdle }
  | .opensIdle => { acceptor.openIdle opens with place := .waiting }

/-- Before the constructor opens the reserve, in a process with no other file. -/
def unopened (limit : Nat) (newConnCallback : Bool) : Acceptor Client where
  files := .empty limit
  backlog := []
  newConnCallback := newConnCallback
  idleFd := none
  place := .opensIdle
  taken := []
  handed := []
  refused := []
  aborted := []
  closed := []

def new (limit : Nat) (newConnCallback opens : Bool) : Acceptor Client :=
  { (unopened limit newConnCallback).openIdle opens with place := .waiting }

/-- Another thread closes a file that is not the acceptor's. -/
def closeOther (acceptor : Acceptor Client) (fd : Nat) : Acceptor Client :=
  match acceptor.files.owner? fd with
  | none => acceptor
  | some owner =>
      if owner.acceptors then acceptor else { acceptor with files := acceptor.files.close fd }

def openOther (acceptor : Acceptor Client) : Acceptor Client :=
  match acceptor.files.openFile .other with
  | none => acceptor
  | some (_, files) => { acceptor with files := files }

def step (acceptor : Acceptor Client) : AcceptStep Client → Acceptor Client
  | .arrive client => { acceptor with backlog := acceptor.backlog ++ [client] }
  | .openOther => acceptor.openOther
  | .closeOther fd => acceptor.closeOther fd
  | .handleRead answer => if acceptor.place = .waiting then acceptor.handleRead answer else acceptor
  | .proceed answer opens => acceptor.proceed answer opens

end Acceptor

/-- The connections that arrive in a run. -/
def arrivals {Client : Type} (actions : List (AcceptStep Client)) : List Client :=
  actions.filterMap fun
    | .arrive client => some client
    | _ => none

end Talko.Network
