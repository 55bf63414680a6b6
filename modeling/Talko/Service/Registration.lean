import Mathlib.Logic.Function.Basic
import Talko.Service.Accounts

/-!
# Registrations that overlap

`register_user`, `addUser` and `addGroup` as several worker loops run them. A call takes its
steps one after the other: it increments its counter, reads it and sends the `INSERT`,
receives the answer, reads the counter again and pushes its entry under `mutex_`; a
registration looks its name up before that. Steps of other calls can come between any two of
them. The two reads for the columns of one `INSERT` are one step.
-/

set_option autoImplicit false

namespace Talko.Service

/-- How far a call has come. `registered` is the answer "registered already", `failed` that
of a call whose `INSERT` was refused; `returned` keeps the id of the `INSERT` beside the
entry that was pushed. -/
inductive Stage where
  | idle
  | registered
  | entered (request : Request)
  | incremented (request : Request)
  | sent (request : Request) (id : Int)
  | answered (request : Request) (id : Int)
  | failed
  | returned (request : Request) (id : Int) (user : User)
  deriving DecidableEq, Repr

/-- The manager, the table `t_user` and the calls under way. -/
structure Registration (Call : Type) where
  accounts : Accounts
  table : List AccountRow
  stage : Call → Stage

inductive CallStep (Call : Type) where
  | registerUser (call : Call) (u : NewUser)
  | addUser (call : Call) (u : NewUser)
  | addGroup (call : Call) (groupname : String) (ownerid : Int)
  | increment (call : Call)
  | send (call : Call)
  | answer (call : Call) (succeeds : Bool)
  | push (call : Call)

namespace Registration

variable {Call : Type}

def start (accounts : Accounts) (table : List AccountRow) : Registration Call where
  accounts := accounts
  table := table
  stage := fun _ => .idle

def usernames (s : Registration Call) : List String :=
  s.accounts.allCachedUsers.map (·.username)

def tableIds (s : Registration Call) : List Int :=
  s.table.map (·.userId)

/-- The id in `cachedUser` behind the lookup of `register_user`; it is zero beforehand. -/
def cachedUserid (s : Registration Call) (username : String) : Int :=
  match s.accounts.getUserInfoByUsername username with
  | some user => user.userid
  | none => 0

variable [DecidableEq Call]

def moveTo (s : Registration Call) (call : Call) (stage : Stage) : Registration Call :=
  { s with stage := Function.update s.stage call stage }

def enter (s : Registration Call) (call : Call) (request : Request) : Registration Call :=
  match s.stage call with
  | .idle => s.moveTo call (.entered request)
  | _ => s

def lookUp (s : Registration Call) (call : Call) (u : NewUser) : Registration Call :=
  match s.stage call with
  | .idle =>
      if s.cachedUserid u.username ≠ 0 then s.moveTo call .registered
      else s.moveTo call (.entered (.user u))
  | _ => s

def incrementBase (s : Registration Call) (call : Call) : Registration Call :=
  match s.stage call with
  | .entered request =>
      { s.moveTo call (.incremented request) with accounts := s.accounts.bump request }
  | _ => s

def send (s : Registration Call) (call : Call) : Registration Call :=
  match s.stage call with
  | .incremented request => s.moveTo call (.sent request (s.accounts.base request))
  | _ => s

def answer (s : Registration Call) (call : Call) (succeeds : Bool) : Registration Call :=
  match s.stage call with
  | .sent request id =>
      if succeeds then
        { s.moveTo call (.answered request id) with table := s.table ++ [request.row id] }
      else s.moveTo call .failed
  | _ => s

def push (s : Registration Call) (call : Call) : Registration Call :=
  match s.stage call with
  | .answered request id =>
      { s.moveTo call (.returned request id (request.entry (s.accounts.base request))) with
        accounts := s.accounts.push request }
  | _ => s

def step (s : Registration Call) : CallStep Call → Registration Call
  | .registerUser call u => s.lookUp call u
  | .addUser call u => s.enter call (.user u)
  | .addGroup call groupname ownerid => s.enter call (.group groupname ownerid)
  | .increment call => s.incrementBase call
  | .send call => s.send call
  | .answer call succeeds => s.answer call succeeds
  | .push call => s.push call

end Registration

end Talko.Service
