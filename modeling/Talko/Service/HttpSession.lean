import Talko.Library.Decimal
import Talko.Library.Split
import Talko.Network.TcpConnection
import Talko.Service.Accounts

/-!
# HTTP sessions

`HttpSession` of `http_session.cpp` with `StringUtil::split` and `register_user`, which it
goes through. `URLEncodeUtil::decode` and the reader of `jsoncpp` are parameters. An
exception that leaves a call ends the call, so that a call returns the session behind it or
the exception.
-/

set_option autoImplicit false

namespace Talko.Service

open Talko.Library Talko.Network

/-- The exceptions that can pass through `on_read`: of `substr`, of `Json::Value` and of the
reader. -/
inductive HttpException where
  | outOfRange
  | jsonLogicError
  | jsonRuntimeError
  deriving DecidableEq, Repr

def StringUtil.split (str delimiter : List UInt8) : List (List UInt8) :=
  if str = [] then [] else splitNonempty delimiter str

/-- `std::string::substr` with one argument. -/
def substr (str : List UInt8) (pos : Nat) : Except HttpException (List UInt8) :=
  if pos > str.length then .error .outOfRange else .ok (str.drop pos)

/-!
## The JSON a registration is read from
-/

/-- A member of an object, as far as `isString` and `asString` tell members apart. -/
inductive JsonMember where
  | stringValue (text : String)
  | otherValue
  deriving DecidableEq, Repr

inductive JsonValue where
  | nullValue
  | objectValue (members : List (String × JsonMember))
  | otherValue
  deriving DecidableEq, Repr

/-- What the reader makes of a text: it throws, it reports errors or it has read a root. -/
inductive JsonReading where
  | threw
  | reported
  | read (jsonRoot : JsonValue)
  deriving DecidableEq, Repr

/-- `operator[]`. The members it adds are null, and so is what it finds of them later. -/
def JsonValue.member (value : JsonValue) (key : String) : Except HttpException JsonMember :=
  match value with
  | .nullValue => .ok .otherValue
  | .objectValue members => .ok ((members.lookup key).getD .otherValue)
  | .otherValue => .error .jsonLogicError

/-- The code outside of the repository that a request passes through. -/
structure HttpLibraries where
  decode : List UInt8 → List UInt8
  parse : List UInt8 → JsonReading

/-- What a call is answered by the kernel and by the database. -/
structure HttpAnswers (Id : Type) where
  ctl : EpollCtl Id
  write : SocksWrite
  insert : InsertAnswer

/-!
## `register_user`
-/

/-- The three tests for strings and what the members hold. -/
def requestedUser (jsonRoot : JsonValue) : Except HttpException (Option NewUser) := do
  match ← jsonRoot.member "username" with
  | .otherValue => return none
  | .stringValue username =>
      match ← jsonRoot.member "nickname" with
      | .otherValue => return none
      | .stringValue nickname =>
          match ← jsonRoot.member "password" with
          | .otherValue => return none
          | .stringValue password => return some ⟨username, nickname, password⟩

def registeredAlready : List UInt8 :=
  asciiText "\x7b\"code\": 101, \"msg\": \"registered already\"\x7d"

def registerFailed : List UInt8 :=
  asciiText "\x7b\"code\": 100, \"msg\": \"register failed\"\x7d"

def registerOk : List UInt8 :=
  asciiText "\x7b\"code\": 0, \"msg\": \"ok\"\x7d"

/-- `register_user` behind its tests. -/
def answerUser (accounts : Accounts) (u : NewUser) (insert : InsertAnswer) :
    List UInt8 × Accounts :=
  let cachedUserid := ((accounts.getUserInfoByUsername u.username).map (·.userid)).getD 0
  if cachedUserid ≠ 0 then (registeredAlready, accounts)
  else
    match accounts.addUser u insert with
    | (false, after) => (registerFailed, after)
    | (true, after) => (registerOk, after)

/-- `register_user` with the text it leaves in `retData`. -/
def registerUser (libraries : HttpLibraries) (accounts : Accounts) (data : List UInt8)
    (insert : InsertAnswer) : Except HttpException (List UInt8 × Accounts) :=
  match libraries.parse data with
  | .threw => .error .jsonRuntimeError
  | .reported => .ok ([], accounts)
  | .read jsonRoot => do
      match ← requestedUser jsonRoot with
      | none => return ([], accounts)
      | some u => return answerUser accounts u insert

/-!
## Requests
-/

def MAX_URL_LENGTH : Nat := 2048

def crlf : List UInt8 := asciiText "\r\n"

/-- The end of a header. -/
def crlfcrlf : List UInt8 := asciiText "\r\n\r\n"

def space : List UInt8 := asciiText " "

def questionMark : List UInt8 := asciiText "?"

/-- What `on_read` finds in the input: it waits for more, closes the connection, or has a
request for `_process`. -/
inductive Inspection where
  | incomplete
  | illegal
  | request (url param : List UInt8)
  deriving DecidableEq, Repr

/-- `on_read` from the split of the url to the call of `_process`. -/
def inspectTarget (target : List UInt8) : Except HttpException Inspection :=
  match StringUtil.split target questionMark with
  | url :: query :: _ => do
      let param ← substr query 2
      return .request url param
  | _ => .ok .illegal

/-- `on_read` from the split of the first line on. -/
def inspectLine (line : List UInt8) : Except HttpException Inspection :=
  if line = [] then .ok .illegal
  else
    match StringUtil.split line space with
    | _ :: target :: _ :: _ => inspectTarget target
    | _ => .ok .illegal

/-- `on_read` as far as the call of `_process`. -/
def inspect (inbuf : List UInt8) : Except HttpException Inspection :=
  if inbuf.length ≤ 4 then .ok .incomplete
  else if inbuf.drop (inbuf.length - 4) ≠ crlfcrlf then .ok .incomplete
  else if inbuf.length ≥ MAX_URL_LENGTH then .ok .illegal
  else
    match StringUtil.split inbuf crlf with
    | [] => .ok .illegal
    | line :: _ => inspectLine line

def makeupResponse (input : List UInt8) : List UInt8 :=
  asciiText "HTTP/1.1 200 OK\r\nContent-Type: text/html\r\nContent-Length:" ++
    decimalText input.length ++ crlfcrlf ++ input

/-- A session: its connection, the manager that its requests reach, and the arguments of the
calls of `_process` made so far. -/
structure HttpSession (Id : Type) where
  conn : TcpConnection Id
  accounts : Accounts
  processed : List (List UInt8 × List UInt8)

namespace HttpSession

variable {Id : Type}

def new (conn : TcpConnection Id) (accounts : Accounts) : HttpSession Id where
  conn := conn
  accounts := accounts
  processed := []

/-- The bytes `on_read` copies into `inbuf`. -/
def inbuf (s : HttpSession Id) : List UInt8 :=
  s.conn.inputBuffer.readable

def setInput (s : HttpSession Id) (buffer : ByteBuffer) : HttpSession Id :=
  { s with conn := s.conn.setInput buffer }

def forceClose (s : HttpSession Id) : HttpSession Id :=
  { s with conn := s.conn.forceClose }

variable [DecidableEq Id]

/-- The end of `_on_register_response`. -/
def respond (s : HttpSession Id) (answers : HttpAnswers Id) (retData : List UInt8) :
    HttpSession Id :=
  if retData = [] then s
  else { s with conn := s.conn.send answers.ctl true (makeupResponse retData) answers.write }

def onRegisterResponse (libraries : HttpLibraries) (s : HttpSession Id)
    (answers : HttpAnswers Id) (data : List UInt8) : Except HttpException (HttpSession Id) := do
  let (retData, accounts) ←
    registerUser libraries s.accounts (libraries.decode data) answers.insert
  return { s with accounts := accounts }.respond answers retData

/-- `_process`. Behind `/login.do`, `/getfriendlist.do` and `/getgroupmembers.do` the source
does nothing. -/
def process (libraries : HttpLibraries) (s : HttpSession Id) (answers : HttpAnswers Id)
    (url param : List UInt8) : Except HttpException (Bool × HttpSession Id) :=
  let called := { s with processed := s.processed ++ [(url, param)] }
  if url = [] then .ok (false, called)
  else if url = asciiText "/register.do" then do
    let answered ← called.onRegisterResponse libraries answers param
    return (true, answered)
  else if url = asciiText "/login.do" then .ok (true, called)
  else if url = asciiText "/getfriendlist.do" then .ok (true, called)
  else if url = asciiText "/getgroupmembers.do" then .ok (true, called)
  else .ok (false, called)

/-- The end of `on_read`. The text of the error message takes the input out of the buffer. -/
def finish (s : HttpSession Id) (handled : Bool) : HttpSession Id :=
  if handled then s.forceClose
  else (s.setInput s.conn.inputBuffer.bbRetrieveAllAsString.1).forceClose

def onRead (libraries : HttpLibraries) (s : HttpSession Id) (answers : HttpAnswers Id) :
    Except HttpException (HttpSession Id) := do
  match ← inspect s.inbuf with
  | .incomplete => return s
  | .illegal => return s.forceClose
  | .request url param =>
      let (handled, after) ← s.process libraries answers url param
      return after.finish handled

/-- Bytes that arrive, and the call of `on_read` behind them. -/
def receive (libraries : HttpLibraries) (s : HttpSession Id)
    (arrival : HttpAnswers Id × List UInt8) : Except HttpException (HttpSession Id) :=
  (s.setInput (s.conn.inputBuffer.bbAppend arrival.2)).onRead libraries arrival.1

end HttpSession

end Talko.Service
