import Talko.Network.ByteBufferProperties
import Talko.Network.EpollPoller

/-!
# TCP connections

`TcpConnection` of `tcp_connect.cpp` with the two members of its event loop it goes
through, `run_in_loop` and `queue_in_loop`. The answers of the socket and of `epoll_ctl`
are arguments of the members that ask for them.

The user's callbacks are entries of the trace, and what a callback does to the connection
is a further step. The source calls `msg_callback_` and, on the way up, `conn_callback_`
last; on the way down the state is already `kDisconnected`, in which the members that a
callback can call do nothing. The handlers of one event are steps of their own too, so that
other steps can come between them.
-/

set_option autoImplicit false

namespace Talko.Network

inductive StateE where
  | kDisconnected
  | kConnecting
  | kConnected
  | kDisconnecting
  deriving DecidableEq, Repr

inductive Functor where
  | sendInLoop (message : List UInt8)
  | shutdownInLoop
  | forceCloseInLoop
  | writeCompleteCallback
  | highWaterMarkCallback (size : Nat)
  deriving DecidableEq, Repr

/-- What a connection has done, as its socket and its callbacks see it. `passed` marks the
data that a `_send_in_loop` was called with in a state other than `kDisconnected`. -/
inductive Effect where
  | passed (data : List UInt8)
  | wrote (outcome : WriteOutcome)
  | shutdownWrite
  | connCallback (connected : Bool)
  | msgCallback (input : List UInt8)
  | closeCallback
  | writeCompleteCallback
  | highWaterMarkCallback (size : Nat)
  deriving DecidableEq, Repr

/-- A connection, the poller of its loop and the functors that wait in the loop. -/
structure TcpConnection (Id : Type) where
  state : StateE
  channel : Id
  highWaterMark : Nat
  hasWriteCompleteCallback : Bool
  hasHighWaterMarkCallback : Bool
  inputBuffer : ByteBuffer
  outputBuffer : FormedBuffer
  poller : EpollPoller Id
  pendingFunctors : List Functor
  trace : List Effect

namespace TcpConnection

variable {Id : Type}

def setState (conn : TcpConnection Id) (state : StateE) : TcpConnection Id :=
  { conn with state := state }

def setInput (conn : TcpConnection Id) (buffer : ByteBuffer) : TcpConnection Id :=
  { conn with inputBuffer := buffer }

def record (conn : TcpConnection Id) (effect : Effect) : TcpConnection Id :=
  { conn with trace := conn.trace ++ [effect] }

def queueInLoop (conn : TcpConnection Id) (functor : Functor) : TcpConnection Id :=
  { conn with pendingFunctors := conn.pendingFunctors ++ [functor] }

def appendOutput (conn : TcpConnection Id) (data : List UInt8) : TcpConnection Id :=
  { conn with outputBuffer := conn.outputBuffer.bbAppend data }

def retrieveOutput (conn : TcpConnection Id) (len : Nat) : TcpConnection Id :=
  { conn with outputBuffer := conn.outputBuffer.bbRetrieve len }

def isWriting (conn : TcpConnection Id) : Bool :=
  conn.poller.isWriting conn.channel

variable [DecidableEq Id]

def enableWriting (ctl : EpollCtl Id) (conn : TcpConnection Id) : TcpConnection Id :=
  { conn with poller := (conn.poller.enableWriting ctl conn.channel).1 }

def disableWriting (ctl : EpollCtl Id) (conn : TcpConnection Id) : TcpConnection Id :=
  { conn with poller := (conn.poller.disableWriting ctl conn.channel).1 }

def disableAll (ctl : EpollCtl Id) (conn : TcpConnection Id) : TcpConnection Id :=
  { conn with poller := (conn.poller.disableAll ctl conn.channel).1 }

/-- The constructor, on a loop whose poller may have any history, and the callbacks that
are set before the connection is established. -/
def new (poller : EpollPoller Id) (channel : Id) (sockfd : Int)
    (writeComplete highWater : Bool) (highWaterMark : Nat) : TcpConnection Id where
  state := .kConnecting
  channel := channel
  highWaterMark := highWaterMark
  hasWriteCompleteCallback := writeComplete
  hasHighWaterMarkCallback := highWater
  inputBuffer := .new
  outputBuffer := .new
  poller := poller.newChannel channel sockfd
  pendingFunctors := []
  trace := []

/-!
## Sending
-/

/-- The end of `_send_in_loop`: the bytes behind the first `nwrote` go to the buffer. -/
def bufferRemaining (ctl : EpollCtl Id) (conn : TcpConnection Id) (data : List UInt8)
    (nwrote : Nat) (faultError : Bool) : TcpConnection Id :=
  let remaining := data.length - nwrote
  if remaining > data.length then conn
  else if faultError = false ∧ remaining > 0 then
    let oldLen := conn.outputBuffer.bbBytesReadable
    let marked :=
      if oldLen + remaining ≥ conn.highWaterMark ∧ oldLen < conn.highWaterMark ∧
          conn.hasHighWaterMarkCallback then
        conn.queueInLoop (.highWaterMarkCallback (oldLen + remaining))
      else conn
    let filled := marked.appendOutput (data.drop nwrote)
    if filled.isWriting then filled else filled.enableWriting ctl
  else conn

/-- `_send_in_loop` behind its direct write, with what that write left behind. -/
def afterDirectWrite (ctl : EpollCtl Id) (conn : TcpConnection Id) (data : List UInt8) :
    WriteOutcome → TcpConnection Id
  | .taken bytes =>
      let tried := conn.record (.wrote (.taken bytes))
      let told :=
        if data.length - bytes.length = 0 ∧ conn.hasWriteCompleteCallback then
          tried.queueInLoop .writeCompleteCallback
        else tried
      told.bufferRemaining ctl data bytes.length false
  | .failed errno =>
      (conn.record (.wrote (.failed errno))).bufferRemaining ctl data 0
        (errno == .EPIPE || errno == .ECONNRESET)

/-- `_send_in_loop`; it tries a direct write when nothing waits in the buffer. -/
def sendInLoop (ctl : EpollCtl Id) (conn : TcpConnection Id) (data : List UInt8)
    (answer : SocksWrite) : TcpConnection Id :=
  if conn.state = .kDisconnected then conn
  else
    let called := conn.record (.passed data)
    if called.isWriting = false ∧ called.outputBuffer.bbBytesReadable = 0 then
      called.afterDirectWrite ctl data (socksWrite data answer)
    else called.bufferRemaining ctl data 0 false

/-!
## Closing
-/

def shutdownInLoop (conn : TcpConnection Id) : TcpConnection Id :=
  if conn.isWriting then conn else conn.record .shutdownWrite

def handleClose (ctl : EpollCtl Id) (conn : TcpConnection Id) : TcpConnection Id :=
  if conn.state = .kDisconnected then conn
  else
    let quiet := (conn.setState .kDisconnected).disableAll ctl
    (quiet.record (.connCallback false)).record .closeCallback

def handleError (ctl : EpollCtl Id) (conn : TcpConnection Id) : TcpConnection Id :=
  conn.handleClose ctl

def forceCloseInLoop (ctl : EpollCtl Id) (conn : TcpConnection Id) : TcpConnection Id :=
  if conn.state = .kConnected ∨ conn.state = .kDisconnecting then conn.handleClose ctl else conn

/-!
## The loop's functors
-/

def execute (ctl : EpollCtl Id) (conn : TcpConnection Id) (answer : SocksWrite) :
    Functor → TcpConnection Id
  | .sendInLoop message => conn.sendInLoop ctl message answer
  | .shutdownInLoop => conn.shutdownInLoop
  | .forceCloseInLoop => conn.forceCloseInLoop ctl
  | .writeCompleteCallback => conn.record .writeCompleteCallback
  | .highWaterMarkCallback size => conn.record (.highWaterMarkCallback size)

/-- The next functor of `do_other_tasks`; those that functors queue meanwhile come behind
all that are there. -/
def executeNext (ctl : EpollCtl Id) (conn : TcpConnection Id) (answer : SocksWrite) :
    TcpConnection Id :=
  match conn.pendingFunctors with
  | [] => conn
  | functor :: rest => ({ conn with pendingFunctors := rest }).execute ctl answer functor

def runInLoop (ctl : EpollCtl Id) (conn : TcpConnection Id) (inLoopThread : Bool)
    (answer : SocksWrite) (functor : Functor) : TcpConnection Id :=
  if inLoopThread then conn.execute ctl answer functor else conn.queueInLoop functor

/-!
## The public members
-/

/-- The three `send` overloads; they differ in where the message comes from. -/
def send (ctl : EpollCtl Id) (conn : TcpConnection Id) (inLoopThread : Bool)
    (message : List UInt8) (answer : SocksWrite) : TcpConnection Id :=
  if conn.state = .kConnected then
    if inLoopThread then conn.sendInLoop ctl message answer
    else conn.runInLoop ctl inLoopThread answer (.sendInLoop message)
  else conn

def shutdown (ctl : EpollCtl Id) (conn : TcpConnection Id) (inLoopThread : Bool) :
    TcpConnection Id :=
  if conn.state = .kConnected then
    (conn.setState .kDisconnecting).runInLoop ctl inLoopThread (.accepted 0) .shutdownInLoop
  else conn

def forceClose (conn : TcpConnection Id) : TcpConnection Id :=
  if conn.state = .kConnected ∨ conn.state = .kDisconnecting then
    (conn.setState .kDisconnecting).queueInLoop .forceCloseInLoop
  else conn

def connEstablished (ctl : EpollCtl Id) (conn : TcpConnection Id) : TcpConnection Id :=
  if conn.state ≠ .kConnecting then conn
  else
    let connected := conn.setState .kConnected
    match connected.poller.enableReading ctl connected.channel with
    | (poller, true) => ({ connected with poller := poller }).record (.connCallback true)
    | (poller, false) => ({ connected with poller := poller }).handleClose ctl

def connDestroyed (ctl : EpollCtl Id) (conn : TcpConnection Id) : TcpConnection Id :=
  let released :=
    if conn.state = .kConnected then
      ((conn.setState .kDisconnected).disableAll ctl).record (.connCallback false)
    else conn
  { released with poller := released.poller.remove ctl released.channel }

/-!
## The handlers of the channel
-/

def handleRead (ctl : EpollCtl Id) (conn : TcpConnection Id) (answer : SocksRead) :
    TcpConnection Id :=
  let (input, n) := conn.inputBuffer.bbReadFd answer
  let fed := { conn with inputBuffer := input }
  if n > 0 then fed.record (.msgCallback input.readable)
  else if n = 0 then fed.handleClose ctl
  else fed.handleError ctl

/-- What `_handle_write` does when it finds the buffer drained. -/
def writeFinished (ctl : EpollCtl Id) (conn : TcpConnection Id) : TcpConnection Id :=
  let quiet := conn.disableWriting ctl
  let told :=
    if quiet.hasWriteCompleteCallback then quiet.queueInLoop .writeCompleteCallback else quiet
  if told.state = .kDisconnecting then told.shutdownInLoop else told

/-- `_handle_write` behind its `socks_write`, with what that write left behind. -/
def afterBufferedWrite (ctl : EpollCtl Id) (conn : TcpConnection Id) (outcome : WriteOutcome) :
    TcpConnection Id :=
  let tried := conn.record (.wrote outcome)
  if outcome.n > 0 then
    let drained := tried.retrieveOutput outcome.n.toNat
    if drained.outputBuffer.bbBytesReadable = 0 then drained.writeFinished ctl else drained
  else tried.handleClose ctl

def handleWrite (ctl : EpollCtl Id) (conn : TcpConnection Id) (answer : SocksWrite) :
    TcpConnection Id :=
  if conn.isWriting then
    conn.afterBufferedWrite ctl (socksWrite conn.outputBuffer.readable answer)
  else conn

/-- `Channel::handle_event` with the callbacks the constructor binds. -/
def handleEvent (ctl : EpollCtl Id) (conn : TcpConnection Id) (revents : EventMask)
    (read : SocksRead) (write : SocksWrite) : TcpConnection Id :=
  let hungUp :=
    if revents &&& POLLHUP ≠ 0 ∧ revents &&& POLLIN = 0 then conn.handleClose ctl else conn
  let failed :=
    if revents &&& (POLLERR ||| POLLNVAL) ≠ 0 then hungUp.handleError ctl else hungUp
  let readable :=
    if revents &&& (POLLIN ||| POLLPRI ||| POLLRDHUP) ≠ 0 then failed.handleRead ctl read
    else failed
  if revents &&& POLLOUT ≠ 0 then readable.handleWrite ctl write else readable

end TcpConnection

/-- One step of a connection: a member called, a handler of its channel, or the next
functor of the loop. -/
inductive ConnStep where
  | connEstablished
  | send (inLoopThread : Bool) (message : List UInt8) (answer : SocksWrite)
  | sendInLoop (data : List UInt8) (answer : SocksWrite)
  | shutdown (inLoopThread : Bool)
  | forceClose
  | handleRead (answer : SocksRead)
  | handleWrite (answer : SocksWrite)
  | handleClose
  | handleError
  | handleEvent (revents : EventMask) (read : SocksRead) (write : SocksWrite)
  | executeNext (answer : SocksWrite)
  | connDestroyed

def TcpConnection.step {Id : Type} [DecidableEq Id] (conn : TcpConnection Id)
    (action : EpollCtl Id × ConnStep) : TcpConnection Id :=
  match action with
  | (ctl, .connEstablished) => conn.connEstablished ctl
  | (ctl, .send inLoopThread message answer) => conn.send ctl inLoopThread message answer
  | (ctl, .sendInLoop data answer) => conn.sendInLoop ctl data answer
  | (ctl, .shutdown inLoopThread) => conn.shutdown ctl inLoopThread
  | (_, .forceClose) => conn.forceClose
  | (ctl, .handleRead answer) => conn.handleRead ctl answer
  | (ctl, .handleWrite answer) => conn.handleWrite ctl answer
  | (ctl, .handleClose) => conn.handleClose ctl
  | (ctl, .handleError) => conn.handleError ctl
  | (ctl, .handleEvent revents read write) => conn.handleEvent ctl revents read write
  | (ctl, .executeNext answer) => conn.executeNext ctl answer
  | (ctl, .connDestroyed) => conn.connDestroyed ctl

end Talko.Network
