import Mathlib.Logic.Function.Basic
import Talko.Library.Run

/-!
# Channels and the epoll poller

`Channel` of `channel.cpp` and `EpollPoller` of `epoll_poller.cpp`. A channel object
is an `Id`; its fields are kept in the state of the loop that owns it, next to the
poller's map and the set the kernel keeps behind `epollfd_`. Every channel here
belongs to this one loop, so the owner tests of `EventLoop::update_channel` and
`EventLoop::remove_channel` pass.
-/

set_option autoImplicit false

namespace Talko.Network

abbrev EventMask := BitVec 32

def POLLIN : EventMask := 1
def POLLPRI : EventMask := 2
def POLLOUT : EventMask := 4
def POLLERR : EventMask := 8
def POLLHUP : EventMask := 16
def POLLNVAL : EventMask := 32
def POLLRDHUP : EventMask := 8192

inductive ChannelIndex where
  | new
  | added
  | deleted
  deriving DecidableEq, Repr

inductive EpollOp where
  | add
  | del
  | mod
  deriving DecidableEq, Repr

/-- The set behind `epollfd_`: for each descriptor the mask and the `data.ptr`. -/
abbrev EpollSet (Id : Type) := Int → Option (EventMask × Id)

/-- A behaviour of `epoll_ctl`: the set after a call that succeeds, `none` for a call
that fails and changes nothing. -/
abbrev EpollCtl (Id : Type) := EpollSet Id → EpollOp → Int → EventMask × Id → Option (EpollSet Id)

structure EpollCall where
  operation : EpollOp
  fd : Int
  succeeded : Bool
  deriving DecidableEq, Repr

/-- The poller of one loop with the channels of that loop. -/
structure EpollPoller (Id : Type) where
  fd : Id → Int
  events : Id → EventMask
  revents : Id → EventMask
  index : Id → ChannelIndex
  channels : Int → Option Id
  kernel : EpollSet Id
  calls : List EpollCall

section

variable {Id : Type}

/-- `epoll_ctl` as a map from descriptors: `ADD` fails on a descriptor that is there,
`MOD` and `DEL` on one that is not. -/
def mapCtl : EpollCtl Id := fun set operation fd event =>
  match operation, set fd with
  | .add, none => some (Function.update set fd (some event))
  | .add, some _ => none
  | .mod, some _ => some (Function.update set fd (some event))
  | .mod, none => none
  | .del, some _ => some (Function.update set fd none)
  | .del, none => none

namespace Channel

def noneEvent : EventMask := 0

def readEvent : EventMask := POLLIN ||| POLLPRI

def writeEvent : EventMask := POLLOUT

end Channel

namespace EpollPoller

def new (fd : Id → Int) : EpollPoller Id where
  fd := fd
  events := fun _ => 0
  revents := fun _ => 0
  index := fun _ => .new
  channels := fun _ => none
  kernel := fun _ => none
  calls := []

/-!
## Fields of a channel
-/

def isEventNone (p : EpollPoller Id) (channel : Id) : Bool :=
  p.events channel == Channel.noneEvent

def isWriting (p : EpollPoller Id) (channel : Id) : Bool :=
  p.events channel &&& Channel.writeEvent != 0

def update (ctl : EpollCtl Id) (p : EpollPoller Id) (operation : EpollOp) (channel : Id) :
    EpollPoller Id × Bool :=
  match ctl p.kernel operation (p.fd channel) (p.events channel, channel) with
  | some kernel =>
      ({ p with kernel := kernel, calls := p.calls ++ [⟨operation, p.fd channel, true⟩] }, true)
  | none => ({ p with calls := p.calls ++ [⟨operation, p.fd channel, false⟩] }, false)

variable [DecidableEq Id]

def setIndex (p : EpollPoller Id) (channel : Id) (index : ChannelIndex) : EpollPoller Id :=
  { p with index := Function.update p.index channel index }

def setRevents (p : EpollPoller Id) (channel : Id) (revents : EventMask) : EpollPoller Id :=
  { p with revents := Function.update p.revents channel revents }

def setEvents (p : EpollPoller Id) (channel : Id) (events : EventMask) : EpollPoller Id :=
  { p with events := Function.update p.events channel events }

def newChannel (p : EpollPoller Id) (channel : Id) (fd : Int) : EpollPoller Id :=
  { p with
    fd := Function.update p.fd channel fd
    events := Function.update p.events channel 0
    revents := Function.update p.revents channel 0
    index := Function.update p.index channel .new }

/-!
## The poller
-/

def updateChannel (ctl : EpollCtl Id) (p : EpollPoller Id) (channel : Id) :
    EpollPoller Id × Bool :=
  match p.index channel with
  | .new =>
      if (p.channels (p.fd channel)).isSome then (p, false)
      else
        let mapped := { p with channels := Function.update p.channels (p.fd channel) (some channel) }
        update ctl (mapped.setIndex channel .added) .add channel
  | .deleted =>
      if (p.channels (p.fd channel)).isNone then (p, false)
      else if p.channels (p.fd channel) ≠ some channel then (p, false)
      else update ctl (p.setIndex channel .added) .add channel
  | .added =>
      if p.channels (p.fd channel) ≠ some channel then (p, false)
      else if p.isEventNone channel then
        match update ctl p .del channel with
        | (q, true) => (q.setIndex channel .deleted, true)
        | (q, false) => (q, false)
      else update ctl p .mod channel

def removeChannel (ctl : EpollCtl Id) (p : EpollPoller Id) (channel : Id) : EpollPoller Id :=
  if p.channels (p.fd channel) ≠ some channel ∨ p.isEventNone channel = false then p
  else
    let erased := { p with channels := Function.update p.channels (p.fd channel) none }
    match p.index channel with
    | .new => p
    | .added => (update ctl erased .del channel).1.setIndex channel .new
    | .deleted => erased.setIndex channel .new

/-- `_fill_active_channels` on the events `epoll_wait` stored: each is a `data.ptr` and
a mask. The loop returns at the first event whose channel is not the one mapped to its
descriptor. -/
def fillActiveChannels (p : EpollPoller Id) :
    List (Id × EventMask) → List Id → EpollPoller Id × List Id
  | [], active => (p, active)
  | (channel, revents) :: rest, active =>
      if p.channels (p.fd channel) ≠ some channel then (p, active)
      else fillActiveChannels (p.setRevents channel revents) rest (active ++ [channel])

/-!
## The members of a channel
-/

/-- What the five interest members share: new events, then `_update()`. -/
def setInterest (ctl : EpollCtl Id) (p : EpollPoller Id) (channel : Id) (events : EventMask) :
    EpollPoller Id × Bool :=
  updateChannel ctl (p.setEvents channel events) channel

def enableReading (ctl : EpollCtl Id) (p : EpollPoller Id) (channel : Id) :
    EpollPoller Id × Bool :=
  setInterest ctl p channel (p.events channel ||| Channel.readEvent)

def disableReading (ctl : EpollCtl Id) (p : EpollPoller Id) (channel : Id) :
    EpollPoller Id × Bool :=
  setInterest ctl p channel (p.events channel &&& ~~~Channel.readEvent)

def enableWriting (ctl : EpollCtl Id) (p : EpollPoller Id) (channel : Id) :
    EpollPoller Id × Bool :=
  setInterest ctl p channel (p.events channel ||| Channel.writeEvent)

def disableWriting (ctl : EpollCtl Id) (p : EpollPoller Id) (channel : Id) :
    EpollPoller Id × Bool :=
  setInterest ctl p channel (p.events channel &&& ~~~Channel.writeEvent)

def disableAll (ctl : EpollCtl Id) (p : EpollPoller Id) (channel : Id) :
    EpollPoller Id × Bool :=
  setInterest ctl p channel Channel.noneEvent

def remove (ctl : EpollCtl Id) (p : EpollPoller Id) (channel : Id) : EpollPoller Id :=
  if p.isEventNone channel then removeChannel ctl p channel else p

end EpollPoller

inductive ChannelCall (Id : Type) where
  | enableReading (channel : Id)
  | disableReading (channel : Id)
  | enableWriting (channel : Id)
  | disableWriting (channel : Id)
  | disableAll (channel : Id)
  | remove (channel : Id)
  deriving DecidableEq, Repr

def ChannelCall.channel : ChannelCall Id → Id
  | .enableReading channel | .disableReading channel | .enableWriting channel
  | .disableWriting channel | .disableAll channel | .remove channel => channel

def EpollPoller.call [DecidableEq Id] (ctl : EpollCtl Id) (p : EpollPoller Id) :
    ChannelCall Id → EpollPoller Id
  | .enableReading channel => (p.enableReading ctl channel).1
  | .disableReading channel => (p.disableReading ctl channel).1
  | .enableWriting channel => (p.enableWriting ctl channel).1
  | .disableWriting channel => (p.disableWriting ctl channel).1
  | .disableAll channel => (p.disableAll ctl channel).1
  | .remove channel => p.remove ctl channel

end

end Talko.Network
