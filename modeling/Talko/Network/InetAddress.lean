import Talko.Library.ByteRange
import Talko.Library.CharBuffer
import Talko.Library.Decimal
import Talko.Network.InetEndian

/-!
# Addresses

`InetAddress` with `socks_from_ipport`, `socks_2_ip` and `socks_2_ipport`, which it goes through.
The functions that print are given arrays that nothing was written to: what these hold is an
argument. A `std::string` made of an array without a zero has no value.
-/

set_option autoImplicit false

namespace Talko.Network

open Talko.Library

/-!
## `inet_pton`, `inet_ntop` and `snprintf`
-/

/-- The dotted decimal form of an address in the byte order of the network. -/
def dottedText (sAddr : UInt32) : List UInt8 :=
  List.intercalate (asciiText ".") ((littleEndian 4 sAddr.toNat).map (decimalText ·.toNat))

/-- `inet_ntop(AF_INET, ..)` writes nothing when the text and its zero do not fit. -/
def inetNtop (buf : List UInt8) (size : Nat) (sAddr : UInt32) : List UInt8 :=
  if size < (dottedText sAddr).length + 1 then buf else overwrite buf 0 (dottedText sAddr ++ [0])

/-- Behind the text, with the octets found and the value of the one being read. -/
def ptonEnd (octets : List UInt8) : Option Nat → Option (List UInt8)
  | none => none
  | some value => if octets.length = 3 then some (octets ++ [UInt8.ofNat value]) else none

def ptonLoop (octets : List UInt8) (current : Option Nat) : List UInt8 → Option (List UInt8)
  | [] => ptonEnd octets current
  | ch :: rest =>
      if ch = 0 then ptonEnd octets current
      else if isDigit ch then
        let value := current.getD 0 * 10 + (ch.toNat - 48)
        -- neither a digit behind a leading zero nor more than a byte
        if current = some 0 ∨ value > 255 then none else ptonLoop octets (some value) rest
      else if ch = asciiCode '.' then
        match current with
        | none => none
        | some value =>
            if octets.length = 3 then none
            else ptonLoop (octets ++ [UInt8.ofNat value]) none rest
      else none

/-- `inet_pton(AF_INET, ..)`: four decimal numbers of a byte with dots between them. -/
def inetPton (text : List UInt8) : Option UInt32 :=
  (ptonLoop [] none text).map fun octets => UInt32.ofNat (ofLittleEndian octets)

/-- `snprintf(buf + place, size, ..)` of a text. -/
def snprintfAt (buf : List UInt8) (place size : Nat) (text : List UInt8) : List UInt8 :=
  if size = 0 then buf else overwrite buf place (text.take (size - 1) ++ [0])

/-- The `std::string` that a zero in an array ends. -/
def stringOf (buf : List UInt8) : Option (List UInt8) :=
  (strlen buf).map (buf.take ·)

/-!
## Addresses
-/

/-- `sin_port` and `sin_addr` of a `sockaddr_in`, in the byte order of the network. -/
structure InetAddress where
  sinPort : UInt16
  sinAddr : UInt32
  deriving DecidableEq, Repr

def sizeofSockaddrIn : Nat := 16

def kInaddrAny : UInt32 := 0

def kInaddrLoopback : UInt32 := 0x7F000001

/-- An address that cannot be read leaves the one before. -/
def socksFromIpport (ip : List UInt8) (port : UInt16) (addr : InetAddress) : InetAddress where
  sinPort := host2Network16 port
  sinAddr := (inetPton ip).getD addr.sinAddr

def socks2Ipport (buf : List UInt8) (size : Nat) (addr : InetAddress) : Option (List UInt8) :=
  let buf := inetNtop buf size addr.sinAddr
  (strlen buf).map fun stop =>
    snprintfAt buf stop (size - stop)
      (asciiText ":" ++ decimalText (network2Host16 addr.sinPort).toNat)

def socks2Ip (buf : List UInt8) (size : Nat) (addr : InetAddress) : List UInt8 :=
  if size ≥ sizeofSockaddrIn then buf else inetNtop buf size addr.sinAddr

namespace InetAddress

def ofPort (port : UInt16) (loopbackOnly : Bool) : InetAddress where
  sinPort := host2Network16 port
  sinAddr := host2Network32 (if loopbackOnly then kInaddrLoopback else kInaddrAny)

def ofIpPort (ip : List UInt8) (port : UInt16) : InetAddress :=
  socksFromIpport ip port ⟨0, 0⟩

/-- `char buf[32]`, of which `garbage` is what it happens to hold. -/
def localBuf (garbage : Nat → UInt8) : List UInt8 :=
  (List.range 32).map garbage

def inet2Ipport (addr : InetAddress) (garbage : Nat → UInt8) : Option (List UInt8) :=
  (socks2Ipport (localBuf garbage) 32 addr).bind stringOf

def inet2Ip (addr : InetAddress) (garbage : Nat → UInt8) : Option (List UInt8) :=
  stringOf (socks2Ip (localBuf garbage) 32 addr)

def inet2Port (addr : InetAddress) : UInt16 :=
  network2Host16 addr.sinPort

end InetAddress

end Talko.Network
