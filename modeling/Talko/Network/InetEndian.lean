import Talko.Library.Endian

/-!
# Byte order of words

`host_2_networkN` and `network_2_hostN` of `inet_endian.h` on a little-endian host.
-/

set_option autoImplicit false

namespace Talko.Network

open Talko.Library

def host2Network64 (host64 : UInt64) : UInt64 :=
  UInt64.ofNat (byteSwap 8 host64.toNat)

def host2Network32 (host32 : UInt32) : UInt32 :=
  UInt32.ofNat (byteSwap 4 host32.toNat)

def host2Network16 (host16 : UInt16) : UInt16 :=
  UInt16.ofNat (byteSwap 2 host16.toNat)

def network2Host64 (net64 : UInt64) : UInt64 :=
  UInt64.ofNat (byteSwap 8 net64.toNat)

def network2Host32 (net32 : UInt32) : UInt32 :=
  UInt32.ofNat (byteSwap 4 net32.toNat)

def network2Host16 (net16 : UInt16) : UInt16 :=
  UInt16.ofNat (byteSwap 2 net16.toNat)

@[simp] theorem toNat_host2Network64 (host64 : UInt64) :
    (host2Network64 host64).toNat = byteSwap 8 host64.toNat :=
  UInt64.toNat_ofNat_of_lt (byteSwap_lt 8 host64.toNat)

@[simp] theorem toNat_host2Network32 (host32 : UInt32) :
    (host2Network32 host32).toNat = byteSwap 4 host32.toNat :=
  UInt32.toNat_ofNat_of_lt (byteSwap_lt 4 host32.toNat)

@[simp] theorem toNat_host2Network16 (host16 : UInt16) :
    (host2Network16 host16).toNat = byteSwap 2 host16.toNat :=
  UInt16.toNat_ofNat_of_lt (byteSwap_lt 2 host16.toNat)

@[simp] theorem network2Host64_host2Network64 (host64 : UInt64) :
    network2Host64 (host2Network64 host64) = host64 := by
  unfold network2Host64
  rw [toNat_host2Network64, byteSwap_byteSwap host64.toNat_lt, UInt64.ofNat_toNat]

@[simp] theorem network2Host32_host2Network32 (host32 : UInt32) :
    network2Host32 (host2Network32 host32) = host32 := by
  unfold network2Host32
  rw [toNat_host2Network32, byteSwap_byteSwap host32.toNat_lt, UInt32.ofNat_toNat]

@[simp] theorem network2Host16_host2Network16 (host16 : UInt16) :
    network2Host16 (host2Network16 host16) = host16 := by
  unfold network2Host16
  rw [toNat_host2Network16, byteSwap_byteSwap host16.toNat_lt, UInt16.ofNat_toNat]

end Talko.Network
