import Mathlib.Algebra.Group.Int.Defs
import Mathlib.Algebra.Group.Nat.Defs
import Mathlib.Data.Int.Basic

/-!
# Socket calls

What `w_sockets::socks_read` and `w_sockets::socks_write` can answer. The kernel
chooses the answer, so the functions of the network layer take it as an argument.
-/

set_option autoImplicit false

namespace Talko.Network

/-- The error numbers the network layer tells apart; `EAGAIN` is `EWOULDBLOCK`. -/
inductive Errno where
  | EWOULDBLOCK
  | EINTR
  | EPIPE
  | ECONNRESET
  | other (code : Nat)
  deriving DecidableEq, Repr

def extrabufSize : Nat := 65536

/-- The bytes one successful `read` put at the start of `extrabuf`. -/
structure Delivery where
  bytes : List UInt8
  nonempty : 0 < bytes.length
  fits : bytes.length ≤ extrabufSize

inductive SocksRead where
  | delivered (delivery : Delivery)
  | closed
  | failed (errno : Errno)

def SocksRead.n : SocksRead → Int
  | .delivered delivery => delivery.bytes.length
  | .closed => 0
  | .failed _ => -1

def SocksRead.bytes : SocksRead → List UInt8
  | .delivered delivery => delivery.bytes
  | .closed => []
  | .failed _ => []

/-- The answer of the kernel to one `write`: the number of bytes it is willing to
take, or an error. -/
inductive SocksWrite where
  | accepted (count : Nat)
  | failed (errno : Errno)
  deriving DecidableEq, Repr

inductive WriteOutcome where
  | taken (bytes : List UInt8)
  | failed (errno : Errno)
  deriving DecidableEq, Repr

def WriteOutcome.n : WriteOutcome → Int
  | .taken bytes => bytes.length
  | .failed _ => -1

/-- A `size_t` passed where the callee declares `int32_t`. -/
def sizeToInt32 (size : Nat) : Int :=
  Int.bmod size (2 ^ 32)

theorem sizeToInt32_of_lt {size : Nat} (small : size < 2 ^ 31) : sizeToInt32 size = size := by
  unfold sizeToInt32
  apply Int.bmod_eq_of_le
  · omega
  · have : (size : Int) < 2 ^ 31 := by exact_mod_cast small
    omega

def EINVAL : Errno := .other 22

/-- `w_sockets::socks_write(fd, data, data.size())`. The count goes through an
`int32_t`; a negative one reaches `write` as a count above `SSIZE_MAX`. The socket
takes a prefix of what it is offered. -/
def socksWrite (data : List UInt8) (answer : SocksWrite) : WriteOutcome :=
  let count := sizeToInt32 data.length
  if count < 0 then .failed EINVAL
  else
    match answer with
    | .accepted limit => .taken ((data.take count.toNat).take limit)
    | .failed errno => .failed errno

theorem socksWrite_taken_append {data taken : List UInt8} {answer : SocksWrite}
    (wrote : socksWrite data answer = .taken taken) :
    taken ++ data.drop taken.length = data := by
  unfold socksWrite at wrote
  dsimp only at wrote
  split at wrote
  · cases wrote
  · cases answer with
    | failed errno => cases wrote
    | accepted limit =>
        simp only [WriteOutcome.taken.injEq] at wrote
        rw [← wrote, List.take_take]
        simp only [List.length_take]
        rw [List.take_eq_take_min, List.take_append_drop]

end Talko.Network
