import Talko.Network.InetAddress

/-!
# What addresses print

The port and the pair of address and port are printed as they were given. `inet_2_ip` returns what
the array on its stack holds: `socks_2_ip` leaves an array alone that has room for a
`sockaddr_in`.
-/

set_option autoImplicit false

namespace Talko.Network

open Talko.Library

/-!
## Texts in arrays
-/

theorem zero_not_mem_decimalText (value : Nat) : (0 : UInt8) ∉ decimalText value := by
  intro member
  have digit := isDigit_decimalText value 0 member
  exact absurd digit (by decide)

theorem overwrite_append (front behind data : List UInt8) :
    overwrite (front ++ behind) front.length data =
      front ++ data ++ behind.drop data.length := by
  rw [overwrite, List.take_left, ← List.drop_drop, List.drop_left]

/-- A text written with its zero is the string of the array, with what is clean in front. -/
theorem stringOf_overwrite {front text : List UInt8} (frontClean : (0 : UInt8) ∉ front)
    (clean : (0 : UInt8) ∉ text) (behind : List UInt8) :
    stringOf (overwrite (front ++ behind) front.length (text ++ [0])) = some (front ++ text) := by
  have both : (0 : UInt8) ∉ front ++ text := by
    rw [List.mem_append]
    exact fun member => member.elim frontClean clean
  unfold stringOf
  rw [overwrite_append, ← List.append_assoc front, List.append_assoc (front ++ text),
    List.singleton_append, strlen_append_zero both, Option.map_some, List.take_left]

theorem dottedText_eq (sAddr : UInt32) :
    ∃ a b c d : UInt8, littleEndian 4 sAddr.toNat = [a, b, c, d] ∧
      dottedText sAddr = decimalText a.toNat ++ asciiText "." ++ (decimalText b.toNat ++
        asciiText "." ++ (decimalText c.toNat ++ asciiText "." ++ decimalText d.toNat)) := by
  refine ⟨_, _, _, _, rfl, ?_⟩
  simp only [dottedText, littleEndian, List.map_cons, List.map_nil, List.intercalate_cons_cons,
    List.intercalate_singleton]

theorem length_decimalText_byte (byte : UInt8) : (decimalText byte.toNat).length ≤ 3 :=
  length_decimalText_le (by decide) (Nat.lt_trans byte.toNat_lt (by decide))

theorem length_dottedText_le (sAddr : UInt32) : (dottedText sAddr).length ≤ 15 := by
  obtain ⟨a, b, c, d, -, shape⟩ := dottedText_eq sAddr
  have first := length_decimalText_byte a
  have second := length_decimalText_byte b
  have third := length_decimalText_byte c
  have fourth := length_decimalText_byte d
  have dot : (asciiText ".").length = 1 := rfl
  simp only [shape, List.length_append, dot]
  omega

theorem zero_not_mem_dottedText (sAddr : UInt32) : (0 : UInt8) ∉ dottedText sAddr := by
  obtain ⟨a, b, c, d, -, shape⟩ := dottedText_eq sAddr
  have dot : (0 : UInt8) ∉ asciiText "." := by decide
  simp only [shape, List.mem_append, zero_not_mem_decimalText, dot, or_self, not_false_eq_true]

/-!
## Reading an address
-/

theorem ptonLoop_digit {octets : List UInt8} {current : Option Nat} (leads : current ≠ some 0)
    {digit : Nat} (small : digit < 10) (fits : current.getD 0 * 10 + digit ≤ 255)
    (rest : List UInt8) :
    ptonLoop octets current (digitByte digit :: rest) =
      ptonLoop octets (some (current.getD 0 * 10 + digit)) rest := by
  obtain ⟨isDigit, code⟩ := digitByte_spec small
  have nonzero : digitByte digit ≠ 0 := by
    intro zero
    rw [zero] at code
    have : (0 : UInt8).toNat = 0 := rfl
    omega
  have taken : (digitByte digit).toNat - 48 = digit := by omega
  simp only [ptonLoop, if_neg nonzero, isDigit, if_true, taken]
  rw [if_neg]
  rintro (zero | more)
  · exact leads zero
  · omega

/-- The digits of a byte are read as its value. -/
theorem ptonLoop_decimalText (octets : List UInt8) {value : Nat} (small : value ≤ 255)
    (rest : List UInt8) :
    ptonLoop octets none (decimalText value ++ rest) = ptonLoop octets (some value) rest := by
  induction value using Nat.strongRecOn generalizing rest with
  | ind value ih =>
      by_cases single : value < 10
      · have first := @ptonLoop_digit octets none nofun value single (by simpa using small) rest
        rw [decimalText_of_lt single, List.singleton_append, first]
        simp
      · have digit : value % 10 < 10 := Nat.mod_lt _ (by decide)
        have whole : value / 10 * 10 + value % 10 = value := Nat.div_add_mod' value 10
        have leads : some (value / 10) ≠ some 0 := by
          intro zero
          have := Option.some.inj zero
          omega
        have last := @ptonLoop_digit octets (some (value / 10)) leads (value % 10) digit
          (by simpa [whole] using small) rest
        rw [decimalText_of_ge (by omega), List.append_assoc, List.singleton_append,
          ih (value / 10) (by omega) (by omega), last, Option.getD_some, whole]

theorem ptonLoop_dot {octets : List UInt8} (more : octets.length ≠ 3) (value : Nat)
    (rest : List UInt8) :
    ptonLoop octets (some value) (asciiText "." ++ rest) =
      ptonLoop (octets ++ [UInt8.ofNat value]) none rest := by
  have dot : asciiText "." ++ rest = asciiCode '.' :: rest := rfl
  have nonzero : asciiCode '.' ≠ 0 := by decide
  have notDigit : isDigit (asciiCode '.') = false := by decide
  simp only [dot, ptonLoop, if_neg nonzero, notDigit, Bool.false_eq_true, if_false, if_true,
    if_neg more]

theorem ptonLoop_dotted {octets bytes : List UInt8} (count : octets.length + bytes.length = 4)
    (some : bytes ≠ []) :
    ptonLoop octets none
        (List.intercalate (asciiText ".") (bytes.map (decimalText ·.toNat))) =
      .some (octets ++ bytes) := by
  induction bytes generalizing octets with
  | nil => exact absurd rfl some
  | cons byte rest ih =>
      have small : byte.toNat ≤ 255 := Nat.le_of_lt_succ byte.toNat_lt
      cases rest with
      | nil =>
          have full : octets.length = 3 := by simpa using count
          have read := ptonLoop_decimalText octets small []
          rw [List.append_nil] at read
          rw [List.map_singleton, List.intercalate_singleton, read, ptonLoop, ptonEnd, if_pos full,
            UInt8.ofNat_toNat]
      | cons next rest =>
          have more : octets.length ≠ 3 := by
            simp only [List.length_cons] at count
            omega
          have remaining : (octets ++ [byte]).length + (next :: rest).length = 4 := by
            simp only [List.length_append, List.length_cons, List.length_nil] at count ⊢
            omega
          have later := ih remaining (List.cons_ne_nil next rest)
          rw [List.map_cons] at later
          rw [List.map_cons, List.map_cons, List.intercalate_cons_cons, List.append_assoc,
            ptonLoop_decimalText octets small, ptonLoop_dot more,
            UInt8.ofNat_toNat, later, List.append_assoc, List.singleton_append]

/-- Reading undoes printing. -/
theorem inetPton_dottedText (sAddr : UInt32) : inetPton (dottedText sAddr) = some sAddr := by
  have bytes : (littleEndian 4 sAddr.toNat).length = 4 := length_littleEndian 4 _
  have fits : sAddr.toNat < 256 ^ 4 := UInt32.toNat_lt _
  have read := @ptonLoop_dotted [] (littleEndian 4 sAddr.toNat) (by simp)
    (List.ne_nil_of_length_pos (by omega))
  rw [inetPton, dottedText, read, Option.map_some, List.nil_append,
    ofLittleEndian_littleEndian, Nat.mod_eq_of_lt fits, UInt32.ofNat_toNat]

/-!
## Printing an address
-/

theorem length_localBuf (garbage : Nat → UInt8) :
    (InetAddress.localBuf garbage).length = 32 := by
  rw [InetAddress.localBuf, List.length_map, List.length_range]

namespace InetAddress

/-- The text of address and port. -/
def ipportText (addr : InetAddress) : List UInt8 :=
  dottedText addr.sinAddr ++ (asciiText ":" ++ decimalText addr.inet2Port.toNat)

theorem length_ipportText_le (addr : InetAddress) : (ipportText addr).length ≤ 21 := by
  have address := length_dottedText_le addr.sinAddr
  have port : (decimalText addr.inet2Port.toNat).length ≤ 5 :=
    length_decimalText_le (by decide) (Nat.lt_trans addr.inet2Port.toNat_lt (by decide))
  have colon : (asciiText ":").length = 1 := rfl
  simp only [ipportText, List.length_append, colon]
  omega

/-- Both writes stay inside the array, and its string is the text. -/
theorem socks2Ipport_localBuf (addr : InetAddress) (garbage : Nat → UInt8) :
    ∃ buf, socks2Ipport (localBuf garbage) 32 addr = some buf ∧ buf.length = 32 ∧
      stringOf buf = some addr.ipportText := by
  have room := length_dottedText_le addr.sinAddr
  have all := length_ipportText_le addr
  have size := length_localBuf garbage
  have clean := zero_not_mem_dottedText addr.sinAddr
  have portClean : (0 : UInt8) ∉ asciiText ":" ++ decimalText addr.inet2Port.toNat := by
    rw [List.mem_append]
    exact fun member => member.elim (by decide) (zero_not_mem_decimalText _)
  have printed : inetNtop (localBuf garbage) 32 addr.sinAddr =
      dottedText addr.sinAddr ++
        0 :: (localBuf garbage).drop ((dottedText addr.sinAddr).length + 1) := by
    have whole := overwrite_append [] (localBuf garbage) (dottedText addr.sinAddr ++ [0])
    rw [inetNtop, if_neg (by omega)]
    simpa using whole
  have uncut : (asciiText ":" ++ decimalText (network2Host16 addr.sinPort).toNat).take
      (32 - (dottedText addr.sinAddr).length - 1) =
        asciiText ":" ++ decimalText addr.inet2Port.toNat := by
    apply List.take_of_length_le
    change (asciiText ":" ++ decimalText addr.inet2Port.toNat).length ≤ _
    simp only [ipportText, List.length_append] at all ⊢
    omega
  have text := stringOf_overwrite clean portClean
    (0 :: (localBuf garbage).drop ((dottedText addr.sinAddr).length + 1))
  refine ⟨_, ?_, ?_, text⟩
  · unfold socks2Ipport
    dsimp only
    rw [printed, strlen_append_zero clean, Option.map_some, snprintfAt, if_neg (by omega), uncut]
  · rw [length_overwrite]
    · simp only [List.length_append, List.length_cons, List.length_drop, size]
      omega
    · simp only [ipportText, List.length_append, List.length_cons, List.length_drop,
        List.length_nil, size] at all ⊢
      omega

theorem inet2Ipport_eq (addr : InetAddress) (garbage : Nat → UInt8) :
    addr.inet2Ipport garbage = some addr.ipportText := by
  obtain ⟨buf, printed, _, text⟩ := socks2Ipport_localBuf addr garbage
  rw [inet2Ipport, printed, Option.bind_some, text]

theorem inet2Ipport_ofPort (port : UInt16) (loopbackOnly : Bool) (garbage : Nat → UInt8) :
    (ofPort port loopbackOnly).inet2Ipport garbage =
      some (asciiText (if loopbackOnly then "127.0.0.1" else "0.0.0.0") ++
        (asciiText ":" ++ decimalText port.toNat)) := by
  have back : (ofPort port loopbackOnly).inet2Port = port :=
    network2Host16_host2Network16 port
  have address :
      dottedText (host2Network32 (if loopbackOnly then kInaddrLoopback else kInaddrAny)) =
      asciiText (if loopbackOnly then "127.0.0.1" else "0.0.0.0") := by
    cases loopbackOnly <;> decide
  rw [inet2Ipport_eq, ipportText, back]
  exact congrArg (fun text => some (text ++ _)) address

/-- What was on the stack is printed. -/
theorem inet2Ip_eq (addr : InetAddress) (garbage : Nat → UInt8) :
    addr.inet2Ip garbage = stringOf (localBuf garbage) := by
  unfold inet2Ip socks2Ip
  rw [if_pos (by decide)]

theorem ofIpPort_dottedText (sAddr : UInt32) (port : UInt16) :
    ofIpPort (dottedText sAddr) port = ⟨host2Network16 port, sAddr⟩ := by
  rw [ofIpPort, socksFromIpport, inetPton_dottedText, Option.getD_some]

/-- What a caller expects of an address: it prints the text and the port it was made of,
whatever was on the stack. -/
structure PrintsBack (ip : List UInt8) (port : UInt16) : Prop where
  port_back : (ofIpPort ip port).inet2Port = port
  ip_back : ∀ garbage, (ofIpPort ip port).inet2Ip garbage = some ip
  ipport_back : ∀ garbage, (ofIpPort ip port).inet2Ipport garbage =
    some (ip ++ (asciiText ":" ++ decimalText port.toNat))

theorem not_ip_back (addr : InetAddress) {ip : List UInt8}
    (printed : ∀ garbage, addr.inet2Ip garbage = some ip) : False := by
  have unended : stringOf (localBuf fun _ => 1) = none := by decide
  have ones := printed fun _ => 1
  rw [inet2Ip_eq, unended] at ones
  cases ones

/-- On every address the port and the pair are printed back, and the address alone is not. -/
theorem printsBack_never (sAddr : UInt32) (port : UInt16) :
    (ofIpPort (dottedText sAddr) port).inet2Port = port ∧
      (∀ garbage, (ofIpPort (dottedText sAddr) port).inet2Ipport garbage =
        some (dottedText sAddr ++ (asciiText ":" ++ decimalText port.toNat))) ∧
      (∀ garbage, (ofIpPort (dottedText sAddr) port).inet2Ip garbage =
        stringOf (localBuf garbage)) ∧
      ¬ PrintsBack (dottedText sAddr) port := by
  have made := ofIpPort_dottedText sAddr port
  have back : (ofIpPort (dottedText sAddr) port).inet2Port = port := by
    rw [made]
    exact network2Host16_host2Network16 port
  refine ⟨back, ?_, inet2Ip_eq _, fun prints => not_ip_back _ prints.ip_back⟩
  intro garbage
  rw [inet2Ipport_eq, ipportText, back, made]

theorem loopback_not_printed :
    (ofIpPort (asciiText "127.0.0.1") 80).inet2Ip (fun _ => 1) = none ∧
      ¬ PrintsBack (asciiText "127.0.0.1") 80 := by
  have nothing : (ofIpPort (asciiText "127.0.0.1") 80).inet2Ip (fun _ => 1) = none := by decide
  refine ⟨nothing, fun prints => ?_⟩
  have printed := prints.ip_back fun _ => 1
  rw [nothing] at printed
  cases printed

end InetAddress

end Talko.Network
