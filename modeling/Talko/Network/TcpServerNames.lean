import Talko.Network.InetAddressProperties
import Talko.Network.TcpServerProperties

/-!
# The names of connections

`new_conn` prints address, port and id into an array of 32 places, which cuts the id off. Two ids
whose first digits agree, as far as there is room for them, give one name, and the later
connection takes the place of the earlier one in `conn_map_`. A run that accepts few connections
meets no such pair, so its registry is exact wherever the main thread is orderly.
-/

set_option autoImplicit false

namespace Talko.Network

open Talko.Library

/-- An assignment leaves the entries of other keys alone. -/
theorem ConnMap.mem_assign_of_ne {map : ConnMap} {key : List UInt8} {conn : Nat}
    {entry : List UInt8 × Option Nat} (other : entry.1 ≠ key) :
    entry ∈ map.assign key conn ↔ entry ∈ map := by
  have apart : entry ≠ (key, some conn) := fun same => other (congrArg Prod.fst same)
  induction map with
  | nil => simp [assign, apart]
  | cons head rest ih =>
      unfold assign
      split
      case isTrue here =>
          have notHead : entry ≠ head := fun same => other (same ▸ here)
          simp [apart, notHead]
      case isFalse =>
          split
          case isTrue => simp [apart]
          case isFalse => simp [ih]

theorem ConnMap.mem_keys_assign {map : ConnMap} {key other : List UInt8} {conn : Nat}
    (member : other ∈ (map.assign key conn).keys) : other = key ∨ other ∈ map.keys := by
  by_cases same : other = key
  · exact .inl same
  · obtain ⟨entry, stored, rfl⟩ := List.mem_map.mp member
    exact .inr (List.mem_map_of_mem ((mem_assign_of_ne same).mp stored))

theorem ConnMap.mem_keys_erase {map : ConnMap} {key other : List UInt8}
    (member : other ∈ (map.erase key).keys) : other ∈ map.keys := by
  obtain ⟨entry, left, rfl⟩ := List.mem_map.mp member
  exact List.mem_map_of_mem (mem_erase.mp left).1

theorem ConnMap.keys_reset (map : ConnMap) (key : List UInt8) :
    (map.reset key).keys = map.keys := by
  induction map with
  | nil => rfl
  | cons entry rest ih =>
      have head : (if entry.1 = key then (entry.1, none) else entry).1 = entry.1 := by
        split <;> rfl
      exact congrArg₂ List.cons head ih

namespace TcpServer

/-- The name that `new_conn` builds for an id. -/
def connNameOf (server : TcpServer) (id : Int32) : List UInt8 :=
  ({ server with nextConnId := id }).connName

/-- The places of the array that the id can take. -/
def digitRoom (server : TcpServer) : Nat :=
  29 - server.hostPort.length

/-- The names of two ids differ, and the connection stored under the later one leaves the entry
of the earlier one where it is. -/
structure NamedApart (server : TcpServer) (first second : Int32) : Prop where
  names : server.connNameOf first ≠ server.connNameOf second
  stored : ∀ (map : ConnMap) (earlier later : Nat),
    (server.connNameOf first, some earlier) ∈ map →
      (server.connNameOf first, some earlier) ∈ map.assign (server.connNameOf second) later

theorem namedApart_iff_names {server : TcpServer} {first second : Int32} :
    server.NamedApart first second ↔ server.connNameOf first ≠ server.connNameOf second :=
  ⟨NamedApart.names, fun names =>
    ⟨names, fun _ _ _ member => (ConnMap.mem_assign_of_ne names).mpr member⟩⟩

/-- The name shows the first digits of an id that is not negative. -/
theorem connNameOf_eq {server : TcpServer} (short : server.hostPort.length ≤ 21) {id : Int32}
    (nonneg : 0 ≤ id.toInt) :
    server.connNameOf id = server.name ++ (asciiText ":" ++ server.hostPort ++ asciiText "#" ++
      decimalText (firstDigits server.digitRoom id.toInt.toNat)) := by
  have text : signedText id.toInt = decimalText id.toInt.toNat := by
    rw [signedText, if_neg (by omega)]
    congr 1
    omega
  have length : (asciiText ":" ++ server.hostPort ++ asciiText "#").length =
      server.hostPort.length + 2 := by
    have colon : (asciiText ":").length = 1 := rfl
    have hash : (asciiText "#").length = 1 := rfl
    rw [List.length_append, List.length_append, colon, hash]
    omega
  have room : 31 - (server.hostPort.length + 2) = server.digitRoom := by
    unfold digitRoom
    omega
  have positive : 0 < server.digitRoom := by
    unfold digitRoom
    omega
  change server.name ++ (asciiText ":" ++ server.hostPort ++ asciiText "#" ++
    signedText id.toInt).take 31 = _
  rw [text, List.take_append, List.take_of_length_le (by omega), length, room,
    take_decimalText positive]

theorem connNameOf_eq_iff {server : TcpServer} (short : server.hostPort.length ≤ 21)
    {first second : Int32} (firstNonneg : 0 ≤ first.toInt) (secondNonneg : 0 ≤ second.toInt) :
    server.connNameOf first = server.connNameOf second ↔
      firstDigits server.digitRoom first.toInt.toNat =
        firstDigits server.digitRoom second.toInt.toNat := by
  rw [connNameOf_eq short firstNonneg, connNameOf_eq short secondNonneg, List.append_cancel_left_eq,
    List.append_cancel_left_eq]
  exact decimalText_injective.eq_iff

theorem length_hostPort_le {server : TcpServer} {addr : InetAddress} {garbage : Nat → UInt8}
    (rendered : addr.inet2Ipport garbage = some server.hostPort) :
    server.hostPort.length ≤ 21 := by
  rw [InetAddress.inet2Ipport_eq] at rendered
  rw [← Option.some.inj rendered]
  exact InetAddress.length_ipportText_le addr

/-- Ids that fit into the array have names of their own. -/
theorem namedApart_of_fits {server : TcpServer} (short : server.hostPort.length ≤ 21)
    {first second : Int32} (nonneg : 0 ≤ first.toInt) (less : first.toInt < second.toInt)
    (fits : second.toInt.toNat < 10 ^ server.digitRoom) : server.NamedApart first second := by
  have positive : 0 < server.digitRoom := by
    unfold digitRoom
    omega
  have whole : ∀ id < 10 ^ server.digitRoom, firstDigits server.digitRoom id = id :=
    fun id small => firstDigits_of_length_le (length_decimalText_le positive small)
  rw [namedApart_iff_names, ne_eq, connNameOf_eq_iff short nonneg (by omega),
    whole _ (by omega), whole _ fits]
  omega

/-- The ids `10 ^ 9` and `10 ^ 9 + 1` differ in their tenth digit. -/
theorem connNameOf_tenth_digit {server : TcpServer} (short : server.hostPort.length ≤ 21)
    (long : 20 ≤ server.hostPort.length) :
    server.connNameOf 1000000000 = server.connNameOf 1000000001 := by
  have room : server.digitRoom = 8 ∨ server.digitRoom = 9 := by
    unfold digitRoom
    omega
  rw [connNameOf_eq_iff short (by decide) (by decide)]
  obtain eight | nine := room
  · rw [eight]
    decide
  · rw [nine]
    decide

/-- With room for ten digits every `int` fits. -/
theorem namedApart_of_roomy {server : TcpServer} (roomy : server.hostPort.length ≤ 19)
    {first second : Int32} (nonneg : 0 ≤ first.toInt) (less : first.toInt < second.toInt) :
    server.NamedApart first second := by
  have bounded : second.toInt < 2 ^ 31 := Int32.toInt_lt second
  have digits : 10 ^ 10 ≤ 10 ^ server.digitRoom := by
    apply Nat.pow_le_pow_right (by decide)
    unfold digitRoom
    omega
  exact namedApart_of_fits (by omega) nonneg less (by omega)

theorem connNames_apart_iff {server : TcpServer} {addr : InetAddress} {garbage : Nat → UInt8}
    (rendered : addr.inet2Ipport garbage = some server.hostPort) :
    (∀ first second : Int32, 1 ≤ first.toInt → first.toInt < second.toInt →
        (server.NamedApart first second ↔
          firstDigits server.digitRoom first.toInt.toNat ≠
            firstDigits server.digitRoom second.toInt.toNat)) ∧
      ((∀ first second : Int32, 1 ≤ first.toInt → first.toInt < second.toInt →
          server.NamedApart first second) ↔ server.hostPort.length ≤ 19) := by
  have short := length_hostPort_le rendered
  have apart : ∀ first second : Int32, 1 ≤ first.toInt → first.toInt < second.toInt →
      (server.NamedApart first second ↔
        firstDigits server.digitRoom first.toInt.toNat ≠
          firstDigits server.digitRoom second.toInt.toNat) := by
    intro first second positive less
    rw [namedApart_iff_names, ne_eq, connNameOf_eq_iff short (by omega) (by omega)]
  refine ⟨apart, ?_, ?_⟩
  · intro all
    by_contra long
    have different := all 1000000000 1000000001 (by decide) (by decide)
    exact different.names (connNameOf_tenth_digit short (by omega))
  · intro roomy first second positive less
    exact namedApart_of_roomy roomy (by omega) less

/-- The longest address and port leave room for eight digits. -/
theorem connNames_apart_iff_longest :
    (TcpServer.new (asciiText "255.255.255.255:65535") (asciiText "talko")).NamedApart
        10000000 99999999 ↔
      firstDigits 8 10000000 ≠ firstDigits 8 99999999 :=
  (connNames_apart_iff (InetAddress.inet2Ipport_eq ⟨65535, 4294967295⟩ fun _ => 0)).1
    10000000 99999999 (by decide) (by decide)

/-- There the names of `10 ^ 7` and `10 ^ 8` are the same. -/
theorem longest_address_collides :
    (⟨65535, 4294967295⟩ : InetAddress).inet2Ipport (fun _ => 0) =
        some (asciiText "255.255.255.255:65535") ∧
      ¬ (TcpServer.new (asciiText "255.255.255.255:65535") (asciiText "talko")).NamedApart
        10000000 100000000 := by
  refine ⟨by decide, fun apart => apart.names (by decide)⟩

/-- A server that is given a port only has a name for every connection. -/
theorem namedApart_of_ofPort {server : TcpServer} {port : UInt16} {loopbackOnly : Bool}
    {garbage : Nat → UInt8}
    (rendered : (InetAddress.ofPort port loopbackOnly).inet2Ipport garbage = some server.hostPort)
    {first second : Int32} (nonneg : 0 ≤ first.toInt) (less : first.toInt < second.toInt) :
    server.NamedApart first second := by
  have digits : (decimalText port.toNat).length ≤ 5 :=
    length_decimalText_le (by decide) (Nat.lt_trans port.toNat_lt (by decide))
  have colon : (asciiText ":").length = 1 := rfl
  have address : (asciiText (if loopbackOnly then "127.0.0.1" else "0.0.0.0")).length ≤ 9 := by
    cases loopbackOnly <;> decide
  rw [InetAddress.inet2Ipport_ofPort] at rendered
  apply namedApart_of_roomy _ nonneg less
  rw [← Option.some.inj rendered, List.length_append, List.length_append, colon]
  omega

/-!
## Runs that accept few connections
-/

/-- What happens gives out no id and stores no name. -/
structure KeepsNames (before after : TcpServer) : Prop where
  hostPort : after.hostPort = before.hostPort
  name : after.name = before.name
  nextConnId : after.nextConnId = before.nextConnId
  keys : ∀ key ∈ after.connMap.keys, key ∈ before.connMap.keys

theorem KeepsNames.refl (server : TcpServer) : KeepsNames server server :=
  ⟨rfl, rfl, rfl, fun _ member => member⟩

theorem KeepsNames.trans {first second third : TcpServer} (left : KeepsNames first second)
    (right : KeepsNames second third) : KeepsNames first third where
  hostPort := right.hostPort.trans left.hostPort
  name := right.name.trans left.name
  nextConnId := right.nextConnId.trans left.nextConnId
  keys key member := left.keys key (right.keys key member)

theorem editConn_keepsNames (server : TcpServer) (index : Nat) (edit : ServerConn → ServerConn) :
    KeepsNames server (server.editConn index edit) :=
  ⟨rfl, rfl, rfl, fun _ member => member⟩

theorem useLoop_keepsNames (server : TcpServer) (index : Nat) :
    KeepsNames server (server.useLoop index) := by
  unfold useLoop
  cases server.conns[index]? with
  | none => exact .refl server
  | some conn =>
      dsimp only
      split
      case isTrue => exact ⟨rfl, rfl, rfl, fun _ member => member⟩
      case isFalse => exact .refl server

theorem removeConnInLoop_keepsNames (server : TcpServer) (index : Nat) :
    KeepsNames server (server.removeConnInLoop index) := by
  unfold removeConnInLoop
  cases server.conns[index]? with
  | none => exact .refl server
  | some conn =>
      dsimp only
      split
      case isTrue =>
          have erased : KeepsNames server (TcpServer.editConn
              { server with connMap := server.connMap.erase conn.name } index queueDestroyed) :=
            ⟨rfl, rfl, rfl, fun _ => ConnMap.mem_keys_erase⟩
          exact erased.trans (useLoop_keepsNames _ index)
      case isFalse => exact .refl server

theorem handleClose_keepsNames (server : TcpServer) (index : Nat) (conn : ServerConn) :
    KeepsNames server (server.handleClose index conn) := by
  unfold handleClose
  split
  case isTrue => exact .refl server
  case isFalse =>
      have closed := editConn_keepsNames server index close
      cases conn.loop with
      | baseLoop => exact closed.trans (removeConnInLoop_keepsNames _ index)
      | worker cycle position => exact closed.trans ⟨rfl, rfl, rfl, fun _ member => member⟩

theorem connEstablished_keepsNames (server : TcpServer) (index : Nat) (conn : ServerConn)
    (registers : Bool) : KeepsNames server (server.connEstablished index conn registers) := by
  unfold connEstablished
  split
  case isTrue => exact .refl server
  case isFalse =>
      have connected := editConn_keepsNames server index ({ · with state := .kConnected })
      cases registers with
      | true => exact connected
      | false =>
          exact connected.trans (handleClose_keepsNames _ index { conn with state := .kConnected })

theorem runTask_keepsNames (server : TcpServer) (index : Nat) (conn : ServerConn)
    (registers : Bool) : KeepsNames server (server.runTask index conn registers) := by
  unfold runTask
  cases conn.tasks with
  | nil => exact .refl server
  | cons task rest =>
      have taken := editConn_keepsNames server index ({ · with tasks := rest })
      cases task with
      | connEstablished => exact taken.trans (connEstablished_keepsNames _ index _ registers)
      | connDestroyed => exact taken.trans (editConn_keepsNames _ index connDestroyed)

theorem runRemoval_keepsNames (server : TcpServer) : KeepsNames server server.runRemoval := by
  unfold runRemoval
  cases server.pendingRemovals with
  | nil => exact .refl server
  | cons index rest =>
      have taken : KeepsNames server { server with pendingRemovals := rest } :=
        ⟨rfl, rfl, rfl, fun _ member => member⟩
      exact taken.trans (removeConnInLoop_keepsNames _ index)

theorem stopEntry_keepsNames (server : TcpServer) (entry : List UInt8 × Option Nat) :
    KeepsNames server (server.stopEntry entry) := by
  unfold stopEntry
  split
  case isTrue => exact .refl server
  case isFalse =>
      cases entry.2 with
      | none => exact ⟨rfl, rfl, rfl, fun _ member => member⟩
      | some index =>
          have reset : KeepsNames server (TcpServer.editConn
              { server with connMap := server.connMap.reset entry.1 } index runDestroyed) :=
            ⟨rfl, rfl, rfl, fun _ member => (ConnMap.keys_reset server.connMap entry.1) ▸ member⟩
          exact reset.trans (useLoop_keepsNames _ index)

theorem walk_keepsNames (server : TcpServer) (entries : ConnMap) :
    KeepsNames server (entries.foldl stopEntry server) := by
  induction entries generalizing server with
  | nil => exact .refl server
  | cons entry rest ih => exact (stopEntry_keepsNames server entry).trans (ih _)

theorem stop_keepsNames (server : TcpServer) : KeepsNames server server.stop := by
  unfold stop
  split
  case isFalse => exact .refl server
  case isTrue =>
      have marked : KeepsNames server { server with conns := server.conns.map markOpen } :=
        ⟨rfl, rfl, rfl, fun _ member => member⟩
      have walked := marked.trans (walk_keepsNames _ server.connMap)
      dsimp only
      split
      case isTrue => exact walked
      case isFalse => exact walked.trans ⟨rfl, rfl, rfl, fun _ member => member⟩

theorem start_keepsNames (server : TcpServer) (count : Int) :
    KeepsNames server (server.start count) := by
  unfold start
  split
  case isTrue => exact .refl server
  case isFalse => exact ⟨rfl, rfl, rfl, fun _ member => member⟩

theorem shutdown_keepsNames (server : TcpServer) (index : Nat) :
    KeepsNames server (server.shutdown index) := by
  unfold shutdown
  cases server.conns[index]? with
  | none => exact .refl server
  | some conn =>
      dsimp only
      split
      case isTrue =>
          exact (editConn_keepsNames server index _).trans (useLoop_keepsNames _ index)
      case isFalse => exact .refl server

theorem inConnLoop_keepsNames {server : TcpServer} {index : Nat}
    {action : ServerConn → TcpServer} (kept : ∀ conn, KeepsNames server (action conn)) :
    KeepsNames server (server.inConnLoop index action) := by
  unfold inConnLoop
  cases server.conns[index]? with
  | none => exact .refl server
  | some conn =>
      dsimp only
      split
      case isTrue => exact kept conn
      case isFalse => exact .refl server

end TcpServer

/-- The step takes a connection from the acceptor. -/
def ServerStep.accepts : ServerStep → Bool
  | .newConn _ => true
  | .start _ | .stop | .joinThreads | .runRemoval | .runTask _ _ | .shutdown _
  | .handleClose _ => false

namespace TcpServer

/-- `new_conn` alone gives out ids and stores names. -/
theorem step_keepsNames (server : TcpServer) {action : ServerStep}
    (other : action.accepts = false) : KeepsNames server (server.step action) := by
  have guarded : ∀ {condition : Prop} [Decidable condition] {after : TcpServer},
      KeepsNames server after → KeepsNames server (if condition then after else server) := by
    intro condition _ after kept
    split
    case isTrue => exact kept
    case isFalse => exact .refl server
  cases action with
  | start count => exact guarded (start_keepsNames server count)
  | stop => exact guarded (stop_keepsNames server)
  | joinThreads => exact guarded ⟨rfl, rfl, rfl, fun _ member => member⟩
  | newConn registers => cases other
  | runRemoval => exact guarded (runRemoval_keepsNames server)
  | runTask index registers =>
      exact inConnLoop_keepsNames fun conn => runTask_keepsNames server index conn registers
  | shutdown index =>
      change KeepsNames server (if server.place = .crashed then server else _)
      split
      case isTrue => exact .refl server
      case isFalse => exact shutdown_keepsNames server index
  | handleClose index =>
      refine inConnLoop_keepsNames fun conn => ?_
      split
      case isTrue => exact .refl server
      case isFalse => exact handleClose_keepsNames server index conn

/-- Every key is the name of an id that was given out, and `limit` bounds the next id. -/
structure GivenNames (origin : TcpServer) (limit : Nat) (server : TcpServer) : Prop where
  hostPort : server.hostPort = origin.hostPort
  name : server.name = origin.name
  positive : 1 ≤ server.nextConnId.toInt
  within : server.nextConnId.toInt ≤ limit
  given : ∀ key ∈ server.connMap.keys, ∃ id : Int32, 1 ≤ id.toInt ∧
    id.toInt < server.nextConnId.toInt ∧ origin.connNameOf id = key

theorem new_givenNames (hostPort name : List UInt8) :
    GivenNames (new hostPort name) 1 (new hostPort name) where
  hostPort := rfl
  name := rfl
  positive := Int.le_refl 1
  within := Int.le_refl 1
  given := nofun

theorem GivenNames.kept {origin before after : TcpServer} {limit : Nat}
    (names : GivenNames origin limit before) (kept : KeepsNames before after) :
    GivenNames origin limit after where
  hostPort := kept.hostPort.trans names.hostPort
  name := kept.name.trans names.name
  positive := kept.nextConnId ▸ names.positive
  within := kept.nextConnId ▸ names.within
  given key member := kept.nextConnId ▸ names.given key (kept.keys key member)

theorem GivenNames.mono {origin server : TcpServer} {limit : Nat}
    (names : GivenNames origin limit server) : GivenNames origin (limit + 1) server where
  hostPort := names.hostPort
  name := names.name
  positive := names.positive
  within := Int.le_trans names.within (Int.ofNat_le.mpr (Nat.le_succ limit))
  given := names.given

theorem GivenNames.connName_eq {origin server : TcpServer} {limit : Nat}
    (names : GivenNames origin limit server) :
    server.connName = origin.connNameOf server.nextConnId := by
  simp only [connNameOf, connName, names.hostPort, names.name]

theorem GivenNames.fresh {origin server : TcpServer} {limit : Nat}
    (names : GivenNames origin limit server) (short : origin.hostPort.length ≤ 21)
    (fits : limit < 10 ^ origin.digitRoom) : server.connName ∉ server.connMap.keys := by
  intro taken
  obtain ⟨id, positive, earlier, same⟩ := names.given _ taken
  have within := names.within
  have apart := namedApart_of_fits short (by omega) earlier (by omega)
  exact apart.names (same.trans names.connName_eq)

theorem GivenNames.acceptConn {origin server : TcpServer} {limit : Nat}
    (names : GivenNames origin limit server) (inInt : limit < 2 ^ 31 - 1) (loop : LoopRef)
    (pool : LoopPool) : GivenNames origin (limit + 1) (server.acceptConn loop pool) := by
  have positive := names.positive
  have within := names.within
  have next : (server.nextConnId + 1).toInt = server.nextConnId.toInt + 1 := by
    have one : (1 : Int32).toInt = 1 := rfl
    rw [Int32.toInt_add, one, Int.bmod_eq_of_le (by omega) (by omega)]
  refine ⟨names.hostPort, names.name, ?_, ?_, ?_⟩
  · change 1 ≤ (server.nextConnId + 1).toInt
    omega
  · change (server.nextConnId + 1).toInt ≤ _
    omega
  · intro key member
    change ∃ id : Int32, 1 ≤ id.toInt ∧ id.toInt < (server.nextConnId + 1).toInt ∧ _
    rw [next]
    obtain rfl | old := ConnMap.mem_keys_assign member
    · exact ⟨server.nextConnId, positive, by omega, names.connName_eq.symm⟩
    · obtain ⟨id, idPositive, earlier, named⟩ := names.given key old
      exact ⟨id, idPositive, by omega, named⟩

theorem GivenNames.newConn {origin server : TcpServer} {limit : Nat}
    (names : GivenNames origin limit server) (inInt : limit < 2 ^ 31 - 1) (registers : Bool) :
    GivenNames origin (limit + 1) (server.newConn registers) := by
  unfold TcpServer.newConn
  cases server.eventLoopThreadpool with
  | none => exact names.mono
  | some pool =>
      have accepted := names.acceptConn inInt (server.getNextLoop pool).1
        (server.getNextLoop pool).2
      dsimp only
      split
      · exact accepted.kept (connEstablished_keepsNames _ _ _ registers)
      · exact accepted.kept (useLoop_keepsNames _ _)

/-- Only `new_conn` looks at a name. -/
theorem freshName_of_not_accepts (server : TcpServer) {action : ServerStep}
    (other : action.accepts = false) : server.FreshName action := by
  cases action with
  | newConn registers => cases other
  | start | stop | joinThreads | runRemoval | runTask | shutdown | handleClose => exact trivial

theorem GivenNames.guarded {origin server : TcpServer} {limit : Nat}
    (names : GivenNames origin limit server) (short : origin.hostPort.length ≤ 21)
    {actions : List ServerStep}
    (fits : limit + actions.countP ServerStep.accepts ≤ 10 ^ origin.digitRoom)
    (inInt : limit + actions.countP ServerStep.accepts ≤ 2 ^ 31 - 1) :
    Guarded step FreshName server actions := by
  induction actions generalizing server limit with
  | nil => trivial
  | cons action rest ih =>
      rw [List.countP_cons] at fits inInt
      cases accepts : action.accepts with
      | false =>
          rw [accepts] at fits inInt
          refine ⟨freshName_of_not_accepts server accepts, ?_⟩
          exact ih (names.kept (step_keepsNames server accepts)) fits inInt
      | true =>
          obtain ⟨registers, rfl⟩ : ∃ registers, action = .newConn registers := by
            cases action with
            | newConn registers => exact ⟨registers, rfl⟩
            | _ => cases accepts
          simp only [accepts, if_true] at fits inInt
          refine ⟨names.fresh short (by omega), ?_⟩
          have next : GivenNames origin (limit + 1) (server.step (.newConn registers)) := by
            change GivenNames origin (limit + 1)
              (if server.place = .looping then server.newConn registers else server)
            split
            case isTrue => exact names.newConn (by omega) registers
            case isFalse => exact names.mono
          exact ih next (by omega) (by omega)

/-- A run that accepts fewer connections than the room for the id allows gives every connection
a fresh name. -/
theorem guarded_freshName {hostPort name : List UInt8} {addr : InetAddress}
    {garbage : Nat → UInt8} (rendered : addr.inet2Ipport garbage = some hostPort)
    {actions : List ServerStep}
    (fits : actions.countP ServerStep.accepts < 10 ^ (29 - hostPort.length))
    (inInt : actions.countP ServerStep.accepts < 2 ^ 31 - 1) :
    Guarded step FreshName (new hostPort name) actions := by
  have short : (new hostPort name).hostPort.length ≤ 21 :=
    @length_hostPort_le (new hostPort name) addr garbage rendered
  refine (new_givenNames hostPort name).guarded short ?_ (by omega)
  change 1 + _ ≤ 10 ^ (29 - hostPort.length)
  omega

/-!
## The registry
-/

/-- A run that accepts few connections asks no more than that the main thread is orderly. -/
theorem exact_iff_of_few {hostPort name : List UInt8} {addr : InetAddress}
    {garbage : Nat → UInt8} (rendered : addr.inet2Ipport garbage = some hostPort)
    {actions : List ServerStep}
    (fits : actions.countP ServerStep.accepts < 10 ^ (29 - hostPort.length))
    (inInt : actions.countP ServerStep.accepts < 2 ^ 31 - 1) :
    (∀ first, first <+: actions → (run step (new hostPort name) first).RegistryExact) ↔
      Guarded step Orderly (new hostPort name) actions :=
  exact_iff_of_fresh (guarded_freshName rendered fits inInt)

end TcpServer

end Talko.Network
