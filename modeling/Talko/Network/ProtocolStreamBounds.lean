import Talko.Library.Run
import Talko.Network.ProtocolStreamProperties

/-!
# Which reads stay inside the packet

The reader tests its bounds after it has copied a length prefix, decodes the copy
without a bound, and hands a buffer to `atoll` that a field of its full size leaves
without a terminator. A run of calls is safe exactly when every call that reads a
length finds a complete one, and no field read as a 64-bit number fills the buffer.
-/

set_option autoImplicit false

namespace Talko.Network

open Talko.Library

/-- What every look at memory has to satisfy for a packet of `size` bytes. -/
def Access.Safe (size : Nat) : Access → Prop
  | .packet offset => offset < size
  | .lengthBuffer index copied => index < copied ∧ copied ≤ BinaryStreamReader.lengthBufferSize
  | .atollText buffer => 0 ∈ buffer

instance (size : Nat) (access : Access) : Decidable (access.Safe size) :=
  match access with
  | .packet offset => inferInstanceAs (Decidable (offset < size))
  | .lengthBuffer index copied =>
      inferInstanceAs (Decidable (index < copied ∧ copied ≤ BinaryStreamReader.lengthBufferSize))
  | .atollText buffer => inferInstanceAs (Decidable (0 ∈ buffer))

inductive ReaderCall where
  | readString (maxlen : Nat)
  | readCString (strlen : Nat)
  | readCCString (maxlen : Nat)
  | readInt32
  | readInt64
  | readShort
  | readChar
  | readLength
  deriving DecidableEq, Repr

def ReadResult.next {α : Type} : ReadResult α → Option Nat
  | .ok _ cur => some cur
  | .failed cur => some cur
  | .overrun => none

def ReaderCall.perform (r : BinaryStreamReader) : ReaderCall → List Access × Option Nat
  | .readString maxlen => ((r.readString maxlen).accesses, (r.readString maxlen).result.next)
  | .readCString strlen => ((r.readCString strlen).accesses, (r.readCString strlen).result.next)
  | .readCCString maxlen => ((r.readCCString maxlen).accesses, (r.readCCString maxlen).result.next)
  | .readInt32 => (r.readInt32.accesses, r.readInt32.result.next)
  | .readInt64 => (r.readInt64.accesses, r.readInt64.result.next)
  | .readShort => (r.readShort.accesses, r.readShort.result.next)
  | .readChar => (r.readChar.accesses, r.readChar.result.next)
  | .readLength => (r.readLength.accesses, r.readLength.result.next)

/-- The looks at memory of a sequence of calls, up to a call without an answer. -/
def BinaryStreamReader.accesses (r : BinaryStreamReader) : List ReaderCall → List Access
  | [] => []
  | call :: rest =>
      (call.perform r).1 ++
        match (call.perform r).2 with
        | none => []
        | some cur => BinaryStreamReader.accesses { r with cur := cur } rest

def ReaderCall.step (r : BinaryStreamReader) (call : ReaderCall) : BinaryStreamReader :=
  { r with cur := (call.perform r).2.getD r.cur }

namespace BinaryStreamReader

/-- A complete length of at most five bytes stands at the position. -/
def HoldsLength (r : BinaryStreamReader) : Prop :=
  ((r.ptr.drop r.cur).take lengthBufferSize).any (fun c => !continues c) = true

instance (r : BinaryStreamReader) : Decidable r.HoldsLength :=
  inferInstanceAs (Decidable (_ = true))

/-- A field of exactly 128 bytes at the position, all in the packet, has a NUL. -/
def FullTextHasNul (r : BinaryStreamReader) : Prop :=
  ∀ buf rest, r.ptr.drop r.cur = buf ++ rest → Terminated buf → buf.length ≤ lengthBufferSize →
    read7BitEncoded32 buf = some int64strSize → int64strSize ≤ rest.length →
    0 ∈ rest.take int64strSize

def Serves (r : BinaryStreamReader) : ReaderCall → Prop
  | .readInt32 | .readShort | .readChar => True
  | .readLength | .readString _ | .readCString _ | .readCCString _ => r.HoldsLength
  | .readInt64 => r.HoldsLength ∧ r.FullTextHasNul

/-!
## Reading a length
-/

private theorem packetAccesses_safe {start count size : Nat} (inside : start + count ≤ size) :
    ∀ access ∈ packetAccesses start count, access.Safe size := by
  intro access member
  simp only [packetAccesses, List.mem_map, List.mem_range'_1] at member
  obtain ⟨offset, bounds, rfl⟩ := member
  change offset < size
  omega

theorem readLength_of_holds {r : BinaryStreamReader} (holds : r.HoldsLength) :
    ∃ buf rest value, r.ptr.drop r.cur = buf ++ rest ∧ Terminated buf ∧
      buf.length ≤ lengthBufferSize ∧ read7BitEncoded32 buf = some value ∧
      r.cur + buf.length ≤ r.len ∧
      r.readLengthWithoutOffset.result = .ok (buf.length, value) r.cur ∧
      ∀ access ∈ r.readLengthWithoutOffset.accesses, access.Safe r.len := by
  obtain ⟨buf, rest, found, complete, short⟩ := exists_terminated holds
  obtain ⟨decodes, inspected⟩ := read7Bit_of_terminated complete 32 0 0
  obtain ⟨value, decoded⟩ := Option.isSome_iff_exists.mp decodes
  have inside : r.cur + buf.length ≤ r.len := by
    have size := congrArg List.length found
    have positive : 0 < buf.length := by
      cases buf with
      | nil => exact complete.elim
      | cons c others => simp
    simp only [List.length_drop, List.length_append] at size
    unfold len
    omega
  have decoded32 : read7BitEncoded32 buf = some value := decoded
  have call : r.readLengthWithoutOffset =
      ⟨packetAccesses r.cur buf.length ++ (List.range buf.length).map (.lengthBuffer · buf.length),
        .ok (buf.length, value) r.cur⟩ := by
    simp only [readLengthWithoutOffset, copyLength_of_terminated found complete short,
      Nat.not_lt.mpr inside, if_false, decoded32, inspected]
  refine ⟨buf, rest, value, found, complete, short, decoded32, inside, by rw [call], ?_⟩
  rw [call]
  intro access member
  rcases List.mem_append.mp member with copied | looked
  · exact packetAccesses_safe inside access copied
  · obtain ⟨index, bound, rfl⟩ := List.mem_map.mp looked
    exact ⟨List.mem_range.mp bound, short⟩

theorem continues_of_lacks {r : BinaryStreamReader} (lacks : ¬ r.HoldsLength) :
    ∀ c ∈ (r.ptr.drop r.cur).take lengthBufferSize, continues c = true := by
  intro c member
  by_contra stops
  exact lacks (List.any_eq_true.mpr ⟨c, member, by simp [stops]⟩)

/-- The bytes for a length lie in the packet when so many are left. -/
theorem lengthBuffer_inside {r : BinaryStreamReader}
    (inside : lengthBufferSize ≤ (r.ptr.drop r.cur).length) :
    r.cur + lengthBufferSize ≤ r.len := by
  rw [List.length_drop] at inside
  unfold lengthBufferSize len at *
  omega

/-- Without a complete length the call looks at a byte behind the packet, or behind
the five bytes it copied. -/
private theorem readLength_of_not_holds {r : BinaryStreamReader} (lacks : ¬ r.HoldsLength) :
    ∃ access ∈ r.readLengthWithoutOffset.accesses, ¬ access.Safe r.len := by
  have size : (r.ptr.drop r.cur).length = r.len - r.cur := List.length_drop
  rcases copyLength_of_continues (continues_of_lacks lacks) with ⟨full, inside, continuing⟩ | outside
  · obtain ⟨decoded, inspected⟩ := read7Bit_of_continues continuing 32 0 0
    have decoded32 : read7BitEncoded32 (copyLength r.load lengthBufferSize r.cur) = none := decoded
    have fits := lengthBuffer_inside inside
    refine ⟨.lengthBuffer lengthBufferSize lengthBufferSize, ?_, fun safe => Nat.lt_irrefl _ safe.1⟩
    simp only [readLengthWithoutOffset, full, Nat.not_lt.mpr fits, if_false, decoded32, inspected]
    refine List.mem_append_right _ (List.mem_map.mpr ⟨lengthBufferSize, ?_, rfl⟩)
    exact List.mem_range.mpr (Nat.lt_succ_self _)
  · refine ⟨.packet (r.cur + (r.len - r.cur)), ?_, ?_⟩
    · have copied : Access.packet (r.cur + (r.len - r.cur)) ∈
          packetAccesses r.cur (copyLength r.load lengthBufferSize r.cur).length := by
        refine List.mem_map.mpr ⟨r.cur + (r.len - r.cur), ?_, rfl⟩
        rw [size] at outside
        rw [List.mem_range'_1]
        omega
      simp only [readLengthWithoutOffset]
      split
      · exact copied
      · split <;> exact List.mem_append_left _ copied
    · change ¬ r.cur + (r.len - r.cur) < r.len
      omega

/-!
## Reading a string
-/

private theorem readBytes_head (r : BinaryStreamReader) (tooLong : Nat → Bool) (copies : Bool) :
    ∀ access ∈ r.readLengthWithoutOffset.accesses, access ∈ (r.readBytes tooLong copies).accesses := by
  intro access member
  simp only [readBytes]
  split
  · exact member
  · exact member
  · split
    · exact member
    · split
      · exact member
      · exact List.mem_append_left _ member

theorem readBytes_of_holds {r : BinaryStreamReader} (holds : r.HoldsLength)
    (tooLong : Nat → Bool) (copies : Bool) :
    (∀ access ∈ (r.readBytes tooLong copies).accesses, access.Safe r.len) ∧
      ∃ buf rest value, r.ptr.drop r.cur = buf ++ rest ∧ Terminated buf ∧
        buf.length ≤ lengthBufferSize ∧ read7BitEncoded32 buf = some value ∧
        (r.readBytes tooLong copies).result =
          if tooLong value then .failed r.cur
          else if rest.length < value then .failed (r.cur + buf.length)
          else .ok (rest.take value) (r.cur + buf.length + value) := by
  obtain ⟨buf, rest, value, found, complete, short, decoded, inside, head, safe⟩ :=
    readLength_of_holds holds
  have remaining : rest.length = r.len - (r.cur + buf.length) := by
    have size := congrArg List.length found
    simp only [List.length_drop, List.length_append] at size
    unfold len
    omega
  have body : r.ptr.drop (r.cur + buf.length) = rest := by
    rw [← List.drop_drop, found, List.drop_left]
  have bounds : r.cur + buf.length + value > r.len ↔ rest.length < value := by omega
  refine ⟨?_, buf, rest, value, found, complete, short, decoded, ?_⟩
  · simp only [readBytes, head]
    split
    · exact safe
    · split
      · exact safe
      · next fits =>
          intro access member
          rcases List.mem_append.mp member with before | looked
          · exact safe access before
          · cases copies with
            | false => exact absurd looked (by simp)
            | true => exact packetAccesses_safe (Nat.le_of_not_lt fits) access looked
  · simp only [readBytes, head, bounds]
    split
    · rfl
    · split
      · rfl
      · next fits =>
          have taken : (rest.take value).length = value := by
            rw [List.length_take]
            omega
          have copied := @copy_of_drop r (r.cur + buf.length) (rest.take value) (rest.drop value)
            (by rw [List.take_append_drop, body])
          rw [taken] at copied
          rw [copied]

private theorem next_isSome_ite {α : Type} (first second : Prop) [Decidable first]
    [Decidable second] (cur cur' cur'' : Nat) (value : α) :
    (if first then ReadResult.failed cur else if second then .failed cur'
      else .ok value cur'').next.isSome = true := by
  split
  · rfl
  · split <;> rfl

private theorem readBytes_safe_iff (r : BinaryStreamReader) (tooLong : Nat → Bool)
    (copies : Bool) :
    ((∀ access ∈ (r.readBytes tooLong copies).accesses, access.Safe r.len) ↔ r.HoldsLength) ∧
      (r.HoldsLength → (r.readBytes tooLong copies).result.next.isSome = true) := by
  refine ⟨⟨?_, fun holds => (readBytes_of_holds holds tooLong copies).1⟩, ?_⟩
  · intro safe
    by_contra lacks
    obtain ⟨access, member, unsafeAccess⟩ := readLength_of_not_holds lacks
    exact unsafeAccess (safe access (readBytes_head r tooLong copies access member))
  · intro holds
    obtain ⟨_, buf, rest, value, _, _, _, _, result⟩ := readBytes_of_holds holds tooLong copies
    rw [result]
    exact next_isSome_ite _ _ _ _ _ _

private theorem readLength_safe_iff (r : BinaryStreamReader) :
    ((∀ access ∈ r.readLength.accesses, access.Safe r.len) ↔ r.HoldsLength) ∧
      (r.HoldsLength → r.readLength.result.next.isSome = true) := by
  have same : r.readLength.accesses = r.readLengthWithoutOffset.accesses := by
    simp only [readLength]
    split <;> rfl
  refine ⟨⟨?_, ?_⟩, ?_⟩
  · intro safe
    by_contra lacks
    obtain ⟨access, member, unsafeAccess⟩ := readLength_of_not_holds lacks
    rw [← same] at member
    exact unsafeAccess (safe access member)
  · intro holds
    obtain ⟨_, _, _, _, _, _, _, _, _, safe⟩ := readLength_of_holds holds
    rw [same]
    exact safe
  · intro holds
    obtain ⟨_, _, _, _, _, _, _, _, head, _⟩ := readLength_of_holds holds
    simp only [readLength, head]
    rfl

/-!
## Reading a number
-/

private theorem readWord_safe (r : BinaryStreamReader) (valueSize : Nat) :
    (∀ access ∈ (r.readWord valueSize).accesses, access.Safe r.len) ∧
      (r.readWord valueSize).result.next.isSome = true := by
  unfold readWord
  split
  · exact ⟨by simp, rfl⟩
  · next fits => exact ⟨packetAccesses_safe (Nat.le_of_not_lt fits), rfl⟩

private theorem map_next {α β : Type} (f : α → β) (call : ReadCall α) :
    (call.map f).result.next = call.result.next := by
  cases call with
  | mk accesses result => cases result <;> rfl

private theorem zero_mem_int64str {field : List UInt8} (fits : field.length ≤ int64strSize) :
    0 ∈ int64str field ↔ field.length = int64strSize → 0 ∈ field := by
  unfold int64str
  rw [List.mem_append, List.mem_replicate]
  constructor
  · rintro (inside | ⟨room, _⟩) full
    · exact inside
    · omega
  · intro filled
    by_cases full : field.length = int64strSize
    · exact Or.inl (filled full)
    · exact Or.inr ⟨by omega, rfl⟩

/-- The length at the position is unique. -/
theorem lengthPrefix_unique {r : BinaryStreamReader} {buf rest other tail : List UInt8}
    (found : r.ptr.drop r.cur = buf ++ rest) (complete : Terminated buf)
    (short : buf.length ≤ lengthBufferSize) (otherFound : r.ptr.drop r.cur = other ++ tail)
    (otherComplete : Terminated other) (otherShort : other.length ≤ lengthBufferSize) :
    other = buf ∧ tail = rest := by
  have same : other = buf := by
    rw [← copyLength_of_terminated otherFound otherComplete otherShort,
      copyLength_of_terminated found complete short]
  refine ⟨same, ?_⟩
  rw [found, same] at otherFound
  exact (List.append_cancel_left otherFound).symm

/-- Its value decides whether the buffer for the text fills up. -/
private theorem fullTextHasNul_iff {r : BinaryStreamReader} {buf rest : List UInt8} {value : Nat}
    (found : r.ptr.drop r.cur = buf ++ rest) (complete : Terminated buf)
    (short : buf.length ≤ lengthBufferSize) (decoded : read7BitEncoded32 buf = some value) :
    r.FullTextHasNul ↔
      (value = int64strSize → int64strSize ≤ rest.length → 0 ∈ rest.take int64strSize) := by
  constructor
  · intro nul same enough
    exact nul buf rest found complete short (by rw [decoded, same]) enough
  · intro nul other tail otherFound otherComplete otherShort otherDecoded enough
    obtain ⟨rfl, rfl⟩ :=
      lengthPrefix_unique found complete short otherFound otherComplete otherShort
    rw [decoded] at otherDecoded
    exact nul (Option.some.inj otherDecoded) enough

private theorem readInt64_safe_iff (r : BinaryStreamReader) :
    ((∀ access ∈ r.readInt64.accesses, access.Safe r.len) ↔ r.HoldsLength ∧ r.FullTextHasNul) ∧
      (r.HoldsLength → r.readInt64.result.next.isSome = true) := by
  obtain ⟨text_iff, _⟩ := readBytes_safe_iff r (fun fieldlen => fieldlen > int64strSize) true
  have inherits : ∀ access ∈ (r.readCString int64strSize).accesses,
      access ∈ r.readInt64.accesses := by
    intro access member
    simp only [readInt64]
    split
    · exact member
    · exact member
    · exact List.mem_append_left _ member
  by_cases holds : r.HoldsLength
  · obtain ⟨safe, buf, rest, value, found, complete, short, decoded, result⟩ :=
      readBytes_of_holds holds (fun fieldlen => fieldlen > int64strSize) true
    rw [fullTextHasNul_iff found complete short decoded]
    simp only [readInt64, readCString, result, holds, true_and]
    by_cases long : value > int64strSize
    · simp only [long, decide_true, if_true]
      refine ⟨⟨?_, fun _ => safe⟩, fun _ => rfl⟩
      intro _ same
      omega
    · simp only [long, decide_false, Bool.false_eq_true, if_false]
      by_cases cut : rest.length < value
      · simp only [cut, if_true]
        refine ⟨⟨?_, fun _ => safe⟩, fun _ => rfl⟩
        intro _ same enough
        omega
      · simp only [cut, if_false]
        have taken : (rest.take value).length = value := by
          rw [List.length_take]
          omega
        have short : (rest.take value).length ≤ int64strSize := by omega
        have text := zero_mem_int64str short
        refine ⟨⟨?_, ?_⟩, fun _ => rfl⟩
        · intro all same enough
          have terminated : 0 ∈ int64str (rest.take value) :=
            all (.atollText (int64str (rest.take value)))
              (List.mem_append_right _ (List.mem_singleton_self _))
          rw [← same]
          exact text.mp terminated (by rw [taken, same])
        · intro nul access member
          rcases List.mem_append.mp member with before | last
          · exact safe access before
          · rw [List.mem_singleton] at last
            subst last
            change 0 ∈ int64str (rest.take value)
            refine text.mpr ?_
            intro full
            rw [taken] at full
            have found := nul full (by omega)
            rw [full]
            exact found
  · refine ⟨⟨?_, fun served => absurd served.1 holds⟩, fun held => absurd held holds⟩
    intro safe
    exact absurd (text_iff.mp fun access member => safe access (inherits access member)) holds

/-!
## Runs of calls
-/

private theorem perform_safe_iff (r : BinaryStreamReader) (call : ReaderCall) :
    ((∀ access ∈ (call.perform r).1, access.Safe r.len) ↔ r.Serves call) ∧
      (r.Serves call → (call.perform r).2.isSome = true) := by
  cases call with
  | readString maxlen => exact readBytes_safe_iff r _ true
  | readCString strlen => exact readBytes_safe_iff r _ true
  | readCCString maxlen => exact readBytes_safe_iff r _ false
  | readLength => exact readLength_safe_iff r
  | readInt64 =>
      obtain ⟨safe_iff, returns⟩ := readInt64_safe_iff r
      exact ⟨safe_iff, fun served => returns served.1⟩
  | readInt32 =>
      obtain ⟨safe, returns⟩ := readWord_safe r 4
      simp only [ReaderCall.perform, readInt32, map_next]
      exact ⟨⟨fun _ => trivial, fun _ => safe⟩, fun _ => returns⟩
  | readShort =>
      obtain ⟨safe, returns⟩ := readWord_safe r 2
      simp only [ReaderCall.perform, readShort, map_next]
      exact ⟨⟨fun _ => trivial, fun _ => safe⟩, fun _ => returns⟩
  | readChar =>
      obtain ⟨safe, returns⟩ := readWord_safe r 1
      simp only [ReaderCall.perform, readChar, map_next]
      exact ⟨⟨fun _ => trivial, fun _ => safe⟩, fun _ => returns⟩

/-- Every look at memory of a run of calls is safe. -/
def StaysInside (r : BinaryStreamReader) (calls : List ReaderCall) : Prop :=
  ∀ access ∈ r.accesses calls, access.Safe r.len

instance (r : BinaryStreamReader) (calls : List ReaderCall) : Decidable (r.StaysInside calls) :=
  inferInstanceAs (Decidable (∀ access ∈ r.accesses calls, access.Safe r.len))

private theorem staysInside_iff (r : BinaryStreamReader) (calls : List ReaderCall) :
    r.StaysInside calls ↔ Guarded ReaderCall.step Serves r calls := by
  induction calls generalizing r with
  | nil => simp [StaysInside, accesses]
  | cons call rest ih =>
      obtain ⟨safe_iff, returns⟩ := perform_safe_iff r call
      rw [guarded_cons]
      constructor
      · intro inside
        have served : r.Serves call :=
          safe_iff.mp fun access member => inside access (List.mem_append_left _ member)
        obtain ⟨cur, next⟩ := Option.isSome_iff_exists.mp (returns served)
        refine ⟨served, (ih _).mp ?_⟩
        intro access member
        refine inside access (List.mem_append_right _ ?_)
        simp only [ReaderCall.step, next, Option.getD_some] at member ⊢
        exact member
      · rintro ⟨served, others⟩ access member
        obtain ⟨cur, next⟩ := Option.isSome_iff_exists.mp (returns served)
        have later := (ih _).mpr others
        simp only [ReaderCall.step, next, Option.getD_some] at later
        simp only [accesses, next] at member
        rcases List.mem_append.mp member with first | second
        · exact safe_iff.mpr served access first
        · exact later access second

/-- A reader over a packet of any length stays inside it, inside the length bytes it
copied and inside a terminated text exactly when the packet serves every call. -/
theorem reader_staysInside_iff (p : List UInt8) (behind : Nat → UInt8) (calls : List ReaderCall) :
    (new p behind).StaysInside calls ↔ Guarded ReaderCall.step Serves (new p behind) calls :=
  staysInside_iff (new p behind) calls

/-- A packet of six bytes has no length at its position: the byte behind it is read. -/
theorem empty_packet_overread :
    ¬ ∀ (p : List UInt8) (behind : Nat → UInt8) (calls : List ReaderCall),
      (new p behind).StaysInside calls := by
  intro always
  have inside := always [0, 0, 0, 6, 0, 0] (fun _ => 0) [.readString 0]
  revert inside
  decide

end BinaryStreamReader

end Talko.Network
