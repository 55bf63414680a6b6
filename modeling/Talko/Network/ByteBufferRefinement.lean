import Mathlib.Logic.Function.Basic
import Talko.Library.Simulation
import Talko.Network.ByteBufferProperties

/-!
# Buffers as byte deques

The abstract side of `ByteBuffer`: a list of bytes with append, prepend, and drops
at either end. Runs act on a family of buffers, so that `bb_swap` can exchange two
of them. The only thing the abstract list leaves open is whether a prepend finds room.
-/

set_option autoImplicit false

namespace Talko.Network

open Talko.Library

/-- One call on one buffer. `retrieveUntil k` passes the pointer `bb_peek() + k`. -/
inductive BufferCall where
  | append (data : List UInt8)
  | retrieve (k : Nat)
  | retrieveAll
  | retrieveAsString (k : Nat)
  | retrieveAllAsString
  | retrieveUntil (k : Nat)
  | bytesUnwrite (k : Nat)
  | prepend (data : List UInt8)
  | bytesCheckWritable (len : Nat)
  | shrink (reserve : Nat)
  deriving DecidableEq, Repr

inductive BufferOp (Name : Type) where
  | call (name : Name) (request : BufferCall)
  | swap (first second : Name)

inductive BufferReply where
  | done
  | answer (ok : Bool)
  | bytes (data : List UInt8)
  | thrown
  deriving DecidableEq, Repr

def BufferCall.perform (b : ByteBuffer) : BufferCall → ByteBuffer × BufferReply
  | .append data => (b.bbAppend data, .done)
  | .retrieve k => ((b.bbRetrieve k).1, .answer (b.bbRetrieve k).2)
  | .retrieveAll => (b.bbRetrieveAll, .done)
  | .retrieveAsString k => ((b.bbRetrieveAsString k).1, .bytes (b.bbRetrieveAsString k).2)
  | .retrieveAllAsString => (b.bbRetrieveAllAsString.1, .bytes b.bbRetrieveAllAsString.2)
  | .retrieveUntil k =>
      ((b.bbRetrieveUntil (b.bbPeek + k)).1, .answer (b.bbRetrieveUntil (b.bbPeek + k)).2)
  | .bytesUnwrite k => ((b.bbBytesUnwrite k).1, .answer (b.bbBytesUnwrite k).2)
  | .prepend data => ((b.bbPrepend data).1, .answer (b.bbPrepend data).2)
  | .bytesCheckWritable len => (b.bbBytesCheckWritable len, .answer true)
  | .shrink reserve => (b.bbShrink reserve).elim (b, .thrown) fun shrunk => (shrunk, .done)

def BufferOp.perform {Name : Type} [DecidableEq Name] (buffers : Name → ByteBuffer) :
    BufferOp Name → (Name → ByteBuffer) × BufferReply
  | .call name request =>
      (Function.update buffers name (request.perform (buffers name)).1,
        (request.perform (buffers name)).2)
  | .swap first second =>
      let swapped := (buffers first).bbSwap (buffers second)
      (Function.update (Function.update buffers first swapped.1) second swapped.2, .done)

/-!
## The abstract deque
-/

/-- The call on a list of bytes. `accepts` says whether a prepend finds room. -/
def BufferCall.onList (accepts : Bool) (bytes : List UInt8) :
    BufferCall → List UInt8 × BufferReply
  | .append data => (bytes ++ data, .done)
  | .retrieve k | .retrieveUntil k =>
      if k ≤ bytes.length then (bytes.drop k, .answer true) else (bytes, .answer false)
  | .retrieveAll => ([], .done)
  | .retrieveAsString k =>
      if k ≤ bytes.length then (bytes.drop k, .bytes (bytes.take k)) else (bytes, .bytes [])
  | .retrieveAllAsString => ([], .bytes bytes)
  | .bytesUnwrite k =>
      if k ≤ bytes.length then (bytes.take (bytes.length - k), .answer true)
      else (bytes, .answer false)
  | .prepend data => if accepts then (data ++ bytes, .answer true) else (bytes, .answer false)
  | .bytesCheckWritable _ => (bytes, .answer true)
  | .shrink _ => (bytes, .done)

/-- The deques a call may lead to, with the reply it gives. -/
def DequeStep {Name : Type} [DecidableEq Name] (lists : Name → List UInt8)
    (op : BufferOp Name) (reply : BufferReply) (next : Name → List UInt8) : Prop :=
  match op with
  | .call name request =>
      ∃ accepts, next = Function.update lists name (request.onList accepts (lists name)).1 ∧
        reply = (request.onList accepts (lists name)).2
  | .swap first second =>
      next = Function.update (Function.update lists first (lists second)) second (lists first) ∧
        reply = .done

/-- `bb_shrink` is called with fewer than `2 ^ 31` readable bytes. -/
def ShrinkFits {Name : Type} (buffers : Name → ByteBuffer) : BufferOp Name → Prop
  | .call name (.shrink _) => (buffers name).bbBytesReadable < 2 ^ 31
  | _ => True

/-!
## Calls on one buffer
-/

namespace BufferCall

def Fits (b : ByteBuffer) : BufferCall → Prop
  | .shrink _ => b.bbBytesReadable < 2 ^ 31
  | _ => True

theorem perform_wellFormed {b : ByteBuffer} (formed : b.WellFormed) (call : BufferCall)
    (fits : call.Fits b) : (call.perform b).1.WellFormed := by
  cases call with
  | append data => exact ByteBuffer.bbAppend_wellFormed formed data
  | retrieve k => exact ByteBuffer.bbRetrieve_wellFormed formed k
  | retrieveAll => exact ByteBuffer.bbRetrieveAll_wellFormed formed
  | retrieveAsString k =>
      simp only [perform, ByteBuffer.bbRetrieveAsString_state]
      exact ByteBuffer.bbRetrieve_wellFormed formed k
  | retrieveAllAsString =>
      simp only [perform, ByteBuffer.bbRetrieveAllAsString, ByteBuffer.bbRetrieveAsString_state]
      exact ByteBuffer.bbRetrieve_wellFormed formed _
  | retrieveUntil k =>
      simp only [perform, ByteBuffer.bbRetrieveUntil_eq formed.toValid]
      exact ByteBuffer.bbRetrieve_wellFormed formed k
  | bytesUnwrite k => exact ByteBuffer.bbBytesUnwrite_wellFormed formed k
  | prepend data => exact ByteBuffer.bbPrepend_wellFormed formed data
  | bytesCheckWritable len => exact ByteBuffer.bbBytesCheckWritable_wellFormed formed len
  | shrink reserve =>
      obtain ⟨shrunk, copied, shrunkFormed, _⟩ :=
        ByteBuffer.bbShrink_spec formed.toValid fits reserve
      simp only [perform, copied, Option.elim_some]
      exact shrunkFormed

private theorem retrieve_readable {b : ByteBuffer} (valid : b.Valid) (k : Nat) :
    (b.bbRetrieve k).1.readable =
      if k ≤ b.readable.length then b.readable.drop k else b.readable := by
  rw [valid.length_readable]
  split
  · next fits => exact ByteBuffer.bbRetrieve_readable valid fits
  · next tooLong => rw [ByteBuffer.bbRetrieve_of_gt (Nat.lt_of_not_le tooLong)]

private theorem answer_eq_ite (k length : Nat) (taken kept : List UInt8) :
    BufferReply.answer (decide (k ≤ length)) =
      (if k ≤ length then (taken, BufferReply.answer true)
        else (kept, BufferReply.answer false)).2 := by
  split
  · next fits => rw [decide_eq_true fits]
  · next tooLong => rw [decide_eq_false tooLong]

private theorem perform_onList {b : ByteBuffer} (formed : b.WellFormed) (call : BufferCall)
    (fits : call.Fits b) :
    ∃ accepts, (call.perform b).1.readable = (call.onList accepts b.readable).1 ∧
      (call.perform b).2 = (call.onList accepts b.readable).2 := by
  have valid := formed.toValid
  have size := valid.length_readable
  cases call with
  | append data => exact ⟨true, ByteBuffer.bbAppend_readable valid data, rfl⟩
  | retrieveAll => exact ⟨true, ByteBuffer.bbRetrieveAll_readable b, rfl⟩
  | retrieve k =>
      refine ⟨true, ?_, ?_⟩
      · simp only [perform, onList, retrieve_readable valid]
        split <;> rfl
      · simp only [perform, onList, ByteBuffer.bbRetrieve_answer, ← size]
        exact answer_eq_ite _ _ _ _
  | retrieveUntil k =>
      refine ⟨true, ?_, ?_⟩
      · simp only [perform, onList, ByteBuffer.bbRetrieveUntil_eq valid, retrieve_readable valid]
        split <;> rfl
      · simp only [perform, onList, ByteBuffer.bbRetrieveUntil_eq valid,
          ByteBuffer.bbRetrieve_answer, ← size]
        exact answer_eq_ite _ _ _ _
  | retrieveAsString k =>
      refine ⟨true, ?_, ?_⟩
      · simp only [perform, onList, ByteBuffer.bbRetrieveAsString_state, retrieve_readable valid]
        split <;> rfl
      · simp only [perform, onList, ByteBuffer.bbRetrieveAsString_answer valid, ← size]
        split <;> rfl
  | retrieveAllAsString =>
      refine ⟨true, ?_, ?_⟩
      · simp only [perform, onList, ByteBuffer.bbRetrieveAllAsString,
          ByteBuffer.bbRetrieveAsString_state, retrieve_readable valid, ← size]
        simp
      · simp only [perform, onList, ByteBuffer.bbRetrieveAllAsString,
          ByteBuffer.bbRetrieveAsString_answer valid, ← size]
        simp
  | bytesUnwrite k =>
      refine ⟨true, ?_, ?_⟩
      · by_cases within : k ≤ b.readable.length
        · simp only [perform, onList, within, if_true]
          exact ByteBuffer.bbBytesUnwrite_readable valid (size ▸ within)
        · simp only [perform, onList, within, if_false]
          rw [ByteBuffer.bbBytesUnwrite_of_gt (by omega)]
      · simp only [perform, onList, ByteBuffer.bbBytesUnwrite_answer, ← size]
        exact answer_eq_ite _ _ _ _
  | prepend data =>
      refine ⟨decide (data.length ≤ b.bbBytesPrependable), ?_, ?_⟩
      · by_cases within : data.length ≤ b.bbBytesPrependable
        · simp only [perform, onList, within, decide_true, if_true]
          exact ByteBuffer.bbPrepend_readable valid within
        · simp only [perform, onList, within, decide_false]
          rw [ByteBuffer.bbPrepend_of_gt (Nat.lt_of_not_le within)]
          rfl
      · simp only [perform, onList, ByteBuffer.bbPrepend_answer]
        split <;> simp_all
  | bytesCheckWritable len =>
      exact ⟨true, (ByteBuffer.bbBytesCheckWritable_makesRoom valid len).readable, rfl⟩
  | shrink reserve =>
      obtain ⟨shrunk, copied, _, same, _⟩ := ByteBuffer.bbShrink_spec valid fits reserve
      refine ⟨true, ?_, ?_⟩
      · simp only [perform, onList, copied, Option.elim_some]
        exact same
      · simp only [perform, onList, copied, Option.elim_some]

private theorem perform_front {b : ByteBuffer} (formed : b.WellFormed) (call : BufferCall)
    (fits : call.Fits b) (noPrepend : ∀ data, call ≠ .prepend data)
    (front : ByteBuffer.cheapPrepend ≤ b.readIdx) :
    ByteBuffer.cheapPrepend ≤ (call.perform b).1.readIdx := by
  cases call with
  | append data => exact ByteBuffer.cheapPrepend_le_bbAppend formed.toValid front data
  | retrieve k => exact ByteBuffer.cheapPrepend_le_bbRetrieve front k
  | retrieveAll =>
      simp only [perform, ByteBuffer.bbRetrieveAll]
      exact Nat.le_refl ByteBuffer.cheapPrepend
  | retrieveAsString k =>
      simp only [perform, ByteBuffer.bbRetrieveAsString_state]
      exact ByteBuffer.cheapPrepend_le_bbRetrieve front k
  | retrieveAllAsString =>
      simp only [perform, ByteBuffer.bbRetrieveAllAsString, ByteBuffer.bbRetrieveAsString_state]
      exact ByteBuffer.cheapPrepend_le_bbRetrieve front _
  | retrieveUntil k =>
      simp only [perform, ByteBuffer.bbRetrieveUntil_eq formed.toValid]
      exact ByteBuffer.cheapPrepend_le_bbRetrieve front k
  | bytesUnwrite k =>
      simp only [perform, ByteBuffer.bbBytesUnwrite_readIdx]
      exact front
  | prepend data => exact absurd rfl (noPrepend data)
  | bytesCheckWritable len =>
      exact (ByteBuffer.bbBytesCheckWritable_makesRoom formed.toValid len).front front
  | shrink reserve =>
      obtain ⟨shrunk, copied, _, _, shrunkFront⟩ :=
        ByteBuffer.bbShrink_spec formed.toValid fits reserve
      simp only [perform, copied, Option.elim_some]
      exact shrunkFront

end BufferCall

/-!
## Runs over a family of buffers
-/

section Family

variable {Name : Type} [DecidableEq Name]

def contents (buffers : Name → ByteBuffer) : Name → List UInt8 :=
  fun name => (buffers name).readable

def freshBuffers : Name → ByteBuffer :=
  fun _ => ByteBuffer.new

def bufferStep (buffers : Name → ByteBuffer) (op : BufferOp Name) : Name → ByteBuffer :=
  (op.perform buffers).1

private theorem contents_update (buffers : Name → ByteBuffer) (name : Name) (b : ByteBuffer) :
    contents (Function.update buffers name b) =
      Function.update (contents buffers) name b.readable := by
  funext other
  exact Function.apply_update (fun _ => ByteBuffer.readable) buffers name b other

private theorem forall_update (property : ByteBuffer → Prop) {buffers : Name → ByteBuffer}
    (holds : ∀ name, property (buffers name)) (name : Name) {b : ByteBuffer}
    (holdsNew : property b) (other : Name) : property (Function.update buffers name b other) := by
  by_cases same : other = name
  · rw [same, Function.update_self]
    exact holdsNew
  · rw [Function.update_of_ne same]
    exact holds other

omit [DecidableEq Name] in
private theorem fits_of_shrinkFits {buffers : Name → ByteBuffer} {name : Name}
    {request : BufferCall} (fits : ShrinkFits buffers (.call name request)) :
    request.Fits (buffers name) := by
  cases request with
  | shrink reserve => exact fits
  | _ => trivial

private theorem step_wellFormed (buffers : Name → ByteBuffer) (op : BufferOp Name)
    (formed : ∀ name, (buffers name).WellFormed) (fits : ShrinkFits buffers op) :
    ∀ name, (bufferStep buffers op name).WellFormed := by
  cases op with
  | call name request =>
      exact forall_update ByteBuffer.WellFormed formed name
        (BufferCall.perform_wellFormed (formed name) request (fits_of_shrinkFits fits))
  | swap first second =>
      have firstFormed := forall_update ByteBuffer.WellFormed formed first (formed second)
      exact forall_update ByteBuffer.WellFormed firstFormed second (formed first)

private theorem step_simulates (buffers : Name → ByteBuffer) (op : BufferOp Name)
    (formed : ∀ name, (buffers name).WellFormed) (fits : ShrinkFits buffers op) :
    DequeStep (contents buffers) op (op.perform buffers).2 (contents (op.perform buffers).1) := by
  cases op with
  | call name request =>
      obtain ⟨accepts, bytes, reply⟩ :=
        BufferCall.perform_onList (formed name) request (fits_of_shrinkFits fits)
      refine ⟨accepts, ?_, reply⟩
      simp only [BufferOp.perform, contents_update, bytes]
      rfl
  | swap first second =>
      refine ⟨?_, rfl⟩
      simp only [BufferOp.perform, contents_update]
      rfl

private def FrontFree (b : ByteBuffer) : Prop :=
  ByteBuffer.cheapPrepend ≤ b.readIdx

private theorem step_front (buffers : Name → ByteBuffer) (op : BufferOp Name)
    (formed : ∀ name, (buffers name).WellFormed) (front : ∀ name, FrontFree (buffers name))
    (fits : ShrinkFits buffers op) (noPrepend : ∀ name data, op ≠ .call name (.prepend data)) :
    ∀ name, FrontFree (bufferStep buffers op name) := by
  cases op with
  | call name request =>
      refine forall_update FrontFree front name ?_
      refine BufferCall.perform_front (formed name) request (fits_of_shrinkFits fits) ?_
        (front name)
      intro data same
      exact noPrepend name data (congrArg (BufferOp.call name) same)
  | swap first second =>
      have firstFront := forall_update FrontFree front first (front second)
      exact forall_update FrontFree firstFront second (front first)

private theorem run_front {ops : List (BufferOp Name)} {buffers : Name → ByteBuffer}
    (formed : ∀ name, (buffers name).WellFormed) (front : ∀ name, FrontFree (buffers name))
    (fits : Guarded bufferStep ShrinkFits buffers ops)
    (noPrepend : ∀ name data, .call name (.prepend data) ∉ ops) :
    ∀ name, FrontFree (run bufferStep buffers ops name) := by
  induction ops generalizing buffers with
  | nil => exact front
  | cons op rest ih =>
      refine ih (step_wellFormed buffers op formed fits.1) ?_ fits.2
        (fun name data member => noPrepend name data (List.mem_cons_of_mem op member))
      refine step_front buffers op formed front fits.1 ?_
      intro name data same
      exact noPrepend name data (same ▸ List.mem_cons_self)

/-- A call that asks for more bytes than there are fails and changes nothing. -/
def RejectsTooMany (b : ByteBuffer) : Prop :=
  ∀ k, b.readable.length < k →
    b.bbRetrieve k = (b, false) ∧ b.bbRetrieveUntil (b.bbPeek + k) = (b, false) ∧
      b.bbRetrieveAsString k = (b, []) ∧ b.bbBytesUnwrite k = (b, false)

private theorem rejectsTooMany {b : ByteBuffer} (valid : b.Valid) : RejectsTooMany b := by
  intro k tooMany
  rw [valid.length_readable] at tooMany
  refine ⟨ByteBuffer.bbRetrieve_of_gt tooMany, ?_, ?_, ByteBuffer.bbBytesUnwrite_of_gt tooMany⟩
  · rw [ByteBuffer.bbRetrieveUntil_eq valid, ByteBuffer.bbRetrieve_of_gt tooMany]
  · simp [ByteBuffer.bbRetrieveAsString, tooMany]

/-- Every run of buffer calls from fresh buffers is a run of byte deques with the
same replies. The indices stay in order, a call for too many bytes changes nothing,
checking for room keeps the content and provides the room, and the reserved front
takes any prepend of up to `cheap_prepend` bytes until the first prepend. -/
theorem buffers_refine_deques (ops : List (BufferOp Name))
    (small : Guarded bufferStep ShrinkFits freshBuffers ops) :
    (∀ name, (run bufferStep freshBuffers ops name).Valid) ∧
      Behaves DequeStep (fun _ => []) ops (replies (fun s op => op.perform s) freshBuffers ops)
        (contents (run bufferStep freshBuffers ops)) ∧
      (∀ name, RejectsTooMany (run bufferStep freshBuffers ops name)) ∧
      (∀ name len,
        ((run bufferStep freshBuffers ops name).bbBytesCheckWritable len).readable =
            (run bufferStep freshBuffers ops name).readable ∧
          len ≤ ((run bufferStep freshBuffers ops name).bbBytesCheckWritable len).bbBytesWriteable) ∧
      ((∀ name data, .call name (.prepend data) ∉ ops) →
        ∀ name (data : List UInt8), data.length ≤ ByteBuffer.cheapPrepend →
          ((run bufferStep freshBuffers ops name).bbPrepend data).2 = true) := by
  have fresh : ∀ name : Name, (freshBuffers name).WellFormed := fun _ => ByteBuffer.new_wellFormed
  have formed : ∀ name, (run bufferStep freshBuffers ops name).WellFormed :=
    run_invariant (fun buffers => ∀ name, (buffers name).WellFormed) step_wellFormed fresh small
  refine ⟨fun name => (formed name).toValid, ?_, fun name => rejectsTooMany (formed name).toValid,
    ?_, ?_⟩
  · exact behaves_of_simulation contents step_wellFormed step_simulates fresh small
  · intro name len
    have roomy := ByteBuffer.bbBytesCheckWritable_makesRoom (formed name).toValid len
    exact ⟨roomy.readable, roomy.room⟩
  · intro noPrepend name data short
    have front := run_front fresh (fun _ => Nat.le_of_eq ByteBuffer.new_readIdx.symm) small
      noPrepend name
    rw [ByteBuffer.bbPrepend_answer, decide_eq_true_iff]
    exact Nat.le_trans short front

end Family

private def shrinkAndSwap : List (BufferOp Bool) :=
  [.call true (.append [1, 2, 3]), .call true (.shrink 5), .swap true false]

theorem shrinkAndSwap_refines :
    Behaves DequeStep (fun _ => []) shrinkAndSwap
      (replies (fun s op => op.perform s) freshBuffers shrinkAndSwap)
      (contents (run bufferStep freshBuffers shrinkAndSwap)) := by
  have valid := ByteBuffer.new_wellFormed.toValid
  have size : (ByteBuffer.new.bbAppend [1, 2, 3]).bbBytesReadable = 3 := by
    rw [← (ByteBuffer.bbAppend_valid valid _).length_readable, ByteBuffer.bbAppend_readable valid,
      ByteBuffer.new_readable]
    rfl
  refine (buffers_refine_deques shrinkAndSwap ⟨trivial, ?_, trivial, trivial⟩).2.1
  change (bufferStep freshBuffers (.call true (.append [1, 2, 3])) true).bbBytesReadable < 2 ^ 31
  simp only [bufferStep, BufferOp.perform, Function.update_self, BufferCall.perform, freshBuffers]
  rw [size]
  decide

end Talko.Network
