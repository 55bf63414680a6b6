import Talko.Library.Run
import Talko.Network.ByteBufferProperties

/-!
# Reading from a socket into a buffer

`bb_read_fd` on Linux reads into `extrabuf` and then only moves the write index over
the free space, as if the bytes had been read there. What becomes readable are the
bytes the free space held before, so the stream is faithful exactly where these
happen to agree with the delivered ones.
-/

set_option autoImplicit false

namespace Talko.Network.ByteBuffer

open Talko.Library

/-- The bytes one call adds to the readable ones: first what the free space held,
then, from the start of `extrabuf`, as many as are missing. -/
def added (b : ByteBuffer) (answer : SocksRead) : List UInt8 :=
  (b.writable ++ answer.bytes).take answer.bytes.length

theorem length_added (b : ByteBuffer) (answer : SocksRead) :
    (b.added answer).length = answer.bytes.length := by
  simp only [added, List.length_take, List.length_append]
  omega

def readStep (b : ByteBuffer) (answer : SocksRead) : ByteBuffer :=
  (b.bbReadFd answer).1

theorem readStep_of_nonpos {b : ByteBuffer} {answer : SocksRead} (nothing : answer.n ≤ 0) :
    b.readStep answer = b := by
  unfold readStep bbReadFd
  simp [nothing]

theorem readStep_of_fits {b : ByteBuffer} {delivery : Delivery}
    (fits : delivery.bytes.length ≤ b.bbBytesWriteable) :
    b.readStep (.delivered delivery) =
      { b with writeIdx := b.writeIdx + delivery.bytes.length } := by
  have positive := delivery.nonempty
  have counted : ¬ (delivery.bytes.length : Int) ≤ 0 := by omega
  simp only [readStep, bbReadFd, SocksRead.n, counted, Int.toNat_natCast, fits, if_true, if_false]

theorem readStep_of_spills {b : ByteBuffer} {delivery : Delivery}
    (spills : ¬ delivery.bytes.length ≤ b.bbBytesWriteable) :
    b.readStep (.delivered delivery) =
      ByteBuffer.bbAppend { b with writeIdx := b.buffer.length }
        (delivery.bytes.take (delivery.bytes.length - b.bbBytesWriteable)) := by
  have positive := delivery.nonempty
  have counted : ¬ (delivery.bytes.length : Int) ≤ 0 := by omega
  simp only [readStep, bbReadFd, SocksRead.n, SocksRead.bytes, counted, Int.toNat_natCast, spills,
    if_false]

private theorem readStep_spec_fits {b : ByteBuffer} (valid : b.Valid) {delivery : Delivery}
    (fits : delivery.bytes.length ≤ b.bbBytesWriteable) :
    (b.readStep (.delivered delivery)).Valid ∧
      (b.readStep (.delivered delivery)).readable =
        b.readable ++ b.added (.delivered delivery) := by
  have order := valid.read_le_write
  have size := valid.write_le_size
  have stop : b.writeIdx + delivery.bytes.length ≤ b.buffer.length := by
    unfold bbBytesWriteable at fits
    omega
  have old : b.added (.delivered delivery) =
      range b.buffer b.writeIdx (b.writeIdx + delivery.bytes.length) := by
    simp only [added, SocksRead.bytes]
    rw [List.take_append_of_le_length (by rw [length_writable]; exact fits)]
    unfold writable
    rw [← range_length, range_take stop]
  rw [readStep_of_fits fits, old]
  exact ⟨⟨Nat.le_add_right_of_le order, stop⟩, (range_append order (Nat.le_add_right _ _)).symm⟩

private theorem readStep_spec_spills {b : ByteBuffer} (valid : b.Valid) {delivery : Delivery}
    (spills : ¬ delivery.bytes.length ≤ b.bbBytesWriteable) :
    (b.readStep (.delivered delivery)).Valid ∧
      (b.readStep (.delivered delivery)).readable =
        b.readable ++ b.added (.delivered delivery) := by
  have order := valid.read_le_write
  have size := valid.write_le_size
  have full : Valid { b with writeIdx := b.buffer.length } :=
    ⟨Nat.le_trans order size, Nat.le_refl _⟩
  have whole : b.writable.length ≤ delivery.bytes.length := by
    rw [length_writable]
    omega
  have free : range b.buffer b.readIdx b.buffer.length = b.readable ++ b.writable := by
    unfold readable writable
    rw [← range_length]
    exact (range_append order size).symm
  have old : b.added (.delivered delivery) =
      b.writable ++ delivery.bytes.take (delivery.bytes.length - b.bbBytesWriteable) := by
    simp only [added, SocksRead.bytes]
    rw [List.take_append, List.take_of_length_le whole, length_writable]
  rw [readStep_of_spills spills, old, ← List.append_assoc, ← free]
  exact ⟨bbAppend_valid full _, bbAppend_readable full _⟩

theorem readStep_spec {b : ByteBuffer} (valid : b.Valid) (answer : SocksRead) :
    (b.readStep answer).Valid ∧ (b.readStep answer).readable = b.readable ++ b.added answer := by
  cases answer with
  | delivered delivery =>
      by_cases fits : delivery.bytes.length ≤ b.bbBytesWriteable
      · exact readStep_spec_fits valid fits
      · exact readStep_spec_spills valid fits
  | closed =>
      rw [readStep_of_nonpos (by simp [SocksRead.n])]
      exact ⟨valid, by simp [added, SocksRead.bytes]⟩
  | failed errno =>
      rw [readStep_of_nonpos (by simp [SocksRead.n])]
      exact ⟨valid, by simp [added, SocksRead.bytes]⟩

/-- The free space in front of the delivered bytes starts with these bytes. It holds
whenever there is no free space. -/
def StaleBytesAgree (b : ByteBuffer) (answer : SocksRead) : Prop :=
  (b.writable ++ answer.bytes).take answer.bytes.length = answer.bytes

instance (b : ByteBuffer) (answer : SocksRead) : Decidable (b.StaleBytesAgree answer) :=
  inferInstanceAs (Decidable (_ = _))

private theorem run_reads_extends {b : ByteBuffer} (valid : b.Valid) (answers : List SocksRead) :
    ∃ tail, (run readStep b answers).readable = b.readable ++ tail := by
  induction answers generalizing b with
  | nil => exact ⟨[], (List.append_nil _).symm⟩
  | cons answer rest ih =>
      obtain ⟨nextValid, next⟩ := readStep_spec valid answer
      obtain ⟨tail, extended⟩ := ih nextValid
      refine ⟨b.added answer ++ tail, ?_⟩
      rw [run_cons, extended, next, List.append_assoc]

private theorem run_reads_iff {b : ByteBuffer} (valid : b.Valid) (answers : List SocksRead) :
    (run readStep b answers).readable = b.readable ++ (answers.map SocksRead.bytes).flatten ↔
      Guarded readStep StaleBytesAgree b answers := by
  induction answers generalizing b with
  | nil => simp
  | cons answer rest ih =>
      obtain ⟨nextValid, next⟩ := readStep_spec valid answer
      obtain ⟨tail, extended⟩ := run_reads_extends nextValid rest
      have rest_iff := ih nextValid
      simp only [run_cons, guarded_cons, List.map_cons, List.flatten_cons, ← rest_iff]
      simp only [extended, next, List.append_assoc, List.append_cancel_left_eq]
      constructor
      · intro same
        exact List.append_inj same (length_added b answer)
      · rintro ⟨agree, same⟩
        have agreed : b.added answer = answer.bytes := agree
        rw [agreed, same]

/-- What the inbound stream promises for a run of reads: the readable bytes are the
old ones followed by all delivered ones, and a read that delivers nothing changes
nothing. -/
def InboundFaithful (b : ByteBuffer) (answers : List SocksRead) : Prop :=
  (run readStep b answers).readable = b.readable ++ (answers.map SocksRead.bytes).flatten ∧
    ∀ answer : SocksRead, answer.n ≤ 0 →
      ((run readStep b answers).readStep answer).readable = (run readStep b answers).readable

/-- The stream is faithful exactly when at every call the free space holds, by chance,
the bytes that are delivered. -/
theorem inboundFaithful_iff {b : ByteBuffer} (valid : b.Valid) (answers : List SocksRead) :
    b.InboundFaithful answers ↔ Guarded readStep StaleBytesAgree b answers := by
  rw [← run_reads_iff valid answers]
  constructor
  · intro faithful
    exact faithful.1
  · intro content
    refine ⟨content, ?_⟩
    intro answer nothing
    rw [readStep_of_nonpos nothing]

private def oneByte : SocksRead :=
  .delivered ⟨[65], by decide, by decide⟩

private theorem new_added_oneByte : new.added oneByte = [0] := by
  have free : new.writable = List.replicate initialSize 0 := List.drop_replicate
  have first : initialSize = 1023 + 1 := rfl
  simp only [added, oneByte, SocksRead.bytes, free]
  rw [first, List.replicate_succ]
  rfl

theorem fresh_buffer_read_unfaithful :
    ¬ ∀ (b : ByteBuffer), b.Valid → ∀ answers : List SocksRead, b.InboundFaithful answers := by
  intro always
  have content := (always new new_wellFormed.toValid [oneByte]).1
  rw [run_cons, run_nil, (readStep_spec new_wellFormed.toValid oneByte).2, new_readable,
    new_added_oneByte] at content
  revert content
  decide

theorem full_buffer_read_faithful :
    InboundFaithful ⟨[7, 8, 9], 1, 3⟩ [oneByte, .closed, oneByte] :=
  (inboundFaithful_iff ⟨by decide, by decide⟩ _).mpr (by decide)

end Talko.Network.ByteBuffer
