import Talko.Network.ByteBuffer

/-!
# What each buffer operation does

One law for each operation of `ByteBuffer`: what it does to the readable bytes, and
that it keeps the indices in order. Later modules cite these and unfold no operation.
-/

set_option autoImplicit false

namespace Talko.Network

namespace ByteBuffer

open Talko.Library

/-- A buffer whose vector also holds the reserved front, as every buffer built by
the constructor does. `bb_retrieve_all` relies on it. -/
structure WellFormed (b : ByteBuffer) : Prop extends Valid b where
  reserved : cheapPrepend ≤ b.buffer.length

theorem new_wellFormed : new.WellFormed := by
  have size : new.buffer.length = cheapPrepend + initialSize := List.length_replicate
  refine ⟨⟨Nat.le_refl _, ?_⟩, ?_⟩
  · rw [size]
    exact Nat.le_add_right _ _
  · rw [size]
    exact Nat.le_add_right _ _

@[simp] theorem new_readable : new.readable = [] :=
  range_self _ _

@[simp] theorem new_readIdx : new.readIdx = cheapPrepend := rfl

theorem Valid.length_readable {b : ByteBuffer} (valid : b.Valid) :
    b.readable.length = b.bbBytesReadable :=
  length_range valid.write_le_size

theorem length_writable (b : ByteBuffer) : b.writable.length = b.bbBytesWriteable :=
  List.length_drop

/-!
## Taking bytes out
-/

theorem bbRetrieveAll_wellFormed {b : ByteBuffer} (formed : b.WellFormed) :
    b.bbRetrieveAll.WellFormed :=
  ⟨⟨Nat.le_refl _, formed.reserved⟩, formed.reserved⟩

@[simp] theorem bbRetrieveAll_readable (b : ByteBuffer) : b.bbRetrieveAll.readable = [] :=
  range_self _ _

theorem bbRetrieveAllAsString_fst (b : ByteBuffer) :
    b.bbRetrieveAllAsString.1 = b.bbRetrieveAll := by
  simp [bbRetrieveAllAsString, bbRetrieveAsString, bbRetrieve]

theorem bbRetrieve_of_gt {b : ByteBuffer} {len : Nat} (tooLong : b.bbBytesReadable < len) :
    b.bbRetrieve len = (b, false) := by
  simp [bbRetrieve, tooLong]

theorem bbRetrieve_answer (b : ByteBuffer) (len : Nat) :
    (b.bbRetrieve len).2 = decide (len ≤ b.bbBytesReadable) := by
  unfold bbRetrieve
  split
  · next tooLong => simp [Nat.not_le.mpr tooLong]
  · next fits =>
      have within : len ≤ b.bbBytesReadable := Nat.le_of_not_lt fits
      split <;> simp [within]

theorem bbRetrieve_readable {b : ByteBuffer} (valid : b.Valid) {len : Nat}
    (fits : len ≤ b.bbBytesReadable) :
    (b.bbRetrieve len).1.readable = b.readable.drop len := by
  unfold bbRetrieve
  rw [if_neg (Nat.not_lt.mpr fits)]
  split
  · exact (range_drop _ _ _ _).symm
  · next notLess =>
      have whole : b.readable.length ≤ len := by
        rw [valid.length_readable]
        exact Nat.le_of_not_lt notLess
      rw [List.drop_eq_nil_of_le whole]
      exact bbRetrieveAll_readable b

theorem bbRetrieve_wellFormed {b : ByteBuffer} (formed : b.WellFormed) (len : Nat) :
    (b.bbRetrieve len).1.WellFormed := by
  unfold bbRetrieve
  split
  · exact formed
  · split
    · next less =>
        refine ⟨⟨?_, formed.write_le_size⟩, formed.reserved⟩
        unfold bbBytesReadable at less
        change b.readIdx + len ≤ b.writeIdx
        omega
    · exact bbRetrieveAll_wellFormed formed

theorem cheapPrepend_le_bbRetrieve {b : ByteBuffer} (front : cheapPrepend ≤ b.readIdx) (len : Nat) :
    cheapPrepend ≤ (b.bbRetrieve len).1.readIdx := by
  unfold bbRetrieve
  split
  · exact front
  · split
    · exact Nat.le_add_right_of_le front
    · exact Nat.le_refl _

theorem bbRetrieveUntil_eq {b : ByteBuffer} (valid : b.Valid) (k : Nat) :
    b.bbRetrieveUntil (b.bbPeek + k) = b.bbRetrieve k := by
  have order := valid.read_le_write
  unfold bbRetrieveUntil
  rw [if_neg (by omega)]
  by_cases tooLong : b.bbBytesReadable < k
  · rw [if_pos, bbRetrieve_of_gt tooLong]
    unfold bbBytesReadable at tooLong
    unfold bbPeek bbWriteBeginning
    omega
  · rw [if_neg, Nat.add_sub_cancel_left]
    · have answered := bbRetrieve_answer b k
      rw [decide_eq_true (Nat.le_of_not_lt tooLong)] at answered
      exact Prod.ext rfl answered.symm
    · unfold bbBytesReadable at tooLong
      unfold bbPeek bbWriteBeginning
      omega

theorem bytesFromPeek_eq {b : ByteBuffer} (valid : b.Valid) {len : Nat}
    (fits : len ≤ b.bbBytesReadable) : b.bytesFromPeek len = b.readable.take len := by
  have order := valid.read_le_write
  unfold bbBytesReadable at fits
  exact (range_take (by unfold bbPeek; omega)).symm

theorem bbRetrieveAsString_state (b : ByteBuffer) (len : Nat) :
    (b.bbRetrieveAsString len).1 = (b.bbRetrieve len).1 := by
  unfold bbRetrieveAsString
  split
  · next tooLong => rw [bbRetrieve_of_gt tooLong]
  · rfl

theorem bbRetrieveAsString_answer {b : ByteBuffer} (valid : b.Valid) (len : Nat) :
    (b.bbRetrieveAsString len).2 =
      if len ≤ b.bbBytesReadable then b.readable.take len else [] := by
  unfold bbRetrieveAsString
  split
  · next tooLong => rw [if_neg (Nat.not_le.mpr tooLong)]
  · next fits =>
      have within : len ≤ b.bbBytesReadable := Nat.le_of_not_lt fits
      rw [if_pos within, bytesFromPeek_eq valid within]

theorem bbBytesUnwrite_answer (b : ByteBuffer) (len : Nat) :
    (b.bbBytesUnwrite len).2 = decide (len ≤ b.bbBytesReadable) := by
  unfold bbBytesUnwrite
  split
  · next tooLong => simp [Nat.not_le.mpr tooLong]
  · next fits => simp [Nat.le_of_not_lt fits]

theorem bbBytesUnwrite_of_gt {b : ByteBuffer} {len : Nat} (tooLong : b.bbBytesReadable < len) :
    b.bbBytesUnwrite len = (b, false) := by
  simp [bbBytesUnwrite, tooLong]

theorem bbBytesUnwrite_readable {b : ByteBuffer} (valid : b.Valid) {len : Nat}
    (fits : len ≤ b.bbBytesReadable) :
    (b.bbBytesUnwrite len).1.readable = b.readable.take (b.readable.length - len) := by
  have order := valid.read_le_write
  have kept : b.readIdx + (b.bbBytesReadable - len) = b.writeIdx - len := by
    unfold bbBytesReadable at fits ⊢
    omega
  unfold bbBytesUnwrite
  rw [if_neg (Nat.not_lt.mpr fits), valid.length_readable]
  change range b.buffer b.readIdx (b.writeIdx - len) = _
  rw [← kept]
  exact (range_take (by unfold bbBytesReadable; omega)).symm

theorem bbBytesUnwrite_wellFormed {b : ByteBuffer} (formed : b.WellFormed) (len : Nat) :
    (b.bbBytesUnwrite len).1.WellFormed := by
  unfold bbBytesUnwrite
  split
  · exact formed
  · next fits =>
      have order := formed.read_le_write
      have size := formed.write_le_size
      refine ⟨⟨?_, ?_⟩, formed.reserved⟩
      · unfold bbBytesReadable at fits
        change b.readIdx ≤ b.writeIdx - len
        omega
      · change b.writeIdx - len ≤ b.buffer.length
        omega

theorem bbBytesUnwrite_readIdx (b : ByteBuffer) (len : Nat) :
    (b.bbBytesUnwrite len).1.readIdx = b.readIdx := by
  unfold bbBytesUnwrite
  split <;> rfl

/-!
## Making room
-/

theorem length_resize (cells : List UInt8) (size : Nat) : (resize cells size).length = size := by
  simp only [resize, List.length_append, List.length_take, List.length_replicate]
  omega

theorem range_resize {cells : List UInt8} {size first last : Nat}
    (grown : cells.length ≤ size) (within : last ≤ cells.length) :
    range (resize cells size) first last = range cells first last := by
  unfold resize
  rw [List.take_of_length_le grown]
  exact range_append_right within

structure MakesRoom (b next : ByteBuffer) (len : Nat) : Prop where
  valid : next.Valid
  readable : next.readable = b.readable
  room : len ≤ next.bbBytesWriteable
  size : b.buffer.length ≤ next.buffer.length
  front : cheapPrepend ≤ b.readIdx → cheapPrepend ≤ next.readIdx

/-- The guard against a reserved front inside `_make_zoom` is never taken: with
`read_idx_` at most `cheap_prepend` the free space at both ends is too small, and
the vector grows. -/
theorem makeZoom_makesRoom {b : ByteBuffer} (valid : b.Valid) {len : Nat}
    (short : b.bbBytesWriteable < len) : MakesRoom b (b.makeZoom len) len := by
  have order := valid.read_le_write
  have size := valid.write_le_size
  unfold makeZoom
  split
  · have grown : b.buffer.length ≤ b.writeIdx + len := by
      unfold bbBytesWriteable at short
      omega
    refine ⟨⟨order, ?_⟩, ?_, ?_, ?_, fun front => front⟩
    · change b.writeIdx ≤ (resize b.buffer (b.writeIdx + len)).length
      rw [length_resize]
      exact Nat.le_add_right _ _
    · exact range_resize grown size
    · change len ≤ (resize b.buffer (b.writeIdx + len)).length - b.writeIdx
      rw [length_resize]
      omega
    · change b.buffer.length ≤ (resize b.buffer (b.writeIdx + len)).length
      rw [length_resize]
      exact grown
  · next enough =>
      unfold bbBytesWriteable bbBytesPrependable at enough
      unfold bbBytesWriteable at short
      have behind : cheapPrepend < b.readIdx := by omega
      rw [if_neg (Nat.not_le.mpr behind)]
      have moved : (range b.buffer b.readIdx b.writeIdx).length = b.bbBytesReadable :=
        length_range size
      have inside : cheapPrepend + (range b.buffer b.readIdx b.writeIdx).length ≤
          b.buffer.length := by
        rw [moved]
        unfold bbBytesReadable
        omega
      have kept := length_overwrite inside
      refine ⟨⟨?_, ?_⟩, ?_, ?_, ?_, ?_⟩
      · exact Nat.le_add_right _ _
      · rw [moved] at inside
        rw [kept]
        exact inside
      · change range (overwrite _ _ _) cheapPrepend (cheapPrepend + b.bbBytesReadable) = b.readable
        rw [← moved]
        exact range_overwrite_self (by omega)
      · change len ≤ (overwrite _ _ _).length - (cheapPrepend + b.bbBytesReadable)
        rw [kept]
        unfold bbBytesReadable
        omega
      · exact Nat.le_of_eq kept.symm
      · exact fun _ => Nat.le_refl _

theorem bbBytesCheckWritable_makesRoom {b : ByteBuffer} (valid : b.Valid) (len : Nat) :
    MakesRoom b (b.bbBytesCheckWritable len) len := by
  unfold bbBytesCheckWritable
  split
  · next short => exact makeZoom_makesRoom valid short
  · next enough =>
      exact ⟨valid, rfl, Nat.le_of_not_lt enough, Nat.le_refl _, fun front => front⟩

theorem bbBytesCheckWritable_wellFormed {b : ByteBuffer} (formed : b.WellFormed) (len : Nat) :
    (b.bbBytesCheckWritable len).WellFormed := by
  have roomy := bbBytesCheckWritable_makesRoom formed.toValid len
  exact ⟨roomy.valid, Nat.le_trans formed.reserved roomy.size⟩

/-!
## Putting bytes in
-/

private theorem append_in_room {b next : ByteBuffer} {data : List UInt8}
    (roomy : MakesRoom b next data.length) :
    let copied : ByteBuffer :=
      { next with buffer := overwrite next.buffer next.bbWriteBeginning data }
    (copied.bbBytesWritten data.length).1 =
      { copied with writeIdx := next.writeIdx + data.length } ∧
      copied.buffer.length = next.buffer.length := by
  have size := roomy.valid.write_le_size
  have room := roomy.room
  unfold bbBytesWriteable at room
  have kept : (overwrite next.buffer next.bbWriteBeginning data).length = next.buffer.length :=
    length_overwrite (by unfold bbWriteBeginning; omega)
  refine ⟨?_, kept⟩
  unfold bbBytesWritten
  rw [if_neg]
  unfold bbBytesWriteable
  change ¬ data.length > (overwrite next.buffer next.bbWriteBeginning data).length - next.writeIdx
  rw [kept]
  omega

theorem bbAppend_valid {b : ByteBuffer} (valid : b.Valid) (data : List UInt8) :
    (b.bbAppend data).Valid := by
  have roomy := bbBytesCheckWritable_makesRoom valid data.length
  have order := roomy.valid.read_le_write
  have size := roomy.valid.write_le_size
  have room := roomy.room
  obtain ⟨written, kept⟩ := append_in_room roomy
  unfold bbAppend
  dsimp only
  rw [written]
  unfold bbBytesWriteable at room
  constructor
  · dsimp only
    omega
  · dsimp only at kept ⊢
    rw [kept]
    omega

theorem bbAppend_size {b : ByteBuffer} (valid : b.Valid) (data : List UInt8) :
    b.buffer.length ≤ (b.bbAppend data).buffer.length := by
  have roomy := bbBytesCheckWritable_makesRoom valid data.length
  obtain ⟨written, kept⟩ := append_in_room roomy
  unfold bbAppend
  dsimp only
  rw [written]
  dsimp only at kept ⊢
  rw [kept]
  exact roomy.size

theorem bbAppend_readable {b : ByteBuffer} (valid : b.Valid) (data : List UInt8) :
    (b.bbAppend data).readable = b.readable ++ data := by
  have roomy := bbBytesCheckWritable_makesRoom valid data.length
  have order := roomy.valid.read_le_write
  have size := roomy.valid.write_le_size
  obtain ⟨written, _⟩ := append_in_room roomy
  unfold bbAppend
  dsimp only
  rw [written, ← roomy.readable]
  change range (overwrite _ _ data) _ _ = _
  rw [← range_append order (Nat.le_add_right _ data.length)]
  congr 1
  · exact range_overwrite_before (Nat.le_refl _) size
  · exact range_overwrite_self size

theorem bbAppend_wellFormed {b : ByteBuffer} (formed : b.WellFormed) (data : List UInt8) :
    (b.bbAppend data).WellFormed :=
  ⟨bbAppend_valid formed.toValid data,
    Nat.le_trans formed.reserved (bbAppend_size formed.toValid data)⟩

theorem cheapPrepend_le_bbAppend {b : ByteBuffer} (valid : b.Valid)
    (front : cheapPrepend ≤ b.readIdx) (data : List UInt8) :
    cheapPrepend ≤ (b.bbAppend data).readIdx := by
  have roomy := bbBytesCheckWritable_makesRoom valid data.length
  obtain ⟨written, _⟩ := append_in_room roomy
  unfold bbAppend
  dsimp only
  rw [written]
  exact roomy.front front

theorem bbPrepend_answer (b : ByteBuffer) (data : List UInt8) :
    (b.bbPrepend data).2 = decide (data.length ≤ b.bbBytesPrependable) := by
  unfold bbPrepend
  split
  · next tooLong => simp [Nat.not_le.mpr tooLong]
  · next fits => simp [Nat.le_of_not_lt fits]

theorem bbPrepend_of_gt {b : ByteBuffer} {data : List UInt8}
    (tooLong : b.bbBytesPrependable < data.length) : b.bbPrepend data = (b, false) := by
  simp [bbPrepend, tooLong]

theorem bbPrepend_readable {b : ByteBuffer} (valid : b.Valid) {data : List UInt8}
    (fits : data.length ≤ b.bbBytesPrependable) :
    (b.bbPrepend data).1.readable = data ++ b.readable := by
  have order := valid.read_le_write
  have size := valid.write_le_size
  unfold bbPrepend
  rw [if_neg (Nat.not_lt.mpr fits)]
  unfold bbBytesPrependable at fits
  have stop : b.readIdx - data.length + data.length = b.readIdx := Nat.sub_add_cancel fits
  have written : range (overwrite b.buffer (b.readIdx - data.length) data)
      (b.readIdx - data.length) (b.readIdx - data.length + data.length) = data :=
    range_overwrite_self (by omega)
  have behind : range (overwrite b.buffer (b.readIdx - data.length) data)
      b.readIdx b.writeIdx = b.readable :=
    range_overwrite_after (by omega) (by omega)
  change range (overwrite b.buffer (b.readIdx - data.length) data)
    (b.readIdx - data.length) b.writeIdx = _
  rw [← range_append (Nat.sub_le b.readIdx data.length) order, behind]
  rw [stop] at written
  rw [written]

theorem bbPrepend_wellFormed {b : ByteBuffer} (formed : b.WellFormed) (data : List UInt8) :
    (b.bbPrepend data).1.WellFormed := by
  have order := formed.read_le_write
  have size := formed.write_le_size
  unfold bbPrepend
  split
  · exact formed
  · next fits =>
      unfold bbBytesPrependable at fits
      have kept : (overwrite b.buffer (b.readIdx - data.length) data).length = b.buffer.length :=
        length_overwrite (by omega)
      refine ⟨⟨?_, ?_⟩, ?_⟩
      · change b.readIdx - data.length ≤ b.writeIdx
        omega
      · change b.writeIdx ≤ (overwrite _ _ _).length
        rw [kept]
        exact size
      · change cheapPrepend ≤ (overwrite _ _ _).length
        rw [kept]
        exact formed.reserved

theorem bb2StringPiece_eq {b : ByteBuffer} (valid : b.Valid)
    (small : b.bbBytesReadable < 2 ^ 31) : b.bb2StringPiece = some b.readable := by
  unfold bb2StringPiece
  rw [sizeToInt32_of_lt small]
  dsimp only
  rw [if_neg (by omega), Int.toNat_natCast, bytesFromPeek_eq valid (Nat.le_refl _),
    ← valid.length_readable, List.take_length]

theorem bbShrink_spec {b : ByteBuffer} (valid : b.Valid) (small : b.bbBytesReadable < 2 ^ 31)
    (reserve : Nat) :
    ∃ shrunk, b.bbShrink reserve = some shrunk ∧ shrunk.WellFormed ∧
      shrunk.readable = b.readable ∧ cheapPrepend ≤ shrunk.readIdx := by
  have roomy := bbBytesCheckWritable_makesRoom new_wellFormed.toValid
    (b.bbBytesReadable + reserve)
  have formed := bbBytesCheckWritable_wellFormed new_wellFormed (b.bbBytesReadable + reserve)
  have front := roomy.front (Nat.le_of_eq new_readIdx.symm)
  refine ⟨(new.bbBytesCheckWritable (b.bbBytesReadable + reserve)).bbAppend b.readable,
    ?_, bbAppend_wellFormed formed _, ?_, cheapPrepend_le_bbAppend roomy.valid front _⟩
  · unfold bbShrink
    rw [bb2StringPiece_eq valid small]
    rfl
  · rw [bbAppend_readable roomy.valid, roomy.readable, new_readable, List.nil_append]

end ByteBuffer

/-!
## Buffers as they are built
-/

/-- A buffer that the constructor made and the operations below have kept in order. -/
structure FormedBuffer where
  buffer : ByteBuffer
  formed : buffer.WellFormed

namespace FormedBuffer

def new : FormedBuffer := ⟨.new, ByteBuffer.new_wellFormed⟩

def readable (b : FormedBuffer) : List UInt8 := b.buffer.readable

def bbBytesReadable (b : FormedBuffer) : Nat := b.buffer.bbBytesReadable

def bbAppend (b : FormedBuffer) (data : List UInt8) : FormedBuffer :=
  ⟨b.buffer.bbAppend data, ByteBuffer.bbAppend_wellFormed b.formed data⟩

def bbRetrieve (b : FormedBuffer) (len : Nat) : FormedBuffer :=
  ⟨(b.buffer.bbRetrieve len).1, ByteBuffer.bbRetrieve_wellFormed b.formed len⟩

@[simp] theorem new_readable : new.readable = [] := ByteBuffer.new_readable

theorem bbBytesReadable_eq (b : FormedBuffer) : b.bbBytesReadable = b.readable.length :=
  b.formed.toValid.length_readable.symm

@[simp] theorem bbAppend_readable (b : FormedBuffer) (data : List UInt8) :
    (b.bbAppend data).readable = b.readable ++ data :=
  ByteBuffer.bbAppend_readable b.formed.toValid data

theorem bbRetrieve_readable (b : FormedBuffer) {len : Nat} (fits : len ≤ b.readable.length) :
    (b.bbRetrieve len).readable = b.readable.drop len := by
  rw [← bbBytesReadable_eq] at fits
  exact ByteBuffer.bbRetrieve_readable b.formed.toValid fits

end FormedBuffer

end Talko.Network
