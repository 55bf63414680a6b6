import Talko.Log.LogDump

/-!
# What a dump says

`form_log` comes to the end of its chunk with room to spare, and the lines read back to the
buffer.
-/

set_option autoImplicit false

namespace Talko.Log

open Talko.Library

/-!
## The pieces of a line
-/

theorem isDigit_gt {byte : UInt8} (digit : isDigit byte = true) : 32 < byte := by
  have above : asciiCode '0' ≤ byte := of_decide_eq_true (Bool.and_eq_true_iff.mp digit).1
  exact UInt8.lt_of_lt_of_le (by decide) above

theorem ull2str_gt (n : Nat) : ∀ byte ∈ ull2str n, 32 < byte :=
  fun byte member => isDigit_gt (isDigit_paddedText 6 _ byte member)

theorem length_ull2str (n : Nat) : 6 ≤ (ull2str n).length ∧ (ull2str n).length ≤ 10 := by
  have small : n % 2 ^ 32 < 10 ^ 10 := Nat.lt_of_lt_of_le (Nat.mod_lt _ (by decide)) (by decide)
  have digits := length_decimalText_le (by decide) small
  rw [ull2str, length_paddedText]
  omega

theorem magicNum_pair (byte : UInt8) :
    [magicNum ((byte >>> 4) &&& 0xf), magicNum (byte &&& 0xf)] = hexByte byte := by
  have bound := byte.toNat_lt
  have high : ((byte >>> 4) &&& 0xf).toNat = byte.toNat / 16 := by
    rw [UInt8.toNat_and, UInt8.toNat_shiftRight]
    have shifted : byte.toNat >>> (UInt8.toNat 4 % 8) = byte.toNat / 16 :=
      Nat.shiftRight_eq_div_pow byte.toNat 4
    rw [shifted]
    exact (Nat.and_two_pow_sub_one_eq_mod _ 4).trans (Nat.mod_eq_of_lt (by omega))
  have low : (byte &&& 0xf).toNat = byte.toNat % 16 := by
    rw [UInt8.toNat_and]
    exact Nat.and_two_pow_sub_one_eq_mod _ 4
  rw [magicNum, magicNum, high, low, hexByte]

/-- What the body of the loop prints in front of a byte at the beginning of a line, in a chunk
whose first line has the number `start`. -/
def headText (start lsize : Nat) : List UInt8 :=
  if lsize % 32 = 0 then
    (if lsize = 0 then [] else [newline]) ++ (ull2str (start + lsize / 32) ++ [space])
  else []

def gapText (lsize : Nat) : List UInt8 :=
  if lsize % 16 = 0 then [space] else []

def stepText (start lsize : Nat) (byte : UInt8) : List UInt8 :=
  headText start lsize ++ gapText lsize ++ hexByte byte

/-- What the loop prints for the bytes from a place in the chunk on. -/
def formText (start lsize : Nat) : List UInt8 → List UInt8
  | [] => []
  | byte :: rest => stepText start lsize byte ++ formText start (lsize + 1) rest

/-- The room that the text of so many bytes takes at most. -/
def textBound (lsize : Nat) : Nat :=
  2 * lsize + (lsize + 15) / 16 + 12 * ((lsize + 31) / 32)

theorem length_headText_le (start lsize : Nat) :
    (headText start lsize).length ≤ if lsize % 32 = 0 then 12 else 0 := by
  have digits := (length_ull2str (start + lsize / 32)).2
  unfold headText
  split
  · have opening : (if lsize = 0 then [] else [newline]).length ≤ 1 := by
      split
      · exact Nat.zero_le 1
      · exact Nat.le_refl 1
    rw [List.length_append, List.length_append, List.length_singleton]
    omega
  · exact Nat.le_refl 0

theorem length_gapText (lsize : Nat) :
    (gapText lsize).length = if lsize % 16 = 0 then 1 else 0 := by
  unfold gapText
  split
  · rfl
  · rfl

theorem length_stepText_le (start lsize : Nat) (byte : UInt8) :
    textBound lsize + (stepText start lsize byte).length ≤ textBound (lsize + 1) := by
  have head := length_headText_le start lsize
  have gap := length_gapText lsize
  have pair : (hexByte byte).length = 2 := rfl
  rw [stepText, List.length_append, List.length_append, pair]
  unfold textBound
  by_cases line : lsize % 32 = 0
  · rw [if_pos line] at head
    rw [if_pos (by omega)] at gap
    omega
  · rw [if_neg line] at head
    by_cases middle : lsize % 16 = 0
    · rw [if_pos middle] at gap
      omega
    · rw [if_neg middle] at gap
      omega

theorem headText_clean (start lsize : Nat) : (0 : UInt8) ∉ headText start lsize := by
  have number : (0 : UInt8) ∉ ull2str (start + lsize / 32) := fun member =>
    absurd (ull2str_gt _ 0 member) (by decide)
  unfold headText
  split
  · rw [List.mem_append, List.mem_append, not_or, not_or]
    refine ⟨?_, number, by decide⟩
    split
    · exact List.not_mem_nil
    · decide
  · exact List.not_mem_nil

theorem gapText_clean (lsize : Nat) : (0 : UInt8) ∉ gapText lsize := by
  unfold gapText
  split
  · decide
  · exact List.not_mem_nil

theorem stepText_clean (start lsize : Nat) (byte : UInt8) :
    (0 : UInt8) ∉ stepText start lsize byte := by
  have digits : (0 : UInt8) ∉ hexByte byte := fun member =>
    absurd (hexByte_gt byte 0 member) (by decide)
  rw [stepText, List.mem_append, List.mem_append, not_or, not_or]
  exact ⟨⟨headText_clean start lsize, gapText_clean lsize⟩, digits⟩

/-!
## The loop of `form_log`
-/

namespace FormLog

/-- The variables with a text in the array. -/
def holding (index lsize headLen : Nat) (text : List UInt8) : FormLog where
  index := index
  buf := charBuffer tmpbufSize text
  len := text.length
  lsize := lsize
  headLen := headLen

section

variable {index lsize headLen : Nat} {text : List UInt8}

theorem put_holding (fits : text.length < tmpbufSize) (byte : UInt8) :
    (holding index lsize headLen text).put byte =
      some (holding index lsize headLen (text ++ [byte])) := by
  have written := writeAt_charBuffer fits byte
  simp only [put, holding, written, Option.map_some, List.length_append, List.length_singleton]

theorem putHead_holding (fits : text.length + 11 < tmpbufSize) (clean : (0 : UInt8) ∉ text) :
    (holding index lsize headLen text).putHead =
      some (holding (index + 1) lsize (ull2str index ++ [space]).length
        (text ++ (ull2str index ++ [space]))) := by
  have short : (ull2str index ++ [space]).length ≤ 11 := by
    rw [List.length_append, List.length_singleton]
    exact Nat.succ_le_succ (length_ull2str index).2
  have appended := @strcat_charBuffer tmpbufSize text (ull2str index ++ [space])
    (Nat.lt_of_le_of_lt (Nat.add_le_add_left short _) fits) clean
  simp only [putHead, holding, appended, Option.map_some, List.length_append]

/-- The state in front of the byte at `lsize`. -/
def before (start lsize headLen : Nat) (text : List UInt8) : FormLog :=
  holding (start + (lsize + 31) / 32) lsize headLen text

theorem startLine_before (start : Nat) (fits : text.length + 12 < tmpbufSize)
    (clean : (0 : UInt8) ∉ text) (started : headLen ≠ 0 ↔ lsize ≠ 0) :
    ∃ length, length ≠ 0 ∧ (before start lsize headLen text).startLine =
      some (holding (start + (lsize + 1 + 31) / 32) lsize length
        (text ++ headText start lsize)) := by
  by_cases line : lsize % 32 = 0
  · have number : start + (lsize + 31) / 32 = start + lsize / 32 := by omega
    have next : start + lsize / 32 + 1 = start + (lsize + 1 + 31) / 32 := by omega
    have broken : (before start lsize headLen text).putNewline =
        some (holding (start + lsize / 32) lsize headLen
          (text ++ if lsize = 0 then [] else [newline])) := by
      rw [before, number]
      by_cases first : lsize = 0
      · have none : ¬ headLen ≠ 0 := fun some => started.mp some first
        rw [if_pos first, List.append_nil, putNewline, if_neg]
        exact none
      · have some : headLen ≠ 0 := started.mpr first
        rw [if_neg first, putNewline, if_pos]
        · exact put_holding (by omega) newline
        · exact some
    have room : (text ++ if lsize = 0 then [] else [newline]).length + 11 < tmpbufSize := by
      rw [List.length_append]
      split
      · rw [List.length_nil]
        omega
      · rw [List.length_singleton]
        omega
    have stillClean : (0 : UInt8) ∉ text ++ if lsize = 0 then [] else [newline] := by
      rw [List.mem_append, not_or]
      refine ⟨clean, ?_⟩
      split
      · exact List.not_mem_nil
      · decide
    refine ⟨(ull2str (start + lsize / 32) ++ [space]).length, by simp, ?_⟩
    rw [startLine, if_pos]
    · rw [broken, Option.bind_some, putHead_holding room stillClean, headText, if_pos line, next,
        List.append_assoc]
    · exact line
  · have first : lsize ≠ 0 := fun zero => line (by rw [zero])
    have number : start + (lsize + 31) / 32 = start + (lsize + 1 + 31) / 32 := by omega
    refine ⟨headLen, started.mpr first, ?_⟩
    rw [startLine, if_neg]
    · rw [headText, if_neg line, List.append_nil, before, number]
    · exact line

theorem putGap_holding (fits : text.length < tmpbufSize) (started : headLen ≠ 0) :
    (holding index lsize headLen text).putGap =
      some (holding index lsize headLen (text ++ gapText lsize)) := by
  unfold gapText
  by_cases gap : lsize % 16 = 0
  · rw [if_pos gap, putGap, if_pos]
    · exact put_holding fits space
    · exact ⟨gap, started⟩
  · rw [if_neg gap, List.append_nil, putGap, if_neg]
    exact fun both => gap both.1

theorem putByte_holding (fits : text.length + 1 < tmpbufSize) (byte : UInt8) :
    (holding index lsize headLen text).putByte byte =
      some (holding index (lsize + 1) headLen (text ++ hexByte byte)) := by
  have second : (text ++ [magicNum ((byte >>> 4) &&& 0xf)]).length < tmpbufSize := by
    rw [List.length_append, List.length_singleton]
    exact fits
  rw [putByte, put_holding (by omega), Option.bind_some, put_holding second, Option.map_some,
    List.append_assoc, List.singleton_append, magicNum_pair]
  rfl

/-- One round of the loop adds its text. -/
theorem step_before (start : Nat) (fits : text.length + 15 < tmpbufSize)
    (clean : (0 : UInt8) ∉ text) (started : headLen ≠ 0 ↔ lsize ≠ 0) (byte : UInt8) :
    ∃ length, length ≠ 0 ∧ (before start lsize headLen text).step byte =
      some (before start (lsize + 1) length (text ++ stepText start lsize byte)) := by
  obtain ⟨length, some, lined⟩ :=
    startLine_before start (by omega : text.length + 12 < tmpbufSize) clean started
  have head := length_headText_le start lsize
  have gap := length_gapText lsize
  have afterHead : (text ++ headText start lsize).length < tmpbufSize := by
    rw [List.length_append]
    split at head
    · omega
    · omega
  have afterGap : (text ++ headText start lsize ++ gapText lsize).length + 1 < tmpbufSize := by
    rw [List.length_append, List.length_append, gap]
    split at head
    · split
      · omega
      · omega
    · split
      · omega
      · omega
  refine ⟨length, some, ?_⟩
  rw [step, lined, Option.bind_some, putGap_holding afterHead some, Option.bind_some,
    putByte_holding afterGap, before, stepText]
  simp only [List.append_assoc]

theorem textBound_le {lsize : Nat} (within : lsize ≤ PRINT_SIZE) :
    textBound lsize + 16 < tmpbufSize := by
  unfold PRINT_SIZE at within
  unfold textBound tmpbufSize PRINT_SIZE
  omega

/-- The loop comes to the end of its chunk. -/
theorem loop_before (start : Nat) {bytes : List UInt8} (bound : text.length ≤ textBound lsize)
    (clean : (0 : UInt8) ∉ text) (started : headLen ≠ 0 ↔ lsize ≠ 0)
    (within : lsize + bytes.length ≤ PRINT_SIZE) :
    ∃ length, loop tmpbufSize (before start lsize headLen text) bytes =
        some (before start (lsize + bytes.length) length (text ++ formText start lsize bytes)) ∧
      (text ++ formText start lsize bytes).length ≤ textBound (lsize + bytes.length) ∧
      (0 : UInt8) ∉ text ++ formText start lsize bytes := by
  induction bytes generalizing text lsize headLen with
  | nil =>
      rw [formText, List.append_nil]
      exact ⟨headLen, rfl, bound, clean⟩
  | cons byte rest ih =>
      rw [List.length_cons] at within
      have room := textBound_le (show lsize ≤ PRINT_SIZE by omega)
      obtain ⟨length, some, stepped⟩ := step_before start
        (by omega : text.length + 15 < tmpbufSize) clean started byte
      have grown := length_stepText_le start lsize byte
      have nextBound : (text ++ stepText start lsize byte).length ≤ textBound (lsize + 1) := by
        rw [List.length_append]
        omega
      have nextClean : (0 : UInt8) ∉ text ++ stepText start lsize byte := by
        rw [List.mem_append, not_or]
        exact ⟨clean, stepText_clean start lsize byte⟩
      obtain ⟨last, looped, stillBound, stillClean⟩ :=
        ih nextBound nextClean (iff_of_true some (Nat.succ_ne_zero lsize)) (by omega)
      have total : lsize + 1 + rest.length = lsize + (byte :: rest).length := by
        rw [List.length_cons]
        omega
      rw [total, List.append_assoc] at looped stillBound
      rw [List.append_assoc] at stillClean
      refine ⟨last, ?_, stillBound, stillClean⟩
      rw [loop, if_pos]
      · rw [stepped, Option.bind_some, looped, formText]
      · change text.length + 10 < tmpbufSize
        omega

end

end FormLog

/-- `form_log` writes inside its array, comes to the end of the chunk and counts its lines. -/
theorem formLog_eq (start : Nat) {chunk : List UInt8} (within : chunk.length ≤ PRINT_SIZE) :
    ∃ form, formLog start (List.replicate tmpbufSize 0) tmpbufSize chunk = some form ∧
      form.lsize = chunk.length ∧ form.index = start + (chunk.length + 31) / 32 ∧
      chunkText form = some (formText start 0 chunk ++ [newline]) := by
  have zeroed : List.replicate tmpbufSize 0 = charBuffer tmpbufSize [] := by
    rw [charBuffer, List.nil_append, List.length_nil, Nat.sub_zero]
  obtain ⟨length, looped, bound, clean⟩ := @FormLog.loop_before 0 0 [] start chunk
    (Nat.zero_le _) List.not_mem_nil (Iff.refl _) (by rwa [Nat.zero_add])
  rw [Nat.zero_add, List.nil_append] at looped bound
  rw [List.nil_append] at clean
  have room := FormLog.textBound_le within
  have ended : (formText start 0 chunk ++ [newline]).length < tmpbufSize := by
    rw [List.length_append, List.length_singleton]
    omega
  have endedClean : (0 : UInt8) ∉ formText start 0 chunk ++ [newline] := by
    rw [List.mem_append, not_or]
    exact ⟨clean, by decide⟩
  refine ⟨FormLog.holding (start + (chunk.length + 31) / 32) chunk.length length
    (formText start 0 chunk ++ [newline] ++ [0]), ?_, rfl, rfl, ?_⟩
  · have begun : (⟨start, charBuffer tmpbufSize [], 0, 0, 0⟩ : FormLog) =
        FormLog.before start 0 0 [] := rfl
    rw [formLog, zeroed, begun, looped, Option.bind_some, FormLog.before,
      FormLog.put_holding (by omega), Option.bind_some, FormLog.put_holding ended]
  · have held : (FormLog.holding (start + (chunk.length + 31) / 32) chunk.length length
        (formText start 0 chunk ++ [newline] ++ [0])).buf =
          charBuffer tmpbufSize (formText start 0 chunk ++ [newline]) :=
      charBuffer_concat_zero ended
    rw [chunkText, held, strlen_charBuffer ended endedClean, Option.map_some, charBuffer,
      List.take_left]

/-!
## The lines of a chunk
-/

/-- The bytes of a line from a column on. -/
def rowText (column : Nat) : List UInt8 → List UInt8
  | [] => []
  | byte :: rest => gapText column ++ hexByte byte ++ rowText (column + 1) rest

def lineText (row : Nat × List UInt8) : List UInt8 :=
  ull2str row.1 ++ [space] ++ rowText 0 row.2

/-- The rest of a line, which the next one follows. -/
theorem formText_row (start line : Nat) {column left : Nat} (positive : 0 < column)
    (width : column + left = 32) (bytes : List UInt8) :
    formText start (32 * line + column) bytes =
      rowText column (bytes.take left) ++ formText start (32 * (line + 1)) (bytes.drop left) := by
  induction left generalizing column bytes with
  | zero =>
      have next : 32 * line + column = 32 * (line + 1) := by omega
      rw [next, List.take_zero, List.drop_zero, rowText, List.nil_append]
  | succ left ih =>
      cases bytes with
      | nil => rfl
      | cons byte rest =>
          have inside : ¬ (32 * line + column) % 32 = 0 := by omega
          have gap : gapText (32 * line + column) = gapText column := by
            have same : (32 * line + column) % 16 = column % 16 := by omega
            rw [gapText, gapText, same]
          have later := ih (Nat.succ_pos column) (by omega) rest
          rw [List.take_succ_cons, List.drop_succ_cons, formText, rowText, Nat.add_assoc, later,
            stepText, headText, if_neg inside, gap, List.nil_append]
          simp only [List.append_assoc]

theorem formText_line (start line : Nat) {bytes : List UInt8} (some : bytes ≠ []) :
    formText start (32 * line) bytes =
      (if line = 0 then [] else [newline]) ++ lineText (start + line, bytes.take 32) ++
        formText start (32 * (line + 1)) (bytes.drop 32) := by
  cases bytes with
  | nil => exact absurd rfl some
  | cons byte rest =>
      have row := formText_row start line Nat.one_pos (show 1 + 31 = 32 from rfl) rest
      have number : start + 32 * line / 32 = start + line := by omega
      have begun : headText start (32 * line) =
          (if line = 0 then [] else [newline]) ++ (ull2str (start + line) ++ [space]) := by
        rw [headText, if_pos (Nat.mul_mod_right 32 line), number]
        congr 1
        exact if_congr (by omega) rfl rfl
      have gap : gapText (32 * line) = gapText 0 := by
        rw [gapText, gapText, if_pos (by omega), if_pos rfl]
      rw [formText, row, stepText, begun, gap, lineText, List.take_succ_cons, List.drop_succ_cons,
        rowText]
      simp only [List.append_assoc]

/-- The lines with the newline behind each. -/
def rowsText (rows : List (Nat × List UInt8)) : List UInt8 :=
  rows.flatMap fun row => lineText row ++ [newline]

theorem dumpRows_nil (index : Nat) : dumpRows index [] = [] := by
  rw [dumpRows, if_neg (not_not_intro rfl)]

theorem dumpRows_of_ne_nil {buffer : List UInt8} (some : buffer ≠ []) (index : Nat) :
    dumpRows index buffer = (index, buffer.take 32) :: dumpRows (index + 1) (buffer.drop 32) := by
  rw [dumpRows, if_pos some]

/-- The text of a chunk from a line on. -/
theorem formText_rows (start line : Nat) {bytes : List UInt8} (some : bytes ≠ []) :
    formText start (32 * line) bytes ++ [newline] =
      (if line = 0 then [] else [newline]) ++ rowsText (dumpRows (start + line) bytes) := by
  induction size : bytes.length using Nat.strongRecOn generalizing bytes line with
  | ind rounds ih =>
      have positive := List.length_pos_iff.mpr some
      rw [formText_line start line some, dumpRows_of_ne_nil some, rowsText, List.flatMap_cons]
      by_cases last : bytes.drop 32 = []
      · rw [last, formText, dumpRows_nil, List.flatMap_nil]
        simp only [List.append_assoc, List.append_nil]
      · have shorter : (bytes.drop 32).length < rounds := by
          rw [List.length_drop]
          omega
        have later := ih (bytes.drop 32).length shorter (line + 1) last rfl
        rw [if_neg (Nat.succ_ne_zero line), rowsText] at later
        rw [List.append_assoc, List.append_assoc, later]
        simp only [List.append_assoc, Nat.add_assoc]

/-!
## The chunks of a buffer
-/

theorem dumpRows_append (index lines : Nat) (buffer : List UInt8) :
    dumpRows index buffer =
      dumpRows index (buffer.take (32 * lines)) ++
        dumpRows (index + lines) (buffer.drop (32 * lines)) := by
  induction lines generalizing index buffer with
  | zero => rw [Nat.mul_zero, List.take_zero, List.drop_zero, dumpRows_nil, List.nil_append,
      Nat.add_zero]
  | succ lines ih =>
      by_cases none : buffer = []
      · rw [none, List.take_nil, List.drop_nil, dumpRows_nil, dumpRows_nil, List.append_nil]
      · have begun : buffer.take (32 * (lines + 1)) ≠ [] := by
          rw [Ne, List.take_eq_nil_iff]
          rintro (zero | empty)
          · omega
          · exact none empty
        have first : (buffer.take (32 * (lines + 1))).take 32 = buffer.take 32 := by
          rw [List.take_take, Nat.min_eq_left (by omega)]
        have second : (buffer.take (32 * (lines + 1))).drop 32 =
            (buffer.drop 32).take (32 * lines) := by
          rw [List.drop_take]
          congr 1
        have third : buffer.drop (32 * (lines + 1)) = (buffer.drop 32).drop (32 * lines) := by
          rw [List.drop_drop]
          congr 1
          omega
        rw [dumpRows_of_ne_nil none, dumpRows_of_ne_nil begun, first, second, third, ih,
          List.cons_append, Nat.add_assoc, Nat.add_comm 1 lines]

/-- The loop of `log_output_binary` prints the lines that it should. -/
theorem dumpLoop_eq (index : Nat) (os buffer : List UInt8) :
    dumpLoop index os buffer = some (os ++ rowsText (dumpRows index buffer)) := by
  induction rounds : buffer.length using Nat.strongRecOn generalizing index os buffer with
  | ind rounds ih =>
      rw [dumpLoop]
      by_cases remains : buffer ≠ []
      · have positive := List.length_pos_iff.mpr remains
        have short : (buffer.take PRINT_SIZE).length ≤ PRINT_SIZE := by
          rw [List.length_take]
          exact Nat.min_le_left _ _
        have begun : buffer.take PRINT_SIZE ≠ [] := by
          rw [Ne, List.take_eq_nil_iff]
          rintro (zero | empty)
          · exact absurd zero (by decide)
          · exact remains empty
        obtain ⟨form, formed, -, counted, printed⟩ := formLog_eq index short
        have text := formText_rows index 0 begun
        rw [Nat.mul_zero, if_pos rfl, List.nil_append, Nat.add_zero] at text
        have later := ih (buffer.drop PRINT_SIZE).length
          (by rw [List.length_drop, PRINT_SIZE]; omega) form.index
          (os ++ rowsText (dumpRows index (buffer.take PRINT_SIZE))) (buffer.drop PRINT_SIZE) rfl
        rw [if_pos remains, formed, Option.bind_some, printed, text, Option.bind_some, later]
        have rest : dumpRows form.index (buffer.drop PRINT_SIZE) =
            dumpRows (index + 16) (buffer.drop PRINT_SIZE) := by
          by_cases last : buffer.drop PRINT_SIZE = []
          · rw [last, dumpRows_nil, dumpRows_nil]
          · have whole : (buffer.take PRINT_SIZE).length = PRINT_SIZE := by
              have remaining := List.length_pos_iff.mpr last
              rw [List.length_drop] at remaining
              rw [List.length_take]
              omega
            rw [counted, whole]
            rfl
        have rows := dumpRows_append index 16 buffer
        rw [rest, List.append_assoc, rowsText, rowsText, ← List.flatMap_append]
        exact congrArg (fun rows => some (os ++ rowsText rows)) rows.symm
      · rw [if_neg remains, not_not.mp remains, dumpRows_nil, rowsText, List.flatMap_nil,
          List.append_nil]

/-- A call of `log_output_binary` puts the address and the lines in the queue. -/
theorem WhispLog.logOutputBinaryOf_eq (log : WhispLog) (address : Int) (buffer : List UInt8) :
    log.logOutputBinaryOf address buffer =
      some (log.logOutputBinary
        (addressLine address buffer.length ++ rowsText (dumpRows 0 buffer))) := by
  rw [logOutputBinaryOf, binaryText, dumpLoop_eq, Option.map_some]

/-!
## Reading the lines
-/

theorem rowText_mem {column : Nat} {bytes : List UInt8} {byte : UInt8}
    (member : byte ∈ rowText column bytes) : byte = space ∨ 32 < byte := by
  induction bytes generalizing column with
  | nil => exact absurd member List.not_mem_nil
  | cons first rest ih =>
      rw [rowText, List.mem_append, List.mem_append] at member
      rcases member with (gap | digit) | later
      · left
        unfold gapText at gap
        split at gap
        · exact List.mem_singleton.mp gap
        · exact absurd gap List.not_mem_nil
      · exact .inr (hexByte_gt first byte digit)
      · exact ih later

theorem lineText_mem {row : Nat × List UInt8} {byte : UInt8} (member : byte ∈ lineText row) :
    byte = space ∨ 32 < byte := by
  rw [lineText, List.mem_append, List.mem_append, List.mem_singleton] at member
  rcases member with (digit | rfl) | inRow
  · exact .inr (ull2str_gt row.1 byte digit)
  · exact .inl rfl
  · exact rowText_mem inRow

/-- Without the spaces the digits are left. -/
theorem rowText_filter (column : Nat) (bytes : List UInt8) :
    (rowText column bytes).filter (· ≠ space) = bytes.flatMap hexByte := by
  induction bytes generalizing column with
  | nil => rfl
  | cons byte rest ih =>
      have gap : (gapText column).filter (· ≠ space) = [] := by
        unfold gapText
        split
        · rfl
        · rfl
      have digits : (hexByte byte).filter (· ≠ space) = hexByte byte := by
        rw [List.filter_eq_self]
        intro digit member
        have above := hexByte_gt byte digit member
        exact decide_eq_true (Ne.symm (UInt8.ne_of_lt above))
      rw [rowText, List.filter_append, List.filter_append, gap, digits, ih, List.nil_append,
        List.flatMap_cons]

theorem readLine_lineText {index : Nat} (small : index < 2 ^ 32) (bytes : List UInt8) :
    readLine (lineText (index, bytes)) = some (index, bytes) := by
  have before : ∀ byte ∈ ull2str index, decide (byte ≠ space) = true := fun byte member =>
    decide_eq_true (Ne.symm (UInt8.ne_of_lt (ull2str_gt index byte member)))
  have number : (lineText (index, bytes)).takeWhile (· ≠ space) = ull2str index := by
    rw [lineText, List.append_assoc, List.takeWhile_append_of_pos before]
    simp
  have present : ull2str index ≠ [] := by
    intro empty
    have long := (length_ull2str index).1
    rw [empty] at long
    exact absurd long (by decide)
  have digits : (ull2str index).all isDigit = true :=
    List.all_eq_true.mpr (isDigit_paddedText 6 _)
  have rest : ((lineText (index, bytes)).drop (ull2str index).length).filter (· ≠ space) =
      bytes.flatMap hexByte := by
    rw [lineText, List.append_assoc, List.drop_left, List.filter_append, rowText_filter]
    rfl
  have value : leadingDigits 0 (ull2str index) = index := by
    have read : leadingDigits 0 (ull2str index ++ []) = index % 2 ^ 32 :=
      leadingDigits_paddedText 6 _ fun _ found => by cases found
    rwa [List.append_nil, Nat.mod_eq_of_lt small] at read
  unfold readLine
  simp only [number, rest]
  rw [if_pos ⟨present, digits⟩, hexDecode_flatMap, Option.map_some, value]

theorem mapM_lineText {rows : List (Nat × List UInt8)} (small : ∀ row ∈ rows, row.1 < 2 ^ 32) :
    (rows.map lineText).mapM readLine = some rows := by
  induction rows with
  | nil => rfl
  | cons row rest ih =>
      obtain ⟨here, later⟩ := List.forall_mem_cons.mp small
      rw [List.map_cons, List.mapM_cons, readLine_lineText here, ih later]
      rfl

theorem dumpRows_lt {index : Nat} {buffer : List UInt8} {row : Nat × List UInt8}
    (member : row ∈ dumpRows index buffer) : row.1 < index + (buffer.length + 31) / 32 := by
  fun_induction dumpRows index buffer with
  | case1 index buffer remains ih =>
      have positive := List.length_pos_iff.mpr remains
      rcases List.mem_cons.mp member with rfl | later
      · change index < _
        omega
      · have bound := ih later
        rw [List.length_drop] at bound
        by_cases short : buffer.length ≤ 32
        · rw [List.drop_of_length_le short, dumpRows_nil] at later
          exact absurd later List.not_mem_nil
        · omega
  | case2 index buffer none => exact absurd member List.not_mem_nil

/-- The bytes of the lines are those of the buffer. -/
theorem dumpRows_flatMap (index : Nat) (buffer : List UInt8) :
    (dumpRows index buffer).flatMap Prod.snd = buffer := by
  fun_induction dumpRows index buffer with
  | case1 index buffer remains ih => rw [List.flatMap_cons, ih, List.take_append_drop]
  | case2 index buffer none => rw [List.flatMap_nil, not_not.mp none]

/-- A dump of fewer than `2 ^ 31` lines is made up of lines, and they read back to the buffer. -/
theorem binaryText_reads_back (address : Int) {buffer : List UInt8}
    (few : (buffer.length + 31) / 32 < 2 ^ 31) :
    (∀ index chunk, chunk.length ≤ PRINT_SIZE → ∃ form,
      formLog index (List.replicate tmpbufSize 0) tmpbufSize chunk = some form ∧
        form.lsize = chunk.length) ∧
      ∃ lines : List (List UInt8),
        binaryText address buffer = some (addressLine address buffer.length ++
          lines.flatMap (· ++ [newline])) ∧
        (∀ line ∈ lines, newline ∉ line) ∧
        lines.mapM readLine = some (dumpRows 0 buffer) ∧
        (dumpRows 0 buffer).flatMap Prod.snd = buffer := by
  refine ⟨fun index chunk within => ?_, (dumpRows 0 buffer).map lineText, ?_, ?_, ?_,
    dumpRows_flatMap 0 buffer⟩
  · obtain ⟨form, formed, exhausted, -⟩ := formLog_eq index within
    exact ⟨form, formed, exhausted⟩
  · rw [binaryText, dumpLoop_eq, List.flatMap_map]
    rfl
  · intro line member inside
    obtain ⟨row, -, rfl⟩ := List.mem_map.mp member
    rcases lineText_mem inside with isSpace | above
    · exact absurd isSpace (by decide)
    · exact absurd above (by decide)
  · apply mapM_lineText
    intro row member
    have below := dumpRows_lt member
    omega

private def manyBytes : List UInt8 :=
  (List.range 520).map UInt8.ofNat

/-- Seventeen lines, the last of them short, with every byte there is. -/
theorem binaryText_reads_back_lines :
    (manyBytes.length + 31) / 32 = 17 ∧
      ∃ lines : List (List UInt8),
        binaryText 4096 manyBytes = some (addressLine 4096 520 ++
          lines.flatMap (· ++ [newline])) ∧
        lines.mapM readLine = some (dumpRows 0 manyBytes) ∧
        (dumpRows 0 manyBytes).flatMap Prod.snd = manyBytes := by
  have length : manyBytes.length = 520 := by simp [manyBytes]
  have few : (manyBytes.length + 31) / 32 < 2 ^ 31 := by
    rw [length]
    decide
  obtain ⟨-, lines, printed, -, reads, whole⟩ := binaryText_reads_back 4096 few
  rw [length] at printed ⊢
  exact ⟨rfl, lines, printed, reads, whole⟩

end Talko.Log
