import Talko.Library.Endian
import Talko.Library.Transducer

/-!
# Raw deflate and inflate

`ZlibUtil::deflate` and `ZlibUtil::inflate` move the output of a stream through a window of 8192
bytes. Both loops stop at the call that has used up the input, whether or not its output fitted
the window. The streams are those of zlib, an argument.
-/

set_option autoImplicit false

namespace Talko.Common

open Talko.Library

/-- The return codes that the loops tell apart. -/
inductive ZCode where
  | ok
  | streamEnd
  | other
  deriving DecidableEq, Repr

def OUTPUT_BUF_SIZE : Nat := 8192

/-- What the loops use of zlib. The initialisations may fail. -/
structure Zlib (Deflater Inflater : Type) where
  deflateInit2 : Option Deflater
  deflate : Deflater → List UInt8 → Nat → TransducerCall ZCode Deflater UInt8
  inflateInit2 : Option Inflater
  inflate : Inflater → List UInt8 → Nat → TransducerCall ZCode Inflater UInt8

/-- How a loop is left: by the `return` of `Z_STREAM_END`, by the `break`, or by an error. -/
inductive LoopExit where
  | streamEnd
  | processed
  | failed
  deriving DecidableEq, Repr

/-- The bytes that a stream is given: `avail_in` is an `unsigned int`. -/
def availIn (strSrc : List UInt8) : List UInt8 :=
  strSrc.take (strSrc.length % 2 ^ 32)

/-- The loop that both members have, with `strDest` as it grows. Out of fuel it is still at it. -/
def streamLoop {State : Type} (call : State → List UInt8 → Nat → TransducerCall ZCode State UInt8) :
    Nat → State → List UInt8 → List UInt8 → Option (LoopExit × List UInt8)
  | 0, _, _, _ => none
  | fuel + 1, zS, input, strDest =>
      let called := call zS input OUTPUT_BUF_SIZE
      let left := input.drop called.consumed
      let appended := strDest ++ called.written
      match called.err with
      | .streamEnd => some (.streamEnd, appended)
      | .ok =>
          if called.written.length = OUTPUT_BUF_SIZE ∧ left ≠ [] then
            streamLoop call fuel called.next left appended
          else if left = [] then some (.processed, appended)
          else some (.failed, strDest)
      | .other => some (.failed, strDest)

/-- `substr(0, length() - 4)`; in a shorter string the count wraps around. -/
def withoutMarker (strDest : List UInt8) : List UInt8 :=
  if 4 ≤ strDest.length then strDest.take (strDest.length - 4) else strDest

namespace Zlib

variable {Deflater Inflater : Type}

/-- `ZlibUtil::deflate`: what it returns, and `strDest`. -/
def deflateString (zlib : Zlib Deflater Inflater) (fuel : Nat) (strSrc strDest : List UInt8) :
    Option (Bool × List UInt8) :=
  match zlib.deflateInit2 with
  | none => some (false, strDest)
  | some zS =>
      (streamLoop zlib.deflate fuel zS (availIn strSrc) strDest).map fun ended =>
        match ended.1 with
        | .streamEnd => (true, ended.2)
        | .processed => (true, withoutMarker ended.2)
        | .failed => (false, ended.2)

/-- `ZlibUtil::inflate`. -/
def inflateString (zlib : Zlib Deflater Inflater) (fuel : Nat) (strSrc strDest : List UInt8) :
    Option (Bool × List UInt8) :=
  match zlib.inflateInit2 with
  | none => some (false, strDest)
  | some zS =>
      (streamLoop zlib.inflate fuel zS (availIn strSrc) strDest).map fun ended =>
        match ended.1 with
        | .streamEnd => (true, ended.2)
        | .processed => (true, ended.2)
        | .failed => (false, ended.2)

/-- What deflating gives back true for, inflating gives back. -/
def RoundTrip (zlib : Zlib Deflater Inflater) (x : List UInt8) : Prop :=
  ∀ d, (∃ fuel, zlib.deflateString fuel x [] = some (true, d)) →
    ∃ fuel, zlib.inflateString fuel d [] = some (true, x)

/-- The end of the output of a deflate stream that was flushed. -/
def syncMarker : List UInt8 :=
  [0x00, 0x00, 0xff, 0xff]

/-- What is taken of zlib for one input: the streams can be made, deflating it writes some bytes
and the marker, and inflating them with or without the marker writes the input. -/
structure Codes (zlib : Zlib Deflater Inflater) (deflater : Deflater) (inflater : Inflater)
    (x body : List UInt8) : Prop where
  deflateInit2 : zlib.deflateInit2 = some deflater
  inflateInit2 : zlib.inflateInit2 = some inflater
  body_ne_nil : body ≠ []
  deflates : Streams .ok zlib.deflate deflater x (body ++ syncMarker)
  inflates : Streams .ok zlib.inflate inflater body x
  inflatesWhole : Streams .ok zlib.inflate inflater (body ++ syncMarker) x

end Zlib

/-- The call that uses up the input leaves no output pending. -/
inductive Drains {State : Type}
    (call : State → List UInt8 → Nat → TransducerCall ZCode State UInt8) :
    State → List UInt8 → List UInt8 → Prop where
  | last {zS : State} {input output : List UInt8} :
      input.drop (call zS input OUTPUT_BUF_SIZE).consumed = [] →
      output.length ≤ OUTPUT_BUF_SIZE → Drains call zS input output
  | more {zS : State} {input output : List UInt8} :
      input.drop (call zS input OUTPUT_BUF_SIZE).consumed ≠ [] →
      Drains call (call zS input OUTPUT_BUF_SIZE).next
        (input.drop (call zS input OUTPUT_BUF_SIZE).consumed) (output.drop OUTPUT_BUF_SIZE) →
      Drains call zS input output

section

variable {State : Type} {call : State → List UInt8 → Nat → TransducerCall ZCode State UInt8}

theorem drains_iff_of_last {zS : State} {input output : List UInt8}
    (last : input.drop (call zS input OUTPUT_BUF_SIZE).consumed = []) :
    Drains call zS input output ↔ output.length ≤ OUTPUT_BUF_SIZE := by
  constructor
  · intro drains
    cases drains with
    | last _ fits => exact fits
    | more left _ => exact absurd last left
  · exact .last last

theorem drains_iff_of_more {zS : State} {input output : List UInt8}
    (more : input.drop (call zS input OUTPUT_BUF_SIZE).consumed ≠ []) :
    Drains call zS input output ↔
      Drains call (call zS input OUTPUT_BUF_SIZE).next
        (input.drop (call zS input OUTPUT_BUF_SIZE).consumed) (output.drop OUTPUT_BUF_SIZE) := by
  constructor
  · intro drains
    cases drains with
    | last none _ => exact absurd none more
    | more _ later => exact later
  · exact .more more

/-!
## The loop
-/

theorem streamLoop_of_ok {zS : State} {input : List UInt8}
    (ok : (call zS input OUTPUT_BUF_SIZE).err = .ok) (fuel : Nat) (strDest : List UInt8) :
    streamLoop call (fuel + 1) zS input strDest =
      let called := call zS input OUTPUT_BUF_SIZE
      let left := input.drop called.consumed
      if called.written.length = OUTPUT_BUF_SIZE ∧ left ≠ [] then
        streamLoop call fuel called.next left (strDest ++ called.written)
      else if left = [] then some (.processed, strDest ++ called.written)
      else some (.failed, strDest) := by
  simp only [streamLoop, ok]

theorem streamLoop_succ {fuel : Nat} {zS : State} {input strDest : List UInt8}
    {result : LoopExit × List UInt8}
    (ended : streamLoop call fuel zS input strDest = some result) :
    streamLoop call (fuel + 1) zS input strDest = some result := by
  induction fuel generalizing zS input strDest with
  | zero => cases ended
  | succ fuel ih =>
      cases code : (call zS input OUTPUT_BUF_SIZE).err with
      | ok =>
          rw [streamLoop_of_ok code] at ended ⊢
          dsimp only at ended ⊢
          split at ended
          · next continues =>
              rw [if_pos continues]
              exact ih ended
          · next stops =>
              rw [if_neg stops]
              exact ended
      | streamEnd =>
          simp only [streamLoop, code] at ended ⊢
          exact ended
      | other =>
          simp only [streamLoop, code] at ended ⊢
          exact ended

/-- A loop that has ended has ended one way. -/
theorem streamLoop_unique {first second : Nat} {zS : State} {input strDest : List UInt8}
    {result other : LoopExit × List UInt8}
    (one : streamLoop call first zS input strDest = some result)
    (two : streamLoop call second zS input strDest = some other) : result = other := by
  have later : ∀ {fuel : Nat} {ended : LoopExit × List UInt8} (extra : Nat),
      streamLoop call fuel zS input strDest = some ended →
        streamLoop call (fuel + extra) zS input strDest = some ended := by
    intro fuel ended extra some
    induction extra with
    | zero => exact some
    | succ extra ih => exact streamLoop_succ ih
  have both := (later second one).symm.trans (Nat.add_comm first second ▸ later first two)
  exact Option.some.inj both

/-- The loop ends, and has collected a beginning of the output: the whole of it exactly when
nothing is pending once the input is used up. -/
theorem streamLoop_ends {zS : State} {input output : List UInt8}
    (streams : Streams .ok call zS input output) (left : input ≠ [] ∨ output ≠ [])
    (strDest : List UInt8) :
    ∃ fuel taken, streamLoop call fuel zS input strDest = some (.processed, strDest ++ taken) ∧
      taken <+: output ∧ (taken = output ↔ Drains call zS input output) := by
  induction size : output.length using Nat.strongRecOn generalizing zS input output strDest with
  | ind rounds ih =>
      have answers := streams.answers left (show 0 < OUTPUT_BUF_SIZE by decide)
      by_cases used : input.drop (call zS input OUTPUT_BUF_SIZE).consumed = []
      · refine ⟨1, output.take OUTPUT_BUF_SIZE, ?_, List.take_prefix _ _, ?_⟩
        · rw [streamLoop_of_ok answers.err]
          dsimp only
          rw [if_neg (fun both => both.2 used), if_pos used, answers.written]
        · rw [drains_iff_of_last used]
          constructor
          · intro same
            rw [← same, List.length_take]
            exact Nat.min_le_left _ _
          · exact List.take_of_length_le
      · have full : OUTPUT_BUF_SIZE ≤ output.length := by
          by_contra space
          rw [answers.complete (by omega), List.drop_length] at used
          exact used rfl
        have window : (output.take OUTPUT_BUF_SIZE).length = OUTPUT_BUF_SIZE := by
          rw [List.length_take]
          omega
        have shorter : (output.drop OUTPUT_BUF_SIZE).length < rounds := by
          rw [List.length_drop]
          have positive : 0 < OUTPUT_BUF_SIZE := by decide
          omega
        obtain ⟨fuel, taken, looped, begins, whole⟩ := ih _ shorter answers.live (.inl used)
          (strDest ++ output.take OUTPUT_BUF_SIZE) rfl
        refine ⟨fuel + 1, output.take OUTPUT_BUF_SIZE ++ taken, ?_, ?_, ?_⟩
        · rw [streamLoop_of_ok answers.err]
          dsimp only
          rw [answers.written, if_pos ⟨window, used⟩, looped, List.append_assoc]
        · obtain ⟨pending, joined⟩ := begins
          refine ⟨pending, ?_⟩
          rw [List.append_assoc, joined, List.take_append_drop]
        · rw [drains_iff_of_more used, ← whole]
          constructor
          · intro same
            have split := same.trans (List.take_append_drop OUTPUT_BUF_SIZE output).symm
            exact List.append_cancel_left split
          · intro same
            rw [same, List.take_append_drop]

end

/-!
## The round trip
-/

theorem availIn_of_lt {strSrc : List UInt8} (short : strSrc.length < 2 ^ 32) :
    availIn strSrc = strSrc := by
  rw [availIn, Nat.mod_eq_of_lt short, List.take_length]

theorem length_availIn_lt (strSrc : List UInt8) : (availIn strSrc).length < 2 ^ 32 := by
  have below : strSrc.length % 2 ^ 32 < 2 ^ 32 := Nat.mod_lt _ (by decide)
  rw [availIn, List.length_take]
  omega

theorem withoutMarker_append (body : List UInt8) :
    withoutMarker (body ++ Zlib.syncMarker) = body := by
  have marker : Zlib.syncMarker.length = 4 := rfl
  rw [withoutMarker, List.length_append, marker, if_pos (Nat.le_add_left _ _),
    Nat.add_sub_cancel, List.take_left]

namespace Zlib

variable {Deflater Inflater : Type} {zlib : Zlib Deflater Inflater} {deflater : Deflater}
  {inflater : Inflater} {x body : List UInt8}

/-- Deflating what leaves nothing pending gives the output without its marker. -/
theorem Codes.deflateString_eq (codes : zlib.Codes deflater inflater (availIn x) body)
    (drains : Drains zlib.deflate deflater (availIn x) (body ++ syncMarker)) {d : List UInt8} :
    (∃ fuel, zlib.deflateString fuel x [] = some (true, d)) ↔ d = body := by
  have output : availIn x ≠ [] ∨ body ++ syncMarker ≠ [] :=
    .inr (List.append_ne_nil_of_left_ne_nil codes.body_ne_nil _)
  obtain ⟨enough, taken, looped, -, whole⟩ := streamLoop_ends codes.deflates output []
  rw [List.nil_append, whole.mpr drains] at looped
  unfold deflateString
  rw [codes.deflateInit2]
  constructor
  · rintro ⟨fuel, returned⟩
    obtain ⟨ended, left, same⟩ := Option.map_eq_some_iff.mp returned
    rw [streamLoop_unique left looped, withoutMarker_append] at same
    exact (Prod.mk.inj same).2.symm
  · rintro rfl
    refine ⟨enough, ?_⟩
    dsimp only
    rw [looped, Option.map_some, withoutMarker_append]

/-- Inflating ends with a beginning of the text, the whole of it if nothing is left pending. -/
theorem Codes.inflateString_ends (codes : zlib.Codes deflater inflater x body)
    (short : body.length < 2 ^ 32) :
    ∃ taken, (∀ y, (∃ fuel, zlib.inflateString fuel body [] = some (true, y)) ↔ y = taken) ∧
      taken <+: x ∧ (taken = x ↔ Drains zlib.inflate inflater body x) := by
  obtain ⟨enough, taken, looped, begins, whole⟩ :=
    streamLoop_ends codes.inflates (.inl codes.body_ne_nil) []
  rw [List.nil_append] at looped
  refine ⟨taken, fun y => ?_, begins, whole⟩
  unfold inflateString
  rw [codes.inflateInit2, availIn_of_lt short]
  constructor
  · rintro ⟨fuel, returned⟩
    obtain ⟨ended, left, same⟩ := Option.map_eq_some_iff.mp returned
    rw [streamLoop_unique left looped] at same
    exact (Prod.mk.inj same).2.symm
  · rintro rfl
    refine ⟨enough, ?_⟩
    dsimp only
    rw [looped, Option.map_some]

/-- For an input whose output the loop of `deflate` has collected: the round trip gives it back
exactly when it is short enough for `avail_in` and the loop of `inflate` collects it too. -/
theorem roundTrip_iff (codes : zlib.Codes deflater inflater (availIn x) body)
    (short : body.length < 2 ^ 32)
    (collected : Drains zlib.deflate deflater (availIn x) (body ++ syncMarker)) :
    zlib.RoundTrip x ↔
      x.length < 2 ^ 32 ∧ Drains zlib.inflate inflater body (availIn x) := by
  obtain ⟨taken, inflated, begins, whole⟩ := codes.inflateString_ends short
  have same : zlib.RoundTrip x ↔ x = taken := by
    unfold RoundTrip
    simp only [codes.deflateString_eq collected, forall_eq, inflated x]
  rw [same, ← whole]
  constructor
  · rintro rfl
    have within := begins.length_le
    have below := length_availIn_lt x
    have fits : x.length < 2 ^ 32 := by omega
    exact ⟨fits, (availIn_of_lt fits).symm⟩
  · rintro ⟨fits, all⟩
    rw [all, availIn_of_lt fits]

/-!
## Text that is stored
-/

/-- The block in which a text stands that compression would not make shorter. -/
def storedBlock (x : List UInt8) : List UInt8 :=
  0x00 :: (littleEndian 2 x.length ++ littleEndian 2 (65535 - x.length) ++ x)

/-- The texts of the blocks, as far as they are there. -/
def unstore : List UInt8 → List UInt8
  | kind :: low :: high :: _ :: _ :: rest =>
      if kind = 0x00 then
        rest.take (ofLittleEndian [low, high]) ++ unstore (rest.drop (ofLittleEndian [low, high]))
      else []
  | _ => []
termination_by input => input.length

/-- Streams that write one block and read blocks, and take their whole input at once. -/
def stored : Zlib (Option (List UInt8)) (Option (List UInt8)) where
  deflateInit2 := some none
  deflate := takesAll .ok .other fun x => storedBlock x ++ [0x00] ++ syncMarker
  inflateInit2 := some none
  inflate := takesAll .ok .other unstore

/-- A block gives the text behind its header, which may be cut short. -/
theorem unstore_block {size : Nat} (short : size < 65536) (text : List UInt8) :
    unstore (0x00 :: (littleEndian 2 size ++ littleEndian 2 (65535 - size) ++ text)) =
      text.take size ++ unstore (text.drop size) := by
  have read : ofLittleEndian (littleEndian 2 size) = size := by
    rw [ofLittleEndian_littleEndian]
    exact Nat.mod_eq_of_lt short
  simp only [littleEndian, List.cons_append, List.nil_append] at read ⊢
  rw [unstore, if_pos rfl, read]

theorem unstore_storedBlock {x : List UInt8} (short : x.length < 65536) (rest : List UInt8) :
    unstore (storedBlock x ++ rest) = x ++ unstore rest := by
  have block := unstore_block short (x ++ rest)
  rw [List.take_left, List.drop_left] at block
  rw [storedBlock, List.cons_append, List.append_assoc, block]

theorem stored_codes {x : List UInt8} (short : x.length < 65536) :
    stored.Codes none none x (storedBlock x ++ [0x00]) where
  deflateInit2 := rfl
  inflateInit2 := rfl
  body_ne_nil := List.cons_ne_nil _ _
  deflates := takesAll_streams ZCode.other _ x
  inflates := by
    have text : unstore (storedBlock x ++ [0x00]) = x := by
      rw [unstore_storedBlock short]
      simp [unstore]
    have streams := @takesAll_streams _ _ ZCode.ok ZCode.other unstore (storedBlock x ++ [0x00])
    rwa [text] at streams
  inflatesWhole := by
    have text : unstore (storedBlock x ++ [0x00] ++ syncMarker) = x := by
      rw [List.append_assoc, unstore_storedBlock short]
      simp [unstore, syncMarker, ofLittleEndian]
    have streams := @takesAll_streams _ _ ZCode.ok ZCode.other unstore
      (storedBlock x ++ [0x00] ++ syncMarker)
    rwa [text] at streams

theorem streamLoop_takesAll (whole : List UInt8 → List UInt8) (fuel : Nat) {input : List UInt8}
    (some : input ≠ []) (strDest : List UInt8) :
    streamLoop (takesAll ZCode.ok .other whole) (fuel + 1) none input strDest =
      .some (.processed, strDest ++ (whole input).take OUTPUT_BUF_SIZE) := by
  have ok : (takesAll ZCode.ok .other whole none input OUTPUT_BUF_SIZE).err = .ok := by
    simp [takesAll, some]
  have used : input.drop (takesAll ZCode.ok .other whole none input OUTPUT_BUF_SIZE).consumed =
      [] := List.drop_length
  rw [streamLoop_of_ok ok]
  dsimp only
  rw [if_neg (fun both => both.2 used), if_pos used]
  rfl

theorem withoutMarker_storedBlock {x : List UInt8} (long : 8183 < x.length) :
    withoutMarker ((storedBlock x ++ [0x00] ++ syncMarker).take OUTPUT_BUF_SIZE) =
      0x00 :: (littleEndian 2 x.length ++ littleEndian 2 (65535 - x.length) ++
        x.take 8183) := by
  have header : (littleEndian 2 x.length ++ littleEndian 2 (65535 - x.length)).length = 4 := rfl
  have tail : ([0x00] ++ syncMarker).length = 5 := rfl
  have whole : storedBlock x ++ [0x00] ++ syncMarker =
      0x00 :: (littleEndian 2 x.length ++ littleEndian 2 (65535 - x.length) ++
        (x ++ ([0x00] ++ syncMarker))) := by
    simp only [storedBlock, List.cons_append, List.append_assoc]
  have size : ((storedBlock x ++ [0x00] ++ syncMarker).take OUTPUT_BUF_SIZE).length = 8192 := by
    rw [whole, List.length_take, List.length_cons, List.length_append, header, List.length_append,
      tail, OUTPUT_BUF_SIZE]
    omega
  rw [withoutMarker, size, if_pos (by decide), List.take_take, whole]
  change (0x00 :: _).take (8187 + 1) = _
  rw [List.take_succ_cons, List.take_append, header,
    List.take_of_length_le (by rw [header]; decide), List.take_append_of_le_length (by omega)]

/-- Of a text that is stored in more than a window, `deflate` keeps what the first window has
taken. -/
theorem stored_cut {x : List UInt8} (long : 8183 < x.length) (short : x.length < 65536) :
    ¬ stored.RoundTrip x := by
  have some : x ≠ [] := List.ne_nil_of_length_pos (by omega)
  have header : (littleEndian 2 x.length ++ littleEndian 2 (65535 - x.length)).length = 4 := rfl
  intro trip
  have deflated : stored.deflateString 1 x [] =
      .some (true, 0x00 :: (littleEndian 2 x.length ++ littleEndian 2 (65535 - x.length) ++
        x.take 8183)) := by
    rw [deflateString, stored]
    dsimp only
    rw [availIn_of_lt (by omega), streamLoop_takesAll _ 0 some, Option.map_some, List.nil_append,
      withoutMarker_storedBlock long]
  obtain ⟨fuel, inflated⟩ := trip _ ⟨1, deflated⟩
  rw [inflateString, stored] at inflated
  dsimp only at inflated
  rw [availIn_of_lt (by rw [List.length_cons, List.length_append, header, List.length_take]; omega)]
    at inflated
  cases fuel with
  | zero => cases inflated
  | succ fuel =>
      have behind : (x.take 8183).drop x.length = [] := by
        apply List.drop_of_length_le
        rw [List.length_take]
        omega
      have nothing : unstore [] = [] := by simp [unstore]
      rw [streamLoop_takesAll _ fuel (List.cons_ne_nil _ _), Option.map_some, List.nil_append,
        unstore_block short, behind, nothing, List.append_nil] at inflated
      have same := congrArg List.length (Prod.mk.inj (Option.some.inj inflated)).2
      rw [List.length_take, List.length_take, List.length_take] at same
      omega

/-- Bytes that zlib stores. -/
def noise (size : Nat) : List UInt8 :=
  (List.range size).map fun place => UInt8.ofNat ((place + 1) ^ 3 * 2654435761 / 65536)

/-- The calls that use up 9000 such bytes leave what does not fit the window. -/
theorem noise_cut : stored.Codes none none (noise 9000) (storedBlock (noise 9000) ++ [0x00]) ∧
    ¬ stored.RoundTrip (noise 9000) := by
  have size : (noise 9000).length = 9000 := by rw [noise, List.length_map, List.length_range]
  exact ⟨stored_codes (by omega), stored_cut (by omega) (by omega)⟩

/-- Forty bytes that zlib stores, too. -/
theorem stored_roundTrip :
    stored.RoundTrip ((List.range 40).map fun place => UInt8.ofNat (0x90 + place)) := by
  have codes := stored_codes (x := (List.range 40).map fun place => UInt8.ofNat (0x90 + place))
    (by decide)
  refine (roundTrip_iff codes (by decide) (.last ?_ ?_)).mpr ⟨by decide, .last ?_ ?_⟩
  · exact List.drop_length
  · decide
  · exact List.drop_length
  · decide

end Zlib

end Talko.Common
