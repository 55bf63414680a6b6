import Talko.Library.Endian
import Talko.Library.OnesComplement

/-!
# The checksum of a package

`checksum` adds the words of a buffer up in an `unsigned int` and folds the carries once, behind
the loop. What the accumulator loses on the way is not folded.
-/

set_option autoImplicit false

namespace Talko.Network

open Talko.Library

def binaryPackageMaxlen2 : Nat := 0x10000000

/-- The word at `buffer`, on a little-endian host. -/
def bufferWord (low high : UInt8) : UInt16 :=
  UInt16.ofNat (ofLittleEndian [low, high])

/-- The loop over the words, and the last byte of a buffer of odd size. -/
def addWords (cksum : UInt32) : List UInt8 → UInt32
  | [] => cksum
  | [byte] => cksum + byte.toUInt32
  | low :: high :: rest => addWords (cksum + (bufferWord low high).toUInt32) rest

/-- One round of the loop behind it. -/
def foldRound (cksum : UInt32) : UInt32 :=
  (cksum >>> 16) + (cksum &&& 0xffff)

theorem shiftRight_toNat (cksum : UInt32) : (cksum >>> 16).toNat = cksum.toNat / 65536 := by
  rw [UInt32.toNat_shiftRight]
  exact Nat.shiftRight_eq_div_pow _ 16

theorem foldRound_toNat (cksum : UInt32) :
    (foldRound cksum).toNat = foldOnce 65536 cksum.toNat := by
  have bound := cksum.toNat_lt
  have low : (cksum &&& 0xffff).toNat = cksum.toNat % 65536 := by
    rw [UInt32.toNat_and]
    exact Nat.and_two_pow_sub_one_eq_mod _ 16
  rw [foldRound, UInt32.toNat_add, shiftRight_toNat, low, foldOnce]
  omega

theorem carries_iff (cksum : UInt32) : cksum >>> 16 ≠ 0 ↔ 65536 ≤ cksum.toNat := by
  rw [Ne, ← UInt32.toNat_inj, shiftRight_toNat]
  change ¬ cksum.toNat / 65536 = 0 ↔ _
  omega

def foldCarries (cksum : UInt32) : UInt32 :=
  if cksum >>> 16 ≠ 0 then foldCarries (foldRound cksum) else cksum
termination_by cksum.toNat
decreasing_by
  rename_i carries
  rw [foldRound_toNat]
  exact foldOnce_lt (by decide) ((carries_iff cksum).mp carries)

def checksum (buffer : List UInt8) : UInt16 :=
  (~~~ foldCarries (addWords 0 buffer)).toUInt16

/-- The words that the loop comes to, the last one zero-extended. -/
def bufferWords : List UInt8 → List Nat
  | [] => []
  | [byte] => [byte.toNat]
  | low :: high :: rest => ofLittleEndian [low, high] :: bufferWords rest

/-- The checksum is the complement of the one's-complement sum and makes the sum come out, and
the loop that folds the carries ends. -/
structure ChecksumMeets (buffer : List UInt8) : Prop where
  complement : checksum buffer = ~~~ UInt16.ofNat (onesSum 65536 (bufferWords buffer))
  appended : buffer.length % 2 = 0 →
    checksum (buffer ++ littleEndian 2 (checksum buffer).toNat) = 0
  ends : ∀ cksum : UInt32, ∃ rounds, Nat.iterate foldRound rounds cksum >>> 16 = 0

/-!
## What the loops compute
-/

theorem bufferWord_toNat (low high : UInt8) :
    (bufferWord low high).toNat = ofLittleEndian [low, high] := by
  have first := low.toNat_lt
  have second := high.toNat_lt
  rw [bufferWord, UInt16.toNat_ofNat']
  simp only [ofLittleEndian]
  omega

theorem bufferWords_lt (buffer : List UInt8) : ∀ word ∈ bufferWords buffer, word < 65536 := by
  fun_induction bufferWords buffer with
  | case1 => simp
  | case2 byte =>
      have small := byte.toNat_lt
      simp only [List.mem_singleton, forall_eq]
      omega
  | case3 low high rest ih =>
      refine List.forall_mem_cons.mpr ⟨?_, ih⟩
      rw [← bufferWord_toNat]
      exact (bufferWord low high).toNat_lt

theorem addWords_toNat (cksum : UInt32) (buffer : List UInt8) :
    (addWords cksum buffer).toNat = (cksum.toNat + (bufferWords buffer).sum) % 2 ^ 32 := by
  fun_induction addWords cksum buffer with
  | case1 cksum =>
      have bound := cksum.toNat_lt
      simp only [bufferWords, List.sum_nil, Nat.add_zero]
      exact (Nat.mod_eq_of_lt bound).symm
  | case2 cksum byte => simp [bufferWords]
  | case3 cksum low high rest ih =>
      have word : (bufferWord low high).toUInt32.toNat = ofLittleEndian [low, high] :=
        bufferWord_toNat low high
      rw [ih, UInt32.toNat_add, word, bufferWords, List.sum_cons, Nat.mod_add_mod, Nat.add_assoc]

theorem foldCarries_toNat (cksum : UInt32) :
    (foldCarries cksum).toNat = digitRoot 65536 cksum.toNat := by
  fun_induction foldCarries cksum with
  | case1 cksum carries ih => rw [ih, foldRound_toNat, digitRoot_foldOnce (by decide)]
  | case2 cksum settled =>
      have small : ¬ 65536 ≤ cksum.toNat := fun carries => settled ((carries_iff cksum).mpr carries)
      exact (digitRoot_of_lt (by omega)).symm

theorem foldCarries_ends (cksum : UInt32) :
    ∃ rounds, Nat.iterate foldRound rounds cksum >>> 16 = 0 := by
  fun_induction foldCarries cksum with
  | case1 cksum carries ih =>
      obtain ⟨rounds, settled⟩ := ih
      exact ⟨rounds + 1, settled⟩
  | case2 cksum settled => exact ⟨0, not_not.mp settled⟩

theorem checksum_toNat (buffer : List UInt8) :
    (checksum buffer).toNat = 65535 - digitRoot 65536 ((bufferWords buffer).sum % 2 ^ 32) := by
  have folded := foldCarries_toNat (addWords 0 buffer)
  rw [addWords_toNat, UInt32.toNat_zero, Nat.zero_add] at folded
  have small := @digitRoot_lt 65536 (by decide) ((bufferWords buffer).sum % 2 ^ 32)
  rw [checksum, UInt32.toNat_toUInt16, UInt32.toNat_not, folded, UInt32.size]
  omega

theorem onesSum_bufferWords (buffer : List UInt8) :
    (~~~ UInt16.ofNat (onesSum 65536 (bufferWords buffer))).toNat =
      65535 - digitRoot 65536 (bufferWords buffer).sum := by
  have small := @digitRoot_lt 65536 (by decide) (bufferWords buffer).sum
  rw [onesSum_eq (by decide) (bufferWords_lt buffer), UInt16.toNat_not, UInt16.toNat_ofNat',
    Nat.mod_eq_of_lt small, UInt16.size]

/-!
## When nothing is lost
-/

/-- The accumulator counts modulo a number that is one more than a multiple of 65535, so every
overflow takes one from the residue. -/
theorem digitRoot_mod_iff {sum : Nat} (few : sum < 2 ^ 32 * 65535) :
    digitRoot 65536 (sum % 2 ^ 32) = digitRoot 65536 sum ↔ sum < 2 ^ 32 := by
  constructor
  · intro same
    have congruent : sum % 2 ^ 32 % 65535 = sum % 65535 := (digitRoot_eq_iff.mp same).2
    omega
  · intro small
    rw [Nat.mod_eq_of_lt small]

theorem bufferWords_sum_le (buffer : List UInt8) :
    (bufferWords buffer).sum ≤ 32768 * (buffer.length + 1) := by
  fun_induction bufferWords buffer with
  | case1 => simp
  | case2 byte =>
      have small := byte.toNat_lt
      simp only [List.sum_singleton, List.length_singleton]
      omega
  | case3 low high rest ih =>
      have small := (bufferWord low high).toNat_lt
      rw [bufferWord_toNat] at small
      simp only [List.sum_cons, List.length_cons]
      omega

theorem checksum_eq_iff {buffer : List UInt8} (admissible : buffer.length ≤ binaryPackageMaxlen2) :
    checksum buffer = ~~~ UInt16.ofNat (onesSum 65536 (bufferWords buffer)) ↔
      (bufferWords buffer).sum < 2 ^ 32 := by
  have few : (bufferWords buffer).sum < 2 ^ 32 * 65535 := by
    have bound := bufferWords_sum_le buffer
    unfold binaryPackageMaxlen2 at admissible
    omega
  have first := @digitRoot_lt 65536 (by decide) ((bufferWords buffer).sum % 2 ^ 32)
  have second := @digitRoot_lt 65536 (by decide) (bufferWords buffer).sum
  rw [← UInt16.toNat_inj, checksum_toNat, onesSum_bufferWords, ← digitRoot_mod_iff few]
  omega

theorem bufferWords_append {buffer : List UInt8} (even : buffer.length % 2 = 0)
    (low high : UInt8) :
    bufferWords (buffer ++ [low, high]) = bufferWords buffer ++ [ofLittleEndian [low, high]] := by
  fun_induction bufferWords buffer with
  | case1 => rfl
  | case2 byte => exact absurd even Nat.one_ne_zero
  | case3 first second rest ih =>
      have shorter : rest.length % 2 = 0 := by
        simp only [List.length_cons] at even
        omega
      rw [List.cons_append, List.cons_append, bufferWords, ih shorter, List.cons_append]

theorem digitRoot_complement {sum : Nat} (small : sum < 2 ^ 32) :
    sum + (65535 - digitRoot 65536 sum) < 2 ^ 32 ∧
      digitRoot 65536 (sum + (65535 - digitRoot 65536 sum)) = 65535 := by
  by_cases none : sum = 0
  · subst none
    decide
  · -- the sum is `65535 * rounds + rest + 1`, and the complement makes up for the rest
    obtain ⟨rounds, rest, split, below⟩ : ∃ rounds rest, sum - 1 = 65535 * rounds + rest ∧
        rest < 65535 :=
      ⟨(sum - 1) / 65535, (sum - 1) % 65535, (Nat.div_add_mod _ _).symm, Nat.mod_lt _ (by decide)⟩
    have root : digitRoot 65536 sum = rest + 1 := by
      rw [digitRoot, if_neg none, split]
      omega
    have total : sum + (65535 - digitRoot 65536 sum) = 65535 * (rounds + 1) := by omega
    rw [total]
    refine ⟨by omega, ?_⟩
    rw [digitRoot, if_neg (by omega)]
    omega

/-- With its checksum appended, a buffer of whole words sums up to all ones. The word never
overflows what the accumulator holds. -/
theorem checksum_appended {buffer : List UInt8} (even : buffer.length % 2 = 0) :
    checksum (buffer ++ littleEndian 2 (checksum buffer).toNat) = 0 := by
  have word : ofLittleEndian (littleEndian 2 (checksum buffer).toNat) =
      (checksum buffer).toNat := by
    rw [ofLittleEndian_littleEndian]
    exact Nat.mod_eq_of_lt (checksum buffer).toNat_lt
  have words : bufferWords (buffer ++ littleEndian 2 (checksum buffer).toNat) =
      bufferWords buffer ++ [(checksum buffer).toNat] :=
    (bufferWords_append even _ _).trans (congrArg (fun word => bufferWords buffer ++ [word]) word)
  obtain ⟨fits, ones⟩ := digitRoot_complement
    (Nat.mod_lt (bufferWords buffer).sum (show 0 < 2 ^ 32 by decide))
  rw [← UInt16.toNat_inj, checksum_toNat, words, List.sum_append, List.sum_singleton,
    checksum_toNat, ← Nat.mod_add_mod, Nat.mod_eq_of_lt fits, ones]
  rfl

/-- The checksum is right exactly while the accumulator has not overflowed. -/
theorem checksumMeets_iff {buffer : List UInt8}
    (admissible : buffer.length ≤ binaryPackageMaxlen2) :
    ChecksumMeets buffer ↔ (bufferWords buffer).sum < 2 ^ 32 := by
  rw [← checksum_eq_iff admissible]
  constructor
  · exact ChecksumMeets.complement
  · exact fun complement => ⟨complement, checksum_appended, foldCarries_ends⟩

theorem checksumMeets_odd_buffer : ChecksumMeets [0xff, 0xff, 0x01, 0x00, 0x80] :=
  (checksumMeets_iff (by decide)).mpr (by decide)

theorem bufferWords_replicate (words : Nat) (byte : UInt8) :
    bufferWords (List.replicate (2 * words) byte) =
      List.replicate words (ofLittleEndian [byte, byte]) := by
  induction words with
  | zero => rfl
  | succ words ih =>
      rw [Nat.mul_succ, List.replicate_succ, List.replicate_succ, bufferWords, ih,
        List.replicate_succ]

/-- In a buffer of 65538 words of ones the last of them overflows the accumulator. -/
theorem checksum_overflows :
    let buffer := List.replicate (2 * 65538) (0xff : UInt8)
    buffer.length ≤ binaryPackageMaxlen2 ∧ (checksum buffer).toNat = 1 ∧
      (~~~ UInt16.ofNat (onesSum 65536 (bufferWords buffer))).toNat = 0 := by
  intro buffer
  have sum : (bufferWords buffer).sum = 65538 * 65535 := by
    rw [bufferWords_replicate, List.sum_replicate_nat]
    rfl
  refine ⟨?_, ?_, ?_⟩
  · rw [List.length_replicate]
    decide
  · rw [checksum_toNat, sum]
    rfl
  · rw [onesSum_bufferWords, sum]
    rfl

end Talko.Network
