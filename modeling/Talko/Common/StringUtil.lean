import Mathlib.Algebra.Ring.Int.Defs
import Mathlib.Algebra.Ring.Nat
import Talko.Library.Cuts

/-!
# Strings

`StringUtil`: `split`, `cut`, `replace` and `trim`. A string is the list of its bytes and a
delimiter the list of those in front of its terminator. The loops run for a number of rounds
and have no result when these do not suffice.
-/

set_option autoImplicit false

namespace Talko.Common.StringUtil

open Talko.Library

/-!
## Splitting
-/

/-- How a call ends that appends to `v`: it returns, or `substr` throws `out_of_range`. -/
inductive SplitEnd where
  | returned (v : List (List UInt8))
  | threw (v : List (List UInt8))
  deriving DecidableEq, Repr

/-- `strlen(delimiter)` as an `int`. -/
def delimiterLength (delimiter : List UInt8) : Int :=
  Int.bmod delimiter.length (2 ^ 32)

/-- `buf.substr(pos + delimiterlength)`. A negative sum is a `size_t` beyond every string. -/
def substrBehind (buf : List UInt8) (pos : Nat) (delimiterlength : Int) : Option (List UInt8) :=
  let start := (pos : Int) + delimiterlength
  if start < 0 ∨ buf.length < start then none else some (buf.drop start.toNat)

def splitLoop (delimiter : List UInt8) (delimiterlength : Int) :
    Nat → List UInt8 → List (List UInt8) → Option SplitEnd
  | 0, _, _ => none
  | rounds + 1, buf, v =>
      match findDelimiter delimiter buf with
      | some pos =>
          let v := v ++ pushNonempty (buf.take pos)
          match substrBehind buf pos delimiterlength with
          | some buf => splitLoop delimiter delimiterlength rounds buf v
          | none => some (.threw v)
      | none => some (.returned (v ++ pushNonempty buf))

/-- An empty pointer is `none`. -/
def split (rounds : Nat) (str : List UInt8) (v : List (List UInt8)) :
    Option (List UInt8) → Option SplitEnd
  | none => some (.returned v)
  | some delimiter =>
      if str = [] then some (.returned v)
      else splitLoop delimiter (delimiterLength delimiter) rounds str v

def cut (str : List UInt8) (v : List (List UInt8)) : Option (List UInt8) → SplitEnd
  | none => .returned v
  | some delimiter =>
      if str = [] then .returned v
      else
        match findDelimiter delimiter str with
        | none => .returned v
        | some pos =>
            match substrBehind str pos (delimiterLength delimiter) with
            | none => .threw v
            | some substr2 => .returned (v ++ pushNonempty (str.take pos) ++ pushNonempty substr2)

/-!
## Replacing
-/

/-- `str.find(target, pos)`. -/
def findFrom (target str : List UInt8) (pos : Nat) : Option Nat :=
  if pos > str.length then none else (findDelimiter target (str.drop pos)).map (pos + ·)

/-- A round that replaces, on the string and the position it searches from. -/
def replaceRound (toReplaced newStr : List UInt8) :
    List UInt8 × Nat → Option (List UInt8 × Nat)
  | (str, pos) =>
      (findFrom toReplaced str pos).map fun found =>
        (str.take found ++ newStr ++ str.drop (found + toReplaced.length), found + newStr.length)

def replaceLoop (toReplaced newStr : List UInt8) : Nat → List UInt8 × Nat → Option (List UInt8)
  | 0, _ => none
  | rounds + 1, place =>
      match replaceRound toReplaced newStr place with
      | some next => replaceLoop toReplaced newStr rounds next
      | none => some place.1

def replace (rounds : Nat) (str toReplaced newStr : List UInt8) : Option (List UInt8) :=
  if toReplaced = [] ∨ newStr = [] then some str
  else replaceLoop toReplaced newStr rounds (str, 0)

/-- The string and the position behind so many replacements. -/
def replaceRounds (toReplaced newStr : List UInt8) :
    Nat → List UInt8 × Nat → Option (List UInt8 × Nat)
  | 0, place => some place
  | rounds + 1, place =>
      (replaceRound toReplaced newStr place).bind (replaceRounds toReplaced newStr rounds)

/-!
## Trimming
-/

def trimLeft (str : List UInt8) (trimmed : UInt8) : List UInt8 :=
  match str.findIdx? (· ≠ trimmed) with
  | some i => str.drop i
  | none => str

/-- The loop, with one more than the index it looks at. Below 0 the index turns into the
greatest `size_t`, for which there is no character. -/
def trimRightLoop (tmp : List UInt8) (trimmed : UInt8) : Nat → Option (List UInt8)
  | 0 => none
  | i + 1 =>
      if tmp[i]? ≠ some trimmed then some (tmp.take (i + 1)) else trimRightLoop tmp trimmed i

def trimRight (str : List UInt8) (trimmed : UInt8) : Option (List UInt8) :=
  trimRightLoop str trimmed str.length

def trim (str : List UInt8) (trimmed : UInt8) : Option (List UInt8) :=
  trimRight (trimLeft str trimmed) trimmed

end Talko.Common.StringUtil
