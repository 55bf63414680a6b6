import Talko.Library.Decimal
import Talko.Library.SqlLiteral

/-!
# Statements of SQL as text

A reader that cuts a statement into words, numbers, string literals and symbols, and
statements made of fixed text with numbers and quoted strings in between. The literals of
such a statement are its arguments exactly when all of them are plain.
-/

set_option autoImplicit false

namespace Talko.Library

inductive SqlToken where
  | word (text : List UInt8)
  | number (text : List UInt8)
  | literal (content : List UInt8)
  | symbol (byte : UInt8)
  | unterminated
  deriving DecidableEq, Repr

/-- What the reader is in the middle of; `quoted` is behind a quote that may end the literal
or be the first of two. -/
inductive LexMode where
  | blank
  | word (text : List UInt8)
  | sign (byte : UInt8)
  | number (text : List UInt8)
  | literal (content : List UInt8)
  | escaped (content : List UInt8)
  | quoted (content : List UInt8)
  deriving DecidableEq, Repr

def isWordByte (byte : UInt8) : Bool :=
  isDigit byte || byte = asciiCode '_' || (asciiCode 'a' ≤ byte && byte ≤ asciiCode 'z') ||
    (asciiCode 'A' ≤ byte && byte ≤ asciiCode 'Z')

def isSign (byte : UInt8) : Bool :=
  byte = asciiCode '-' || byte = asciiCode '+'

/-- The first byte of a token. -/
def beginToken (byte : UInt8) : List SqlToken × LexMode :=
  if byte = quote then ([], .literal [])
  else if isSpace byte then ([], .blank)
  else if isDigit byte then ([], .number [byte])
  else if isWordByte byte then ([], .word [byte])
  else if isSign byte then ([], .sign byte)
  else ([.symbol byte], .blank)

namespace LexMode

/-- The token that the mode stands for when the next byte is not part of it. -/
def flush : LexMode → List SqlToken
  | .blank => []
  | .word text => [.word text]
  | .sign byte => [.symbol byte]
  | .number text => [.number text]
  | .quoted content => [.literal content]
  | .literal _ | .escaped _ => [.unterminated]

def beginNext (mode : LexMode) (byte : UInt8) : List SqlToken × LexMode :=
  (mode.flush ++ (beginToken byte).1, (beginToken byte).2)

def next (mode : LexMode) (byte : UInt8) : List SqlToken × LexMode :=
  match mode with
  | .blank => mode.beginNext byte
  | .word text =>
      if isWordByte byte then ([], .word (text ++ [byte])) else mode.beginNext byte
  | .sign first => if isDigit byte then ([], .number [first, byte]) else mode.beginNext byte
  | .number text =>
      if isDigit byte then ([], .number (text ++ [byte]))
      else if isWordByte byte then ([], .word (text ++ [byte]))
      else mode.beginNext byte
  | .literal content =>
      if byte = quote then ([], .quoted content)
      else if byte = backslash then ([], .escaped content)
      else ([], .literal (content ++ [byte]))
  | .escaped content => ([], .literal (content ++ unescape byte))
  | .quoted content =>
      if byte = quote then ([], .literal (content ++ [quote])) else mode.beginNext byte

end LexMode

def tokensFrom : LexMode → List UInt8 → List SqlToken
  | mode, [] => mode.flush
  | mode, byte :: rest => (mode.next byte).1 ++ tokensFrom (mode.next byte).2 rest

def modeAfter : LexMode → List UInt8 → LexMode
  | mode, [] => mode
  | mode, byte :: rest => modeAfter (mode.next byte).2 rest

def sqlTokens (text : List UInt8) : List SqlToken :=
  tokensFrom .blank text

namespace SqlToken

def content : SqlToken → Option (List UInt8)
  | .literal content => some content
  | _ => none

/-- The token without the content of a literal or of a number. -/
def erase : SqlToken → SqlToken
  | .literal _ => .literal []
  | .number _ => .number []
  | token => token

end SqlToken

def literalContents (tokens : List SqlToken) : List (List UInt8) :=
  tokens.filterMap SqlToken.content

def tokenShape (tokens : List SqlToken) : List SqlToken :=
  tokens.map SqlToken.erase

/-!
## Reading
-/

theorem tokensFrom_beginNext (mode : LexMode) (byte : UInt8) (rest : List UInt8) :
    (mode.beginNext byte).1 ++ tokensFrom (mode.beginNext byte).2 rest =
      mode.flush ++ sqlTokens (byte :: rest) := by
  simp [sqlTokens, tokensFrom, LexMode.next, LexMode.beginNext, LexMode.flush, List.append_assoc]

theorem tokensFrom_append {mode : LexMode} {first : List UInt8}
    (ends : modeAfter mode first = .blank) (second : List UInt8) :
    tokensFrom mode (first ++ second) = tokensFrom mode first ++ sqlTokens second := by
  induction first generalizing mode with
  | nil =>
      cases ends
      rfl
  | cons byte rest ih =>
      rw [List.cons_append, tokensFrom, tokensFrom, ih ends, List.append_assoc]

theorem tokensFrom_quoted {content : List UInt8} {rest : List UInt8}
    (ends : rest.head? ≠ some quote) :
    tokensFrom (.quoted content) rest = .literal content :: sqlTokens rest := by
  cases rest with
  | nil => rfl
  | cons byte rest =>
      have other : byte ≠ quote := by simpa using ends
      simp only [tokensFrom, LexMode.next, other, if_false, tokensFrom_beginNext]
      rfl

theorem tokensFrom_ordinary {byte : UInt8} (noQuote : byte ≠ quote)
    (noBackslash : byte ≠ backslash) (content rest : List UInt8) :
    tokensFrom (.literal content) (byte :: rest) = tokensFrom (.literal (content ++ [byte])) rest := by
  simp [tokensFrom, LexMode.next, noQuote, noBackslash]

theorem tokensFrom_literal (content text : List UInt8) :
    tokensFrom (.literal content) text =
      match scanLiteral text with
      | some (found, rest) => .literal (content ++ found) :: sqlTokens rest
      | none => [.unterminated] := by
  fun_induction scanLiteral text generalizing content with
  | case1 => rfl
  | case2 =>
      dsimp only
      rw [List.append_nil]
      rfl
  | case3 byte other =>
      by_cases escapes : byte = backslash
      · rw [escapes]
        rfl
      · rw [tokensFrom_ordinary other escapes]
        rfl
  | case4 rest ih =>
      have doubled : tokensFrom (.literal content) (quote :: quote :: rest) =
          tokensFrom (.literal (content ++ [quote])) rest := rfl
      rw [doubled, ih]
      cases scanLiteral rest with
      | none => rfl
      | some found => simp
  | case5 byte rest other =>
      have closing : tokensFrom (.literal content) (quote :: byte :: rest) =
          tokensFrom (.quoted content) (byte :: rest) := rfl
      rw [closing, tokensFrom_quoted (by simpa using other)]
      dsimp only
      rw [List.append_nil]
  | case6 byte rest _ ih =>
      have escape : tokensFrom (.literal content) (backslash :: byte :: rest) =
          tokensFrom (.literal (content ++ unescape byte)) rest := rfl
      rw [escape, ih]
      cases scanLiteral rest with
      | none => rfl
      | some found => simp
  | case7 first byte rest noQuote noBackslash ih =>
      rw [tokensFrom_ordinary noQuote noBackslash, ih]
      cases scanLiteral (byte :: rest) with
      | none => rfl
      | some found => simp

theorem literalContents_literal_iff (text argument : List UInt8) (others : List (List UInt8)) :
    literalContents (tokensFrom (.literal []) text) = argument :: others ↔
      ∃ final, scanLiteral text = some (argument, final) ∧
        literalContents (sqlTokens final) = others := by
  rw [tokensFrom_literal]
  cases scanLiteral text with
  | none =>
      constructor
      · intro same
        cases same
      · rintro ⟨_, found, _⟩
        cases found
  | some found =>
      obtain ⟨content, final⟩ := found
      simp [literalContents, SqlToken.content]

/-!
## Numbers
-/

theorem tokensFrom_number {digits : List UInt8} (all : ∀ byte ∈ digits, isDigit byte = true)
    (text : List UInt8) {rest : List UInt8} (ends : ∀ byte ∈ rest.head?, isWordByte byte = false) :
    tokensFrom (.number text) (digits ++ rest) = .number (text ++ digits) :: sqlTokens rest := by
  induction digits generalizing text with
  | nil =>
      rw [List.nil_append, List.append_nil]
      cases rest with
      | nil => rfl
      | cons byte rest =>
          have other : isWordByte byte = false := ends byte rfl
          have digit : isDigit byte = false := by
            simp only [isWordByte, Bool.or_eq_false_iff] at other
            exact other.1.1.1
          simp only [tokensFrom, LexMode.next, digit, other, Bool.false_eq_true, if_false,
            tokensFrom_beginNext]
          rfl
  | cons digit digits ih =>
      have isOne := all digit List.mem_cons_self
      rw [List.cons_append, tokensFrom]
      simp only [LexMode.next, isOne, if_true, List.nil_append]
      rw [ih (fun byte member => all byte (List.mem_cons_of_mem _ member)), List.append_assoc,
        List.singleton_append]

theorem signedText_unquoted (value : Int) : ∀ byte ∈ signedText value, byte ≠ quote := by
  have digits : ∀ byte ∈ decimalText value.natAbs, byte ≠ quote := by
    rintro byte member rfl
    exact absurd (isDigit_decimalText _ _ member) (by decide)
  unfold signedText
  split
  · intro byte member
    cases member with
    | head => decide
    | tail _ later => exact digits byte later
  · exact digits

theorem beginToken_digit {byte : UInt8} (digit : isDigit byte = true) :
    beginToken byte = ([], .number [byte]) := by
  have bounds := digit
  simp only [isDigit, Bool.and_eq_true, decide_eq_true_eq, UInt8.le_iff_toNat_le] at bounds
  have low : 48 ≤ byte.toNat := bounds.1
  have noQuote : byte ≠ quote := by
    rintro rfl
    exact absurd low (by decide)
  have noSpace : isSpace byte = false := by
    have noBlank : byte ≠ 32 := by
      rintro rfl
      exact absurd low (by decide)
    have high : ¬ byte ≤ 13 := by
      rw [UInt8.le_iff_toNat_le]
      have : (13 : UInt8).toNat = 13 := rfl
      omega
    simp [isSpace, noBlank, high]
  simp [beginToken, noQuote, noSpace, digit]

theorem sqlTokens_signedText (value : Int) {rest : List UInt8}
    (ends : ∀ byte ∈ rest.head?, isWordByte byte = false) :
    sqlTokens (signedText value ++ rest) = .number (signedText value) :: sqlTokens rest := by
  obtain ⟨digit, digits, text⟩ := List.exists_cons_of_ne_nil (decimalText_ne_nil value.natAbs)
  have all : ∀ byte ∈ digit :: digits, isDigit byte = true := by
    rw [← text]
    exact isDigit_decimalText value.natAbs
  have first := all digit List.mem_cons_self
  have others := fun byte member => all byte (List.mem_cons_of_mem digit member)
  unfold signedText
  rw [text]
  split
  · have begins : sqlTokens (asciiCode '-' :: digit :: digits ++ rest) =
        tokensFrom (.number [asciiCode '-', digit]) (digits ++ rest) := by
      have sign : beginToken (asciiCode '-') = ([], .sign (asciiCode '-')) := by decide
      simp [sqlTokens, tokensFrom, LexMode.next, LexMode.beginNext, LexMode.flush, sign, first]
    rw [begins, tokensFrom_number others _ ends]
    rfl
  · have begins : sqlTokens (digit :: digits ++ rest) =
        tokensFrom (.number [digit]) (digits ++ rest) := by
      simp [sqlTokens, tokensFrom, LexMode.next, LexMode.beginNext, LexMode.flush,
        beginToken_digit first]
    rw [begins, tokensFrom_number others _ ends]
    rfl

/-!
## Texts without quotes
-/

def LexMode.isLiteral : LexMode → Bool
  | .literal _ | .escaped _ | .quoted _ => true
  | _ => false

theorem beginNext_unquoted {mode : LexMode} (outside : mode.isLiteral = false) {byte : UInt8}
    (noQuote : byte ≠ quote) :
    literalContents (mode.beginNext byte).1 = [] ∧ (mode.beginNext byte).2.isLiteral = false := by
  have flushed : literalContents mode.flush = [] := by
    cases mode with
    | literal _ | escaped _ | quoted _ => cases outside
    | _ => rfl
  have begun : literalContents (beginToken byte).1 = [] ∧ (beginToken byte).2.isLiteral = false := by
    unfold beginToken
    rw [if_neg noQuote]
    repeat' split
    all_goals exact ⟨rfl, rfl⟩
  refine ⟨?_, begun.2⟩
  rw [LexMode.beginNext, literalContents, List.filterMap_append]
  exact List.append_eq_nil_iff.mpr ⟨flushed, begun.1⟩

theorem next_unquoted {mode : LexMode} (outside : mode.isLiteral = false) {byte : UInt8}
    (noQuote : byte ≠ quote) :
    literalContents (mode.next byte).1 = [] ∧ (mode.next byte).2.isLiteral = false := by
  have begun := beginNext_unquoted outside noQuote
  unfold LexMode.next
  cases mode with
  | blank => exact begun
  | word text =>
      dsimp only
      split
      · exact ⟨rfl, rfl⟩
      · exact begun
  | sign first =>
      dsimp only
      split
      · exact ⟨rfl, rfl⟩
      · exact begun
  | number text =>
      dsimp only
      split
      · exact ⟨rfl, rfl⟩
      split
      · exact ⟨rfl, rfl⟩
      · exact begun
  | literal _ | escaped _ | quoted _ => cases outside

theorem literalContents_unquoted {mode : LexMode} (outside : mode.isLiteral = false)
    {text : List UInt8} (unquoted : ∀ byte ∈ text, byte ≠ quote) :
    literalContents (tokensFrom mode text) = [] := by
  induction text generalizing mode with
  | nil =>
      cases mode with
      | literal _ | escaped _ | quoted _ => cases outside
      | _ => rfl
  | cons byte rest ih =>
      obtain ⟨none, stays⟩ := next_unquoted outside (unquoted byte List.mem_cons_self)
      rw [tokensFrom, literalContents, List.filterMap_append]
      exact List.append_eq_nil_iff.mpr
        ⟨none, ih stays fun other member => unquoted other (List.mem_cons_of_mem _ member)⟩

end Talko.Library
