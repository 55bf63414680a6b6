import Mathlib.Data.List.Basic
import Mathlib.Data.List.TakeWhile

/-!
# String literals of SQL

A literal is read behind its opening quote: a doubled quote stands for one quote, a
backslash begins an escape, and the first other quote ends the literal. A text that is put
between two quotes as it is comes back from the reader exactly when it is plain.
-/

set_option autoImplicit false

namespace Talko.Library

def quote : UInt8 := 39

def backslash : UInt8 := 92

/-- What stands behind a backslash; `\%` and `\_` keep theirs. -/
def unescape (byte : UInt8) : List UInt8 :=
  if byte = 48 then [0]
  else if byte = 98 then [8]
  else if byte = 110 then [10]
  else if byte = 114 then [13]
  else if byte = 116 then [9]
  else if byte = 90 then [26]
  else if byte = 37 ∨ byte = 95 then [backslash, byte]
  else [byte]

/-- The content of a literal and the text behind it, `none` for one that does not end. -/
def scanLiteral : List UInt8 → Option (List UInt8 × List UInt8)
  | [] => none
  | [byte] => if byte = quote then some ([], []) else none
  | byte :: next :: rest =>
      if byte = quote then
        if next = quote then (scanLiteral rest).map fun found => (quote :: found.1, found.2)
        else some ([], next :: rest)
      else if byte = backslash then
        (scanLiteral rest).map fun found => (unescape next ++ found.1, found.2)
      else (scanLiteral (next :: rest)).map fun found => (byte :: found.1, found.2)

/-- A text without quotes and zeros, whose backslashes stand before `%` or `_`. -/
inductive Plain : List UInt8 → Prop where
  | nil : Plain []
  | byte {byte : UInt8} {rest : List UInt8} :
      byte ≠ quote → byte ≠ backslash → byte ≠ 0 → Plain rest → Plain (byte :: rest)
  | pattern {byte : UInt8} {rest : List UInt8} :
      byte = 37 ∨ byte = 95 → Plain rest → Plain (backslash :: byte :: rest)

theorem Plain.of_all {text : List UInt8}
    (ordinary : text.all (fun byte => byte ≠ quote ∧ byte ≠ backslash ∧ byte ≠ 0) = true) :
    Plain text := by
  induction text with
  | nil => exact .nil
  | cons byte rest ih =>
      rw [List.all_cons, Bool.and_eq_true, decide_eq_true_eq] at ordinary
      obtain ⟨⟨noQuote, noBackslash, nonzero⟩, later⟩ := ordinary
      exact .byte noQuote noBackslash nonzero (ih later)

theorem Plain.no_zero {text : List UInt8} (plain : Plain text) : ∀ byte ∈ text, byte ≠ 0 := by
  induction plain with
  | nil =>
      intro byte member
      cases member
  | byte _ _ nonzero _ ih =>
      intro other member
      cases member with
      | head => exact nonzero
      | tail _ later => exact ih other later
  | pattern sign _ ih =>
      intro other member
      cases member with
      | head => decide
      | tail _ behind =>
          cases behind with
          | head =>
              rcases sign with percent | underscore
              · rw [percent]
                decide
              · rw [underscore]
                decide
          | tail _ later => exact ih other later

/-- The text behind a closing quote: nothing, or a byte that neither doubles the quote nor
begins an escape. -/
def Separates (text : List UInt8) : Prop :=
  ∀ byte ∈ text.head?, byte ≠ quote ∧ byte ≠ backslash ∧ byte ≠ 0

theorem Separates.take {text : List UInt8} (separates : Separates text) (count : Nat) :
    Separates (text.take count) := by
  cases count with
  | zero =>
      intro byte member
      cases member
  | succ count =>
      cases text with
      | nil => exact separates
      | cons byte rest => exact separates

theorem scanLiteral_close {rest : List UInt8} (separates : Separates rest) :
    scanLiteral (quote :: rest) = some ([], rest) := by
  cases rest with
  | nil => rfl
  | cons byte rest =>
      have other := (separates byte rfl).1
      simp [scanLiteral, other]

theorem scanLiteral_ordinary {byte : UInt8} (noQuote : byte ≠ quote)
    (noBackslash : byte ≠ backslash) (rest : List UInt8) :
    scanLiteral (byte :: rest) = (scanLiteral rest).map fun found => (byte :: found.1, found.2) := by
  cases rest with
  | nil => simp [scanLiteral, noQuote]
  | cons next rest => simp [scanLiteral, noQuote, noBackslash]

theorem scanLiteral_escape (byte : UInt8) (rest : List UInt8) :
    scanLiteral (backslash :: byte :: rest) =
      (scanLiteral rest).map fun found => (unescape byte ++ found.1, found.2) := by
  have other : backslash ≠ quote := by decide
  simp [scanLiteral, other]

theorem unescape_pattern {byte : UInt8} (sign : byte = 37 ∨ byte = 95) :
    unescape byte = [backslash, byte] := by
  rcases sign with percent | underscore
  · rw [percent]
    decide
  · rw [underscore]
    decide

/-- A plain text between quotes is read as it is. -/
theorem Plain.scanLiteral {text : List UInt8} (plain : Plain text) {rest : List UInt8}
    (separates : Separates rest) :
    scanLiteral (text ++ quote :: rest) = some (text, rest) := by
  induction plain with
  | nil => exact scanLiteral_close separates
  | byte noQuote noBackslash _ _ ih =>
      rw [List.cons_append, scanLiteral_ordinary noQuote noBackslash, ih]
      rfl
  | pattern sign _ ih =>
      rw [List.cons_append, List.cons_append, scanLiteral_escape, ih, unescape_pattern sign]
      rfl

/-- How the reader got to the content and the rest. -/
inductive Scans : List UInt8 → List UInt8 → List UInt8 → Prop where
  | close {rest : List UInt8} : rest.head? ≠ some quote → Scans (quote :: rest) [] rest
  | doubled {text content rest : List UInt8} :
      Scans text content rest → Scans (quote :: quote :: text) (quote :: content) rest
  | escape {byte : UInt8} {text content rest : List UInt8} :
      Scans text content rest →
      Scans (backslash :: byte :: text) (unescape byte ++ content) rest
  | ordinary {byte : UInt8} {text content rest : List UInt8} :
      byte ≠ quote → byte ≠ backslash →
      Scans text content rest → Scans (byte :: text) (byte :: content) rest

theorem scans_of_scanLiteral {text content rest : List UInt8}
    (found : scanLiteral text = some (content, rest)) : Scans text content rest := by
  fun_induction scanLiteral text generalizing content with
  | case1 => cases found
  | case2 =>
      cases found
      exact .close (by decide)
  | case3 => cases found
  | case4 rest' ih =>
      obtain ⟨⟨inner, behind⟩, scanned, same⟩ := Option.map_eq_some_iff.mp found
      cases same
      exact .doubled (ih scanned)
  | case5 next rest' other =>
      cases found
      exact .close (by simpa using other)
  | case6 next rest' _ ih =>
      obtain ⟨⟨inner, behind⟩, scanned, same⟩ := Option.map_eq_some_iff.mp found
      cases same
      exact .escape (ih scanned)
  | case7 byte next rest' noQuote noBackslash ih =>
      obtain ⟨⟨inner, behind⟩, scanned, same⟩ := Option.map_eq_some_iff.mp found
      cases same
      exact .ordinary noQuote noBackslash (ih scanned)

theorem length_unescape_le (byte : UInt8) : (unescape byte).length ≤ 2 := by
  unfold unescape
  repeat' split
  all_goals simp

/-- A literal takes at least its content and the closing quote. -/
theorem Scans.length_le {text content rest : List UInt8} (scans : Scans text content rest) :
    content.length < text.length := by
  induction scans with
  | close _ => simp
  | doubled _ ih =>
      simp only [List.length_cons]
      omega
  | @escape byte _ _ _ _ ih =>
      have short := length_unescape_le byte
      simp only [List.length_append, List.length_cons]
      omega
  | ordinary _ _ _ ih =>
      simp only [List.length_cons]
      omega

def IsSpecial (byte : UInt8) : Prop :=
  byte = quote ∨ byte = backslash

/-- An escape gives one byte, which is special only if it stands for itself, or it is one of
the two that keep their backslash. -/
theorem unescape_cases (byte : UInt8) :
    (∃ meant, unescape byte = [meant] ∧ (IsSpecial meant → meant = byte)) ∨
      ((byte = 37 ∨ byte = 95) ∧ unescape byte = [backslash, byte]) := by
  have control : ∀ meant : UInt8, meant < 32 → IsSpecial meant → meant = byte := by
    intro meant low special
    rcases special with same | same
    · rw [same] at low
      exact absurd low (by decide)
    · rw [same] at low
      exact absurd low (by decide)
  unfold unescape
  split
  · exact .inl ⟨0, rfl, control 0 (by decide)⟩
  split
  · exact .inl ⟨8, rfl, control 8 (by decide)⟩
  split
  · exact .inl ⟨10, rfl, control 10 (by decide)⟩
  split
  · exact .inl ⟨13, rfl, control 13 (by decide)⟩
  split
  · exact .inl ⟨9, rfl, control 9 (by decide)⟩
  split
  · exact .inl ⟨26, rfl, control 26 (by decide)⟩
  split
  · next sign => exact .inr ⟨sign, rfl⟩
  · exact .inl ⟨byte, rfl, fun _ => rfl⟩

theorem Scans.head_of_separates {text content rest : List UInt8} (scans : Scans text content rest)
    (separates : Separates text) :
    ∃ byte later, content = byte :: later ∧ ¬ IsSpecial byte ∧ byte ≠ 0 := by
  cases scans with
  | close _ => exact absurd rfl (separates quote rfl).1
  | doubled _ => exact absurd rfl (separates quote rfl).1
  | escape _ => exact absurd rfl (separates backslash rfl).2.1
  | @ordinary byte _ later _ noQuote noBackslash _ =>
      exact ⟨byte, later, rfl, not_or.mpr ⟨noQuote, noBackslash⟩, (separates byte rfl).2.2⟩

/-- Behind the closing quote the reader finds no special byte first. -/
theorem Scans.not_special_first {text content rest : List UInt8} (scans : Scans text content rest)
    (separates : Separates text) {front : List UInt8} (present : front ≠ [])
    (special : ∀ byte ∈ front, IsSpecial byte) : ¬ front <+: content := by
  intro begins
  obtain ⟨ordinary, later, same, notSpecial, -⟩ := scans.head_of_separates separates
  rw [same] at begins
  cases front with
  | nil => exact present rfl
  | cons first front =>
      have head := (List.cons_prefix_cons.mp begins).1
      exact notSpecial (head ▸ special first List.mem_cons_self)

theorem not_special_pattern {byte : UInt8} (sign : byte = 37 ∨ byte = 95) : ¬ IsSpecial byte := by
  rcases sign with percent | underscore
  · rw [percent]
    exact not_or.mpr ⟨by decide, by decide⟩
  · rw [underscore]
    exact not_or.mpr ⟨by decide, by decide⟩

theorem special_append {front last : List UInt8} {first : UInt8}
    (special : ∀ byte ∈ first :: front, IsSpecial byte)
    (lastSpecial : ∀ byte ∈ last, IsSpecial byte) :
    ∀ byte ∈ front ++ last, IsSpecial byte := by
  intro byte member
  rcases List.mem_append.mp member with old | new
  · exact special byte (List.mem_cons_of_mem _ old)
  · exact lastSpecial byte new

/-- A content that goes on with an ordinary byte does not begin with a special one. -/
theorem special_not_ordinary {byte first : UInt8} {behind content : List UInt8}
    (special : IsSpecial first) (noQuote : byte ≠ quote) (noBackslash : byte ≠ backslash) :
    ¬ first :: behind <+: byte :: content := by
  intro begins
  rw [(List.cons_prefix_cons.mp begins).1] at special
  exact not_or.mpr ⟨noQuote, noBackslash⟩ special

/-- Once the reader has fallen behind the text by special bytes it cannot catch up: each
special byte of the content costs two of the text, and the text has one more than is its
own, the closing quote. -/
theorem Scans.not_behind {rest : List UInt8} (separates : Separates rest) :
    ∀ (text behind : List UInt8) {content final : List UInt8}, behind ≠ [] →
      (∀ byte ∈ behind, IsSpecial byte) → Scans (text ++ quote :: rest) content final →
      ¬ (behind ++ text) <+: content
  | _, [], _, _, present, _, _ => absurd rfl present
  | [], first :: behind, _, _, _, _, scans => by
      cases scans with
      | close _ => simp
      | doubled _ => exact absurd rfl (separates quote rfl).1
      | ordinary noQuote _ _ => exact absurd rfl noQuote
  | [byte], first :: behind, content, final, _, special, scans => by
      intro begins
      have firstSpecial := special first List.mem_cons_self
      -- The reader has taken the closing quote into the content; what follows is not special.
      have beyond : ∀ {later : List UInt8}, Scans rest later final → IsSpecial byte →
          ¬ (behind ++ [byte]) <+: later := by
        intro later scanned lastSpecial
        apply scanned.not_special_first separates (by simp)
        apply special_append special
        intro other member
        exact List.mem_singleton.mp member ▸ lastSpecial
      cases scans with
      | close double => exact absurd rfl double
      | doubled scanned =>
          rw [List.cons_append, List.cons_prefix_cons] at begins
          exact beyond scanned (.inl rfl) begins.2
      | escape scanned =>
          rw [List.cons_append] at begins
          exact beyond scanned (.inr rfl) (List.cons_prefix_cons.mp begins).2
      | ordinary noQuote noBackslash _ =>
          exact special_not_ordinary firstSpecial noQuote noBackslash begins
  | byte :: next :: text, first :: behind, content, final, _, special, scans => by
      intro begins
      have firstSpecial := special first List.mem_cons_self
      have later : ∀ {inner : List UInt8}, Scans (text ++ quote :: rest) inner final →
          IsSpecial byte → IsSpecial next → ¬ (behind ++ byte :: next :: text) <+: inner := by
        intro inner scanned byteSpecial nextSpecial begun
        apply Scans.not_behind separates text (behind ++ [byte, next]) (by simp) ?_ scanned
        · simpa using begun
        · apply special_append special
          intro other member
          rcases List.mem_pair.mp member with same | same
          · exact same ▸ byteSpecial
          · exact same ▸ nextSpecial
      cases scans with
      | close _ => simp at begins
      | doubled scanned =>
          rw [List.cons_append, List.cons_prefix_cons] at begins
          exact later scanned (.inl rfl) (.inl rfl) begins.2
      | escape scanned =>
          obtain ⟨meant, single, self⟩ | ⟨sign, both⟩ := unescape_cases next
          · rw [single, List.cons_append, List.singleton_append, List.cons_prefix_cons] at begins
            rw [begins.1] at firstSpecial
            exact later scanned (.inr rfl) (self firstSpecial ▸ firstSpecial) begins.2
          · rw [both, List.cons_append, List.cons_append, List.cons_prefix_cons] at begins
            have notSpecial := not_special_pattern sign
            cases behind with
            | nil =>
                have clash := (List.cons_prefix_cons.mp begins.2).1
                exact notSpecial (clash ▸ .inr rfl)
            | cons second behind =>
                have clash := (List.cons_prefix_cons.mp begins.2).1
                exact notSpecial (clash ▸ special second (by simp))
      | ordinary noQuote noBackslash _ =>
          exact special_not_ordinary firstSpecial noQuote noBackslash begins

/-- If the reader gives back the text, perhaps with what a zero cut off from it, then the
text is plain, nothing was cut off and the reader stopped at the closing quote. -/
theorem Scans.plain_of_eq {rest : List UInt8} (separates : Separates rest) :
    ∀ (text : List UInt8) {cut final : List UInt8}, (∀ byte ∈ text, byte ≠ 0) →
      (∀ byte ∈ cut.head?, byte = 0) → Scans (text ++ quote :: rest) (text ++ cut) final →
      Plain text ∧ cut = [] ∧ final = rest
  | [], cut, final, _, _, scans => by
      generalize same : ([] ++ cut : List UInt8) = content at scans
      rw [List.nil_append] at same
      cases scans with
      | close _ => exact ⟨.nil, same, rfl⟩
      | doubled _ => exact absurd rfl (separates quote rfl).1
      | ordinary noQuote _ _ => exact absurd rfl noQuote
  | [byte], cut, final, nonzero, zero, scans => by
      generalize same : ([byte] ++ cut : List UInt8) = content at scans
      rw [List.singleton_append] at same
      cases scans with
      | close double => exact absurd rfl double
      | doubled scanned =>
          obtain ⟨other, later, head, _, otherNonzero⟩ := scanned.head_of_separates separates
          rw [(List.cons.inj same).2, head] at zero
          exact absurd (zero other rfl) otherNonzero
      | escape _ => exact absurd (List.cons.inj same).1 (by decide)
      | ordinary noQuote noBackslash scanned =>
          rw [← (List.cons.inj same).2] at scanned
          obtain ⟨plain, none, ends⟩ := Scans.plain_of_eq separates [] (by simp) zero scanned
          exact ⟨.byte noQuote noBackslash (nonzero byte List.mem_cons_self) plain, none, ends⟩
  | byte :: next :: text, cut, final, nonzero, zero, scans => by
      have laterNonzero : ∀ other ∈ text, other ≠ 0 :=
        fun other member => nonzero other (by simp [member])
      -- A special byte read from two bytes of the text leaves the reader behind.
      have lags : ∀ {inner : List UInt8}, Scans (text ++ quote :: rest) inner final →
          IsSpecial next → inner ≠ next :: (text ++ cut) := by
        intro inner scanned special same
        apply Scans.not_behind separates text [next] (by simp) (by simpa using special) scanned
        rw [same]
        exact List.prefix_append (next :: text) cut
      generalize same : (byte :: next :: text ++ cut : List UInt8) = content at scans
      rw [List.cons_append, List.cons_append] at same
      cases scans with
      | close _ => cases same
      | doubled scanned => exact absurd (List.cons.inj same).2.symm (lags scanned (.inl rfl))
      | escape scanned =>
          obtain ⟨meant, single, self⟩ | ⟨sign, both⟩ := unescape_cases next
          · rw [single, List.singleton_append] at same
            have special : IsSpecial meant := .inr (List.cons.inj same).1.symm
            have nextSpecial : IsSpecial next := self special ▸ special
            exact absurd (List.cons.inj same).2.symm (lags scanned nextSpecial)
          · rw [both, List.cons_append, List.singleton_append] at same
            have inner := (List.cons.inj (List.cons.inj same).2).2
            rw [← inner] at scanned
            obtain ⟨plain, none, ends⟩ := Scans.plain_of_eq separates text laterNonzero zero scanned
            exact ⟨.pattern sign plain, none, ends⟩
      | ordinary noQuote noBackslash scanned =>
          rw [← (List.cons.inj same).2] at scanned
          obtain ⟨plain, none, ends⟩ := Scans.plain_of_eq separates (next :: text)
            (fun other member => nonzero other (List.mem_cons_of_mem _ member)) zero scanned
          exact ⟨.byte noQuote noBackslash (nonzero byte List.mem_cons_self) plain, none, ends⟩

/-- The text up to its first zero, which is what a C string holds of it. -/
def cString (text : List UInt8) : List UInt8 :=
  text.takeWhile (· ≠ 0)

theorem cString_nonzero {text : List UInt8} : ∀ byte ∈ cString text, byte ≠ 0 := by
  intro byte member
  simpa using List.mem_takeWhile_imp member

theorem cString_of_nonzero {text : List UInt8} (nonzero : ∀ byte ∈ text, byte ≠ 0) :
    cString text = text := by
  apply List.takeWhile_eq_self_iff.mpr
  intro byte member
  simpa using nonzero byte member

theorem take_append_quote {text rest : List UInt8} {count : Nat} (reaches : text.length < count) :
    (text ++ quote :: rest).take count = text ++ quote :: rest.take (count - text.length - 1) := by
  obtain ⟨more, enough⟩ := Nat.exists_eq_add_of_lt reaches
  rw [List.take_append, List.take_of_length_le (Nat.le_of_lt reaches), enough]
  simp [Nat.add_assoc]

theorem length_cString_le (text : List UInt8) : (cString text).length ≤ text.length :=
  (List.takeWhile_prefix _).length_le

/-- A text is put as a C string between quotes, and what follows is cut off somewhere. The
reader gives the text back exactly when it is plain and the closing quote is there. -/
theorem scanLiteral_eq_iff {rest : List UInt8} (separates : Separates rest) (text : List UInt8)
    (count : Nat) (final : List UInt8) :
    scanLiteral ((cString text ++ quote :: rest).take count) = some (text, final) ↔
      Plain text ∧ text.length < count ∧ final = rest.take (count - text.length - 1) := by
  constructor
  · intro found
    have scans := scans_of_scanLiteral found
    have reaches : (cString text).length < count := by
      have shorter := scans.length_le
      have taken := List.length_take_le count (cString text ++ quote :: rest)
      have part := length_cString_le text
      omega
    have whole : text = cString text ++ text.dropWhile (· ≠ 0) :=
      (List.takeWhile_append_dropWhile).symm
    have zero : ∀ byte ∈ (text.dropWhile (· ≠ 0)).head?, byte = 0 := by
      intro byte member
      have stops := List.head?_dropWhile_not (fun byte : UInt8 => decide (byte ≠ 0)) text
      rw [Option.mem_def.mp member] at stops
      simpa using stops
    rw [take_append_quote reaches] at scans
    have exact : Scans (cString text ++ quote :: rest.take (count - (cString text).length - 1))
        (cString text ++ text.dropWhile (· ≠ 0)) final := whole ▸ scans
    obtain ⟨plain, none, ends⟩ := Scans.plain_of_eq (separates.take _) (cString text)
      cString_nonzero zero exact
    rw [none, List.append_nil] at whole
    rw [← whole] at plain reaches ends
    exact ⟨plain, reaches, ends⟩
  · rintro ⟨plain, reaches, rfl⟩
    rw [cString_of_nonzero plain.no_zero, take_append_quote reaches]
    exact plain.scanLiteral (separates.take _)

end Talko.Library
