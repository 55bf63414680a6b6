import Talko.Library.SqlText

/-!
# Statements with arguments

A statement is fixed text, an argument, fixed text, and so on. A text argument stands
between quotes as it is. The statement may be cut off, at a zero in it or at the end of a
buffer.
-/

set_option autoImplicit false

namespace Talko.Library

inductive SqlField where
  | text (argument : List UInt8)
  | number (value : Int)
  deriving DecidableEq, Repr

/-- A statement: its beginning, and each argument with the fixed text behind it. -/
structure SqlStatement where
  head : List UInt8
  fields : List (SqlField × List UInt8)
  deriving DecidableEq, Repr

namespace SqlField

/-- The argument in a text that is put together piece by piece. -/
def streamed : SqlField → List UInt8
  | .text argument => quote :: argument ++ [quote]
  | .number value => signedText value

/-- The argument as a `%s` or a `%d` prints it. -/
def printed : SqlField → List UInt8
  | .text argument => quote :: cString argument ++ [quote]
  | .number value => signedText value

def argument : SqlField → Option (List UInt8)
  | .text argument => some argument
  | .number _ => none

def token : SqlField → SqlToken
  | .text argument => .literal argument
  | .number value => .number (signedText value)

end SqlField

def printedFields (fields : List (SqlField × List UInt8)) : List UInt8 :=
  fields.flatMap fun field => field.1.printed ++ field.2

def streamedFields (fields : List (SqlField × List UInt8)) : List UInt8 :=
  fields.flatMap fun field => field.1.streamed ++ field.2

def fieldArguments (fields : List (SqlField × List UInt8)) : List (List UInt8) :=
  fields.filterMap fun field => field.1.argument

theorem printedFields_text (argument behind : List UInt8) (rest : List (SqlField × List UInt8)) :
    printedFields ((.text argument, behind) :: rest) =
      quote :: (cString argument ++ quote :: (behind ++ printedFields rest)) := by
  simp [printedFields, SqlField.printed]

theorem streamedFields_text (argument behind : List UInt8) (rest : List (SqlField × List UInt8)) :
    streamedFields ((.text argument, behind) :: rest) =
      quote :: (argument ++ quote :: (behind ++ streamedFields rest)) := by
  simp [streamedFields, SqlField.streamed]

theorem printedFields_number (value : Int) (behind : List UInt8)
    (rest : List (SqlField × List UInt8)) :
    printedFields ((.number value, behind) :: rest) =
      signedText value ++ (behind ++ printedFields rest) :=
  List.append_assoc _ _ _

theorem streamedFields_number (value : Int) (behind : List UInt8)
    (rest : List (SqlField × List UInt8)) :
    streamedFields ((.number value, behind) :: rest) =
      signedText value ++ (behind ++ streamedFields rest) :=
  List.append_assoc _ _ _

/-- The length of the printed fields up to the end of the last text argument. -/
def textEnd : List (SqlField × List UInt8) → Nat
  | [] => 0
  | (field, behind) :: rest =>
      if fieldArguments rest = [] then
        if field.argument = none then 0 else field.printed.length
      else field.printed.length + behind.length + textEnd rest

/-- Fixed text behind an argument. -/
structure EndsField (behind : List UInt8) : Prop where
  unquoted : ∀ byte ∈ behind, byte ≠ quote
  nonzero : ∀ byte ∈ behind, byte ≠ 0
  apart : ∀ byte ∈ behind.head?, byte ≠ backslash ∧ isWordByte byte = false

instance (behind : List UInt8) : Decidable (EndsField behind) :=
  decidable_of_iff
    (behind.all (fun byte => byte ≠ quote ∧ byte ≠ 0) = true ∧
      behind.head?.all (fun byte => byte ≠ backslash ∧ isWordByte byte = false) = true)
    (by
      simp only [List.all_eq_true, Option.all_eq_true, decide_eq_true_eq]
      exact ⟨fun holds => ⟨fun byte member => (holds.1 byte member).1,
          fun byte member => (holds.1 byte member).2, holds.2⟩,
        fun holds => ⟨fun byte member => ⟨holds.unquoted byte member, holds.nonzero byte member⟩,
          holds.apart⟩⟩)

/-- Two arguments are kept apart by text behind which a new token can begin. -/
def WellSeparated : List (SqlField × List UInt8) → Prop
  | [] => True
  | (_, behind) :: rest =>
      EndsField behind ∧
        (rest = [] ∨ behind ≠ [] ∧ modeAfter .blank behind = .blank ∧ WellSeparated rest)

instance decidableWellSeparated : ∀ fields, Decidable (WellSeparated fields)
  | [] => isTrue trivial
  | (_, behind) :: rest =>
      have := decidableWellSeparated rest
      inferInstanceAs (Decidable (EndsField behind ∧
        (rest = [] ∨ behind ≠ [] ∧ modeAfter .blank behind = .blank ∧ WellSeparated rest)))

theorem WellSeparated.last {field : SqlField} {behind : List UInt8} (ends : EndsField behind) :
    WellSeparated [(field, behind)] :=
  ⟨ends, .inl rfl⟩

theorem WellSeparated.cons {field : SqlField} {behind : List UInt8}
    {rest : List (SqlField × List UInt8)}
    (apart : EndsField behind ∧ behind ≠ [] ∧ modeAfter .blank behind = .blank)
    (later : WellSeparated rest) : WellSeparated ((field, behind) :: rest) :=
  ⟨apart.1, .inr ⟨apart.2.1, apart.2.2, later⟩⟩

/-- Only the fixed texts count. -/
theorem WellSeparated.of_texts {fields other : List (SqlField × List UInt8)}
    (same : fields.map Prod.snd = other.map Prod.snd) (separated : WellSeparated other) :
    WellSeparated fields := by
  induction other generalizing fields with
  | nil =>
      rw [List.map_eq_nil_iff.mp same]
      trivial
  | cons part others ih =>
      obtain ⟨field, rest, rfl, behind, later⟩ := List.map_eq_cons_iff.mp same
      obtain ⟨ends, last | ⟨nonempty, blank, separated⟩⟩ := separated
      · subst last
        rw [List.map_eq_nil_iff.mp later]
        exact ⟨behind ▸ ends, .inl rfl⟩
      · exact ⟨behind ▸ ends, .inr ⟨behind ▸ nonempty, behind ▸ blank, ih later separated⟩⟩

theorem EndsField.take {behind : List UInt8} (ends : EndsField behind) (count : Nat) :
    EndsField (behind.take count) := by
  refine ⟨fun byte member => ends.unquoted byte (List.mem_of_mem_take member),
    fun byte member => ends.nonzero byte (List.mem_of_mem_take member), ?_⟩
  cases count with
  | zero =>
      intro byte member
      cases member
  | succ count =>
      cases behind with
      | nil => exact ends.apart
      | cons byte rest => exact ends.apart

theorem EndsField.separates {behind : List UInt8} (ends : EndsField behind) : Separates behind := by
  intro byte member
  have inside := List.mem_of_mem_head? member
  exact ⟨ends.unquoted byte inside, (ends.apart byte member).1, ends.nonzero byte inside⟩

/-- What follows an argument, when it is cut off anywhere. -/
theorem WellSeparated.behind_cases {field : SqlField} {behind : List UInt8}
    {rest : List (SqlField × List UInt8)} (separated : WellSeparated ((field, behind) :: rest))
    (count : Nat) :
    let text := (behind ++ printedFields rest).take count
    Separates text ∧ ∀ byte ∈ text.head?, isWordByte byte = false := by
  intro text
  obtain ⟨ends, last | ⟨present, _, _⟩⟩ := separated
  · have same : text = behind.take count := by simp [text, last, printedFields]
    rw [same]
    exact ⟨(ends.take count).separates, fun byte member => ((ends.take count).apart byte member).2⟩
  · obtain ⟨first, later, shape⟩ := List.exists_cons_of_ne_nil present
    have head : ∀ byte ∈ text.head?, byte ∈ behind.head? := by
      intro byte member
      cases count with
      | zero => cases member
      | succ count =>
          simp only [text, shape] at member ⊢
          exact member
    refine ⟨fun byte member => ends.separates byte (head byte member), ?_⟩
    exact fun byte member => (ends.apart byte (head byte member)).2

theorem textEnd_pos {fields : List (SqlField × List UInt8)} (present : fieldArguments fields ≠ []) :
    0 < textEnd fields := by
  induction fields with
  | nil => exact absurd rfl present
  | cons field rest ih =>
      obtain ⟨field, behind⟩ := field
      rw [textEnd]
      split
      · next none =>
          cases field with
          | text argument => simp [SqlField.argument, SqlField.printed]
          | number value => exact absurd none present
      · next some =>
          have later := ih some
          omega

theorem textEnd_eq_zero {fields : List (SqlField × List UInt8)} (none : fieldArguments fields = []) :
    textEnd fields = 0 := by
  cases fields with
  | nil => rfl
  | cons field rest =>
      obtain ⟨field, behind⟩ := field
      cases field with
      | text argument => cases none
      | number value =>
          have later : fieldArguments rest = [] := none
          simp [textEnd, later, SqlField.argument]

theorem textEnd_le_length (fields : List (SqlField × List UInt8)) :
    textEnd fields ≤ (printedFields fields).length := by
  induction fields with
  | nil => rfl
  | cons field rest ih =>
      obtain ⟨field, behind⟩ := field
      have whole : (printedFields ((field, behind) :: rest)).length =
          field.printed.length + behind.length + (printedFields rest).length := by
        simp [printedFields, Nat.add_assoc]
      rw [textEnd, whole]
      split
      · split
        · omega
        · omega
      · omega

/-- The literals read from a cut statement are its text arguments exactly when these are
plain and none of them is touched by the cut. -/
def ReadsBack (fields : List (SqlField × List UInt8)) : Prop :=
  ∀ count : Nat,
    literalContents (sqlTokens ((printedFields fields).take count)) = fieldArguments fields ↔
      (∀ argument ∈ fieldArguments fields, Plain argument) ∧ textEnd fields ≤ count

theorem ReadsBack.after {behind : List UInt8} {rest : List (SqlField × List UInt8)}
    (unquoted : ∀ byte ∈ behind, byte ≠ quote)
    (follows : rest = [] ∨ modeAfter .blank behind = .blank) (reads : ReadsBack rest) (count : Nat) :
    literalContents (sqlTokens ((behind ++ printedFields rest).take count)) = fieldArguments rest ↔
      (∀ argument ∈ fieldArguments rest, Plain argument) ∧
        (fieldArguments rest = [] ∨ behind.length + textEnd rest ≤ count) := by
  have fixed : ∀ part, literalContents (sqlTokens (behind.take part)) = [] := by
    intro part
    exact literalContents_unquoted rfl fun byte member =>
      unquoted byte (List.mem_of_mem_take member)
  by_cases short : count ≤ behind.length
  · rw [List.take_append_of_le_length short, fixed]
    constructor
    · intro none
      rw [← none]
      exact ⟨by simp, .inl rfl⟩
    · rintro ⟨_, none | enough⟩
      · exact none.symm
      · by_contra some
        have later := textEnd_pos (Ne.symm some)
        omega
  · have split : (behind ++ printedFields rest).take count =
        behind ++ (printedFields rest).take (count - behind.length) := by
      rw [List.take_append, List.take_of_length_le (by omega)]
    rw [split]
    rcases follows with last | blank
    · subst last
      have whole := fixed behind.length
      rw [List.take_length] at whole
      simp [printedFields, whole, fieldArguments]
    · have both : literalContents (sqlTokens (behind ++ (printedFields rest).take (count - behind.length))) =
          literalContents (sqlTokens ((printedFields rest).take (count - behind.length))) := by
        have whole := fixed behind.length
        rw [List.take_length] at whole
        rw [sqlTokens, tokensFrom_append blank, literalContents, List.filterMap_append]
        change literalContents (sqlTokens behind) ++ _ = _
        rw [whole, List.nil_append]
        rfl
      rw [both, reads]
      constructor
      · rintro ⟨plain, enough⟩
        exact ⟨plain, .inr (by omega)⟩
      · rintro ⟨plain, none | enough⟩
        · rw [textEnd_eq_zero none]
          exact ⟨plain, Nat.zero_le _⟩
        · exact ⟨plain, by omega⟩

theorem ReadsBack.behind {field : SqlField} {behind : List UInt8}
    {rest : List (SqlField × List UInt8)} (separated : WellSeparated ((field, behind) :: rest))
    (reads : ReadsBack rest) (count : Nat) :
    literalContents (sqlTokens ((behind ++ printedFields rest).take count)) = fieldArguments rest ↔
      (∀ argument ∈ fieldArguments rest, Plain argument) ∧
        (fieldArguments rest = [] ∨ behind.length + textEnd rest ≤ count) :=
  reads.after separated.1.unquoted (separated.2.imp_right fun follows => follows.2.1) count

theorem ReadsBack.number {value : Int} {behind : List UInt8}
    {rest : List (SqlField × List UInt8)}
    (separated : WellSeparated ((.number value, behind) :: rest)) (reads : ReadsBack rest) :
    ReadsBack ((.number value, behind) :: rest) := by
  intro count
  have arguments : fieldArguments ((.number value, behind) :: rest) = fieldArguments rest := rfl
  have ending : textEnd ((.number value, behind) :: rest) =
      if fieldArguments rest = [] then 0
      else (signedText value).length + behind.length + textEnd rest := rfl
  rw [arguments, printedFields_number, ending]
  by_cases short : count ≤ (signedText value).length
  · have none : literalContents (sqlTokens ((signedText value).take count)) = [] := by
      apply literalContents_unquoted rfl
      intro byte member
      exact signedText_unquoted value byte (List.mem_of_mem_take member)
    rw [List.take_append_of_le_length short, none]
    constructor
    · intro same
      rw [← same]
      exact ⟨by simp, by simp⟩
    · rintro ⟨_, enough⟩
      by_contra some
      have later := textEnd_pos (Ne.symm some)
      rw [if_neg (Ne.symm some)] at enough
      omega
  · have split : (signedText value ++ (behind ++ printedFields rest)).take count =
        signedText value ++ (behind ++ printedFields rest).take (count - (signedText value).length) := by
      rw [List.take_append, List.take_of_length_le (by omega)]
    have tokens : literalContents (sqlTokens (signedText value ++
        (behind ++ printedFields rest).take (count - (signedText value).length))) =
        literalContents (sqlTokens
          ((behind ++ printedFields rest).take (count - (signedText value).length))) := by
      rw [sqlTokens_signedText value (separated.behind_cases _).2]
      rfl
    rw [split, tokens, ReadsBack.behind separated reads]
    apply and_congr_right
    intro _
    split
    · next none => simp [none]
    · next some =>
        rw [or_iff_right some]
        omega

theorem ReadsBack.text {argument behind : List UInt8} {rest : List (SqlField × List UInt8)}
    (separated : WellSeparated ((.text argument, behind) :: rest)) (reads : ReadsBack rest) :
    ReadsBack ((.text argument, behind) :: rest) := by
  intro count
  have arguments : fieldArguments ((.text argument, behind) :: rest) =
      argument :: fieldArguments rest := rfl
  have ending : textEnd ((.text argument, behind) :: rest) =
      if fieldArguments rest = [] then (cString argument).length + 2
      else (cString argument).length + 2 + behind.length + textEnd rest := by
    simp [textEnd, SqlField.argument, SqlField.printed]
  rw [arguments, printedFields_text]
  cases count with
  | zero =>
      constructor
      · intro same
        cases same
      · rintro ⟨_, enough⟩
        rw [ending] at enough
        split at enough
        · omega
        · omega
  | succ count =>
      have begins : sqlTokens ((quote :: (cString argument ++ quote :: (behind ++ printedFields rest))).take
          (count + 1)) =
          tokensFrom (.literal [])
            ((cString argument ++ quote :: (behind ++ printedFields rest)).take count) := rfl
      have whole := (separated.behind_cases (behind ++ printedFields rest).length).1
      rw [List.take_length] at whole
      rw [begins, literalContents_literal_iff]
      simp only [scanLiteral_eq_iff whole argument count]
      constructor
      · rintro ⟨final, ⟨plain, reaches, rfl⟩, later⟩
        obtain ⟨others, enough⟩ := (ReadsBack.behind separated reads _).mp later
        refine ⟨List.forall_mem_cons.mpr ⟨plain, others⟩, ?_⟩
        rw [ending, cString_of_nonzero plain.no_zero]
        split
        · omega
        · next some =>
            have room := enough.resolve_left some
            omega
      · rintro ⟨plain, enough⟩
        obtain ⟨first, others⟩ := List.forall_mem_cons.mp plain
        rw [ending, cString_of_nonzero first.no_zero] at enough
        refine ⟨_, ⟨first, ?_, rfl⟩, (ReadsBack.behind separated reads _).mpr ⟨others, ?_⟩⟩
        · split at enough
          · omega
          · omega
        · split at enough
          · next none => exact .inl none
          · exact .inr (by omega)

theorem readsBack : ∀ {fields : List (SqlField × List UInt8)}, WellSeparated fields → ReadsBack fields
  | [], _ => by
      intro count
      simp [printedFields, fieldArguments, textEnd, sqlTokens, tokensFrom, LexMode.flush,
        literalContents]
  | (field, behind) :: rest, separated => by
      have reads : ReadsBack rest := by
        rcases separated.2 with last | ⟨_, _, later⟩
        · rw [last]
          exact readsBack trivial
        · exact readsBack later
      cases field with
      | text argument => exact .text separated reads
      | number value => exact .number separated reads

/-!
## Whole statements
-/

namespace SqlStatement

/-- The text that a stream of the pieces holds, as a C string. -/
def streamed (s : SqlStatement) : List UInt8 :=
  cString (s.head ++ streamedFields s.fields)

/-- The text that `snprintf` leaves in a buffer of the given size. -/
def printed (s : SqlStatement) (size : Nat) : List UInt8 :=
  (s.head ++ printedFields s.fields).take (size - 1)

def arguments (s : SqlStatement) : List (List UInt8) :=
  fieldArguments s.fields

/-- The tokens of a statement with plain arguments. -/
def tokens (s : SqlStatement) : List SqlToken :=
  sqlTokens s.head ++ s.fields.flatMap fun field => field.1.token :: sqlTokens field.2

structure WellFormed (s : SqlStatement) : Prop where
  unquoted : ∀ byte ∈ s.head, byte ≠ quote
  nonzero : ∀ byte ∈ s.head, byte ≠ 0
  blank : modeAfter .blank s.head = .blank
  separated : WellSeparated s.fields

theorem wellFormed_iff (s : SqlStatement) :
    s.WellFormed ↔
      (s.head.all (fun byte => byte ≠ quote ∧ byte ≠ 0) = true ∧
        modeAfter .blank s.head = .blank) ∧ WellSeparated s.fields := by
  simp only [List.all_eq_true, decide_eq_true_eq]
  constructor
  · intro formed
    exact ⟨⟨fun byte member => ⟨formed.unquoted byte member, formed.nonzero byte member⟩,
      formed.blank⟩, formed.separated⟩
  · rintro ⟨⟨ordinary, blank⟩, separated⟩
    exact ⟨fun byte member => (ordinary byte member).1, fun byte member => (ordinary byte member).2,
      blank, separated⟩

instance (s : SqlStatement) : Decidable s.WellFormed :=
  decidable_of_iff _ s.wellFormed_iff.symm

/-- The arguments do not count. -/
theorem WellFormed.of_texts {s other : SqlStatement} (formed : other.WellFormed)
    (heads : s.head = other.head)
    (texts : s.fields.map Prod.snd = other.fields.map Prod.snd) : s.WellFormed :=
  ⟨heads ▸ formed.unquoted, heads ▸ formed.nonzero, heads ▸ formed.blank,
    formed.separated.of_texts texts⟩

theorem literalContents_take_iff {s : SqlStatement} (formed : s.WellFormed) (count : Nat) :
    literalContents (sqlTokens ((s.head ++ printedFields s.fields).take count)) = s.arguments ↔
      (∀ argument ∈ s.arguments, Plain argument) ∧
        (s.arguments = [] ∨ s.head.length + textEnd s.fields ≤ count) :=
  (readsBack formed.separated).after formed.unquoted (.inr formed.blank) count

end SqlStatement

theorem cString_append {first : List UInt8} (nonzero : ∀ byte ∈ first, byte ≠ 0)
    (second : List UInt8) : cString (first ++ second) = first ++ cString second := by
  rw [cString, List.takeWhile_append_of_pos]
  · rfl
  · intro byte member
    simpa using nonzero byte member

theorem cString_cons {byte : UInt8} (nonzero : byte ≠ 0) (rest : List UInt8) :
    cString (byte :: rest) = byte :: cString rest := by
  have visible : ∀ other ∈ [byte], other ≠ 0 := by simpa using nonzero
  exact cString_append visible rest

theorem cString_append_of_zero {first : List UInt8} (zero : ¬ ∀ byte ∈ first, byte ≠ 0)
    (second : List UInt8) : cString (first ++ second) = cString first := by
  induction first with
  | nil => exact absurd (by simp) zero
  | cons byte rest ih =>
      by_cases stops : byte = 0
      · rw [stops]
        rfl
      · rw [List.cons_append, cString_cons stops, cString_cons stops, ih]
        intro nonzero
        exact zero (List.forall_mem_cons.mpr ⟨stops, nonzero⟩)

theorem signedText_nonzero (value : Int) : ∀ byte ∈ signedText value, byte ≠ 0 := by
  have digits : ∀ byte ∈ decimalText value.natAbs, byte ≠ 0 := by
    rintro byte member rfl
    exact absurd (isDigit_decimalText _ _ member) (by decide)
  unfold signedText
  split
  · exact List.forall_mem_cons.mpr ⟨by decide, digits⟩
  · exact digits

theorem WellSeparated.later {field : SqlField × List UInt8} {rest : List (SqlField × List UInt8)}
    (separated : WellSeparated (field :: rest)) : WellSeparated rest := by
  rcases separated.2 with last | ⟨_, _, later⟩
  · rw [last]
    trivial
  · exact later

/-- A C string ends within the first argument that has a zero. -/
theorem cString_streamedFields {fields : List (SqlField × List UInt8)}
    (separated : WellSeparated fields) :
    cString (streamedFields fields) <+: printedFields fields := by
  induction fields with
  | nil => exact List.prefix_refl _
  | cons field rest ih =>
      obtain ⟨field, behind⟩ := field
      have goes : cString (behind ++ streamedFields rest) <+: behind ++ printedFields rest := by
        rw [cString_append separated.1.nonzero]
        exact (List.prefix_append_right_inj _).mpr (ih separated.later)
      cases field with
      | number value =>
          rw [streamedFields_number, printedFields_number, cString_append (signedText_nonzero value)]
          exact (List.prefix_append_right_inj _).mpr goes
      | text argument =>
          have visible : quote ≠ 0 := by decide
          rw [streamedFields_text, printedFields_text, cString_cons visible, List.cons_prefix_cons]
          refine ⟨rfl, ?_⟩
          by_cases nonzero : ∀ byte ∈ argument, byte ≠ 0
          · rw [cString_append nonzero, cString_of_nonzero nonzero, cString_cons visible]
            exact (List.prefix_append_right_inj _).mpr (List.cons_prefix_cons.mpr ⟨rfl, goes⟩)
          · rw [cString_append_of_zero nonzero]
            exact List.prefix_append _ _

/-- Without zeros nothing is cut off. -/
theorem streamedFields_of_nonzero {fields : List (SqlField × List UInt8)}
    (separated : WellSeparated fields)
    (nonzero : ∀ argument ∈ fieldArguments fields, ∀ byte ∈ argument, byte ≠ 0) :
    cString (streamedFields fields) = printedFields fields := by
  induction fields with
  | nil => rfl
  | cons field rest ih =>
      obtain ⟨field, behind⟩ := field
      cases field with
      | number value =>
          rw [streamedFields_number, printedFields_number, cString_append (signedText_nonzero value),
            cString_append separated.1.nonzero, ih separated.later nonzero]
      | text argument =>
          obtain ⟨first, others⟩ := List.forall_mem_cons.mp nonzero
          have visible : quote ≠ 0 := by decide
          rw [streamedFields_text, printedFields_text, cString_cons visible, cString_append first,
            cString_of_nonzero first, cString_cons visible, cString_append separated.1.nonzero,
            ih separated.later others]

namespace SqlStatement

theorem streamed_of_plain {s : SqlStatement} (formed : s.WellFormed)
    (plain : ∀ argument ∈ s.arguments, Plain argument) :
    s.streamed = s.head ++ printedFields s.fields := by
  rw [streamed, cString_append formed.nonzero, streamedFields_of_nonzero formed.separated]
  exact fun argument member => (plain argument member).no_zero

theorem literalContents_streamed_iff {s : SqlStatement} (formed : s.WellFormed) :
    literalContents (sqlTokens s.streamed) = s.arguments ↔
      ∀ argument ∈ s.arguments, Plain argument := by
  have part : s.streamed <+: s.head ++ printedFields s.fields := by
    rw [streamed, cString_append formed.nonzero]
    exact (List.prefix_append_right_inj _).mpr (cString_streamedFields formed.separated)
  constructor
  · intro reads
    rw [List.prefix_iff_eq_take.mp part] at reads
    exact ((literalContents_take_iff formed _).mp reads).1
  · intro plain
    have whole : (s.head ++ printedFields s.fields).take (s.head ++ printedFields s.fields).length =
        s.head ++ printedFields s.fields := List.take_length
    have fits := textEnd_le_length s.fields
    rw [streamed_of_plain formed plain, ← whole]
    refine (literalContents_take_iff formed _).mpr ⟨plain, .inr ?_⟩
    rw [List.length_append]
    omega

theorem sqlTokens_printedFields {fields : List (SqlField × List UInt8)}
    (separated : WellSeparated fields)
    (plain : ∀ argument ∈ fieldArguments fields, Plain argument) :
    sqlTokens (printedFields fields) =
      fields.flatMap fun field => field.1.token :: sqlTokens field.2 := by
  induction fields with
  | nil => rfl
  | cons field rest ih =>
      obtain ⟨field, behind⟩ := field
      have whole := separated.behind_cases (behind ++ printedFields rest).length
      rw [List.take_length] at whole
      obtain ⟨separates, ends⟩ := whole
      have goes : (∀ argument ∈ fieldArguments rest, Plain argument) →
          sqlTokens (behind ++ printedFields rest) = sqlTokens behind ++
            rest.flatMap fun field => field.1.token :: sqlTokens field.2 := by
        intro others
        rcases separated.2 with last | ⟨_, blank, later⟩
        · simp [last, printedFields]
        · rw [sqlTokens, tokensFrom_append blank, ih later others]
          rfl
      cases field with
      | number value =>
          rw [printedFields_number, sqlTokens_signedText value ends, goes plain]
          rfl
      | text argument =>
          obtain ⟨first, others⟩ := List.forall_mem_cons.mp plain
          have begins : ∀ text : List UInt8,
              sqlTokens (quote :: text) = tokensFrom (.literal []) text := fun _ => rfl
          rw [printedFields_text, begins, tokensFrom_literal, cString_of_nonzero first.no_zero,
            first.scanLiteral separates]
          dsimp only
          rw [goes others]
          rfl

theorem sqlTokens_of_plain {s : SqlStatement} (formed : s.WellFormed)
    (plain : ∀ argument ∈ s.arguments, Plain argument) :
    sqlTokens (s.head ++ printedFields s.fields) = s.tokens := by
  rw [sqlTokens, tokensFrom_append formed.blank, sqlTokens_printedFields formed.separated plain]
  rfl

/-- The fixed text and the kinds of the arguments. -/
def form (s : SqlStatement) : List UInt8 × List (SqlToken × List UInt8) :=
  (s.head, s.fields.map fun field => (field.1.token.erase, field.2))

theorem tokenShape_tokens_of_form {s other : SqlStatement} (same : s.form = other.form) :
    tokenShape s.tokens = tokenShape other.tokens := by
  have parts : ∀ s : SqlStatement, tokenShape s.tokens = tokenShape (sqlTokens s.form.1) ++
      s.form.2.flatMap fun part => part.1 :: tokenShape (sqlTokens part.2) := by
    intro s
    simp [tokens, form, tokenShape, List.map_flatMap, List.flatMap_map]
  rw [parts, parts, same]

end SqlStatement

end Talko.Library
