import Talko.Common.StringUtilProperties
import Talko.Service.HttpSession

/-!
# What HTTP requests lead to

The words of a request that `on_read` looks at, and the inputs that make it throw.
-/

set_option autoImplicit false

namespace Talko.Service

open Talko.Library Talko.Network

/-!
## The pieces of a request
-/

theorem split_eq_splitNonempty {delimiter : List UInt8} (present : delimiter ≠ [])
    (str : List UInt8) : StringUtil.split str delimiter = splitNonempty delimiter str := by
  unfold StringUtil.split
  split
  · rename_i empty
    rw [empty, splitNonempty_nil present]
  · rfl

/-- The loop of `StringUtil` appends what a session takes for the result of `split`. -/
theorem split_simulates {delimiter : List UInt8} (present : delimiter ≠ [])
    (short : delimiter.length < 2 ^ 31) (str : List UInt8) (v : List (List UInt8)) :
    ∃ rounds, Common.StringUtil.split rounds str v (some delimiter) =
      some (.returned (v ++ StringUtil.split str delimiter)) := by
  obtain ⟨pieces, cuts, ends, _⟩ := @Common.StringUtil.splits_of str delimiter present (.inl short)
  obtain ⟨rounds, ended⟩ := ends v
  rw [cuts.filter_eq present, ← split_eq_splitNonempty present] at ended
  exact ⟨rounds, ended⟩

theorem split_eq_cons_iff {delimiter str piece : List UInt8} {pieces : List (List UInt8)}
    (present : delimiter ≠ []) :
    StringUtil.split str delimiter = piece :: pieces ↔
      ∃ rest, Leads delimiter str piece rest ∧ StringUtil.split rest delimiter = pieces := by
  simp only [split_eq_splitNonempty present]
  exact splitNonempty_eq_cons_iff present

theorem crlf_ne_nil : crlf ≠ [] := by decide

theorem space_ne_nil : space ≠ [] := by decide

theorem questionMark_ne_nil : questionMark ≠ [] := by decide

/-- The header has been received as a whole. -/
def Complete (input : List UInt8) : Prop :=
  4 < input.length ∧ crlfcrlf <:+ input

/-- The first line with something on it is made of at least three words. -/
def RequestTarget (input target : List UInt8) : Prop :=
  ∃ line lines method words others version rest,
    Leads crlf input line lines ∧ Leads space line method words ∧
      Leads space words target others ∧ Leads space others version rest

/-- The url of the second of these words and its query. -/
def Asks (input url query : List UInt8) : Prop :=
  ∃ target behind rest, RequestTarget input target ∧ Leads questionMark target url behind ∧
    Leads questionMark behind query rest

theorem inspectTarget_of_leads {target url behind query rest : List UInt8}
    (front : Leads questionMark target url behind) (next : Leads questionMark behind query rest) :
    inspectTarget target = (substr query 2).map (Inspection.request url) := by
  unfold inspectTarget
  rw [(split_eq_cons_iff questionMark_ne_nil).mpr ⟨behind, front, rfl⟩,
    (split_eq_cons_iff questionMark_ne_nil).mpr ⟨rest, next, rfl⟩]
  dsimp only
  cases substr query 2 with
  | error raised => rfl
  | ok param => rfl

theorem inspectTarget_cases (target : List UInt8) :
    inspectTarget target = .ok .illegal ∨
      ∃ url behind query rest, Leads questionMark target url behind ∧
        Leads questionMark behind query rest := by
  cases parts : StringUtil.split target questionMark with
  | nil => exact .inl (by rw [inspectTarget, parts])
  | cons url parts' =>
      obtain ⟨behind, front, others⟩ := (split_eq_cons_iff questionMark_ne_nil).mp parts
      cases parts' with
      | nil => exact .inl (by rw [inspectTarget, parts])
      | cons query parts'' =>
          obtain ⟨rest, next, -⟩ := (split_eq_cons_iff questionMark_ne_nil).mp others
          exact .inr ⟨url, behind, query, rest, front, next⟩

theorem inspectLine_of_leads {line method words target others version rest : List UInt8}
    (present : line ≠ []) (first : Leads space line method words)
    (second : Leads space words target others) (third : Leads space others version rest) :
    inspectLine line = inspectTarget target := by
  unfold inspectLine
  rw [if_neg present, (split_eq_cons_iff space_ne_nil).mpr ⟨words, first, rfl⟩,
    (split_eq_cons_iff space_ne_nil).mpr ⟨others, second, rfl⟩,
    (split_eq_cons_iff space_ne_nil).mpr ⟨rest, third, rfl⟩]

theorem inspectLine_cases (line : List UInt8) :
    inspectLine line = .ok .illegal ∨
      ∃ method words target others version rest, Leads space line method words ∧
        Leads space words target others ∧ Leads space others version rest := by
  by_cases present : line = []
  · exact .inl (if_pos present)
  · cases chunk : StringUtil.split line space with
    | nil => exact .inl (by rw [inspectLine, if_neg present, chunk])
    | cons method chunk' =>
        obtain ⟨words, first, chunk₁⟩ := (split_eq_cons_iff space_ne_nil).mp chunk
        cases chunk' with
        | nil => exact .inl (by rw [inspectLine, if_neg present, chunk])
        | cons target chunk'' =>
            obtain ⟨others, second, chunk₂⟩ := (split_eq_cons_iff space_ne_nil).mp chunk₁
            cases chunk'' with
            | nil => exact .inl (by rw [inspectLine, if_neg present, chunk])
            | cons version chunk''' =>
                obtain ⟨rest, third, -⟩ := (split_eq_cons_iff space_ne_nil).mp chunk₂
                exact .inr ⟨method, words, target, others, version, rest, first, second, third⟩

theorem complete_iff (input : List UInt8) :
    Complete input ↔ ¬ input.length ≤ 4 ∧ input.drop (input.length - 4) = crlfcrlf := by
  unfold Complete
  rw [List.suffix_iff_eq_drop, Nat.not_le]
  exact and_congr_right fun _ => eq_comm

theorem inspect_of_not_complete {input : List UInt8} (waits : ¬ Complete input) :
    inspect input = .ok .incomplete := by
  rw [complete_iff, not_and] at waits
  unfold inspect
  split
  · rfl
  · rename_i enough
    rw [if_pos (waits enough)]

theorem inspect_of_complete {input : List UInt8} (complete : Complete input) :
    inspect input =
      if input.length ≥ MAX_URL_LENGTH then .ok .illegal
      else
        match StringUtil.split input crlf with
        | [] => .ok .illegal
        | line :: _ => inspectLine line := by
  obtain ⟨enough, ends⟩ := (complete_iff input).mp complete
  unfold inspect
  refine (if_neg enough).trans ?_
  exact if_neg (not_not.mpr ends)

theorem Asks.inspect {input url query : List UInt8} (asks : Asks input url query)
    (complete : Complete input) (short : input.length < MAX_URL_LENGTH) :
    inspect input = (substr query 2).map (Inspection.request url) := by
  obtain ⟨target, behind, rest, ⟨line, lines, method, words, others, version, end', front, first,
    second, third⟩, before, after⟩ := asks
  rw [inspect_of_complete complete, if_neg (Nat.not_le.mpr short),
    (split_eq_cons_iff crlf_ne_nil).mpr ⟨lines, front, rfl⟩]
  dsimp only
  rw [inspectLine_of_leads front.nonempty first second third,
    inspectTarget_of_leads before after]

/-- What `on_read` can find in a complete header. -/
theorem inspect_cases {input : List UInt8} (complete : Complete input) :
    inspect input = .ok .illegal ∨
      (input.length < MAX_URL_LENGTH ∧ ∃ url query, Asks input url query) := by
  rw [inspect_of_complete complete]
  split
  · exact .inl rfl
  · rename_i short
    cases lines : StringUtil.split input crlf with
    | nil => exact .inl rfl
    | cons line lines' =>
        obtain ⟨behind, front, -⟩ := (split_eq_cons_iff crlf_ne_nil).mp lines
        dsimp only
        rcases inspectLine_cases line with illegal | words
        · exact .inl illegal
        · obtain ⟨method, words, target, others, version, rest, first, second, third⟩ := words
          rw [inspectLine_of_leads front.nonempty first second third]
          rcases inspectTarget_cases target with illegal | parts
          · exact .inl illegal
          · obtain ⟨url, after, query, more, before, next⟩ := parts
            exact .inr ⟨Nat.not_le.mp short, url, query, target, after, more,
              ⟨line, behind, method, words, others, version, rest, front, first, second, third⟩,
              before, next⟩

theorem map_substr_two (query url : List UInt8) :
    (substr query 2).map (Inspection.request url) =
      if query.length < 2 then .error .outOfRange else .ok (.request url (query.drop 2)) := by
  unfold substr
  by_cases brief : query.length < 2
  · rw [if_pos brief, if_pos brief]
    rfl
  · rw [if_neg brief, if_neg brief]
    rfl

theorem inspect_ne_incomplete {input : List UInt8} (complete : Complete input) :
    inspect input ≠ .ok .incomplete := by
  rcases inspect_cases complete with illegal | ⟨short, url, query, asks⟩
  · rw [illegal]
    nofun
  · rw [asks.inspect complete short, map_substr_two]
    split
    · nofun
    · nofun

/-!
## Exceptions
-/

/-- The call ends with an exception. -/
def Raises {Result : Type} (call : Except HttpException Result) : Prop :=
  ∃ raised, call = .error raised

section

variable {Result Next : Type}

@[simp] theorem raises_error (raised : HttpException) :
    Raises (.error raised : Except HttpException Result) :=
  ⟨raised, rfl⟩

@[simp] theorem not_raises_ok (result : Result) :
    ¬ Raises (.ok result : Except HttpException Result) :=
  fun ⟨_, impossible⟩ => nomatch impossible

@[simp] theorem raises_ok_bind (result : Result) (next : Result → Except HttpException Next) :
    Raises (.ok result >>= next) ↔ Raises (next result) := Iff.rfl

@[simp] theorem raises_error_bind (raised : HttpException)
    (next : Result → Except HttpException Next) : Raises (.error raised >>= next) :=
  ⟨raised, rfl⟩

@[simp] theorem not_raises_pure (result : Result) :
    ¬ Raises (pure result : Except HttpException Result) :=
  not_raises_ok result

/-- A call that only works on the result of another one. -/
theorem raises_bind_iff {call : Except HttpException Result}
    {next : Result → Except HttpException Next} (quiet : ∀ result, ¬ Raises (next result)) :
    Raises (call >>= next) ↔ Raises call := by
  cases call with
  | error raised => simp
  | ok result => simp [quiet result]

theorem returns_iff_not_raises {call : Except HttpException Result} :
    (∃ result, call = .ok result) ↔ ¬ Raises call := by
  cases call with
  | error raised => simp
  | ok result => simp

end

/-- The reader throws, or has read a root that has no members and cannot get any. -/
def JsonReading.Trips : JsonReading → Prop
  | .threw => True
  | .reported => False
  | .read jsonRoot => jsonRoot = .otherValue

theorem requestedUser_raises_iff (jsonRoot : JsonValue) :
    Raises (requestedUser jsonRoot) ↔ jsonRoot = .otherValue := by
  unfold requestedUser
  cases jsonRoot with
  | nullValue => simp [JsonValue.member]
  | otherValue => simp [JsonValue.member]
  | objectValue members =>
      simp only [JsonValue.member, raises_ok_bind, reduceCtorEq, iff_false]
      -- each of the three tests either returns or goes on
      split
      · exact not_raises_pure none
      · rw [raises_ok_bind]
        split
        · exact not_raises_pure none
        · rw [raises_ok_bind]
          split
          · exact not_raises_pure none
          · exact not_raises_pure _

theorem registerUser_raises_iff (libraries : HttpLibraries) (accounts : Accounts)
    (data : List UInt8) (insert : InsertAnswer) :
    Raises (registerUser libraries accounts data insert) ↔ (libraries.parse data).Trips := by
  unfold registerUser
  cases libraries.parse data with
  | threw => simp [JsonReading.Trips]
  | reported => simp [JsonReading.Trips]
  | read jsonRoot =>
      refine (raises_bind_iff fun found => ?_).trans (requestedUser_raises_iff jsonRoot)
      cases found with
      | none => exact not_raises_pure _
      | some u => exact not_raises_pure _

/-- The requests that `_process` throws on. -/
def TripsOn (libraries : HttpLibraries) (url param : List UInt8) : Prop :=
  url = asciiText "/register.do" ∧ (libraries.parse (libraries.decode param)).Trips

namespace HttpSession

variable {Id : Type} [DecidableEq Id]

theorem process_raises_iff (libraries : HttpLibraries) (s : HttpSession Id)
    (answers : HttpAnswers Id) (url param : List UInt8) :
    Raises (s.process libraries answers url param) ↔ TripsOn libraries url param := by
  unfold process TripsOn
  dsimp only
  by_cases register : url = asciiText "/register.do"
  · have present : url ≠ [] := by
      rw [register]
      decide
    rw [if_neg present, if_pos register]
    unfold onRegisterResponse
    rw [raises_bind_iff fun _ => not_raises_pure _, raises_bind_iff fun _ => not_raises_pure _,
      registerUser_raises_iff]
    exact (and_iff_right register).symm
  · simp only [register, false_and, iff_false, if_false]
    repeat' split
    all_goals exact not_raises_ok _

/-- The inputs that `on_read` throws on: a complete header of less than `MAX_URL_LENGTH`
bytes whose request has a query of one byte, or is a registration that trips up the reader
or is no object. -/
def Escapes (libraries : HttpLibraries) (input : List UInt8) : Prop :=
  Complete input ∧ input.length < MAX_URL_LENGTH ∧ ∃ url query, Asks input url query ∧
    (query.length < 2 ∨ TripsOn libraries url (query.drop 2))

theorem escapes_iff {libraries : HttpLibraries} {input url query : List UInt8}
    (complete : Complete input) (short : input.length < MAX_URL_LENGTH)
    (asks : Asks input url query) :
    Escapes libraries input ↔ query.length < 2 ∨ TripsOn libraries url (query.drop 2) := by
  constructor
  · rintro ⟨-, -, url', query', asks', escapes⟩
    -- the two readings of the input are one
    have same := (asks.inspect complete short).symm.trans (asks'.inspect complete short)
    rw [map_substr_two, map_substr_two] at same
    by_cases brief : query.length < 2
    · exact .inl brief
    · by_cases brief' : query'.length < 2
      · rw [if_neg brief, if_pos brief'] at same
        cases same
      · rw [if_neg brief, if_neg brief'] at same
        simp only [Except.ok.injEq, Inspection.request.injEq] at same
        rw [same.1, same.2]
        exact escapes.imp_left fun contradictory => absurd contradictory brief'
  · intro escapes
    exact ⟨complete, short, url, query, asks, escapes⟩

theorem onRead_raises_iff (libraries : HttpLibraries) (s : HttpSession Id)
    (answers : HttpAnswers Id) :
    Raises (s.onRead libraries answers) ↔ Escapes libraries s.inbuf := by
  unfold onRead
  by_cases complete : Complete s.inbuf
  · rcases inspect_cases complete with illegal | ⟨short, url, query, asks⟩
    · rw [illegal, raises_ok_bind]
      refine iff_of_false (not_raises_pure _) ?_
      rintro ⟨-, short, url, query, asks, -⟩
      rw [asks.inspect complete short, map_substr_two] at illegal
      split at illegal <;> cases illegal
    · rw [escapes_iff complete short asks, asks.inspect complete short, map_substr_two]
      by_cases brief : query.length < 2
      · rw [if_pos brief]
        exact iff_of_true (raises_error_bind _ _) (.inl brief)
      · rw [if_neg brief, raises_ok_bind, or_iff_right brief]
        dsimp only
        rw [raises_bind_iff fun _ => not_raises_pure _]
        exact process_raises_iff libraries s answers url (query.drop 2)
  · rw [inspect_of_not_complete complete, raises_ok_bind]
    exact iff_of_false (not_raises_pure _) fun escapes => complete escapes.1

/-- `on_read` returns on every input but those that escape its tests. -/
theorem onRead_returns_iff (libraries : HttpLibraries) (s : HttpSession Id)
    (answers : HttpAnswers Id) :
    (∃ after, s.onRead libraries answers = .ok after) ↔ ¬ Escapes libraries s.inbuf := by
  rw [returns_iff_not_raises, onRead_raises_iff]

/-- A session on a connection that has just been established. -/
def accepted : HttpSession Unit :=
  .new ((TcpConnection.new (.new fun _ => 7) () 7 false false (64 * 1024 * 1024)).connEstablished
    mapCtl) .new

def quietLibraries : HttpLibraries where
  decode data := data
  parse _ := .reported

def readyAnswers : HttpAnswers Unit where
  ctl := mapCtl
  write := .accepted 4096
  insert := ⟨true, true⟩

/-- A query of one byte is too short for the `substr` behind the test for two parts. -/
theorem query_of_one_byte_throws :
    accepted.receive quietLibraries (readyAnswers, asciiText "GET /a?b HTTP/1.1\r\n\r\n") =
      .error .outOfRange := by
  have found : inspect (accepted.setInput (accepted.conn.inputBuffer.bbAppend
      (asciiText "GET /a?b HTTP/1.1\r\n\r\n"))).inbuf = .error .outOfRange := by
    decide +kernel
  rw [receive, onRead, found]
  rfl

end HttpSession

end Talko.Service
