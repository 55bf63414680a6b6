import Talko.Library.Run
import Talko.Network.TcpConnectionTeardown
import Talko.Service.HttpRequests

/-!
# Requests that arrive in chunks

A request is answered alike however it is cut into chunks, and how long the input of an open
connection gets.
-/

set_option autoImplicit false

namespace Talko.Service

open Talko.Library Talko.Network

/-- The header end occurs at the end of the bytes or not at all. -/
def EndsAtMostOnce (bytes : List UInt8) : Prop :=
  ∀ before behind, bytes = before ++ crlfcrlf ++ behind → behind = []

theorem not_complete_of_more {bytes more : List UInt8} (once : EndsAtMostOnce (bytes ++ more))
    (present : more ≠ []) : ¬ Complete bytes := by
  rintro ⟨-, before, ends⟩
  exact present (once before more (by rw [ends]))

theorem endsAtMostOnce_of_find {bytes : List UInt8} {place : Nat}
    (found : findDelimiter crlfcrlf bytes = some place) (atEnd : bytes.length = place + 4) :
    EndsAtMostOnce bytes := by
  rintro before behind rfl
  obtain ⟨-, -, clear⟩ := findDelimiter_eq_some_iff.mp found
  by_contra present
  have positive := List.length_pos_of_ne_nil present
  have four : crlfcrlf.length = 4 := rfl
  simp only [List.length_append, four] at atEnd
  refine clear before.length (by omega) ?_
  rw [List.append_assoc, List.drop_left]
  exact List.prefix_append crlfcrlf behind

namespace HttpSession

variable {Id : Type}

/-- The sessions differ at most in the layout of their input buffers. -/
def Alike (s t : HttpSession Id) : Prop :=
  s.inbuf = t.inbuf ∧ s.setInput t.conn.inputBuffer = t

def EndAlike : Except HttpException (HttpSession Id) → Except HttpException (HttpSession Id) → Prop
  | .ok s, .ok t => s.Alike t
  | .error raised, .error raised' => raised = raised'
  | _, _ => False

/-- The buffer behind the arrivals when nothing is taken out of it. -/
def fill (buffer : ByteBuffer) (arrivals : List (HttpAnswers Id × List UInt8)) : ByteBuffer :=
  arrivals.foldl (fun filled arrival => filled.bbAppend arrival.2) buffer

def arrived (arrivals : List (HttpAnswers Id × List UInt8)) : List UInt8 :=
  arrivals.flatMap (·.2)

@[simp] theorem setInput_inbuf (s : HttpSession Id) (buffer : ByteBuffer) :
    (s.setInput buffer).inbuf = buffer.readable := rfl

theorem fill_valid {buffer : ByteBuffer} (valid : buffer.Valid)
    (arrivals : List (HttpAnswers Id × List UInt8)) : (fill buffer arrivals).Valid := by
  induction arrivals generalizing buffer with
  | nil => exact valid
  | cons arrival rest ih => exact ih (ByteBuffer.bbAppend_valid valid arrival.2)

theorem fill_readable {buffer : ByteBuffer} (valid : buffer.Valid)
    (arrivals : List (HttpAnswers Id × List UInt8)) :
    (fill buffer arrivals).readable = buffer.readable ++ arrived arrivals := by
  induction arrivals generalizing buffer with
  | nil => simp [fill, arrived]
  | cons arrival rest ih =>
      have later := ih (ByteBuffer.bbAppend_valid valid arrival.2)
      rw [ByteBuffer.bbAppend_readable valid] at later
      simpa [fill, arrived] using later

theorem forceClose_setInput (s : HttpSession Id) (buffer : ByteBuffer) :
    (s.setInput buffer).forceClose = s.forceClose.setInput buffer := by
  unfold forceClose TcpConnection.forceClose
  by_cases up : s.conn.state = .kConnected ∨ s.conn.state = .kDisconnecting
  · have up' : (s.setInput buffer).conn.state = .kConnected ∨
        (s.setInput buffer).conn.state = .kDisconnecting := up
    rw [if_pos up, if_pos up']
    rfl
  · have up' : ¬ ((s.setInput buffer).conn.state = .kConnected ∨
        (s.setInput buffer).conn.state = .kDisconnecting) := up
    rw [if_neg up, if_neg up']

theorem forceClose_state {s : HttpSession Id} (up : s.conn.state = .kConnected) :
    s.forceClose.conn.state = .kDisconnecting := by
  unfold forceClose TcpConnection.forceClose
  rw [if_pos (.inl up)]
  rfl

theorem finish_state {s : HttpSession Id} (up : s.conn.state = .kConnected) (handled : Bool) :
    (s.finish handled).conn.state = .kDisconnecting := by
  cases handled with
  | true => exact forceClose_state up
  | false => exact forceClose_state (s := s.setInput _) up

theorem finish_processed (s : HttpSession Id) (handled : Bool) :
    (s.finish handled).processed = s.processed := by
  unfold finish
  split <;> rfl

/-- The session is there and its connection takes requests. -/
def IsOpen (state : Except HttpException (HttpSession Id)) (s : HttpSession Id) : Prop :=
  state = .ok s ∧ s.conn.state = .kConnected

theorem finish_alike (s : HttpSession Id) {first second : ByteBuffer}
    (same : first.readable = second.readable) (handled : Bool) :
    ((s.setInput first).finish handled).Alike ((s.setInput second).finish handled) := by
  unfold finish
  cases handled with
  | true =>
      simp only [if_true, forceClose_setInput]
      exact ⟨same, rfl⟩
  | false =>
      have emptied : ∀ buffer, (s.setInput buffer).setInput
          (s.setInput buffer).conn.inputBuffer.bbRetrieveAllAsString.1 =
            s.setInput buffer.bbRetrieveAll := fun buffer =>
        congrArg s.setInput buffer.bbRetrieveAllAsString_fst
      simp only [Bool.false_eq_true, if_false, emptied, forceClose_setInput]
      exact ⟨by simp, rfl⟩

variable [DecidableEq Id]

def receiveAll (libraries : HttpLibraries) (s : HttpSession Id)
    (arrivals : List (HttpAnswers Id × List UInt8)) : Except HttpException (HttpSession Id) :=
  arrivals.foldlM (receive libraries) s

theorem receiveAll_concat {libraries : HttpLibraries} {s waiting : HttpSession Id}
    {arrivals : List (HttpAnswers Id × List UInt8)}
    (front : s.receiveAll libraries arrivals = .ok waiting)
    (arrival : HttpAnswers Id × List UInt8) :
    s.receiveAll libraries (arrivals ++ [arrival]) = waiting.receive libraries arrival := by
  unfold receiveAll at front ⊢
  rw [List.foldlM_append, front]
  exact bind_pure (waiting.receive libraries arrival)

theorem onRead_of_not_complete (libraries : HttpLibraries) {s : HttpSession Id}
    (answers : HttpAnswers Id) (waits : ¬ Complete s.inbuf) :
    s.onRead libraries answers = .ok s := by
  unfold onRead
  rw [inspect_of_not_complete waits]
  rfl

/-- As long as bytes are missing, the calls leave the session to the buffer. -/
theorem receiveAll_waits (libraries : HttpLibraries) {s : HttpSession Id}
    (valid : s.conn.inputBuffer.Valid) (arrivals : List (HttpAnswers Id × List UInt8))
    {more : List UInt8} (once : EndsAtMostOnce (s.inbuf ++ arrived arrivals ++ more))
    (present : more ≠ []) :
    s.receiveAll libraries arrivals = .ok (s.setInput (fill s.conn.inputBuffer arrivals)) := by
  induction arrivals generalizing s with
  | nil => rfl
  | cons arrival rest ih =>
      have readable := ByteBuffer.bbAppend_readable valid arrival.2
      have once' : EndsAtMostOnce (s.inbuf ++ arrival.2 ++ (arrived rest ++ more)) := by
        simpa [arrived, List.append_assoc] using once
      have waits : ¬ Complete (s.setInput (s.conn.inputBuffer.bbAppend arrival.2)).inbuf := by
        rw [setInput_inbuf, readable]
        exact not_complete_of_more once' (by simp [present])
      have first : s.receive libraries arrival =
          .ok (s.setInput (s.conn.inputBuffer.bbAppend arrival.2)) :=
        onRead_of_not_complete libraries arrival.1 waits
      unfold receiveAll
      rw [List.foldlM_cons, first]
      refine ih (s := s.setInput (s.conn.inputBuffer.bbAppend arrival.2))
        (ByteBuffer.bbAppend_valid valid arrival.2) ?_
      rw [setInput_inbuf, readable, List.append_assoc]
      exact once'

/-!
## The layout of the input buffer
-/

theorem respond_setInput (s : HttpSession Id) (buffer : ByteBuffer) (answers : HttpAnswers Id)
    (retData : List UInt8) :
    (s.setInput buffer).respond answers retData = (s.respond answers retData).setInput buffer := by
  unfold respond
  split
  · rfl
  · simp only [setInput, TcpConnection.send_setInput]

theorem onRegisterResponse_setInput (libraries : HttpLibraries) (s : HttpSession Id)
    (buffer : ByteBuffer) (answers : HttpAnswers Id) (data : List UInt8) :
    (s.setInput buffer).onRegisterResponse libraries answers data =
      (s.onRegisterResponse libraries answers data).map (·.setInput buffer) := by
  have same : (s.setInput buffer).accounts = s.accounts := rfl
  unfold onRegisterResponse
  rw [same]
  cases registerUser libraries s.accounts (libraries.decode data) answers.insert with
  | error raised => rfl
  | ok registered =>
      obtain ⟨retData, accounts⟩ := registered
      exact congrArg Except.ok
        (respond_setInput { s with accounts := accounts } buffer answers retData)

theorem process_setInput (libraries : HttpLibraries) (s : HttpSession Id) (buffer : ByteBuffer)
    (answers : HttpAnswers Id) (url param : List UInt8) :
    (s.setInput buffer).process libraries answers url param =
      (s.process libraries answers url param).map (Prod.map id (·.setInput buffer)) := by
  unfold process
  dsimp only
  split
  · rfl
  · split
    · have registers := onRegisterResponse_setInput libraries
        { s with processed := s.processed ++ [(url, param)] } buffer answers param
      change (do
        let answered ← (setInput { s with processed := s.processed ++ [(url, param)] }
          buffer).onRegisterResponse libraries answers param
        return (true, answered)) = _
      rw [registers]
      cases onRegisterResponse libraries { s with processed := s.processed ++ [(url, param)] }
        answers param with
      | error raised => rfl
      | ok answered => rfl
    · repeat' split
      all_goals rfl

theorem onRead_alike (libraries : HttpLibraries) (s : HttpSession Id) {first second : ByteBuffer}
    (same : first.readable = second.readable) (answers : HttpAnswers Id) :
    EndAlike ((s.setInput first).onRead libraries answers)
      ((s.setInput second).onRead libraries answers) := by
  unfold onRead
  rw [setInput_inbuf, setInput_inbuf, same]
  cases inspect second.readable with
  | error raised => exact rfl
  | ok found =>
      cases found with
      | incomplete => exact ⟨same, rfl⟩
      | illegal =>
          change ((s.setInput first).forceClose).Alike ((s.setInput second).forceClose)
          rw [forceClose_setInput, forceClose_setInput]
          exact ⟨same, rfl⟩
      | request url param =>
          change EndAlike ((s.setInput first).process libraries answers url param >>= _)
            ((s.setInput second).process libraries answers url param >>= _)
          rw [process_setInput, process_setInput]
          cases s.process libraries answers url param with
          | error raised => exact rfl
          | ok result => exact finish_alike result.2 same result.1

/-!
## The end of a request
-/

theorem respond_state (s : HttpSession Id) (answers : HttpAnswers Id) (retData : List UInt8) :
    (s.respond answers retData).conn.state = s.conn.state := by
  unfold respond
  split
  · rfl
  · change (s.conn.send _ true _ _).state = _
    unfold TcpConnection.send
    split
    · exact TcpConnection.sendInLoop_state answers.ctl s.conn _ answers.write
    · rfl

theorem respond_processed (s : HttpSession Id) (answers : HttpAnswers Id) (retData : List UInt8) :
    (s.respond answers retData).processed = s.processed := by
  unfold respond
  split <;> rfl

theorem process_dispatches {libraries : HttpLibraries} {s after : HttpSession Id}
    {answers : HttpAnswers Id} {url param : List UInt8} {handled : Bool}
    (processed : s.process libraries answers url param = .ok (handled, after)) :
    after.conn.state = s.conn.state ∧ after.processed = s.processed ++ [(url, param)] := by
  unfold process at processed
  dsimp only at processed
  split at processed
  · cases processed
    exact ⟨rfl, rfl⟩
  · split at processed
    · unfold onRegisterResponse at processed
      dsimp only at processed
      cases registered : registerUser libraries s.accounts (libraries.decode param)
          answers.insert with
      | error raised =>
          rw [registered] at processed
          cases processed
      | ok result =>
          rw [registered] at processed
          cases processed
          exact ⟨respond_state _ answers result.1, respond_processed _ answers result.1⟩
    · repeat' split at processed
      all_goals
        cases processed
        exact ⟨rfl, rfl⟩

/-- A call that finds a whole request and returns closes the connection, and has dispatched the
request unless it was illegal. -/
theorem onRead_complete {libraries : HttpLibraries} {s after : HttpSession Id}
    {answers : HttpAnswers Id} (up : s.conn.state = .kConnected) (complete : Complete s.inbuf)
    (returned : s.onRead libraries answers = .ok after) :
    after.conn.state = .kDisconnecting ∧
      (inspect s.inbuf = .ok .illegal ∧ after.processed = s.processed ∨
        ∃ url param, inspect s.inbuf = .ok (.request url param) ∧
          after.processed = s.processed ++ [(url, param)]) := by
  unfold onRead at returned
  cases found : inspect s.inbuf with
  | error raised =>
      rw [found] at returned
      cases returned
  | ok inspection =>
      rw [found] at returned
      cases inspection with
      | incomplete => exact absurd found (inspect_ne_incomplete complete)
      | illegal =>
          cases returned
          exact ⟨forceClose_state up, .inl ⟨rfl, rfl⟩⟩
      | request url param =>
          change (s.process libraries answers url param >>= _) = _ at returned
          cases processed : s.process libraries answers url param with
          | error raised =>
              rw [processed] at returned
              cases returned
          | ok result =>
              rw [processed] at returned
              cases returned
              obtain ⟨same, dispatched⟩ := process_dispatches processed
              refine ⟨finish_state (same.trans up) result.1, .inr ⟨url, param, rfl, ?_⟩⟩
              exact (finish_processed result.2 result.1).trans dispatched

/-- Only a call that waits for more leaves the connection open. -/
theorem onRead_open {libraries : HttpLibraries} {s after : HttpSession Id}
    {answers : HttpAnswers Id} (up : s.conn.state = .kConnected)
    (returned : s.onRead libraries answers = .ok after)
    (still : after.conn.state = .kConnected) : ¬ Complete s.inbuf := by
  intro complete
  have closed := (onRead_complete up complete returned).1
  exact absurd (still.symm.trans closed) (by decide)

/-!
## Chunks
-/

/-- A request that is cut into chunks waits in the buffer until the last of them, and is then
answered as if it had come in one. -/
theorem chunks_answered_alike (libraries : HttpLibraries) (s : HttpSession Id)
    (valid : s.conn.inputBuffer.Valid) (empty : s.inbuf = [])
    (earlier : List (HttpAnswers Id × List UInt8)) (answers : HttpAnswers Id)
    {last : List UInt8} (present : last ≠ [])
    (once : EndsAtMostOnce (arrived earlier ++ last)) :
    (∀ first, first <+: earlier →
      s.receiveAll libraries first = .ok (s.setInput (fill s.conn.inputBuffer first))) ∧
    EndAlike (s.receiveAll libraries (earlier ++ [(answers, last)]))
      (s.receive libraries (answers, arrived earlier ++ last)) := by
  have waits : ∀ first, first <+: earlier →
      s.receiveAll libraries first = .ok (s.setInput (fill s.conn.inputBuffer first)) := by
    rintro first ⟨later, rfl⟩
    have missing : arrived later ++ last ≠ [] := by simp [present]
    refine receiveAll_waits libraries valid first ?_ missing
    simpa [empty, arrived, List.append_assoc] using once
  refine ⟨waits, ?_⟩
  have front := waits earlier (List.prefix_refl earlier)
  rw [receiveAll_concat front]
  -- both buffers hold the whole request
  have readable : ((fill s.conn.inputBuffer earlier).bbAppend last).readable =
      (s.conn.inputBuffer.bbAppend (arrived earlier ++ last)).readable := by
    rw [ByteBuffer.bbAppend_readable (fill_valid valid earlier), fill_readable valid,
      ByteBuffer.bbAppend_readable valid, List.append_assoc]
  exact onRead_alike libraries s readable answers

/-- The chunk that makes a request whole is not left waiting: when the call returns, the connection
is closing, and the request has been dispatched unless it was illegal. -/
theorem last_chunk_ends {libraries : HttpLibraries} {s after : HttpSession Id}
    (valid : s.conn.inputBuffer.Valid) (up : s.conn.state = .kConnected) (empty : s.inbuf = [])
    {earlier : List (HttpAnswers Id × List UInt8)} {answers : HttpAnswers Id}
    {last : List UInt8} (present : last ≠ []) (once : EndsAtMostOnce (arrived earlier ++ last))
    (complete : Complete (arrived earlier ++ last))
    (returned : s.receiveAll libraries (earlier ++ [(answers, last)]) = .ok after) :
    after.conn.state = .kDisconnecting ∧
      (inspect (arrived earlier ++ last) = .ok .illegal ∧ after.processed = s.processed ∨
        ∃ url param, inspect (arrived earlier ++ last) = .ok (.request url param) ∧
          after.processed = s.processed ++ [(url, param)]) := by
  have waits : s.receiveAll libraries earlier =
      .ok (s.setInput (fill s.conn.inputBuffer earlier)) := by
    refine receiveAll_waits libraries valid earlier ?_ present
    rw [empty]
    exact once
  rw [receiveAll_concat waits] at returned
  have whole : (s.setInput ((fill s.conn.inputBuffer earlier).bbAppend last)).inbuf =
      arrived earlier ++ last := by
    have nothing : s.conn.inputBuffer.readable = [] := empty
    rw [setInput_inbuf, ByteBuffer.bbAppend_readable (fill_valid valid earlier),
      fill_readable valid, nothing, List.nil_append]
  rw [← whole] at complete ⊢
  exact onRead_complete (s := s.setInput ((fill s.conn.inputBuffer earlier).bbAppend last)) up
    complete returned

def cutRequest : List (HttpAnswers Unit × List UInt8) :=
  [(readyAnswers, asciiText "GET /login.do?p="), (readyAnswers, asciiText "1 HTTP/1.1\r\n\r")]

theorem login_answered_alike :
    (∀ first, first <+: cutRequest →
      accepted.receiveAll quietLibraries first = .ok (accepted.setInput (fill .new first))) ∧
    EndAlike (accepted.receiveAll quietLibraries (cutRequest ++ [(readyAnswers, asciiText "\n")]))
      (accepted.receive quietLibraries (readyAnswers, arrived cutRequest ++ asciiText "\n")) := by
  have found : findDelimiter crlfcrlf (arrived cutRequest ++ asciiText "\n") = some 26 := by
    decide +kernel
  have atEnd : (arrived cutRequest ++ asciiText "\n").length = 26 + 4 := by decide +kernel
  exact chunks_answered_alike quietLibraries accepted ByteBuffer.new_wellFormed.toValid
    ByteBuffer.new_readable cutRequest readyAnswers (by decide)
    (endsAtMostOnce_of_find found atEnd)

/-!
## The length of the input
-/

/-- An arrival on the connection or, once a call has thrown, none. Behind `force_close` the
loop closes the connection before it polls again, so that nothing arrives any more. -/
def arrive (libraries : HttpLibraries) (state : Except HttpException (HttpSession Id))
    (arrival : HttpAnswers Id × List UInt8) : Except HttpException (HttpSession Id) :=
  match state with
  | .error raised => .error raised
  | .ok s => if s.conn.state = .kConnected then s.receive libraries arrival else .ok s

/-- The arrival is cut off if the header has grown too long without an end, and what the
connection keeps is short but for the last read. -/
def CutsOff (libraries : HttpLibraries) (state : Except HttpException (HttpSession Id))
    (arrival : HttpAnswers Id × List UInt8) : Prop :=
  ∀ s, IsOpen state s →
    (MAX_URL_LENGTH ≤ (s.inbuf ++ arrival.2).length → ¬ crlfcrlf <:+: s.inbuf ++ arrival.2 →
      ∃ after, arrive libraries state arrival = .ok after ∧
        after.conn.state = .kDisconnecting) ∧
    ∀ after, IsOpen (arrive libraries state arrival) after →
      after.inbuf.length < MAX_URL_LENGTH + arrival.2.length

/-- The arrival brings the end of a header that gets too long, and at the end of the input if
the header was too long before. -/
def EndsInTime (state : Except HttpException (HttpSession Id))
    (arrival : HttpAnswers Id × List UInt8) : Prop :=
  ∀ s, IsOpen state s →
    (MAX_URL_LENGTH ≤ (s.inbuf ++ arrival.2).length → crlfcrlf <:+: s.inbuf ++ arrival.2) ∧
    (MAX_URL_LENGTH ≤ s.inbuf.length → crlfcrlf <:+ s.inbuf ++ arrival.2)

theorem arrive_of_open (libraries : HttpLibraries) {state : Except HttpException (HttpSession Id)}
    {s : HttpSession Id} (opened : IsOpen state s) (arrival : HttpAnswers Id × List UInt8) :
    arrive libraries state arrival = s.receive libraries arrival := by
  obtain ⟨rfl, up⟩ := opened
  exact if_pos up

/-- An arrival on an open connection that stays open only adds to the buffer. -/
theorem arrive_open {libraries : HttpLibraries} {state : Except HttpException (HttpSession Id)}
    {s after : HttpSession Id} (opened : IsOpen state s)
    {arrival : HttpAnswers Id × List UInt8}
    (still : IsOpen (arrive libraries state arrival) after) :
    ¬ Complete (s.conn.inputBuffer.bbAppend arrival.2).readable ∧
      after = s.setInput (s.conn.inputBuffer.bbAppend arrival.2) := by
  obtain ⟨returned, up⟩ := still
  rw [arrive_of_open libraries opened] at returned
  have waits : ¬ Complete (s.setInput (s.conn.inputBuffer.bbAppend arrival.2)).inbuf :=
    onRead_open (s := s.setInput (s.conn.inputBuffer.bbAppend arrival.2)) opened.2 returned up
  have same := onRead_of_not_complete libraries arrival.1 waits
  exact ⟨waits, Except.ok.inj (returned.symm.trans same)⟩

theorem arrive_waits {libraries : HttpLibraries} {state : Except HttpException (HttpSession Id)}
    {s : HttpSession Id} (valid : s.conn.inputBuffer.Valid) (opened : IsOpen state s)
    {arrival : HttpAnswers Id × List UInt8} (waits : ¬ Complete (s.inbuf ++ arrival.2)) :
    arrive libraries state arrival =
      .ok (s.setInput (s.conn.inputBuffer.bbAppend arrival.2)) := by
  rw [arrive_of_open libraries opened]
  refine onRead_of_not_complete libraries arrival.1 ?_
  rw [setInput_inbuf, ByteBuffer.bbAppend_readable valid]
  exact waits

theorem cutsOff_iff {libraries : HttpLibraries} {state : Except HttpException (HttpSession Id)}
    (valid : ∀ s, IsOpen state s → s.conn.inputBuffer.Valid)
    (arrival : HttpAnswers Id × List UInt8) :
    CutsOff libraries state arrival ↔ EndsInTime state arrival := by
  refine forall_congr' fun s => imp_congr_right fun opened => ?_
  have readable := ByteBuffer.bbAppend_readable (valid s opened) arrival.2
  constructor
  · rintro ⟨cuts, bounded⟩
    constructor
    · intro long
      by_contra endless
      have waits : ¬ Complete (s.inbuf ++ arrival.2) := fun complete =>
        endless complete.2.isInfix
      obtain ⟨after, returned, closing⟩ := cuts long endless
      rw [arrive_waits (valid s opened) opened waits] at returned
      cases returned
      exact absurd (opened.2.symm.trans closing) (by decide)
    · intro long
      by_contra endless
      have waits : ¬ Complete (s.inbuf ++ arrival.2) := fun complete => endless complete.2
      have short := bounded _ ⟨arrive_waits (valid s opened) opened waits, opened.2⟩
      rw [setInput_inbuf, readable, List.length_append] at short
      exact absurd short (Nat.not_lt.mpr (Nat.add_le_add_right long _))
  · rintro ⟨ends, endsNow⟩
    refine ⟨fun long endless => absurd (ends long) endless, fun after still => ?_⟩
    obtain ⟨waits, rfl⟩ := arrive_open opened still
    rw [readable] at waits
    rw [setInput_inbuf, readable, List.length_append]
    by_contra long
    have already : MAX_URL_LENGTH ≤ s.inbuf.length :=
      Nat.le_of_add_le_add_right (Nat.not_lt.mp long)
    have enough : 4 < (s.inbuf ++ arrival.2).length := by
      rw [List.length_append]
      unfold MAX_URL_LENGTH at already
      omega
    exact waits ⟨enough, endsNow already⟩

/-- The invariant rule for open sessions: they change only in what their buffers hold. -/
theorem arrive_invariant {property : HttpSession Id → Prop}
    (kept : ∀ s chunk, property s → property (s.setInput (s.conn.inputBuffer.bbAppend chunk)))
    (libraries : HttpLibraries) (state : Except HttpException (HttpSession Id))
    (arrival : HttpAnswers Id × List UInt8) (holds : ∀ s, IsOpen state s → property s) :
    ∀ s, IsOpen (arrive libraries state arrival) s → property s := by
  intro after still
  cases state with
  | error raised => cases still.1
  | ok s =>
      by_cases up : s.conn.state = .kConnected
      · have opened : IsOpen (.ok s) s := ⟨rfl, up⟩
        obtain ⟨-, rfl⟩ := arrive_open opened still
        exact kept s arrival.2 (holds s opened)
      · have same : arrive libraries (.ok s) arrival = .ok s := if_neg up
        rw [same] at still
        exact holds after still

/-- A header that grows without an end is cut off at every point of a run exactly when no
header does grow so. -/
theorem cutsOff_run_iff (libraries : HttpLibraries) {s : HttpSession Id}
    (valid : s.conn.inputBuffer.Valid) (arrivals : List (HttpAnswers Id × List UInt8)) :
    Guarded (arrive libraries) (CutsOff libraries) (.ok s) arrivals ↔
      Guarded (arrive libraries) EndsInTime (.ok s) arrivals := by
  refine guarded_congr (fun state => ∀ s, IsOpen state s → s.conn.inputBuffer.Valid)
    (arrive_invariant (fun _ chunk valid => ByteBuffer.bbAppend_valid valid chunk) libraries)
    (fun state arrival valid => cutsOff_iff valid arrival) ?_ arrivals
  intro opened open'
  cases open'.1
  exact valid

theorem short_header_cutsOff :
    Guarded (arrive quietLibraries) (CutsOff quietLibraries) (.ok accepted)
      [(readyAnswers, asciiText "GET / HTTP/1.1\r\n")] := by
  refine (cutsOff_run_iff quietLibraries ByteBuffer.new_wellFormed.toValid _).mpr ⟨?_, trivial⟩
  intro s opened
  cases opened.1
  exact ⟨fun long => absurd long (by decide +kernel), fun long => absurd long (by decide +kernel)⟩

/-- The letter `a`, as often as the length limit says. -/
def endlessHeader : List UInt8 :=
  List.replicate MAX_URL_LENGTH (asciiCode 'a')

theorem endless_header_kept :
    ¬ Guarded (arrive quietLibraries) (CutsOff quietLibraries) (.ok accepted)
      [(readyAnswers, endlessHeader)] := by
  rintro ⟨cuts, -⟩
  have valid : ∀ s, IsOpen (.ok accepted) s → s.conn.inputBuffer.Valid := by
    intro s opened
    cases opened.1
    exact ByteBuffer.new_wellFormed.toValid
  obtain ⟨ends, -⟩ := (cutsOff_iff valid _).mp cuts accepted ⟨rfl, rfl⟩
  have empty : accepted.inbuf = [] := ByteBuffer.new_readable
  rw [empty, List.nil_append] at ends
  have long : MAX_URL_LENGTH ≤ endlessHeader.length := by simp [endlessHeader]
  have present : (13 : UInt8) ∈ endlessHeader :=
    (ends long).subset (by decide)
  have same := List.eq_of_mem_replicate present
  exact absurd same (by decide)

end HttpSession

end Talko.Service
