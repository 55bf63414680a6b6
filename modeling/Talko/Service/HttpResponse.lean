import Talko.Network.TcpConnectionIteration
import Talko.Service.HttpChunks

/-!
# Whether a response leaves

`on_read` sends a response and closes the connection in the same callback. How much of the
response the socket gets is decided before the loop polls again.
-/

set_option autoImplicit false

namespace Talko.Service

open Talko.Library Talko.Network

theorem answerUser_retData (accounts : Accounts) (u : NewUser) (insert : InsertAnswer) :
    (answerUser accounts u insert).1 ∈ [[], registeredAlready, registerFailed, registerOk] := by
  unfold answerUser
  dsimp only
  split
  · exact List.mem_of_mem_tail List.mem_cons_self
  · split
    · exact List.mem_of_mem_tail (List.mem_of_mem_tail List.mem_cons_self)
    · exact List.mem_of_mem_tail (List.mem_of_mem_tail (List.mem_of_mem_tail List.mem_cons_self))

theorem registerUser_retData {libraries : HttpLibraries} {accounts after : Accounts}
    {data retData : List UInt8} {insert : InsertAnswer}
    (registered : registerUser libraries accounts data insert = .ok (retData, after)) :
    retData ∈ [[], registeredAlready, registerFailed, registerOk] := by
  unfold registerUser at registered
  cases read : libraries.parse data with
  | threw =>
      rw [read] at registered
      cases registered
  | reported =>
      rw [read] at registered
      cases registered
      exact List.mem_cons_self
  | read jsonRoot =>
      rw [read] at registered
      cases requested : requestedUser jsonRoot with
      | error raised =>
          simp only [requested] at registered
          cases registered
      | ok found =>
          simp only [requested] at registered
          cases found with
          | none =>
              cases registered
              exact List.mem_cons_self
          | some u =>
              have answer : answerUser accounts u insert = (retData, after) :=
                Except.ok.inj registered
              have known := answerUser_retData accounts u insert
              rw [answer] at known
              exact known

/-- A response is far too short for its length to change on the way to the socket. -/
theorem length_makeupResponse_lt {retData : List UInt8}
    (known : retData ∈ [[], registeredAlready, registerFailed, registerOk]) :
    (makeupResponse retData).length < 2 ^ 31 := by
  simp only [List.mem_cons, List.not_mem_nil, or_false] at known
  rcases known with rfl | rfl | rfl | rfl
  all_goals decide +kernel

theorem makeupResponse_ne_nil (retData : List UInt8) : makeupResponse retData ≠ [] := by
  have header : crlfcrlf ≠ [] := by decide
  simp [makeupResponse, header]

/-- The socket takes the data as a whole. -/
def TakesAll (data : List UInt8) (answer : SocksWrite) : Prop :=
  ∃ count, answer = .accepted count ∧ data.length ≤ count

theorem socksWrite_accepted_iff {data : List UInt8} (present : data ≠ [])
    (short : data.length < 2 ^ 31) (answer : SocksWrite) :
    (Effect.wrote (socksWrite data answer)).accepted = data ↔ TakesAll data answer := by
  unfold socksWrite
  rw [sizeToInt32_of_lt short]
  dsimp only
  rw [if_neg (Int.not_lt.mpr (Int.natCast_nonneg data.length)), Int.toNat_natCast,
    List.take_length]
  cases answer with
  | failed errno =>
      refine iff_of_false (fun nothing => present nothing.symm) ?_
      rintro ⟨count, impossible, -⟩
      cases impossible
  | accepted limit =>
      change data.take limit = data ↔ _
      rw [List.take_eq_self_iff]
      constructor
      · intro enough
        exact ⟨limit, rfl, enough⟩
      · rintro ⟨count, same, enough⟩
        cases same
        exact enough

namespace HttpSession

variable {Id : Type}

/-- Nothing has been sent on the connection and nothing waits in the loop. -/
structure Unused (conn : TcpConnection Id) : Prop where
  idle : conn.isWriting = false
  drained : conn.outputBuffer.readable = []
  functors : conn.pendingFunctors = []
  accepted : conn.accepted = []

theorem Unused.setInput {conn : TcpConnection Id} (unused : Unused conn) (buffer : ByteBuffer) :
    Unused (conn.setInput buffer) :=
  ⟨unused.idle, unused.drained, unused.functors, unused.accepted⟩

theorem unused_of_fresh {conn : TcpConnection Id} (fresh : conn.Fresh) : Unused conn where
  idle := fresh.idle
  drained := by rw [fresh.buffer, FormedBuffer.new_readable]
  functors := fresh.functors
  accepted := by
    unfold TcpConnection.accepted
    rw [fresh.trace]
    rfl

variable [DecidableEq Id]

/-- The request in the input is a registration that is answered with the text. -/
def Answered (libraries : HttpLibraries) (s : HttpSession Id) (answers : HttpAnswers Id)
    (retData : List UInt8) : Prop :=
  retData ≠ [] ∧ ∃ param accounts,
    inspect s.inbuf = .ok (.request (asciiText "/register.do") param) ∧
      registerUser libraries s.accounts (libraries.decode param) answers.insert =
        .ok (retData, accounts)

theorem onRead_of_answered {libraries : HttpLibraries} {s : HttpSession Id}
    {answers : HttpAnswers Id} {retData : List UInt8}
    (answered : s.Answered libraries answers retData) :
    ∃ after, s.onRead libraries answers = .ok after ∧
      after.conn =
        (s.conn.send answers.ctl true (makeupResponse retData) answers.write).forceClose := by
  obtain ⟨present, param, accounts, found, registered⟩ := answered
  unfold onRead
  rw [found]
  change ∃ after, (s.process libraries answers (asciiText "/register.do") param >>= _) = _ ∧ _
  unfold process
  rw [if_neg (by decide), if_pos rfl]
  unfold onRegisterResponse
  dsimp only
  rw [registered]
  refine ⟨_, rfl, ?_⟩
  change (respond _ answers retData).conn.forceClose = _
  unfold respond
  rw [if_neg present]

/-- What the response leaves behind: the direct write, callbacks and the functor that closes. -/
theorem send_forceClose {conn : TcpConnection Id} (up : conn.state = .kConnected)
    (unused : Unused conn) (ctl : EpollCtl Id) (response : List UInt8) (answer : SocksWrite) :
    let after := (conn.send ctl true response answer).forceClose
    after.state = .kDisconnecting ∧
      after.accepted = (Effect.wrote (socksWrite response answer)).accepted ∧
      ∃ callbacks : List Functor, (∀ functor ∈ callbacks, functor.isCallback = true) ∧
        after.pendingFunctors = callbacks ++ [.forceCloseInLoop] := by
  have sent : conn.send ctl true response answer = conn.sendInLoop ctl response answer := by
    unfold TcpConnection.send
    rw [if_pos up]
    rfl
  rw [sent]
  obtain ⟨down, -⟩ | ⟨-, -, -, buffers⟩ | ⟨-, busy, -⟩ :=
    TcpConnection.sendInLoop_cases ctl conn response answer
  · exact absurd (up.symm.trans down) (by decide)
  · have state : (conn.sendInLoop ctl response answer).state = .kConnected :=
      buffers.state.trans up
    have accepted : (conn.sendInLoop ctl response answer).accepted =
        (Effect.wrote (socksWrite response answer)).accepted := by
      unfold TcpConnection.accepted
      rw [buffers.trace]
      change ((conn.record (.passed response)).record
        (.wrote (socksWrite response answer))).accepted = _
      have nothing : (Effect.passed response).accepted = [] := rfl
      rw [TcpConnection.record_accepted, TcpConnection.record_accepted, unused.accepted, nothing,
        List.append_nil, List.nil_append]
    obtain ⟨callbacks, calls, functors⟩ := buffers.functors
    dsimp only
    unfold TcpConnection.forceClose
    rw [if_pos (.inl state)]
    refine ⟨rfl, accepted, callbacks, calls, ?_⟩
    change (conn.sendInLoop ctl response answer).pendingFunctors ++ [_] = _
    rw [functors]
    change conn.pendingFunctors ++ callbacks ++ _ = _
    rw [unused.functors]
    rfl
  · rcases busy with writing | waiting
    · rw [unused.idle] at writing
      cases writing
    · exact absurd unused.drained waiting

/-- The connection closes before the loop polls again, and the response has left by then
exactly when the direct write has taken all of it. -/
theorem answered_closes {libraries : HttpLibraries} {s : HttpSession Id}
    (up : s.conn.state = .kConnected) (unused : Unused s.conn) {answers : HttpAnswers Id}
    {retData : List UInt8} (answered : s.Answered libraries answers retData) (ready : EventMask)
    (write : EpollCtl Id × SocksWrite) (later : Nat → EpollCtl Id × SocksWrite) :
    ∃ after, s.onRead libraries answers = .ok after ∧
      let closed := s.conn.endIteration after.conn ready write later
      closed.state = .kDisconnected ∧ closed.poller.isEventNone closed.channel = true ∧
        (closed.accepted = makeupResponse retData ↔
          TakesAll (makeupResponse retData) answers.write) := by
  obtain ⟨after, returned, conn⟩ := onRead_of_answered answered
  refine ⟨after, returned, ?_⟩
  obtain ⟨closing, accepted, callbacks, calls, functors⟩ :=
    send_forceClose up unused answers.ctl (makeupResponse retData) answers.write
  rw [← conn] at closing accepted functors
  dsimp only
  rw [TcpConnection.endIteration_of_idle unused.idle]
  unfold TcpConnection.doOtherTasks
  rw [functors]
  have emptied : ({ after.conn with pendingFunctors := [] } : TcpConnection Id).state =
    .kDisconnecting := closing
  obtain ⟨state, interest, same⟩ :=
    TcpConnection.executeAll_closesQuietly calls emptied later
  refine ⟨state, interest, ?_⟩
  obtain ⟨-, param, accounts, -, registered⟩ := answered
  have short := length_makeupResponse_lt (registerUser_retData registered)
  rw [same, ← socksWrite_accepted_iff (makeupResponse_ne_nil retData) short, ← accepted]
  rfl

theorem received_closes {libraries : HttpLibraries} {s : HttpSession Id}
    (up : s.conn.state = .kConnected) (unused : Unused s.conn) {answers : HttpAnswers Id}
    {chunk retData : List UInt8}
    (answered : (s.setInput (s.conn.inputBuffer.bbAppend chunk)).Answered libraries answers retData)
    (ready : EventMask) (write : EpollCtl Id × SocksWrite)
    (later : Nat → EpollCtl Id × SocksWrite) :
    ∃ after, s.receive libraries (answers, chunk) = .ok after ∧
      let closed := s.conn.endIteration after.conn ready write later
      closed.state = .kDisconnected ∧ closed.poller.isEventNone closed.channel = true ∧
        (closed.accepted = makeupResponse retData ↔
          TakesAll (makeupResponse retData) answers.write) :=
  answered_closes (s := s.setInput (s.conn.inputBuffer.bbAppend chunk)) up (unused.setInput _)
    answered ready write later

/-!
## Over a run
-/

/-- A session on a connection that has been made on any loop. -/
def established (poller : EpollPoller Id) (channel : Id) (sockfd : Int)
    (writeComplete highWater : Bool) (highWaterMark : Nat) (ctl : EpollCtl Id)
    (accounts : Accounts) : HttpSession Id :=
  .new ((TcpConnection.new poller channel sockfd writeComplete highWater
    highWaterMark).connEstablished ctl) accounts

theorem established_unused {poller : EpollPoller Id} {channel : Id} {sockfd : Int}
    {writeComplete highWater : Bool} {highWaterMark : Nat} {ctl : EpollCtl Id}
    {accounts : Accounts} {s : HttpSession Id}
    (opened : IsOpen (.ok (established poller channel sockfd writeComplete highWater highWaterMark
      ctl accounts)) s) : Unused s.conn := by
  obtain ⟨same, up⟩ := opened
  cases same
  exact unused_of_fresh (TcpConnection.connEstablished_fresh up)

/-- In every run, a registration that is answered leaves before its connection closes exactly
when the direct write takes all of the response. -/
theorem response_leaves_iff (libraries : HttpLibraries) (poller : EpollPoller Id) (channel : Id)
    (sockfd : Int) (writeComplete highWater : Bool) (highWaterMark : Nat) (ctl : EpollCtl Id)
    (accounts : Accounts) (arrivals : List (HttpAnswers Id × List UInt8)) {s : HttpSession Id}
    (reached : IsOpen (run (arrive libraries) (.ok (established poller channel sockfd
      writeComplete highWater highWaterMark ctl accounts)) arrivals) s)
    (answers : HttpAnswers Id) (chunk : List UInt8) {retData : List UInt8}
    (answered : (s.setInput (s.conn.inputBuffer.bbAppend chunk)).Answered libraries answers retData)
    (ready : EventMask) (write : EpollCtl Id × SocksWrite)
    (later : Nat → EpollCtl Id × SocksWrite) :
    ∃ after, s.receive libraries (answers, chunk) = .ok after ∧
      let closed := s.conn.endIteration after.conn ready write later
      closed.state = .kDisconnected ∧ closed.poller.isEventNone closed.channel = true ∧
        (closed.accepted = makeupResponse retData ↔
          TakesAll (makeupResponse retData) answers.write) := by
  have unused : ∀ s, IsOpen (run (arrive libraries) (.ok (established poller channel sockfd
      writeComplete highWater highWaterMark ctl accounts)) arrivals) s → Unused s.conn :=
    run_invariant_always (fun state => ∀ s, IsOpen state s → Unused s.conn)
      (arrive_invariant (fun _ _ unused => unused.setInput _) libraries)
      (fun s opened => established_unused opened) arrivals
  exact received_closes reached.2 (unused s reached) answered ready write later

def registrationText : List UInt8 :=
  asciiText "\x7b\"username\":\"a\",\"nickname\":\"b\",\"password\":\"c\"\x7d"

/-- The libraries on a text without escapes and the object it spells. -/
def registrationLibraries : HttpLibraries where
  decode data := data
  parse data :=
    if data = registrationText then
      .read (.objectValue [("username", .stringValue "a"), ("nickname", .stringValue "b"),
        ("password", .stringValue "c")])
    else .reported

def registrationRequest : List UInt8 :=
  asciiText "GET /register.do?p=" ++ registrationText ++ asciiText " HTTP/1.1\r\n\r\n"

def answersTaking (count : Nat) : HttpAnswers Unit where
  ctl := mapCtl
  write := .accepted count
  insert := ⟨true, true⟩

def firstSession : HttpSession Unit :=
  established (.new fun _ => 7) () 7 false false (64 * 1024 * 1024) mapCtl .new

theorem registration_answered (count : Nat) :
    (firstSession.setInput (firstSession.conn.inputBuffer.bbAppend registrationRequest)).Answered
      registrationLibraries (answersTaking count) registerOk := by
  have found : inspect (firstSession.setInput
      (firstSession.conn.inputBuffer.bbAppend registrationRequest)).inbuf =
        .ok (.request (asciiText "/register.do") registrationText) := by
    decide +kernel
  have registered : registerUser registrationLibraries .new registrationText ⟨true, true⟩ =
      .ok (registerOk, (Accounts.new.addUser ⟨"a", "b", "c"⟩ ⟨true, true⟩).2) := by
    decide +kernel
  exact ⟨by decide, registrationText, _, found, registered⟩

theorem registration_leaves :
    ∃ after, firstSession.receive registrationLibraries (answersTaking 200, registrationRequest) =
        .ok after ∧
      let closed := firstSession.conn.endIteration after.conn POLLIN (mapCtl, .accepted 0)
        fun _ => (mapCtl, .accepted 0)
      closed.state = .kDisconnected ∧ closed.poller.isEventNone closed.channel = true ∧
        (closed.accepted = makeupResponse registerOk ↔
          TakesAll (makeupResponse registerOk) (.accepted 200)) :=
  response_leaves_iff registrationLibraries (.new fun _ => 7) () 7 false false (64 * 1024 * 1024)
    mapCtl .new [] ⟨rfl, rfl⟩ (answersTaking 200) registrationRequest (registration_answered 200)
    POLLIN (mapCtl, .accepted 0) fun _ => (mapCtl, .accepted 0)

/-- A socket with room for ten bytes gets these ten bytes of the response and no others. -/
theorem cut_response_lost :
    ∃ after, firstSession.receive registrationLibraries (answersTaking 10, registrationRequest) =
        .ok after ∧
      let closed := firstSession.conn.endIteration after.conn (POLLIN ||| POLLOUT)
        (mapCtl, .accepted 200) fun _ => (mapCtl, .accepted 200)
      closed.state = .kDisconnected ∧ closed.accepted ≠ makeupResponse registerOk := by
  have opened : IsOpen (.ok firstSession) firstSession := ⟨rfl, rfl⟩
  have unused : Unused firstSession.conn := established_unused opened
  obtain ⟨after, returned, state, -, leaves⟩ :=
    received_closes opened.2 unused (registration_answered 10) (POLLIN ||| POLLOUT)
      (mapCtl, .accepted 200) fun _ => (mapCtl, .accepted 200)
  refine ⟨after, returned, state, fun whole => ?_⟩
  obtain ⟨count, same, enough⟩ := leaves.mp whole
  have ten : count = 10 := (SocksWrite.accepted.inj same).symm
  have long : ¬ (makeupResponse registerOk).length ≤ 10 := by decide +kernel
  rw [ten] at enough
  exact long enough

end HttpSession

end Talko.Service
