import Mathlib.Data.Set.Insert
import Talko.Library.Simulation
import Talko.Service.AccountsProperties
import Talko.Service.HttpSession

/-!
# Registration as a registry of names

What the requests for `/register.do` and the groups that are made between them come to. The
registry is the set of the names that are taken: a free name can be taken once, and everybody
who asks for a taken name is told so. The requests follow one another here; what becomes of
those that overlap is the subject of `RegistrationNames`.
-/

set_option autoImplicit false

namespace Talko.Service

open Talko.Library

/-- A request as `register_user` receives it, or a call of `addGroup`. -/
inductive RegistryCall where
  | register (data : List UInt8) (insert : InsertAnswer)
  | addGroup (groupname : String) (ownerid : Int) (insert : InsertAnswer)
  deriving DecidableEq, Repr

/-- The text in `retData` or the exception that leaves `register_user`; the id of a group. -/
inductive RegistryReply where
  | retData (text : List UInt8)
  | raised (exception : HttpException)
  | groupid (id : Option Int)
  deriving DecidableEq, Repr

/-- What a request asks for. -/
def askedUser (libraries : HttpLibraries) (data : List UInt8) :
    Except HttpException (Option NewUser) :=
  match libraries.parse data with
  | .threw => .error .jsonRuntimeError
  | .reported => .ok none
  | .read jsonRoot => requestedUser jsonRoot

/-!
## The registry
-/

/-- The calls of a registry and their replies, on the set of the names that are taken. -/
inductive RegistryStep (libraries : HttpLibraries) :
    Set String → RegistryCall → RegistryReply → Set String → Prop where
  | raised {names : Set String} {data : List UInt8} {insert : InsertAnswer}
      {exception : HttpException} :
      askedUser libraries data = .error exception →
      RegistryStep libraries names (.register data insert) (.raised exception) names
  | unasked {names : Set String} {data : List UInt8} {insert : InsertAnswer} :
      askedUser libraries data = .ok none →
      RegistryStep libraries names (.register data insert) (.retData []) names
  | taken {names : Set String} {data : List UInt8} {insert : InsertAnswer} {u : NewUser} :
      askedUser libraries data = .ok (some u) → u.username ∈ names →
      RegistryStep libraries names (.register data insert) (.retData registeredAlready) names
  | refused {names : Set String} {data : List UInt8} {insert : InsertAnswer} {u : NewUser} :
      askedUser libraries data = .ok (some u) → u.username ∉ names → ¬ insert.succeeds →
      RegistryStep libraries names (.register data insert) (.retData registerFailed) names
  | registered {names : Set String} {data : List UInt8} {insert : InsertAnswer} {u : NewUser} :
      askedUser libraries data = .ok (some u) → u.username ∉ names → insert.succeeds →
      RegistryStep libraries names (.register data insert) (.retData registerOk)
        (Set.insert u.username names)
  | ungrouped {names : Set String} {groupname : String} {ownerid : Int}
      {insert : InsertAnswer} : ¬ insert.succeeds →
      RegistryStep libraries names (.addGroup groupname ownerid insert) (.groupid none) names
  | grouped {names : Set String} {groupname : String} {ownerid id : Int}
      {insert : InsertAnswer} : insert.succeeds →
      RegistryStep libraries names (.addGroup groupname ownerid insert) (.groupid (some id))
        (Set.insert (toString id) names)

namespace Accounts

/-- A call on the manager. An exception leaves the manager as it is. -/
def perform (libraries : HttpLibraries) (accounts : Accounts) :
    RegistryCall → Accounts × RegistryReply
  | .register data insert =>
      match registerUser libraries accounts data insert with
      | .error exception => (accounts, .raised exception)
      | .ok (retData, after) => (after, .retData retData)
  | .addGroup groupname ownerid insert =>
      let result := accounts.addGroup groupname ownerid insert
      (result.2, .groupid result.1)

/-- The names in the cache. -/
def names (accounts : Accounts) : Set String :=
  {name | ∃ user ∈ accounts.allCachedUsers, user.username = name}

/-- The counter of the call is not at the end of its side. -/
def RoomFor (accounts : Accounts) : RegistryCall → Prop
  | .register _ _ => accounts.baseUserId + 1 < GROUPID_BOUBDARY
  | .addGroup _ _ _ => accounts.baseGroupId + 1 < 2147483648

instance (accounts : Accounts) (call : RegistryCall) : Decidable (accounts.RoomFor call) :=
  match call with
  | .register _ _ => inferInstanceAs (Decidable (accounts.baseUserId + 1 < GROUPID_BOUBDARY))
  | .addGroup _ _ _ => inferInstanceAs (Decidable (accounts.baseGroupId + 1 < 2147483648))

/-- The counters are ahead of the ids, and no id is the zero that stands for "not found". -/
structure Registering (accounts : Accounts) : Prop extends Counted accounts where
  nonzero : ∀ id ∈ accounts.userids, id ≠ 0

theorem names_pushBack (accounts : Accounts) (user : User) :
    (accounts.pushBack user).names = Set.insert user.username accounts.names := by
  ext name
  change _ ↔ name = user.username ∨ name ∈ accounts.names
  simp only [names, pushBack, Set.mem_ofPred_eq, List.mem_append, List.mem_singleton]
  constructor
  · rintro ⟨other, old | new, same⟩
    · exact .inr ⟨other, old, same⟩
    · rw [new] at same
      exact .inl same.symm
  · rintro (new | ⟨other, old, same⟩)
    · exact ⟨user, .inr rfl, new.symm⟩
    · exact ⟨other, .inl old, same⟩

theorem names_bump (accounts : Accounts) (request : Request) :
    (accounts.bump request).names = accounts.names := by
  unfold names
  rw [bump_allCachedUsers]

/-!
## A call
-/

/-- The lookup of `register_user` finds the names of the cache. -/
theorem cachedUserid_ne_zero_iff {accounts : Accounts} (registering : accounts.Registering)
    (username : String) :
    ((accounts.getUserInfoByUsername username).map (·.userid)).getD 0 ≠ 0 ↔
      username ∈ accounts.names := by
  unfold UserManager.getUserInfoByUsername
  cases found : accounts.allCachedUsers.find? (·.username = username) with
  | none =>
      have absent := List.find?_eq_none.mp found
      refine iff_of_false (fun zero => zero rfl) ?_
      rintro ⟨user, member, same⟩
      exact absent user member (decide_eq_true same)
  | some user =>
      have member := List.mem_of_find?_eq_some found
      have named := List.find?_some found
      refine iff_of_true ?_ ⟨user, member, of_decide_eq_true named⟩
      exact registering.nonzero user.userid (List.mem_map.mpr ⟨user, member, rfl⟩)

theorem names_added (accounts : Accounts) (request : Request) :
    (accounts.added request).names =
      Set.insert (request.entry ((accounts.bump request).base request)).username accounts.names := by
  rw [added_eq, push, names_pushBack, names_bump]

theorem Registering.added {accounts : Accounts} (registering : accounts.Registering)
    {request : Request} (room : accounts.HasRoom request) :
    (accounts.added request).Registering := by
  refine ⟨registering.toCounted.of_added room, fun id member => ?_⟩
  rw [added_userids] at member
  rcases List.mem_append.mp member with old | new
  · exact registering.nonzero id old
  · have boundary : GROUPID_BOUBDARY = 268435455 := rfl
    have nonneg := registering.user_nonneg
    have groupGe := registering.group_ge
    rw [List.mem_singleton] at new
    cases request with
    | user u =>
        have room' : accounts.baseUserId + 1 < GROUPID_BOUBDARY := room
        have next : increment accounts.baseUserId = accounts.baseUserId + 1 :=
          increment_of_lt (by omega) (by omega)
        change id = increment accounts.baseUserId at new
        omega
    | group groupname ownerid =>
        have room' : accounts.baseGroupId + 1 < 2147483648 := room
        have next : increment accounts.baseGroupId = accounts.baseGroupId + 1 :=
          increment_of_lt (by omega) room'
        change id = increment accounts.baseGroupId at new
        omega

theorem Registering.add {accounts : Accounts} (registering : accounts.Registering)
    (request : Request) (room : accounts.HasRoom request) (insert : InsertAnswer) :
    (accounts.add request insert).2.Registering := by
  by_cases succeeds : insert.succeeds
  · rw [add_succeeds succeeds]
    exact registering.added room
  · rcases (add_fails accounts request succeeds).2 with same | bumped
    · rw [same]
      exact registering
    · rw [bumped]
      refine ⟨registering.toCounted.bump room, fun id member => ?_⟩
      rw [userids, bump_allCachedUsers] at member
      exact registering.nonzero id member

/-- The call behind the lookup. -/
theorem answerUser_step {libraries : HttpLibraries} {accounts : Accounts}
    (registering : accounts.Registering) {data : List UInt8} {u : NewUser}
    (asked : askedUser libraries data = .ok (some u)) (insert : InsertAnswer) :
    RegistryStep libraries accounts.names (.register data insert)
      (.retData (answerUser accounts u insert).1) (answerUser accounts u insert).2.names := by
  unfold answerUser
  dsimp only
  by_cases known : u.username ∈ accounts.names
  · rw [if_pos ((cachedUserid_ne_zero_iff registering u.username).mpr known)]
    exact .taken asked known
  · rw [if_neg fun found => known ((cachedUserid_ne_zero_iff registering u.username).mp found)]
    unfold addUser
    by_cases succeeds : insert.succeeds
    · rw [add_succeeds succeeds]
      dsimp only [Option.isSome]
      rw [names_added]
      exact .registered asked known succeeds
    · obtain ⟨failed, after⟩ := add_fails accounts (.user u) succeeds
      rw [failed]
      dsimp only [Option.isSome]
      have same : (accounts.add (.user u) insert).2.names = accounts.names := by
        rcases after with same | bumped
        · rw [same]
        · rw [bumped, names_bump]
      rw [same]
      exact .refused asked known succeeds

theorem registerUser_eq (libraries : HttpLibraries) (accounts : Accounts) (data : List UInt8)
    (insert : InsertAnswer) :
    registerUser libraries accounts data insert =
      (askedUser libraries data).map fun asked =>
        match asked with
        | none => ([], accounts)
        | some u => answerUser accounts u insert := by
  unfold registerUser askedUser
  cases libraries.parse data with
  | threw => rfl
  | reported => rfl
  | read jsonRoot =>
      dsimp only
      cases requestedUser jsonRoot with
      | error exception => rfl
      | ok asked =>
          cases asked with
          | none => rfl
          | some u => rfl

theorem perform_step {libraries : HttpLibraries} {accounts : Accounts}
    (registering : accounts.Registering) (call : RegistryCall) :
    RegistryStep libraries accounts.names call (accounts.perform libraries call).2
      (accounts.perform libraries call).1.names := by
  cases call with
  | register data insert =>
      unfold perform
      dsimp only
      rw [registerUser_eq]
      cases asked : askedUser libraries data with
      | error exception => exact .raised asked
      | ok request =>
          cases request with
          | none => exact .unasked asked
          | some u => exact answerUser_step registering asked insert
  | addGroup groupname ownerid insert =>
      unfold perform addGroup
      dsimp only
      by_cases succeeds : insert.succeeds
      · rw [add_succeeds succeeds]
        dsimp only
        rw [names_added]
        exact .grouped succeeds
      · obtain ⟨failed, after⟩ :=
          add_fails accounts (.group groupname ownerid) succeeds
        rw [failed]
        have same : (accounts.add (.group groupname ownerid) insert).2.names = accounts.names := by
          rcases after with same | bumped
          · rw [same]
          · rw [bumped, names_bump]
        rw [same]
        exact .ungrouped succeeds

theorem perform_registering {libraries : HttpLibraries} {accounts : Accounts}
    (registering : accounts.Registering) {call : RegistryCall} (room : accounts.RoomFor call) :
    (accounts.perform libraries call).1.Registering := by
  cases call with
  | register data insert =>
      unfold perform
      dsimp only
      rw [registerUser_eq]
      cases asked : askedUser libraries data with
      | error exception => exact registering
      | ok request =>
          cases request with
          | none => exact registering
          | some u =>
              change (answerUser accounts u insert).2.Registering
              unfold answerUser
              dsimp only
              split
              · exact registering
              · have added : (accounts.addUser u insert).2.Registering :=
                  registering.add (.user u) room insert
                cases result : accounts.addUser u insert with
                | mk success after =>
                    rw [result] at added
                    cases success with
                    | true => exact added
                    | false => exact added
  | addGroup groupname ownerid insert =>
      exact registering.add (.group groupname ownerid) room insert

/-!
## Runs
-/

theorem loadUsersFromDb_registering {rows : List UserRow}
    (columns : ∀ row ∈ rows, row.userId < 2147483648 ∧ row.userId ≠ 0) :
    (rows.foldl loadRow new).Registering := by
  refine ⟨foldl_loadRow_counted new_counted fun row member => (columns row member).1, ?_⟩
  have loaded : ∀ (accounts : Accounts) (rows : List UserRow),
      (rows.foldl loadRow accounts).userids = accounts.userids ++ rows.map (·.userId) := by
    intro accounts rows
    induction rows generalizing accounts with
    | nil => exact (List.append_nil _).symm
    | cons row rest ih =>
        rw [List.foldl_cons, ih, loadRow_userids, List.append_assoc]
        rfl
  intro id member
  rw [loaded] at member
  obtain ⟨row, among, same⟩ := List.mem_map.mp member
  exact same ▸ (columns row among).2

end Accounts

/-- A taken name stays taken. -/
theorem RegistryStep.grows {libraries : HttpLibraries} {names after : Set String}
    {call : RegistryCall} {reply : RegistryReply} {name : String} (member : name ∈ names)
    (step : RegistryStep libraries names call reply after) : name ∈ after := by
  cases step with
  | registered asked fresh succeeds => exact .inr member
  | grouped succeeds => exact .inr member
  | _ => exact member

/-- The name of a registration that went through is taken afterwards. -/
theorem RegistryStep.takes {libraries : HttpLibraries} {names after : Set String}
    {data : List UInt8} {insert : InsertAnswer} {u : NewUser}
    (asked : askedUser libraries data = .ok (some u))
    (step : RegistryStep libraries names (.register data insert) (.retData registerOk) after) :
    u.username ∈ after := by
  have other : registerOk ∉ [[], registeredAlready, registerFailed] := by decide
  generalize reply : RegistryReply.retData registerOk = reply' at step
  cases step with
  | raised => cases reply
  | unasked => exact absurd (RegistryReply.retData.inj reply) fun same => other (by simp [same])
  | taken => exact absurd (RegistryReply.retData.inj reply) fun same => other (by simp [same])
  | refused => exact absurd (RegistryReply.retData.inj reply) fun same => other (by simp [same])
  | registered asked' fresh succeeds =>
      rw [asked] at asked'
      cases asked'
      exact .inl rfl

/-- Who asks for a taken name is told so. -/
theorem RegistryStep.told {libraries : HttpLibraries} {names after : Set String}
    {data : List UInt8} {insert : InsertAnswer} {u : NewUser} {reply : RegistryReply}
    (asked : askedUser libraries data = .ok (some u)) (known : u.username ∈ names)
    (step : RegistryStep libraries names (.register data insert) reply after) :
    reply = .retData registeredAlready := by
  cases step with
  | raised asked' => cases asked.symm.trans asked'
  | unasked asked' => cases asked.symm.trans asked'
  | taken asked' known' => rfl
  | refused asked' fresh fails =>
      cases asked.symm.trans asked'
      exact absurd known fresh
  | registered asked' fresh succeeds =>
      cases asked.symm.trans asked'
      exact absurd known fresh

namespace Accounts

/-- From every table that was loaded, as long as the counters have room, any run of requests
and new groups is a run of the registry with the same replies. So a name is registered once:
who asks for it later gets the answer that it was registered already. -/
theorem registrations_behave (libraries : HttpLibraries) {rows : List UserRow}
    (columns : ∀ row ∈ rows, row.userId < 2147483648 ∧ row.userId ≠ 0)
    {calls : List RegistryCall}
    (room : Guarded (fun accounts call => (perform libraries accounts call).1) RoomFor
      (new.loadUsersFromDb (some rows)).2 calls) :
    let loaded := (new.loadUsersFromDb (some rows)).2
    let answers := replies (perform libraries) loaded calls
    Behaves (RegistryStep libraries) loaded.names calls answers
        (run (fun accounts call => (perform libraries accounts call).1) loaded calls).names ∧
      ∀ (first later : Nat) (data data' : List UInt8) (insert insert' : InsertAnswer)
        (u v : NewUser), first < later →
        calls[first]? = some (RegistryCall.register data insert) →
        calls[later]? = some (RegistryCall.register data' insert') →
        askedUser libraries data = .ok (some u) → askedUser libraries data' = .ok (some v) →
        u.username = v.username → answers[first]? = some (RegistryReply.retData registerOk) →
        answers[later]? = some (RegistryReply.retData registeredAlready) := by
  intro loaded answers
  have registering : loaded.Registering := loadUsersFromDb_registering columns
  have behaves : Behaves (RegistryStep libraries) loaded.names calls answers
      (run (fun accounts call => (perform libraries accounts call).1) loaded calls).names :=
    behaves_of_simulation names
      (fun _ _ registering room => perform_registering registering room)
      (fun _ call registering _ => perform_step registering call) registering room
  refine ⟨behaves, ?_⟩
  intro first later data data' insert insert' u v before firstCall laterCall asked asked' same ok
  obtain ⟨_, reply, after, answered, _, step, rest⟩ :=
    behaves.step_at (fun _ => True) (fun _ _ => trivial) trivial firstCall
  obtain rfl : reply = .retData registerOk := Option.some.inj (answered.symm.trans ok)
  have taken : v.username ∈ after := same ▸ step.takes asked
  have place : first + 1 + (later - (first + 1)) = later := Nat.add_sub_cancel' before
  have there : (calls.drop (first + 1))[later - (first + 1)]? = some (.register data' insert') := by
    rw [List.getElem?_drop, place]
    exact laterCall
  obtain ⟨_, reply', _, answered', known, step', _⟩ :=
    rest.step_at (v.username ∈ ·) RegistryStep.grows taken there
  rw [List.getElem?_drop, place] at answered'
  rw [answered', step'.told asked' known]

private def oneUserLibraries : HttpLibraries where
  decode data := data
  parse _ :=
    .read (.objectValue [("username", .stringValue balloon.username),
      ("nickname", .stringValue balloon.nickname), ("password", .stringValue balloon.password)])

private def twoRegistrations : List RegistryCall :=
  [.register [] ⟨true, true⟩, .addGroup "balloons" 1 ⟨true, true⟩, .register [1] ⟨true, true⟩]

theorem second_registration_told :
    (replies (perform oneUserLibraries) (new.loadUsersFromDb (some [])).2 twoRegistrations)[2]? =
      some (.retData registeredAlready) :=
  ((registrations_behave oneUserLibraries) (by simp)
    (by decide : Guarded (fun accounts call => (perform oneUserLibraries accounts call).1) RoomFor
      (new.loadUsersFromDb (some [])).2 twoRegistrations)).2 0 2 [] [1]
    ⟨true, true⟩ ⟨true, true⟩ balloon balloon (by decide) rfl rfl rfl rfl rfl (by decide)

end Accounts

end Talko.Service
