import Talko.Service.Accounts

/-!
# The ids of users and groups

The counters that `loadUsersFromDb` derives are the largest ids on the two sides of
`GROUPID_BOUBDARY`, and each call of `addUser` or `addGroup` moves its counter by one. Nothing
stops a counter at the end of its side.
-/

set_option autoImplicit false

namespace Talko.Service

open Talko.Library

theorem increment_of_lt {id : Int} (low : -2147483648 ≤ id) (high : id + 1 < 2147483648) :
    increment id = id + 1 := by
  unfold increment
  apply Int.bmod_eq_of_le
  · omega
  · omega

/-- The side of the boundary on which the ids of the request belong. -/
def Request.OnItsSide (id : Int) : Request → Prop
  | .user _ => id < GROUPID_BOUBDARY
  | .group _ _ => GROUPID_BOUBDARY < id

/-- The largest id below the boundary, or zero. -/
def lastUserId (rows : List UserRow) : Int :=
  ((rows.map (·.userId)).filter (· < GROUPID_BOUBDARY)).foldl max 0

/-- The largest id above the boundary, or the boundary. -/
def lastGroupId (rows : List UserRow) : Int :=
  ((rows.map (·.userId)).filter (· > GROUPID_BOUBDARY)).foldl max GROUPID_BOUBDARY

@[simp] theorem Request.entry_userid (id : Int) (request : Request) :
    (request.entry id).userid = id := by
  cases request with
  | user u => rfl
  | group groupname ownerid => rfl

theorem Request.entry_friends (id : Int) (request : Request) : (request.entry id).friends = [] := by
  cases request with
  | user u => rfl
  | group groupname ownerid => rfl

/-- The `INSERT` goes through. -/
def InsertAnswer.succeeds (insert : InsertAnswer) : Prop :=
  insert.connects = true ∧ insert.inserts = true

namespace Accounts

/-- A call whose statements succeed. -/
def added (accounts : Accounts) (request : Request) : Accounts :=
  (accounts.add request ⟨true, true⟩).2

/-- The counter does not overflow, and the id that the call returns is on its side of the
boundary and not in use. -/
def KeepsApart (accounts : Accounts) (request : Request) : Prop :=
  accounts.base request + 1 < 2147483648 ∧
    ∀ id, (accounts.add request ⟨true, true⟩).1 = some id →
      request.OnItsSide id ∧ id ∉ accounts.userids

/-- Each counter is on its side and not below an id that is cached on that side. -/
structure Counted (accounts : Accounts) : Prop where
  user_nonneg : 0 ≤ accounts.baseUserId
  user_lt : accounts.baseUserId < GROUPID_BOUBDARY
  group_ge : GROUPID_BOUBDARY ≤ accounts.baseGroupId
  group_lt : accounts.baseGroupId < 2147483648
  users_le : ∀ id ∈ accounts.userids, id < GROUPID_BOUBDARY → id ≤ accounts.baseUserId
  groups_le : ∀ id ∈ accounts.userids, GROUPID_BOUBDARY < id → id ≤ accounts.baseGroupId

theorem new_counted : new.Counted where
  user_nonneg := by decide
  user_lt := by decide
  group_ge := by decide
  group_lt := by decide
  users_le := by simp [userids, new]
  groups_le := by simp [userids, new]

/-!
## Loading
-/

@[simp] theorem userids_pushBack (accounts : Accounts) (user : User) :
    (accounts.pushBack user).userids = accounts.userids ++ [user.userid] := by
  simp [userids, pushBack]

theorem loadRow_userids (accounts : Accounts) (row : UserRow) :
    (accounts.loadRow row).userids = accounts.userids ++ [row.userId] :=
  userids_pushBack accounts row.toUser

theorem Counted.loadRow {accounts : Accounts} (counted : accounts.Counted) (row : UserRow)
    (column : row.userId < 2147483648) : (accounts.loadRow row).Counted := by
  have := counted.user_nonneg
  have := counted.user_lt
  have := counted.group_ge
  have := counted.group_lt
  refine ⟨?_, ?_, ?_, ?_, ?_, ?_⟩
  · simp only [Accounts.loadRow]
    split <;> omega
  · simp only [Accounts.loadRow]
    split <;> omega
  · simp only [Accounts.loadRow]
    split <;> omega
  · simp only [Accounts.loadRow]
    split <;> omega
  · rw [loadRow_userids]
    intro id member below
    simp only [Accounts.loadRow]
    rcases List.mem_append.mp member with old | new
    · have := counted.users_le id old below
      split <;> omega
    · have same := List.mem_singleton.mp new
      split <;> omega
  · rw [loadRow_userids]
    intro id member above
    simp only [Accounts.loadRow]
    rcases List.mem_append.mp member with old | new
    · have := counted.groups_le id old above
      split <;> omega
    · have same := List.mem_singleton.mp new
      split <;> omega

theorem foldl_loadRow_counted {accounts : Accounts} (counted : accounts.Counted)
    {rows : List UserRow} (columns : ∀ row ∈ rows, row.userId < 2147483648) :
    (rows.foldl loadRow accounts).Counted := by
  induction rows generalizing accounts with
  | nil => exact counted
  | cons row rest ih =>
      obtain ⟨column, later⟩ := List.forall_mem_cons.mp columns
      exact ih (counted.loadRow row column) later

private theorem raised_eq_max (side : Prop) [Decidable side] (counter id : Int) :
    (if side ∧ id > counter then id else counter) = if side then max counter id else counter := by
  by_cases inside : side
  · simp only [inside, true_and, if_true]
    split <;> omega
  · simp [inside]

/-- A counter that each row on its side raises ends at the greatest id of that side. -/
theorem foldl_loadRow_counter {counter : Accounts → Int} {side : Int → Prop} [DecidablePred side]
    (raises : ∀ accounts row, counter (loadRow accounts row) =
      if side row.userId then max (counter accounts) row.userId else counter accounts)
    (accounts : Accounts) (rows : List UserRow) :
    counter (rows.foldl loadRow accounts) =
      ((rows.map (·.userId)).filter (side ·)).foldl max (counter accounts) := by
  induction rows generalizing accounts with
  | nil => rfl
  | cons row rest ih =>
      rw [List.foldl_cons, ih, List.map_cons, List.filter_cons, raises]
      simp only [decide_eq_true_eq]
      split
      · rfl
      · rfl

theorem foldl_loadRow_baseUserId (accounts : Accounts) (rows : List UserRow) :
    (rows.foldl loadRow accounts).baseUserId =
      ((rows.map (·.userId)).filter (· < GROUPID_BOUBDARY)).foldl max accounts.baseUserId :=
  foldl_loadRow_counter (fun accounts row =>
    raised_eq_max (row.userId < GROUPID_BOUBDARY) accounts.baseUserId row.userId) accounts rows

theorem foldl_loadRow_baseGroupId (accounts : Accounts) (rows : List UserRow) :
    (rows.foldl loadRow accounts).baseGroupId =
      ((rows.map (·.userId)).filter (· > GROUPID_BOUBDARY)).foldl max accounts.baseGroupId :=
  foldl_loadRow_counter (fun accounts row =>
    raised_eq_max (row.userId > GROUPID_BOUBDARY) accounts.baseGroupId row.userId) accounts rows

/-!
## Adding
-/

theorem added_eq (accounts : Accounts) (request : Request) :
    accounts.added request = (accounts.bump request).push request := rfl

theorem base_bump (accounts : Accounts) (request : Request) :
    (accounts.bump request).base request = increment (accounts.base request) := by
  cases request with
  | user u => rfl
  | group groupname ownerid => rfl

theorem bump_allCachedUsers (accounts : Accounts) (request : Request) :
    (accounts.bump request).allCachedUsers = accounts.allCachedUsers := by
  cases request with
  | user u => rfl
  | group groupname ownerid => rfl

theorem keepsApart_iff (accounts : Accounts) (request : Request) :
    accounts.KeepsApart request ↔
      accounts.base request + 1 < 2147483648 ∧
        request.OnItsSide (increment (accounts.base request)) ∧
        increment (accounts.base request) ∉ accounts.userids := by
  simp [KeepsApart, add, base_bump]

/-- The room that is left for the ids of the request. -/
def HasRoom (accounts : Accounts) : Request → Prop
  | .user _ => accounts.baseUserId + 1 < GROUPID_BOUBDARY
  | .group _ _ => accounts.baseGroupId + 1 < 2147483648

theorem Counted.keepsApart_iff_hasRoom {accounts : Accounts} (counted : accounts.Counted)
    (request : Request) : accounts.KeepsApart request ↔ accounts.HasRoom request := by
  rw [keepsApart_iff]
  have boundary : GROUPID_BOUBDARY = 268435455 := rfl
  have nonneg := counted.user_nonneg
  have user := counted.user_lt
  have group := counted.group_ge
  cases request with
  | user u =>
      have next : increment accounts.baseUserId = accounts.baseUserId + 1 :=
        increment_of_lt (by omega) (by omega)
      simp only [base, Request.OnItsSide, HasRoom, next]
      constructor
      · intro apart
        exact apart.2.1
      · intro room
        refine ⟨by omega, room, ?_⟩
        intro used
        have := counted.users_le _ used room
        omega
  | group groupname ownerid =>
      simp only [base, Request.OnItsSide, HasRoom]
      constructor
      · intro apart
        exact apart.1
      · intro room
        rw [increment_of_lt (by omega) room]
        refine ⟨room, by omega, ?_⟩
        intro used
        have := counted.groups_le _ used (by omega)
        omega

theorem added_userids (accounts : Accounts) (request : Request) :
    (accounts.added request).userids =
      accounts.userids ++ [increment (accounts.base request)] := by
  rw [added_eq, push, userids_pushBack, Request.entry_userid, base_bump, userids, userids,
    bump_allCachedUsers]

/-- The counters after a call that has room. -/
structure Moved (accounts after : Accounts) (users groups : Int) : Prop where
  counted : after.Counted
  user : after.baseUserId = accounts.baseUserId + users
  group : after.baseGroupId = accounts.baseGroupId + groups

theorem Counted.added_user {accounts : Accounts} (counted : accounts.Counted) {u : NewUser}
    (room : accounts.HasRoom (.user u)) : accounts.Moved (accounts.added (.user u)) 1 0 := by
  have boundary : GROUPID_BOUBDARY = 268435455 := rfl
  have nonneg := counted.user_nonneg
  have fits := counted.user_lt
  have next : increment accounts.baseUserId = accounts.baseUserId + 1 :=
    increment_of_lt (by omega) (by omega)
  have user : (accounts.added (.user u)).baseUserId = accounts.baseUserId + 1 := next
  have group : (accounts.added (.user u)).baseGroupId = accounts.baseGroupId := rfl
  have ids : (accounts.added (.user u)).userids =
      accounts.userids ++ [accounts.baseUserId + 1] := by
    rw [added_userids, base, next]
  refine ⟨⟨?_, ?_, ?_, ?_, ?_, ?_⟩, user, by rw [group, Int.add_zero]⟩
  · omega
  · rw [user]
    exact room
  · rw [group]
    exact counted.group_ge
  · rw [group]
    exact counted.group_lt
  · rw [ids, user]
    intro id member below
    rcases List.mem_append.mp member with old | new
    · have := counted.users_le id old below
      omega
    · exact Int.le_of_eq (List.mem_singleton.mp new)
  · rw [ids, group]
    intro id member above
    rcases List.mem_append.mp member with old | new
    · exact counted.groups_le id old above
    · have := List.mem_singleton.mp new
      omega

theorem Counted.added_group {accounts : Accounts} (counted : accounts.Counted)
    {groupname : String} {ownerid : Int} (room : accounts.HasRoom (.group groupname ownerid)) :
    accounts.Moved (accounts.added (.group groupname ownerid)) 0 1 := by
  have boundary : GROUPID_BOUBDARY = 268435455 := rfl
  have fits := counted.group_ge
  have next : increment accounts.baseGroupId = accounts.baseGroupId + 1 :=
    increment_of_lt (by omega) room
  have group : (accounts.added (.group groupname ownerid)).baseGroupId =
      accounts.baseGroupId + 1 := next
  have user : (accounts.added (.group groupname ownerid)).baseUserId = accounts.baseUserId := rfl
  have ids : (accounts.added (.group groupname ownerid)).userids =
      accounts.userids ++ [accounts.baseGroupId + 1] := by
    rw [added_userids, base, next]
  refine ⟨⟨?_, ?_, ?_, ?_, ?_, ?_⟩, by rw [user, Int.add_zero], group⟩
  · rw [user]
    exact counted.user_nonneg
  · rw [user]
    exact counted.user_lt
  · omega
  · rw [group]
    exact room
  · rw [ids, user]
    intro id member below
    rcases List.mem_append.mp member with old | new
    · exact counted.users_le id old below
    · have := List.mem_singleton.mp new
      omega
  · rw [ids, group]
    intro id member above
    rcases List.mem_append.mp member with old | new
    · have := counted.groups_le id old above
      omega
    · exact Int.le_of_eq (List.mem_singleton.mp new)

theorem add_succeeds {accounts : Accounts} {request : Request} {insert : InsertAnswer}
    (succeeds : insert.succeeds) :
    accounts.add request insert =
      (some ((accounts.bump request).base request), accounts.added request) := by
  unfold add
  rw [if_pos succeeds.1]
  exact if_pos succeeds.2

/-- A call that fails leaves the cache alone; it may have moved the counter. -/
theorem add_fails (accounts : Accounts) (request : Request) {insert : InsertAnswer}
    (fails : ¬ insert.succeeds) :
    (accounts.add request insert).1 = none ∧
      ((accounts.add request insert).2 = accounts ∨
        (accounts.add request insert).2 = accounts.bump request) := by
  unfold add
  split
  · next connects =>
      have unserted : ¬ insert.inserts = true := fun inserts => fails ⟨connects, inserts⟩
      dsimp only
      rw [if_neg unserted]
      exact ⟨rfl, .inr rfl⟩
  · exact ⟨rfl, .inl rfl⟩

/-- A counter that moves without an entry stays ahead of the ids. -/
theorem Counted.bump {accounts : Accounts} (counted : accounts.Counted) {request : Request}
    (room : accounts.HasRoom request) : (accounts.bump request).Counted := by
  have boundary : GROUPID_BOUBDARY = 268435455 := rfl
  have userNonneg := counted.user_nonneg
  have userLt := counted.user_lt
  have groupGe := counted.group_ge
  cases request with
  | user u =>
      have room' : accounts.baseUserId + 1 < GROUPID_BOUBDARY := room
      have next : (accounts.bump (.user u)).baseUserId = accounts.baseUserId + 1 :=
        increment_of_lt (by omega) (by omega)
      refine ⟨?_, ?_, groupGe, counted.group_lt, fun id member below => ?_, counted.groups_le⟩
      · rw [next]
        omega
      · rw [next]
        exact room'
      · rw [next]
        have old := counted.users_le id member below
        omega
  | group groupname ownerid =>
      have room' : accounts.baseGroupId + 1 < 2147483648 := room
      have next : (accounts.bump (.group groupname ownerid)).baseGroupId =
          accounts.baseGroupId + 1 := increment_of_lt (by omega) room'
      refine ⟨userNonneg, userLt, ?_, ?_, counted.users_le, fun id member above => ?_⟩
      · rw [next]
        omega
      · rw [next]
        exact room'
      · rw [next]
        have old := counted.groups_le id member above
        omega

theorem Counted.of_added {accounts : Accounts} (counted : accounts.Counted) {request : Request}
    (room : accounts.HasRoom request) : (accounts.added request).Counted := by
  cases request with
  | user u => exact (counted.added_user room).counted
  | group groupname ownerid => exact (counted.added_group room).counted

/-- The counters stay ahead, however the call is answered. -/
theorem Counted.of_add {accounts : Accounts} (counted : accounts.Counted) {request : Request}
    (room : accounts.HasRoom request) (insert : InsertAnswer) :
    (accounts.add request insert).2.Counted := by
  by_cases succeeds : insert.succeeds
  · rw [add_succeeds succeeds]
    exact counted.of_added room
  · rcases (add_fails accounts request succeeds).2 with same | bumped
    · rw [same]
      exact counted
    · rw [bumped]
      exact counted.bump room

theorem Counted.guarded_iff {accounts : Accounts} (counted : accounts.Counted)
    (requests : List Request) :
    Guarded added KeepsApart accounts requests ↔
      accounts.baseUserId + requests.countP (·.isUser) < GROUPID_BOUBDARY ∧
        accounts.baseGroupId + requests.countP (!·.isUser) < 2147483648 := by
  induction requests generalizing accounts with
  | nil => simp [counted.user_lt, counted.group_lt]
  | cons request rest ih =>
      rw [guarded_cons, counted.keepsApart_iff_hasRoom]
      cases request with
      | user u =>
          have users : (Request.user u :: rest).countP (·.isUser) = rest.countP (·.isUser) + 1 :=
            List.countP_cons_of_pos rfl
          have groups : (Request.user u :: rest).countP (!·.isUser) = rest.countP (!·.isUser) :=
            List.countP_cons_of_neg Bool.false_ne_true
          rw [users, groups]
          constructor
          · rintro ⟨room, later⟩
            have moved := counted.added_user room
            have fits := (ih moved.counted).mp later
            rw [moved.user, moved.group] at fits
            omega
          · intro fits
            have room : accounts.HasRoom (.user u) := by
              simp only [HasRoom]
              omega
            have moved := counted.added_user room
            refine ⟨room, (ih moved.counted).mpr ?_⟩
            rw [moved.user, moved.group]
            omega
      | group groupname ownerid =>
          have users : (Request.group groupname ownerid :: rest).countP (·.isUser) =
              rest.countP (·.isUser) :=
            List.countP_cons_of_neg Bool.false_ne_true
          have groups : (Request.group groupname ownerid :: rest).countP (!·.isUser) =
              rest.countP (!·.isUser) + 1 :=
            List.countP_cons_of_pos rfl
          rw [users, groups]
          constructor
          · rintro ⟨room, later⟩
            have moved := counted.added_group room
            have fits := (ih moved.counted).mp later
            rw [moved.user, moved.group] at fits
            omega
          · intro fits
            have room : accounts.HasRoom (.group groupname ownerid) := by
              simp only [HasRoom]
              omega
            have moved := counted.added_group room
            refine ⟨room, (ih moved.counted).mpr ?_⟩
            rw [moved.user, moved.group]
            omega

/-- After the table is loaded, every call keeps users and groups apart exactly when both
sides have room for all the calls. -/
theorem ids_stay_apart_iff {rows : List UserRow}
    (columns : ∀ row ∈ rows, row.userId < 2147483648) (requests : List Request) :
    Guarded added KeepsApart (new.loadUsersFromDb (some rows)).2 requests ↔
      lastUserId rows + requests.countP (·.isUser) < GROUPID_BOUBDARY ∧
        lastGroupId rows + requests.countP (!·.isUser) < 2147483648 := by
  have counted := foldl_loadRow_counted new_counted columns
  have user := foldl_loadRow_baseUserId new rows
  have group := foldl_loadRow_baseGroupId new rows
  change Guarded added KeepsApart (rows.foldl loadRow new) requests ↔ _
  rw [counted.guarded_iff, user, group]
  rfl

private def lastBelowBoundary : UserRow :=
  ⟨0x0FFFFFFE, kite.username, kite.nickname, kite.password, 0, "", 0, 19900101, "", "", "", "", ""⟩

/-- A table that holds the last user id: the next user gets the boundary itself. -/
theorem last_user_id_overruns :
    ¬ Guarded added KeepsApart (new.loadUsersFromDb (some [lastBelowBoundary])).2
      [.user balloon] := by
  intro apart
  obtain ⟨⟨-, returned⟩, -⟩ := apart
  have side : (0x0FFFFFFF : Int) < GROUPID_BOUBDARY := (returned 0x0FFFFFFF rfl).1
  exact absurd side (by decide)

theorem empty_table_keeps_apart :
    Guarded added KeepsApart (new.loadUsersFromDb (some [])).2
      [.user balloon, .group "balloons" 1] :=
  (ids_stay_apart_iff (by simp) _).mpr (by decide)

end Accounts

end Talko.Service
