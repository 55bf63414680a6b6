import Talko.Library.KeyedList
import Talko.Service.AccountsProperties
import Talko.Service.UserUpdatesProperties

/-!
# Accounts and their table

What a restart makes of the accounts that were added and updated one call after the other, where
calls may fail at any of their statements. `loadUsersFromDb` reads the rows in the order of the
query, and derives the counters from the ids it finds: the ids of calls whose `INSERT` failed may
be given again, those of rows are not.
-/

set_option autoImplicit false

namespace Talko.Service

open Talko.Library

/-- The id and the texts that a user and its row have in common. -/
def User.account (user : User) : Int × NewUser :=
  (user.userid, ⟨user.username, user.nickname, user.password⟩)

def UserRow.account (row : UserRow) : Int × NewUser :=
  (row.userId, ⟨row.username, row.nickname, row.password⟩)

/-- The row that an `INSERT` makes, with what the table has as the default of its other
columns. -/
def AccountRow.stored (row : AccountRow) (defaults : UserRow) : UserRow :=
  { defaults with
    userId := row.userId
    username := row.username
    nickname := row.nickname
    password := row.password }

/-- What an update makes of them. -/
def Update.setAccount (account : Int × NewUser) : Update → Int × NewUser
  | .info new => (account.1, { account.2 with nickname := new.nickname })
  | .password newpassword => (account.1, { account.2 with password := newpassword })
  | .teaminfo _ => account

/-- A call with its answers: of the connection and the `INSERT`, or whether the `UPDATE` is
executed. -/
inductive AccountStep where
  | add (request : Request) (insert : InsertAnswer)
  | update (call : UpdateCall) (executes : Bool)
  deriving DecidableEq, Repr

/-- The manager and the rows of `t_user`. -/
structure StoredAccounts where
  accounts : Accounts
  table : List UserRow
  deriving DecidableEq, Repr

/-- The accounts with another list of users. -/
def Accounts.withUsers (accounts : Accounts) (users : List User) : Accounts :=
  { accounts with allCachedUsers := users }

namespace StoredAccounts

/-- The state after a start on this table. -/
def loaded (rows : List UserRow) : StoredAccounts where
  accounts := (Accounts.new.loadUsersFromDb (some rows)).2
  table := rows

def add (defaults : UserRow) (s : StoredAccounts) (request : Request) (insert : InsertAnswer) :
    StoredAccounts where
  accounts := (s.accounts.add request insert).2
  table :=
    if insert.connects && insert.inserts then
      s.table ++ [(request.row ((s.accounts.bump request).base request)).stored defaults]
    else s.table

/-- `modifyUserPassword` and its relatives, which leave everything alone when the `UPDATE`
fails. -/
def update (s : StoredAccounts) (call : UpdateCall) (executes : Bool) : StoredAccounts :=
  if executes then
    { accounts := s.accounts.withUsers (call.updateCached s.accounts.allCachedUsers).2
      table := call.execute s.table }
  else s

def step (defaults : UserRow) (s : StoredAccounts) : AccountStep → StoredAccounts
  | .add request insert => s.add defaults request insert
  | .update call executes => s.update call executes

/-- The counter of the call is not at the end of its side. -/
def HasRoom (s : StoredAccounts) : AccountStep → Prop
  | .add request _ => s.accounts.HasRoom request
  | .update _ _ => True

instance (s : StoredAccounts) (action : AccountStep) : Decidable (s.HasRoom action) :=
  match action with
  | .add (.user _) _ =>
      inferInstanceAs (Decidable (s.accounts.baseUserId + 1 < GROUPID_BOUBDARY))
  | .add (.group _ _) _ =>
      inferInstanceAs (Decidable (s.accounts.baseGroupId + 1 < 2147483648))
  | .update _ _ => isTrue trivial

/-- The cache has an entry for each row, no id twice, and counters ahead of the ids. -/
structure Mirrors (s : StoredAccounts) : Prop where
  rows : s.accounts.allCachedUsers.map User.account = s.table.map UserRow.account
  distinct : s.accounts.userids.Nodup
  counted : s.accounts.Counted
  columns : ∀ row ∈ s.table, row.userId < 2147483648

/-!
## Adding
-/

theorem account_entry (request : Request) (id : Int) (defaults : UserRow) :
    (request.entry id).account = ((request.row id).stored defaults).account := by
  cases request with
  | user u => rfl
  | group groupname ownerid => rfl

theorem Mirrors.increment_lt {s : StoredAccounts} (mirrors : s.Mirrors) {request : Request}
    (room : s.accounts.HasRoom request) : increment (s.accounts.base request) < 2147483648 := by
  have boundary : GROUPID_BOUBDARY = 268435455 := rfl
  have nonneg := mirrors.counted.user_nonneg
  have group := mirrors.counted.group_ge
  cases request with
  | user u =>
      have below : s.accounts.baseUserId + 1 < GROUPID_BOUBDARY := room
      have next : increment s.accounts.baseUserId = s.accounts.baseUserId + 1 :=
        increment_of_lt (by omega) (by omega)
      change increment s.accounts.baseUserId < 2147483648
      omega
  | group groupname ownerid =>
      have below : s.accounts.baseGroupId + 1 < 2147483648 := room
      have next : increment s.accounts.baseGroupId = s.accounts.baseGroupId + 1 :=
        increment_of_lt (by omega) below
      change increment s.accounts.baseGroupId < 2147483648
      omega

theorem Mirrors.add {s : StoredAccounts} (mirrors : s.Mirrors) (defaults : UserRow)
    {request : Request} (room : s.accounts.HasRoom request) (insert : InsertAnswer) :
    (s.add defaults request insert).Mirrors := by
  have counted : (s.add defaults request insert).accounts.Counted :=
    mirrors.counted.of_add room insert
  by_cases succeeds : insert.succeeds
  · have added : (s.accounts.add request insert).2 = s.accounts.added request := by
      rw [Accounts.add_succeeds succeeds]
    have base := Accounts.base_bump s.accounts request
    obtain ⟨-, -, unused⟩ := (Accounts.keepsApart_iff s.accounts request).mp
      ((mirrors.counted.keepsApart_iff_hasRoom request).mpr room)
    have table : (s.add defaults request insert).table =
        s.table ++ [(request.row (increment (s.accounts.base request))).stored defaults] := by
      rw [StoredAccounts.add, succeeds.1, succeeds.2, base]
      rfl
    refine ⟨?_, ?_, counted, ?_⟩
    · rw [table]
      change (s.accounts.add request insert).2.allCachedUsers.map User.account = _
      rw [added, Accounts.added_eq, Accounts.push, Accounts.pushBack,
        Accounts.bump_allCachedUsers, base, List.map_append, List.map_append, mirrors.rows]
      rw [List.map_singleton, List.map_singleton, account_entry request _ defaults]
    · change (s.accounts.add request insert).2.userids.Nodup
      rw [added, Accounts.added_userids]
      exact nodup_concat_of_not_mem mirrors.distinct unused
    · rw [table]
      intro row member
      rcases List.mem_append.mp member with old | new
      · exact mirrors.columns row old
      · rw [List.mem_singleton.mp new]
        have id : ((request.row (increment (s.accounts.base request))).stored defaults).userId =
            increment (s.accounts.base request) := by
          cases request with
          | user u => rfl
          | group groupname ownerid => rfl
        rw [id]
        exact mirrors.increment_lt room
  · have users : (s.accounts.add request insert).2.allCachedUsers = s.accounts.allCachedUsers := by
      rcases (Accounts.add_fails s.accounts request succeeds).2 with same | bumped
      · rw [same]
      · rw [bumped, Accounts.bump_allCachedUsers]
    have table : (s.add defaults request insert).table = s.table := by
      rw [StoredAccounts.add]
      refine if_neg fun both => succeeds ?_
      exact Bool.and_eq_true_iff.mp both
    refine ⟨?_, ?_, counted, ?_⟩
    · rw [table, ← mirrors.rows]
      exact congrArg _ users
    · change ((s.accounts.add request insert).2.allCachedUsers.map _).Nodup
      rw [users]
      exact mirrors.distinct
    · rw [table]
      exact mirrors.columns

/-!
## Updating
-/

theorem account_update (user : User) (call : UpdateCall) :
    (user.update call).account =
      if user.account.1 = call.userid then call.update.setAccount user.account
      else user.account := by
  unfold User.update
  change _ = if user.userid = call.userid then _ else _
  split
  · cases call.update with
    | info new => rfl
    | password newpassword => rfl
    | teaminfo newteaminfo => rfl
  · rfl

theorem account_execute (row : UserRow) (call : UpdateCall) :
    (if row.userId = call.userid then call.update.setRow row else row).account =
      if row.account.1 = call.userid then call.update.setAccount row.account
      else row.account := by
  change _ = if row.userId = call.userid then _ else _
  split
  · cases call.update with
    | info new => rfl
    | password newpassword => rfl
    | teaminfo newteaminfo => rfl
  · rfl

/-- The loop over the cached users and the `UPDATE` reach the same ids. -/
theorem Mirrors.update {s : StoredAccounts} (mirrors : s.Mirrors) (call : UpdateCall)
    (executes : Bool) : (s.update call executes).Mirrors := by
  unfold StoredAccounts.update
  split
  · have users := UserStore.updateCached_snd call mirrors.distinct
    have ids : (s.accounts.withUsers (call.updateCached s.accounts.allCachedUsers).2).userids =
        s.accounts.userids := by
      change (call.updateCached s.accounts.allCachedUsers).2.map (·.userid) = _
      rw [users, List.map_map]
      exact List.map_congr_left fun user _ => user.update_userid call
    refine ⟨?_, ?_, ?_, ?_⟩
    · change (call.updateCached s.accounts.allCachedUsers).2.map User.account =
        (call.execute s.table).map UserRow.account
      rw [users, UpdateCall.execute, List.map_map, List.map_map]
      let edit : Int × NewUser → Int × NewUser := fun account =>
        if account.1 = call.userid then call.update.setAccount account else account
      calc s.accounts.allCachedUsers.map (User.account ∘ (·.update call))
          = (s.accounts.allCachedUsers.map User.account).map edit := by
            rw [List.map_map]
            exact List.map_congr_left fun user _ => account_update user call
        _ = (s.table.map UserRow.account).map edit := by rw [mirrors.rows]
        _ = _ := by
            rw [List.map_map]
            exact List.map_congr_left fun row _ => (account_execute row call).symm
    · rw [ids]
      exact mirrors.distinct
    · have counted := mirrors.counted
      refine ⟨counted.user_nonneg, counted.user_lt, counted.group_ge, counted.group_lt, ?_, ?_⟩
      · rw [ids]
        exact counted.users_le
      · rw [ids]
        exact counted.groups_le
    · intro row member
      obtain ⟨old, among, rfl⟩ := List.mem_map.mp member
      split
      · rw [Update.setRow_userId]
        exact mirrors.columns old among
      · exact mirrors.columns old among
  · exact mirrors

theorem Mirrors.step {s : StoredAccounts} (mirrors : s.Mirrors) (defaults : UserRow)
    {action : AccountStep} (room : s.HasRoom action) : (s.step defaults action).Mirrors := by
  cases action with
  | add request insert => exact mirrors.add defaults room insert
  | update call executes => exact mirrors.update call executes

/-!
## Loading
-/

theorem foldl_loadRow_users (accounts : Accounts) (rows : List UserRow) :
    (rows.foldl Accounts.loadRow accounts).allCachedUsers =
      accounts.allCachedUsers ++ rows.map UserRow.toUser := by
  induction rows generalizing accounts with
  | nil => exact (List.append_nil _).symm
  | cons row rest ih =>
      rw [List.foldl_cons, ih]
      exact List.append_assoc _ _ _

theorem loaded_accounts (rows : List UserRow) :
    (loaded rows).accounts.allCachedUsers.map User.account = rows.map UserRow.account := by
  change (rows.foldl Accounts.loadRow Accounts.new).allCachedUsers.map User.account = _
  rw [foldl_loadRow_users]
  exact List.map_map

theorem loaded_userids (rows : List UserRow) :
    (loaded rows).accounts.userids = rows.map (·.userId) := by
  change (rows.foldl Accounts.loadRow Accounts.new).allCachedUsers.map (·.userid) = _
  rw [foldl_loadRow_users]
  exact List.map_map

theorem loaded_mirrors {rows : List UserRow} (columns : ∀ row ∈ rows, row.userId < 2147483648)
    (distinct : (rows.map (·.userId)).Nodup) : (loaded rows).Mirrors where
  rows := loaded_accounts rows
  distinct := (loaded_userids rows).symm ▸ distinct
  counted := Accounts.foldl_loadRow_counted Accounts.new_counted columns
  columns := columns

/-- The counters that are derived do not go beyond a bound of the ids on their side. -/
theorem foldl_loadRow_le {rows : List UserRow} {users groups : Int}
    (below : ∀ row ∈ rows, row.userId < GROUPID_BOUBDARY → row.userId ≤ users)
    (above : ∀ row ∈ rows, GROUPID_BOUBDARY < row.userId → row.userId ≤ groups)
    {accounts : Accounts} (user : accounts.baseUserId ≤ users)
    (group : accounts.baseGroupId ≤ groups) :
    (rows.foldl Accounts.loadRow accounts).baseUserId ≤ users ∧
      (rows.foldl Accounts.loadRow accounts).baseGroupId ≤ groups := by
  induction rows generalizing accounts with
  | nil => exact ⟨user, group⟩
  | cons row rest ih =>
      obtain ⟨rowBelow, restBelow⟩ := List.forall_mem_cons.mp below
      obtain ⟨rowAbove, restAbove⟩ := List.forall_mem_cons.mp above
      refine ih restBelow restAbove ?_ ?_
      · simp only [Accounts.loadRow]
        split
        · next raised => exact rowBelow raised.1
        · exact user
      · simp only [Accounts.loadRow]
        split
        · next raised => exact rowAbove raised.1
        · exact group

theorem Mirrors.userids {s : StoredAccounts} (mirrors : s.Mirrors) :
    s.accounts.userids = s.table.map (·.userId) := by
  have ids := congrArg (List.map Prod.fst) mirrors.rows
  rw [List.map_map, List.map_map] at ids
  exact ids

/-- A restart behind any run of additions and updates, each of which may fail at any of its
statements, as long as the counters have room. In whatever order the rows are read, the accounts
that are cached then are those that were cached before, each counter is at most what it was, and
the next id that it gives is that of no account. -/
theorem restart_keeps_accounts (defaults : UserRow) {rows : List UserRow}
    (columns : ∀ row ∈ rows, row.userId < 2147483648) (distinct : (rows.map (·.userId)).Nodup)
    {actions : List AccountStep}
    (room : Guarded (step defaults) HasRoom (loaded rows) actions) {read : List UserRow}
    (order : read.Perm (run (step defaults) (loaded rows) actions).table) :
    let before := (run (step defaults) (loaded rows) actions).accounts
    let restarted := (loaded read).accounts
    (restarted.allCachedUsers.map User.account).Perm (before.allCachedUsers.map User.account) ∧
      (restarted.baseUserId ≤ before.baseUserId ∧
        restarted.baseGroupId ≤ before.baseGroupId) ∧
      ∀ request, restarted.HasRoom request →
        increment (restarted.base request) ∉ before.userids := by
  intro before restarted
  have mirrors : (run (step defaults) (loaded rows) actions).Mirrors :=
    run_invariant Mirrors (fun _ _ mirrors room => mirrors.step defaults room)
      (loaded_mirrors columns distinct) room
  have readColumns : ∀ row ∈ read, row.userId < 2147483648 :=
    fun row member => mirrors.columns row (order.mem_iff.mp member)
  have ids : ∀ row ∈ read, row.userId ∈ before.userids := by
    intro row member
    rw [mirrors.userids]
    exact List.mem_map.mpr ⟨row, order.mem_iff.mp member, rfl⟩
  refine ⟨?_, ?_, ?_⟩
  · rw [loaded_accounts read, mirrors.rows]
    exact order.map UserRow.account
  · refine foldl_loadRow_le ?_ ?_ mirrors.counted.user_nonneg mirrors.counted.group_ge
    · intro row member
      exact mirrors.counted.users_le _ (ids row member)
    · intro row member
      exact mirrors.counted.groups_le _ (ids row member)
  · intro request space used
    have counted : restarted.Counted :=
      Accounts.foldl_loadRow_counted Accounts.new_counted readColumns
    obtain ⟨-, -, unused⟩ := (Accounts.keepsApart_iff restarted request).mp
      ((counted.keepsApart_iff_hasRoom request).mpr space)
    refine unused ?_
    rw [loaded_userids read]
    rw [mirrors.userids] at used
    exact (order.map (·.userId)).mem_iff.mpr used

private def emptyRow : UserRow :=
  ⟨0, "", "", "", 0, "", 0, 19900101, "", "", "", "", ""⟩

private def threeCalls : List AccountStep :=
  [.add (.user balloon) ⟨true, true⟩,
    .add (.user kite) ⟨true, false⟩,
    .update ⟨1, .password "789"⟩ true]

/-- The second user's `INSERT` fails, and the restart is to give its id again. -/
theorem failed_id_given_again :
    (loaded (run (step emptyRow) (loaded []) threeCalls).table.reverse).accounts.baseUserId = 1 ∧
      increment 1 ∉ (run (step emptyRow) (loaded []) threeCalls).accounts.userids := by
  have room : Guarded (step emptyRow) HasRoom (loaded []) threeCalls := by decide
  refine ⟨by decide, ?_⟩
  exact (restart_keeps_accounts emptyRow (by simp) (by simp) room (List.reverse_perm _)).2.2
    (.user kite) (by unfold Accounts.HasRoom; decide)

end StoredAccounts

end Talko.Service
