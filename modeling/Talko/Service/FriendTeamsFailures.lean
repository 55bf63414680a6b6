import Talko.Service.FriendTeams

/-!
# Team edits that stop half-way

`deleteTeam` and `modifyTeamName` send two `UPDATE`s and then edit the cache, with no transaction
around them. What a call reports is the whole of what it did unless it stops between two of the
three after an edit that changed something.
-/

set_option autoImplicit false

namespace Talko.Service

open Talko.Library

inductive TeamEdit where
  | deleteTeam (userid : Int) (deletedteamname : String)
  | modifyTeamName (userid : Int) (newteamname oldteamname : String)
  deriving DecidableEq, Repr

namespace TeamEdit

def userid : TeamEdit → Int
  | .deleteTeam userid _ => userid
  | .modifyTeamName userid _ _ => userid

def newteamname : TeamEdit → String
  | .deleteTeam _ _ => defaultTeamname
  | .modifyTeamName _ newteamname _ => newteamname

def oldteamname : TeamEdit → String
  | .deleteTeam _ deletedteamname => deletedteamname
  | .modifyTeamName _ _ oldteamname => oldteamname

/-- Only `deleteTeam` fails for a user who is not cached. -/
def needsCached : TeamEdit → Bool
  | .deleteTeam _ _ => true
  | .modifyTeamName _ _ _ => false

/-- The row with the old team name replaced in the columns of the user. -/
def renameRow (edit : TeamEdit) (row : Relationship) : Relationship :=
  (row.renameTeam1 edit.userid edit.newteamname edit.oldteamname).renameTeam2
    edit.userid edit.newteamname edit.oldteamname

/-- The cached user with the old team name replaced, if it is the one of the edit. -/
def renameUser (edit : TeamEdit) (user : User) : User :=
  if user.userid = edit.userid then user.renameTeam edit.newteamname edit.oldteamname else user

end TeamEdit

namespace Relationship

/-- The row keeps the friend of its first user in the team. -/
def inTeam1 (row : Relationship) (userid : Int) (teamname : String) : Prop :=
  row.userId1 = userid ∧ row.user1Teamname = teamname

def inTeam2 (row : Relationship) (userid : Int) (teamname : String) : Prop :=
  row.userId2 = userid ∧ row.user2Teamname = teamname

variable {new old : String}

theorem renameTeam1_self (userid : Int) (teamname : String) (row : Relationship) :
    row.renameTeam1 userid teamname teamname = row := by
  unfold renameTeam1
  split
  · next inside => rw [← inside.2]
  · rfl

theorem renameTeam2_self (userid : Int) (teamname : String) (row : Relationship) :
    row.renameTeam2 userid teamname teamname = row := by
  unfold renameTeam2
  split
  · next inside => rw [← inside.2]
  · rfl

theorem renameTeam1_eq_self_iff (renames : new ≠ old) (userid : Int) (row : Relationship) :
    row.renameTeam1 userid new old = row ↔ ¬ row.inTeam1 userid old := by
  apply ite_eq_self_iff
  intro inside same
  have column : new = row.user1Teamname := congrArg user1Teamname same
  exact renames (column.trans inside.2)

theorem renameTeam2_eq_self_iff (renames : new ≠ old) (userid : Int) (row : Relationship) :
    row.renameTeam2 userid new old = row ↔ ¬ row.inTeam2 userid old := by
  apply ite_eq_self_iff
  intro inside same
  have column : new = row.user2Teamname := congrArg user2Teamname same
  exact renames (column.trans inside.2)

theorem renameTeam2_user1Teamname (userid : Int) (row : Relationship) :
    (row.renameTeam2 userid new old).user1Teamname = row.user1Teamname := by
  unfold renameTeam2
  split
  · rfl
  · rfl

end Relationship

theorem TeamEdit.renameRow_eq_self_iff {edit : TeamEdit}
    (renames : edit.newteamname ≠ edit.oldteamname) (row : Relationship) :
    edit.renameRow row = row ↔
      ¬ row.inTeam1 edit.userid edit.oldteamname ∧
        ¬ row.inTeam2 edit.userid edit.oldteamname := by
  constructor
  · intro same
    have outside : ¬ row.inTeam1 edit.userid edit.oldteamname := by
      intro inside
      have renamed : row.renameTeam1 edit.userid edit.newteamname edit.oldteamname =
          { row with user1Teamname := edit.newteamname } := if_pos inside
      have column := congrArg Relationship.user1Teamname same
      rw [renameRow, Relationship.renameTeam2_user1Teamname, renamed] at column
      exact renames (column.trans inside.2)
    have first := (Relationship.renameTeam1_eq_self_iff renames edit.userid row).mpr outside
    rw [renameRow, first] at same
    exact ⟨outside, (Relationship.renameTeam2_eq_self_iff renames edit.userid row).mp same⟩
  · rintro ⟨first, second⟩
    rw [renameRow, (Relationship.renameTeam1_eq_self_iff renames edit.userid row).mpr first]
    exact (Relationship.renameTeam2_eq_self_iff renames edit.userid row).mpr second

theorem TeamEdit.renameRow_self {edit : TeamEdit} (same : edit.newteamname = edit.oldteamname)
    (row : Relationship) : edit.renameRow row = row := by
  rw [renameRow, same, Relationship.renameTeam1_self, Relationship.renameTeam2_self]

theorem FriendInfo.renameTeam_self (teamname : String) (friend : FriendInfo) :
    friend.renameTeam teamname teamname = friend := by
  unfold FriendInfo.renameTeam
  split
  · next inside => rw [← inside]
  · rfl

namespace User

/-- The user keeps a friend in the team. -/
def usesTeam (user : User) (teamname : String) : Prop :=
  ∃ friend ∈ user.friends, friend.teamname = teamname

theorem renameTeam_self (teamname : String) (user : User) :
    user.renameTeam teamname teamname = user := by
  unfold renameTeam
  rw [map_eq_self fun friend _ => FriendInfo.renameTeam_self teamname friend]

theorem renameTeam_eq_self_iff {new old : String} (renames : new ≠ old) (user : User) :
    user.renameTeam new old = user ↔ ¬ user.usesTeam old := by
  have lists : user.renameTeam new old = user ↔
      user.friends.map (·.renameTeam new old) = user.friends := by
    constructor
    · exact fun same => congrArg User.friends same
    · intro same
      rw [renameTeam, same]
  rw [lists, map_eq_self_iff]
  simp only [usesTeam, not_exists, not_and]
  refine forall₂_congr fun friend _ => ?_
  apply ite_eq_self_iff
  intro inside same
  have column : new = friend.teamname := congrArg FriendInfo.teamname same
  exact renames (column.trans inside)

end User

theorem TeamEdit.renameUser_self {edit : TeamEdit} (same : edit.newteamname = edit.oldteamname)
    (user : User) : edit.renameUser user = user := by
  rw [renameUser, same, User.renameTeam_self, ite_self]

namespace UserManager

def editTeam (manager : UserManager) (edit : TeamEdit) (answer : UpdateAnswer) :
    Bool × UserManager :=
  match edit with
  | .deleteTeam userid deletedteamname => manager.deleteTeam userid deletedteamname answer
  | .modifyTeamName userid newteamname oldteamname =>
      manager.modifyTeamName userid newteamname oldteamname answer

/-- A call that fails has done nothing, and one that succeeds has renamed the team in every row
and every cached entry of the user. -/
structure AllOrNothing (manager : UserManager) (edit : TeamEdit)
    (result : Bool × UserManager) : Prop where
  nothing : result.1 = false → result.2 = manager
  rows : result.1 = true →
    result.2.relationships = manager.relationships.map edit.renameRow
  users : result.1 = true →
    result.2.allCachedUsers = manager.allCachedUsers.map edit.renameUser

/-- No statement succeeds that the rest of the call does not follow: what comes before the place
where it stops has nothing to rename. -/
def StopsClean (manager : UserManager) (edit : TeamEdit) : UpdateAnswer → Prop
  | ⟨true, true, false⟩ =>
      ∀ row ∈ manager.relationships, ¬ row.inTeam1 edit.userid edit.oldteamname
  | ⟨true, true, true⟩ =>
      if manager.allCachedUsers.any (·.userid = edit.userid) then
        ∀ user ∈ behindFirst (·.userid = edit.userid) manager.allCachedUsers,
          user.userid = edit.userid → ¬ user.usesTeam edit.oldteamname
      else edit.needsCached = true → ∀ row ∈ manager.relationships,
        ¬ row.inTeam1 edit.userid edit.oldteamname ∧ ¬ row.inTeam2 edit.userid edit.oldteamname
  | _ => True

/-!
## The call as the source makes it
-/

theorem editTeam_stopped (manager : UserManager) (edit : TeamEdit) :
    manager.editTeam edit ⟨true, true, false⟩ =
      (false,
        { manager with
          relationships := manager.relationships.map
            (·.renameTeam1 edit.userid edit.newteamname edit.oldteamname) }) := by
  cases edit with
  | deleteTeam userid deletedteamname => rfl
  | modifyTeamName userid newteamname oldteamname => rfl

theorem editTeam_executed (manager : UserManager) (edit : TeamEdit) :
    manager.editTeam edit .succeeds =
      (!edit.needsCached || manager.allCachedUsers.any (·.userid = edit.userid),
        { allCachedUsers := (editFirst (·.userid = edit.userid)
            (·.renameTeam edit.newteamname edit.oldteamname) manager.allCachedUsers).2
          relationships := manager.relationships.map edit.renameRow }) := by
  have rows : manager.relationships.map edit.renameRow =
      (manager.relationships.map (·.renameTeam1 edit.userid edit.newteamname
        edit.oldteamname)).map (·.renameTeam2 edit.userid edit.newteamname
          edit.oldteamname) := List.map_map.symm
  have found : manager.allCachedUsers.any (·.userid = edit.userid) =
      (editFirst (·.userid = edit.userid) (·.renameTeam edit.newteamname edit.oldteamname)
        manager.allCachedUsers).1 := (editFirst_fst _ _ _).symm
  rw [rows, found]
  cases edit with
  | deleteTeam userid deletedteamname =>
      have flag : ∀ found : Bool, decide (some found = some true) = (!true || found) := by decide
      exact Prod.ext (flag _) rfl
  | modifyTeamName userid newteamname oldteamname => rfl

theorem editTeam_refused (manager : UserManager) (edit : TeamEdit) {answer : UpdateAnswer}
    (refused : (answer.connects && answer.first) = false) :
    manager.editTeam edit answer = (false, manager) := by
  obtain ⟨connects, first, second⟩ := answer
  cases connects with
  | false =>
      cases edit with
      | deleteTeam userid deletedteamname => rfl
      | modifyTeamName userid newteamname oldteamname => rfl
  | true =>
      cases first with
      | false =>
          cases edit with
          | deleteTeam userid deletedteamname => rfl
          | modifyTeamName userid newteamname oldteamname => rfl
      | true => exact absurd refused (by simp)

/-!
## When the edits are whole
-/

theorem unchanged_iff (manager : UserManager) {edit : Relationship → Relationship} :
    { manager with relationships := manager.relationships.map edit } = manager ↔
      ∀ row ∈ manager.relationships, edit row = row := by
  rw [← map_eq_self_iff]
  constructor
  · exact fun same => congrArg UserManager.relationships same
  · intro same
    rw [same]

theorem editFirst_renameTeam_iff {edit : TeamEdit}
    (renames : edit.newteamname ≠ edit.oldteamname) (users : List User) :
    (editFirst (·.userid = edit.userid) (·.renameTeam edit.newteamname edit.oldteamname)
        users).2 = users.map edit.renameUser ↔
      ∀ user ∈ behindFirst (·.userid = edit.userid) users,
        user.userid = edit.userid → ¬ user.usesTeam edit.oldteamname := by
  have mapped : users.map edit.renameUser = users.map fun user =>
      if decide (user.userid = edit.userid) = true then
        user.renameTeam edit.newteamname edit.oldteamname else user := by
    simp only [decide_eq_true_eq]
    rfl
  rw [mapped, editFirst_snd_eq_map_iff]
  simp only [decide_eq_true_eq, User.renameTeam_eq_self_iff renames]

/-- A user for whom there is nothing to rename is left alone by the loop. -/
theorem editFirst_renameTeam_eq_self {edit : TeamEdit} {users : List User}
    (kept : ∀ user ∈ users, edit.renameUser user = user) :
    (editFirst (·.userid = edit.userid) (·.renameTeam edit.newteamname edit.oldteamname)
      users).2 = users := by
  apply editFirst_snd_eq_self
  intro user member selected
  have fixed := kept user member
  rwa [TeamEdit.renameUser, if_pos (of_decide_eq_true selected)] at fixed

theorem stopped_allOrNothing_iff (manager : UserManager) {edit : TeamEdit}
    (renames : edit.newteamname ≠ edit.oldteamname) :
    manager.AllOrNothing edit (manager.editTeam edit ⟨true, true, false⟩) ↔
      manager.StopsClean edit ⟨true, true, false⟩ := by
  have clean : manager.StopsClean edit ⟨true, true, false⟩ ↔
      { manager with
        relationships := manager.relationships.map
          (·.renameTeam1 edit.userid edit.newteamname edit.oldteamname) } = manager := by
    rw [unchanged_iff]
    exact forall₂_congr fun row _ =>
      (Relationship.renameTeam1_eq_self_iff renames edit.userid row).symm
  rw [editTeam_stopped, clean]
  constructor
  · exact fun whole => whole.nothing rfl
  · exact fun same => ⟨fun _ => same, fun done => absurd done Bool.false_ne_true,
      fun done => absurd done Bool.false_ne_true⟩

theorem executed_allOrNothing_iff (manager : UserManager) {edit : TeamEdit}
    (renames : edit.newteamname ≠ edit.oldteamname) :
    manager.AllOrNothing edit (manager.editTeam edit .succeeds) ↔
      manager.StopsClean edit .succeeds := by
  rw [editTeam_executed]
  cases cached : manager.allCachedUsers.any (·.userid = edit.userid) with
  | true =>
      have clean : manager.StopsClean edit .succeeds ↔
          ∀ user ∈ behindFirst (·.userid = edit.userid) manager.allCachedUsers,
            user.userid = edit.userid → ¬ user.usesTeam edit.oldteamname :=
        iff_of_eq (if_pos cached)
      rw [clean, ← editFirst_renameTeam_iff renames, Bool.or_true]
      constructor
      · exact fun whole => whole.users rfl
      · exact fun same => ⟨fun failed => absurd failed.symm Bool.false_ne_true, fun _ => rfl,
          fun _ => same⟩
  | false =>
      have kept : ∀ user ∈ manager.allCachedUsers, edit.renameUser user = user :=
        fun user member => if_neg fun found =>
          List.any_eq_false.mp cached user member (decide_eq_true found)
      have clean : manager.StopsClean edit .succeeds ↔
          (edit.needsCached = true →
            { manager with relationships := manager.relationships.map edit.renameRow } =
              manager) := by
        rw [unchanged_iff]
        refine (iff_of_eq (if_neg (Bool.eq_false_iff.mp cached))).trans ?_
        exact imp_congr_right fun _ => forall₂_congr fun row _ =>
          (TeamEdit.renameRow_eq_self_iff renames row).symm
      rw [clean, editFirst_renameTeam_eq_self kept, Bool.or_false]
      constructor
      · exact fun whole needs => whole.nothing (by rw [needs]; rfl)
      · intro same
        refine ⟨fun failed => same ?_, fun _ => rfl, fun _ => (map_eq_self kept).symm⟩
        simpa using failed

theorem refused_allOrNothing (manager : UserManager) (edit : TeamEdit) :
    manager.AllOrNothing edit (false, manager) where
  nothing _ := rfl
  rows done := absurd done Bool.false_ne_true
  users done := absurd done Bool.false_ne_true

/-- Renaming a team to the name it has changes nothing, wherever the call stops. -/
theorem unrenamed_snd (manager : UserManager) {edit : TeamEdit}
    (same : edit.newteamname = edit.oldteamname) (answer : UpdateAnswer) :
    (manager.editTeam edit answer).2 = manager := by
  obtain ⟨connects, first, second⟩ := answer
  cases going : connects && first with
  | false => rw [editTeam_refused manager edit going]
  | true =>
      obtain ⟨rfl, rfl⟩ := Bool.and_eq_true_iff.mp going
      cases second with
      | false =>
          rw [editTeam_stopped, unchanged_iff, same]
          exact fun row _ => Relationship.renameTeam1_self edit.userid edit.oldteamname row
      | true =>
          have executed := editTeam_executed manager edit
          rw [editFirst_renameTeam_eq_self fun user _ => TeamEdit.renameUser_self same user]
            at executed
          refine (congrArg Prod.snd executed).trans ?_
          exact (unchanged_iff manager).mpr fun row _ => TeamEdit.renameRow_self same row

theorem unrenamed_allOrNothing (manager : UserManager) {edit : TeamEdit}
    (same : edit.newteamname = edit.oldteamname) (answer : UpdateAnswer) :
    manager.AllOrNothing edit (manager.editTeam edit answer) where
  nothing _ := unrenamed_snd manager same answer
  rows _ := by
    rw [unrenamed_snd manager same answer]
    exact (map_eq_self fun row _ => TeamEdit.renameRow_self same row).symm
  users _ := by
    rw [unrenamed_snd manager same answer]
    exact (map_eq_self fun user _ => TeamEdit.renameUser_self same user).symm

/-- A call edits all or nothing exactly when it stops nowhere behind an edit. -/
theorem editTeam_allOrNothing_iff (manager : UserManager) (edit : TeamEdit)
    (answer : UpdateAnswer) :
    manager.AllOrNothing edit (manager.editTeam edit answer) ↔
      (edit.newteamname ≠ edit.oldteamname → manager.StopsClean edit answer) := by
  by_cases same : edit.newteamname = edit.oldteamname
  · exact iff_of_true (unrenamed_allOrNothing manager same answer)
      fun renames => absurd same renames
  · rw [imp_iff_right same]
    obtain ⟨connects, first, second⟩ := answer
    cases connects with
    | false =>
        rw [editTeam_refused manager edit rfl]
        exact iff_of_true (refused_allOrNothing manager edit) trivial
    | true =>
        cases first with
        | false =>
            rw [editTeam_refused manager edit rfl]
            exact iff_of_true (refused_allOrNothing manager edit) trivial
        | true =>
            cases second with
            | false => exact stopped_allOrNothing_iff manager same
            | true => exact executed_allOrNothing_iff manager same

private def oneTeam : UserManager :=
  ⟨[cachedBalloon 1], [⟨1, 2, "", "", "Work", ""⟩]⟩

/-- The first `UPDATE` stays in the table when the second one fails. -/
theorem deleteTeam_stops_half_way :
    (oneTeam.deleteTeam 1 "Work" ⟨true, true, false⟩).1 = false ∧
      (oneTeam.deleteTeam 1 "Work" ⟨true, true, false⟩).2.relationships ≠
        oneTeam.relationships := by
  decide

end UserManager

end Talko.Service
