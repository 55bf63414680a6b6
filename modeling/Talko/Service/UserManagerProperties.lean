import Talko.Service.UserManager

/-!
# Laws of the user manager

What the loops over the cached users find and what they leave. The loop of
`deleteFriendToUser` finds both users as the one of `updateUserRelationshipInMemory`
does, but its edits are lost: the release of a friendship that reports success leaves
the friendship in the cache.
-/

set_option autoImplicit false

namespace Talko.Service

namespace User

@[simp] theorem eraseFriend_found (user : User) (friendid : Int) :
    (user.eraseFriend friendid).2 = user.lists friendid := by
  unfold eraseFriend
  split
  · rename_i listed
    exact listed.symm
  · rename_i notListed
    simp only [Bool.not_eq_true] at notListed
    exact notListed.symm

@[simp] theorem eraseFriend_userid (user : User) (friendid : Int) :
    (user.eraseFriend friendid).1.userid = user.userid := by
  unfold eraseFriend
  split <;> rfl

end User

def Relationship.IsOf (row : Relationship) (a b : Int) : Prop :=
  (row.userId1 = a ∧ row.userId2 = b) ∨ (row.userId1 = b ∧ row.userId2 = a)

namespace UserManager

/-! ## What the loops find -/

theorem deleteBody_found {userid friendid : Int} (different : userid ≠ friendid)
    (found : PairFound) (user : User) :
    (deleteBody userid friendid found user).2 =
      ⟨found.first || (user.userid = userid && user.lists friendid),
        found.second || (user.userid = friendid && user.lists userid)⟩ := by
  by_cases isFirst : user.userid = userid
  · have first : deleteFirst userid friendid found user = ((user.eraseFriend friendid).1,
        ⟨found.first || user.lists friendid, found.second⟩) := by
      simp [deleteFirst, isFirst]
    simp only [deleteBody, first, deleteSecond, User.eraseFriend_userid, isFirst, different,
      if_false]
    simp
  · have first : deleteFirst userid friendid found user = (user, found) := by
      simp [deleteFirst, isFirst]
    by_cases isSecond : user.userid = friendid
    · simp [deleteBody, first, deleteSecond, isSecond, different.symm]
    · simp [deleteBody, first, deleteSecond, isFirst, isSecond]

theorem forEachUser_deleteBody_found {userid friendid : Int} (different : userid ≠ friendid)
    (found : PairFound) (users : List User) :
    (forEachUser (deleteBody userid friendid) found users).2 =
      ⟨found.first || users.any fun user => user.userid = userid && user.lists friendid,
        found.second || users.any fun user => user.userid = friendid && user.lists userid⟩ := by
  induction users generalizing found with
  | nil => simp [forEachUser]
  | cons user rest ih =>
      simp only [forEachUser, ih, deleteBody_found different, List.any_cons, Bool.or_assoc]

theorem deleteFriendToUser_spec (manager : UserManager) {userid friendid : Int}
    (different : userid ≠ friendid) :
    manager.deleteFriendToUser userid friendid =
      (manager.isFriend userid friendid && manager.isFriend friendid userid, manager) := by
  simp [deleteFriendToUser, forEachUser_deleteBody_found different, isFriend]

/-- The two loops for deleting report the same; only one of them keeps what it did. -/
theorem deleteFriendToUser_eq (manager : UserManager) (userid friendid : Int) :
    manager.deleteFriendToUser userid friendid =
      ((manager.updateUserRelationshipInMemory userid friendid .delete).1, manager) := rfl

/-! ## Releasing a friendship -/

def friendLists (manager : UserManager) (userid : Int) : List (List FriendInfo) :=
  (manager.allCachedUsers.filter (·.userid = userid)).map (·.friends)

/-- What the release does: the statement names the smaller id first, and once the database
has executed it the flags alone decide what is reported. -/
theorem release_eq (manager : UserManager) (database : DatabaseMysql) {a b : Int}
    (different : a ≠ b) :
    manager.releaseFriendRelationshipInDBAndMemory database a b =
      if database.initialized then
        match database.execute (.deleteRelationship (min a b) (max a b))
            manager.relationships with
        | none => (false, manager)
        | some relationships =>
            (manager.isFriend a b && manager.isFriend b a,
              { manager with relationships := relationships })
      else (false, manager) := by
  have reported : ∀ (found : Bool) (after : UserManager),
      (if found then (true, after) else (false, after)) = (found, after) := by
    intro found after
    cases found <;> rfl
  unfold releaseFriendRelationshipInDBAndMemory
  rcases Int.lt_or_gt_of_ne different with less | greater
  · have small : min a b = a := by omega
    have great : max a b = b := by omega
    have notGreater : ¬ a > b := by omega
    simp only [different, notGreater, if_false, small, great,
      deleteFriendToUser_spec _ different, reported]
    rfl
  · have small : min a b = b := by omega
    have great : max a b = a := by omega
    simp only [different, greater, if_true, if_false, small, great,
      deleteFriendToUser_spec _ different.symm, reported]
    rw [Bool.and_comm]
    rfl

/-- A release that reports success leaves no row of the pair and no mention of either in the
other's list, and every other list as it was. -/
def RemovesFriendship (manager : UserManager) (database : DatabaseMysql) (a b : Int) : Prop :=
  (manager.releaseFriendRelationshipInDBAndMemory database a b).1 = true →
    (∀ row ∈ (manager.releaseFriendRelationshipInDBAndMemory database a b).2.relationships,
      ¬ row.IsOf a b) ∧
    (manager.releaseFriendRelationshipInDBAndMemory database a b).2.isFriend a b = false ∧
    (manager.releaseFriendRelationshipInDBAndMemory database a b).2.isFriend b a = false ∧
    ∀ other, other ≠ a → other ≠ b →
      (manager.releaseFriendRelationshipInDBAndMemory database a b).2.friendLists other =
        manager.friendLists other

/-- The release does what its success says if and only if it does not report success: the
connection or the statement fails, or one of the two users does not list the other. -/
theorem release_removes_iff (manager : UserManager) (database : DatabaseMysql) {a b : Int}
    (different : a ≠ b) :
    manager.RemovesFriendship database a b ↔
      ¬ (database.initialized = true ∧
        (database.execute (.deleteRelationship (min a b) (max a b))
          manager.relationships).isSome = true ∧
        manager.isFriend a b = true ∧ manager.isFriend b a = true) := by
  unfold RemovesFriendship
  rw [release_eq manager database different]
  cases database.initialized with
  | false => simp
  | true =>
      cases database.execute (.deleteRelationship (min a b) (max a b)) manager.relationships with
      | none => simp
      | some relationships =>
          -- the cache afterwards is the one before, so the lists still have what they had
          have kept : ∀ userid friendid,
              ({ manager with relationships := relationships } : UserManager).isFriend userid
                friendid = manager.isFriend userid friendid := fun _ _ => rfl
          simp only [if_true, kept, Option.isSome_some, true_and, Bool.and_eq_true]
          constructor
          · rintro removes ⟨first, second⟩
            have gone := (removes ⟨first, second⟩).2.1
            rw [first] at gone
            cases gone
          · intro notBoth both
            exact absurd both notBoth

def userWith (userid : Int) (friends : List Int) : User where
  userid := userid
  username := ""
  password := ""
  nickname := ""
  facetype := 0
  customface := ""
  customfacefmt := ""
  gender := 0
  birthday := 19900101
  signature := ""
  address := ""
  phonenumber := ""
  mail := ""
  teaminfo := ""
  ownerid := 0
  friends := friends.map fun friendid => ⟨friendid, "", defaultTeamname⟩

def unmatchedRows (userId1 userId2 : Int) (rows : List Relationship) : List Relationship :=
  rows.filter fun row => !(row.userId1 = userId1 && row.userId2 = userId2)

def DeletesMatching (database : DatabaseMysql) : Prop :=
  ∀ userId1 userId2 rows after,
    database.execute (.deleteRelationship userId1 userId2) rows = some after →
      after = unmatchedRows userId1 userId2 rows

def willingDatabase : DatabaseMysql where
  initialized := true
  execute
    | .deleteRelationship userId1 userId2, rows => some (unmatchedRows userId1 userId2 rows)

theorem willingDatabase_deletesMatching : DeletesMatching willingDatabase := by
  intro userId1 userId2 rows after executed
  cases executed
  rfl

def twoFriends : UserManager where
  allCachedUsers := [userWith 1 [2], userWith 2 [1]]
  relationships := [⟨1, 2, "", "", defaultTeamname, defaultTeamname⟩]

theorem oneSided_removes :
    (⟨[userWith 1 [2], userWith 2 []], twoFriends.relationships⟩ : UserManager).RemovesFriendship
      willingDatabase 1 2 :=
  (release_removes_iff _ willingDatabase (by decide)).mpr (by decide)

/-- The release of the two friends reports success and leaves both lists. -/
theorem released_still_friends :
    ¬ ∀ (manager : UserManager) (database : DatabaseMysql) (a b : Int),
      DeletesMatching database → (manager.allCachedUsers.map (·.userid)).Nodup → a ≠ b →
      (∃ user ∈ manager.allCachedUsers, user.userid = a) →
      (∃ user ∈ manager.allCachedUsers, user.userid = b) →
      manager.RemovesFriendship database a b := by
  intro always
  have removes := always twoFriends willingDatabase 1 2 willingDatabase_deletesMatching
    (by decide) (by decide) ⟨userWith 1 [2], by decide, rfl⟩
    ⟨userWith 2 [1], by decide, rfl⟩
  have reported : (twoFriends.releaseFriendRelationshipInDBAndMemory willingDatabase 1 2).1 =
      true := by decide
  have stays : (twoFriends.releaseFriendRelationshipInDBAndMemory willingDatabase 1 2).2.isFriend
      1 2 = true := by decide
  have gone := (removes reported).2.1
  rw [stays] at gone
  cases gone

end UserManager

end Talko.Service
