import Talko.Service.FriendLists

/-!
# Both ends of a friendship

The three members that add and delete a friendship in the cache edit each end as they come to it.
With both ends in place they agree, and deleting undoes adding. With one end missing they have
edited the other when they report the failure.
-/

set_option autoImplicit false

namespace Talko.Service

open Talko.Library

namespace User

theorem appendFriend_ne (user : User) (friendid : Int) : user.appendFriend friendid ≠ user := by
  intro same
  have length := congrArg (fun user => user.friends.length) same
  simp [appendFriend] at length

theorem eraseFriend_eq_self_iff (user : User) (friendid : Int) :
    (user.eraseFriend friendid).1 = user ↔ user.lists friendid = false := by
  unfold eraseFriend
  cases listed : user.lists friendid with
  | false => simp
  | true =>
      refine iff_of_false (fun same => ?_) (by simp)
      obtain ⟨friend, member, found⟩ := List.any_eq_true.mp listed
      have shorter : (user.friends.eraseP (·.friendid = friendid)).length =
          user.friends.length - 1 := List.length_eraseP_of_mem member found
      have length := congrArg (fun user => user.friends.length) same
      simp only [if_true] at length
      have positive := List.length_pos_of_mem member
      omega

/-- Deleting the entry that was appended leaves what was there. -/
theorem eraseFriend_appendFriend {user : User} {friendid : Int}
    (unlisted : user.lists friendid = false) :
    (user.appendFriend friendid).eraseFriend friendid = (user, true) := by
  have listed : (user.appendFriend friendid).lists friendid = true := by
    simp [appendFriend, lists]
  have none : ∀ friend ∈ user.friends, ¬ (decide (friend.friendid = friendid)) = true := by
    simpa [lists] using unlisted
  have erased : (user.appendFriend friendid).friends.eraseP (·.friendid = friendid) =
      user.friends := by
    simp only [appendFriend]
    rw [List.eraseP_append_right _ none]
    simp
  unfold eraseFriend
  rw [if_pos listed, erased]
  rfl

theorem befriend_eq_self_iff (a b : Int) (user : User) :
    user.befriend a b = user ↔ user.userid ≠ a ∧ user.userid ≠ b := by
  unfold befriend editPair
  split
  · rename_i isFirst
    exact iff_of_false (appendFriend_ne user b) fun both => both.1 isFirst
  · rename_i notFirst
    split
    · rename_i isSecond
      exact iff_of_false (appendFriend_ne user a) fun both => both.2 isSecond
    · rename_i notSecond
      exact iff_of_true rfl ⟨notFirst, notSecond⟩

/-- The order of two different ids does not matter. -/
theorem editPair_comm {a b : Int} (different : a ≠ b) (first second : User → User) (user : User) :
    user.editPair a b first second = user.editPair b a second first := by
  unfold editPair
  by_cases isFirst : user.userid = a
  · simp [isFirst, different]
  · by_cases isSecond : user.userid = b
    · simp [isSecond, different.symm]
    · simp [isFirst, isSecond]

theorem befriend_comm {a b : Int} (different : a ≠ b) : befriend a b = befriend b a :=
  funext (editPair_comm different _ _)

theorem part_comm {a b : Int} (different : a ≠ b) : part a b = part b a :=
  funext (editPair_comm different _ _)

theorem part_eq_self_iff {a b : Int} (different : a ≠ b) (user : User) :
    user.part a b = user ↔
      (user.userid = a → user.lists b = false) ∧ (user.userid = b → user.lists a = false) := by
  unfold part editPair
  by_cases isFirst : user.userid = a
  · rw [if_pos isFirst, eraseFriend_eq_self_iff]
    simp [isFirst, different]
  · rw [if_neg isFirst]
    by_cases isSecond : user.userid = b
    · rw [if_pos isSecond, eraseFriend_eq_self_iff]
      simp [isSecond, different.symm]
    · rw [if_neg isSecond]
      simp [isFirst, isSecond]

/-- Parting undoes befriending. -/
theorem part_befriend {a b : Int} {user : User}
    (first : user.userid = a → user.lists b = false)
    (second : user.userid = b → user.lists a = false) :
    (user.befriend a b).part a b = user := by
  have sameId := befriend_userid a b user
  unfold part editPair
  rw [sameId]
  unfold befriend editPair
  by_cases isFirst : user.userid = a
  · simp only [if_pos isFirst]
    rw [eraseFriend_appendFriend (first isFirst)]
  · by_cases isSecond : user.userid = b
    · simp only [if_neg isFirst, if_pos isSecond]
      rw [eraseFriend_appendFriend (second isSecond)]
    · simp only [if_neg isFirst, if_neg isSecond]

end User

/-- The three members that update both ends of a friendship. -/
inductive PairUpdate where
  | addFriendToUser
  | updateUserRelationshipInMemory (operation : FriendOperation)
  deriving DecidableEq, Repr

namespace UserManager

def updatePair (manager : UserManager) (a b : Int) : PairUpdate → Bool × UserManager
  | .addFriendToUser => manager.addFriendToUser a b
  | .updateUserRelationshipInMemory operation =>
      manager.updateUserRelationshipInMemory a b operation

def isCached (manager : UserManager) (userid : Int) : Bool :=
  manager.allCachedUsers.any (·.userid = userid)

/-- Both ends of what the update works on are there, or neither is. -/
def EndsAgree (manager : UserManager) (a b : Int) : PairUpdate → Prop
  | .addFriendToUser => manager.isCached a = manager.isCached b
  | .updateUserRelationshipInMemory .add =>
      if a = b then manager.isCached a = false else manager.isCached a = manager.isCached b
  | .updateUserRelationshipInMemory .delete =>
      if a = b then manager.isFriend a a = false
      else manager.isFriend a b = manager.isFriend b a

/-!
## What the loops report
-/

theorem addBody_snd {a b : Int} (different : a ≠ b) (found : PairFound) (user : User) :
    (addBody a b found user).2 =
      ⟨found.first || user.userid = a, found.second || user.userid = b⟩ := by
  unfold addBody
  by_cases isFirst : user.userid = a
  · simp [isFirst, different]
  · by_cases isSecond : user.userid = b
    · simp [isSecond, different.symm]
    · simp [isFirst, isSecond]

theorem forEachUser_addBody_found {a b : Int} (different : a ≠ b) (found : PairFound)
    (users : List User) :
    (forEachUser (addBody a b) found users).2 =
      ⟨found.first || users.any (·.userid = a), found.second || users.any (·.userid = b)⟩ := by
  induction users generalizing found with
  | nil => simp [forEachUser]
  | cons user rest ih =>
      simp only [forEachUser, ih, addBody_snd different, List.any_cons, Bool.or_assoc]

theorem forEachUser_addBody_self (a : Int) {found : PairFound} (second : found.second = false)
    (users : List User) : (forEachUser (addBody a a) found users).2.second = false := by
  induction users generalizing found with
  | nil => exact second
  | cons user rest ih =>
      simp only [forEachUser]
      apply ih
      unfold addBody
      split
      · exact second
      · exact second

/-- The half for the second user leaves a user alone whose entry the first half has erased. -/
theorem deleteBody_self_of_listed {a : Int} {found : PairFound} {user : User}
    (isFirst : user.userid = a) (listed : user.lists a = true) :
    (deleteBody a a found user).1 = (user.eraseFriend a).1 := by
  simp [deleteBody, deleteFirst, deleteSecond, isFirst, listed, User.eraseFriend]

theorem forEachUser_deleteBody_self (a : Int) {found : PairFound} (second : found.second = false)
    (users : List User) : (forEachUser (deleteBody a a) found users).2.second = false := by
  induction users generalizing found with
  | nil => exact second
  | cons user rest ih =>
      simp only [forEachUser]
      apply ih
      by_cases isFirst : user.userid = a
      · cases listed : user.lists a with
        | false => simp [deleteBody, deleteFirst, deleteSecond, isFirst, listed, User.eraseFriend,
            second]
        | true => simp [deleteBody, deleteFirst, deleteSecond, isFirst, listed, second]
      · simp [deleteBody, deleteFirst, deleteSecond, isFirst, second]

theorem addFriendBody_snd (a b : Int) (found : PairFound) (user : User) :
    (addFriendBody a b found user).2 =
      ⟨found.first || user.userid = a, found.second || user.userid = b⟩ := by
  unfold addFriendBody
  dsimp only
  split
  · rename_i isSecond
    split
    · rename_i isFirst
      rw [decide_eq_true isFirst, decide_eq_true isSecond, Bool.or_true, Bool.or_true]
    · rename_i notFirst
      rw [decide_eq_false notFirst, decide_eq_true isSecond, Bool.or_false, Bool.or_true]
  · rename_i notSecond
    split
    · rename_i isFirst
      rw [decide_eq_true isFirst, decide_eq_false notSecond, Bool.or_true, Bool.or_false]
    · rename_i notFirst
      rw [decide_eq_false notFirst, decide_eq_false notSecond, Bool.or_false, Bool.or_false]

theorem absent_of_addFriendBody {a b : Int} {found : PairFound} {user : User}
    (same : (addFriendBody a b found user).1 = user) : user.userid ≠ a ∧ user.userid ≠ b := by
  have length := congrArg (fun user => user.friends.length) same
  unfold addFriendBody at length
  dsimp only at length
  constructor
  · intro isFirst
    rw [if_pos isFirst] at length
    split at length
    · simp [User.appendFriend] at length
    · simp [User.appendFriend] at length
  · intro isSecond
    rw [if_pos isSecond] at length
    split at length
    · simp [User.appendFriend] at length
    · simp [User.appendFriend] at length

/-- The loop of `addFriendToUser` returns true once both ends have been found. -/
theorem addFriendLoop_fst {a b : Int} {found : PairFound}
    (open' : (found.first && found.second) = false) (users : List User) :
    (addFriendLoop a b found users).1 =
      ((found.first || users.any (·.userid = a)) &&
        (found.second || users.any (·.userid = b))) := by
  induction users generalizing found with
  | nil => simpa [addFriendLoop] using open'.symm
  | cons user rest ih =>
      rw [addFriendLoop, addFriendBody_snd]
      dsimp only
      split
      · rename_i both
        obtain ⟨one, two⟩ := Bool.and_eq_true_iff.mp both
        simp only [List.any_cons, ← Bool.or_assoc, one, two, Bool.true_or, Bool.and_self]
      · rename_i notBoth
        rw [ih (Bool.eq_false_iff.mpr notBoth)]
        simp only [List.any_cons, Bool.or_assoc]

/-- A loop that has not found both ends has left the list alone only if it has found neither. -/
theorem absent_of_addFriendLoop {a b : Int} {found : PairFound}
    (open' : (found.first && found.second) = false) {users : List User}
    (same : (addFriendLoop a b found users).2 = users) :
    ∀ user ∈ users, user.userid ≠ a ∧ user.userid ≠ b := by
  induction users generalizing found with
  | nil => exact fun _ member => absurd member List.not_mem_nil
  | cons user rest ih =>
      rw [addFriendLoop] at same
      dsimp only at same
      have here : (addFriendBody a b found user).1 = user := by
        split at same
        · exact (List.cons.inj same).1
        · exact (List.cons.inj same).1
      obtain ⟨notFirst, notSecond⟩ := absent_of_addFriendBody here
      have flags : (addFriendBody a b found user).2 = found := by
        simp [addFriendBody_snd, notFirst, notSecond]
      rw [flags, if_neg (by simp [open'])] at same
      exact List.forall_mem_cons.mpr ⟨⟨notFirst, notSecond⟩, ih open' (List.cons.inj same).2⟩

theorem forEachUser_deleteBody_self_fst {a : Int} {found : PairFound} {users : List User}
    (same : (forEachUser (deleteBody a a) found users).1 = users) :
    ∀ user ∈ users, user.userid = a → user.lists a = false := by
  induction users generalizing found with
  | nil => exact fun _ member => absurd member List.not_mem_nil
  | cons user rest ih =>
      simp only [forEachUser] at same
      obtain ⟨here, later⟩ := List.cons.inj same
      refine List.forall_mem_cons.mpr ⟨fun isFirst => ?_, ih later⟩
      cases listed : user.lists a with
      | false => rfl
      | true =>
          rw [deleteBody_self_of_listed isFirst listed] at here
          rw [(User.eraseFriend_eq_self_iff user a).mp here] at listed
          exact absurd listed Bool.false_ne_true

/-!
## A failed update
-/

theorem isCached_eq_false_iff (manager : UserManager) (userid : Int) :
    manager.isCached userid = false ↔ ∀ user ∈ manager.allCachedUsers, user.userid ≠ userid := by
  simp [isCached]

theorem isFriend_eq_false_iff (manager : UserManager) (userid friendid : Int) :
    manager.isFriend userid friendid = false ↔
      ∀ user ∈ manager.allCachedUsers, user.userid = userid → user.lists friendid = false := by
  simp [isFriend]

/-- A conjunction of two flags fails cleanly just when the flags agree. -/
theorem failed_imp_both_false_iff (first second : Bool) :
    ((first && second) = false → first = false ∧ second = false) ↔ first = second := by
  cases first
  · cases second
    · simp
    · simp
  · cases second
    · simp
    · simp

theorem neither_cached_iff (manager : UserManager) (a b : Int) :
    (∀ user ∈ manager.allCachedUsers, user.userid ≠ a ∧ user.userid ≠ b) ↔
      manager.isCached a = false ∧ manager.isCached b = false := by
  rw [isCached_eq_false_iff, isCached_eq_false_iff]
  exact forall₂_and

theorem addFriendToUser_unchanged_iff (manager : UserManager) (a b : Int) :
    (manager.addFriendToUser a b).2.allCachedUsers = manager.allCachedUsers ↔
      manager.isCached a = false ∧ manager.isCached b = false := by
  rw [← neither_cached_iff]
  constructor
  · exact absent_of_addFriendLoop rfl
  · exact fun absent => addFriendLoop_of_absent absent ⟨false, false⟩

theorem add_unchanged_iff (manager : UserManager) (a b : Int) :
    (manager.updateUserRelationshipInMemory a b .add).2.allCachedUsers = manager.allCachedUsers ↔
      manager.isCached a = false ∧ manager.isCached b = false := by
  have mapped : (manager.updateUserRelationshipInMemory a b .add).2.allCachedUsers =
      manager.allCachedUsers.map (User.befriend a b) :=
    forEachUser_map (fun found user _ => addBody_fst a b found user) _
  rw [mapped, map_eq_self_iff, ← neither_cached_iff]
  exact forall₂_congr fun user _ => User.befriend_eq_self_iff a b user

theorem delete_unchanged_iff (manager : UserManager) (a b : Int) :
    (manager.updateUserRelationshipInMemory a b .delete).2.allCachedUsers =
        manager.allCachedUsers ↔
      manager.isFriend a b = false ∧ manager.isFriend b a = false := by
  rw [isFriend_eq_false_iff, isFriend_eq_false_iff]
  by_cases same : a = b
  · subst same
    rw [and_self]
    constructor
    · exact forEachUser_deleteBody_self_fst
    · intro unlisted
      have mapped : (manager.updateUserRelationshipInMemory a a .delete).2.allCachedUsers =
          manager.allCachedUsers.map id :=
        forEachUser_map (fun found user member => deleteBody_self (unlisted user member) found) _
      rw [mapped, List.map_id]
  · have mapped : (manager.updateUserRelationshipInMemory a b .delete).2.allCachedUsers =
        manager.allCachedUsers.map (User.part a b) :=
      forEachUser_map (fun found user _ => deleteBody_fst same found user) _
    rw [mapped, map_eq_self_iff, ← forall₂_and]
    exact forall₂_congr fun user _ => User.part_eq_self_iff same user

theorem addFriendToUser_fst (manager : UserManager) (a b : Int) :
    (manager.addFriendToUser a b).1 = (manager.isCached a && manager.isCached b) := by
  have reported := @addFriendLoop_fst a b ⟨false, false⟩ rfl manager.allCachedUsers
  simpa [addFriendToUser, isCached] using reported

theorem add_fst (manager : UserManager) {a b : Int} (different : a ≠ b) :
    (manager.updateUserRelationshipInMemory a b .add).1 =
      (manager.isCached a && manager.isCached b) := by
  simp [updateUserRelationshipInMemory, forEachUser_addBody_found different, isCached]

theorem delete_fst (manager : UserManager) {a b : Int} (different : a ≠ b) :
    (manager.updateUserRelationshipInMemory a b .delete).1 =
      (manager.isFriend a b && manager.isFriend b a) := by
  simp [updateUserRelationshipInMemory, forEachUser_deleteBody_found different, isFriend]

/-- No user is both ends of an update. -/
theorem update_self_fst (manager : UserManager) (a : Int) (operation : FriendOperation) :
    (manager.updateUserRelationshipInMemory a a operation).1 = false := by
  cases operation with
  | add => simp [updateUserRelationshipInMemory, forEachUser_addBody_self]
  | delete => simp [updateUserRelationshipInMemory, forEachUser_deleteBody_self]

/-- A failed update leaves the cached users alone exactly when the two ends agree. -/
theorem failed_update_unchanged_iff (manager : UserManager) (a b : Int) (update : PairUpdate) :
    ((manager.updatePair a b update).1 = false →
        (manager.updatePair a b update).2.allCachedUsers = manager.allCachedUsers) ↔
      manager.EndsAgree a b update := by
  cases update with
  | addFriendToUser =>
      simp only [updatePair, EndsAgree, addFriendToUser_fst, addFriendToUser_unchanged_iff]
      exact failed_imp_both_false_iff _ _
  | updateUserRelationshipInMemory operation =>
      simp only [updatePair]
      by_cases same : a = b
      · subst same
        rw [update_self_fst]
        cases operation with
        | add => simp [EndsAgree, add_unchanged_iff]
        | delete => simp [EndsAgree, delete_unchanged_iff]
      · cases operation with
        | add =>
            simp only [EndsAgree, if_neg same, add_fst manager same, add_unchanged_iff]
            exact failed_imp_both_false_iff _ _
        | delete =>
            simp only [EndsAgree, if_neg same, delete_fst manager same, delete_unchanged_iff]
            exact failed_imp_both_false_iff _ _

/-- With the friend not in the cache, the entry stays in the list of the user who is. -/
theorem addFriendToUser_leaves_half :
    let manager : UserManager := ⟨[cachedBalloon 1], []⟩
    (manager.allCachedUsers.map (·.userid)).Nodup ∧ (manager.addFriendToUser 1 2).1 = false ∧
      (manager.addFriendToUser 1 2).2.allCachedUsers ≠ manager.allCachedUsers := by
  decide

/-!
## Adding and deleting
-/

theorem addFriendToUser_eq (manager : UserManager) {a b : Int} (different : a ≠ b)
    (distinct : (manager.allCachedUsers.map (·.userid)).Nodup)
    (first : manager.isCached a = true) (second : manager.isCached b = true) :
    manager.addFriendToUser a b =
      (true, { manager with
        allCachedUsers := manager.allCachedUsers.map (User.befriend a b) }) := by
  have reported : (manager.addFriendToUser a b).1 = true := by
    rw [addFriendToUser_fst, first, second, Bool.and_self]
  have mapped : (addFriendLoop a b ⟨false, false⟩ manager.allCachedUsers).2 =
      manager.allCachedUsers.map (User.befriend a b) :=
    addFriendLoop_snd different distinct (by simp) (by simp)
  exact Prod.ext reported (congrArg (fun users => { manager with allCachedUsers := users }) mapped)

theorem add_eq (manager : UserManager) {a b : Int} (different : a ≠ b)
    (first : manager.isCached a = true) (second : manager.isCached b = true) :
    manager.updateUserRelationshipInMemory a b .add =
      (true, { manager with
        allCachedUsers := manager.allCachedUsers.map (User.befriend a b) }) := by
  have reported : (manager.updateUserRelationshipInMemory a b .add).1 = true := by
    rw [add_fst manager different, first, second, Bool.and_self]
  have mapped : (forEachUser (addBody a b) ⟨false, false⟩ manager.allCachedUsers).1 =
      manager.allCachedUsers.map (User.befriend a b) :=
    forEachUser_map (fun found user _ => addBody_fst a b found user) _
  exact Prod.ext reported (congrArg (fun users => { manager with allCachedUsers := users }) mapped)

theorem delete_eq (manager : UserManager) {a b : Int} (different : a ≠ b)
    (first : manager.isFriend a b = true) (second : manager.isFriend b a = true) :
    manager.updateUserRelationshipInMemory a b .delete =
      (true, { manager with allCachedUsers := manager.allCachedUsers.map (User.part a b) }) := by
  have reported : (manager.updateUserRelationshipInMemory a b .delete).1 = true := by
    rw [delete_fst manager different, first, second, Bool.and_self]
  have mapped : (forEachUser (deleteBody a b) ⟨false, false⟩ manager.allCachedUsers).1 =
      manager.allCachedUsers.map (User.part a b) :=
    forEachUser_map (fun found user _ => deleteBody_fst different found user) _
  exact Prod.ext reported (congrArg (fun users => { manager with allCachedUsers := users }) mapped)

theorem isFriend_befriend {manager : UserManager} {a b : Int} (cached : manager.isCached a = true) :
    UserManager.isFriend { manager with
      allCachedUsers := manager.allCachedUsers.map (User.befriend a b) } a b = true := by
  obtain ⟨user, member, isFirst⟩ := List.any_eq_true.mp cached
  have isFirst : user.userid = a := of_decide_eq_true isFirst
  have listed : (user.befriend a b).lists b = true := by
    simp [User.befriend, User.editPair, isFirst, User.appendFriend, User.lists]
  refine List.any_eq_true.mpr ⟨user.befriend a b, List.mem_map_of_mem member, ?_⟩
  rw [User.befriend_userid, listed, decide_eq_true isFirst, Bool.and_self]

theorem map_part_befriend {manager : UserManager} {a b : Int}
    (first : manager.isFriend a b = false) (second : manager.isFriend b a = false) :
    (manager.allCachedUsers.map (User.befriend a b)).map (User.part a b) =
      manager.allCachedUsers := by
  rw [isFriend_eq_false_iff] at first second
  rw [List.map_map]
  apply map_eq_self
  intro user member
  exact User.part_befriend (first user member) (second user member)

/-- The four ways to add a friendship come to the same cache, and both ways to delete it from
there come back. -/
theorem added_friendship_undone {manager : UserManager} {a b : Int}
    (distinct : (manager.allCachedUsers.map (·.userid)).Nodup) (different : a ≠ b)
    (cachedA : manager.isCached a = true) (cachedB : manager.isCached b = true)
    (unlistedB : manager.isFriend a b = false) (unlistedA : manager.isFriend b a = false) :
    ∃ added : UserManager,
      (manager.addFriendToUser a b = (true, added) ∧
        manager.addFriendToUser b a = (true, added) ∧
        manager.updateUserRelationshipInMemory a b .add = (true, added) ∧
        manager.updateUserRelationshipInMemory b a .add = (true, added)) ∧
      (added.isFriend a b = true ∧ added.isFriend b a = true) ∧
      added.updateUserRelationshipInMemory a b .delete = (true, manager) ∧
      added.updateUserRelationshipInMemory b a .delete = (true, manager) := by
  have swapped := User.befriend_comm different.symm
  have friendsA := isFriend_befriend (b := b) cachedA
  have friendsB := isFriend_befriend (b := a) cachedB
  rw [swapped] at friendsB
  refine ⟨{ manager with allCachedUsers := manager.allCachedUsers.map (User.befriend a b) },
    ⟨?_, ?_, ?_, ?_⟩, ⟨friendsA, friendsB⟩, ?_, ?_⟩
  · exact addFriendToUser_eq manager different distinct cachedA cachedB
  · rw [← swapped]
    exact addFriendToUser_eq manager different.symm distinct cachedB cachedA
  · exact add_eq manager different cachedA cachedB
  · rw [← swapped]
    exact add_eq manager different.symm cachedB cachedA
  · rw [delete_eq _ different friendsA friendsB]
    exact congrArg (fun users => (true, { manager with allCachedUsers := users }))
      (map_part_befriend unlistedB unlistedA)
  · rw [delete_eq _ different.symm friendsB friendsA, User.part_comm different.symm]
    exact congrArg (fun users => (true, { manager with allCachedUsers := users }))
      (map_part_befriend unlistedB unlistedA)

theorem added_friendship_undone_backwards :
    ∃ added : UserManager,
      (⟨[cachedBalloon 2, cachedBalloon 3, cachedBalloon 1], []⟩ :
        UserManager).addFriendToUser 1 2 = (true, added) ∧
      added.updateUserRelationshipInMemory 2 1 .delete =
        (true, ⟨[cachedBalloon 2, cachedBalloon 3, cachedBalloon 1], []⟩) := by
  obtain ⟨added, ⟨adds, -⟩, -, -, deletes⟩ :=
    @added_friendship_undone ⟨[cachedBalloon 2, cachedBalloon 3, cachedBalloon 1], []⟩ 1 2
      (by decide) (by decide) (by decide) (by decide) (by decide) (by decide)
  exact ⟨added, adds, deletes⟩

end UserManager

end Talko.Service
