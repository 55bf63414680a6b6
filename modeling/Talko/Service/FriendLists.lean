import Talko.Library.KeyedList
import Talko.Service.AccountsProperties
import Talko.Service.UserManagerProperties

/-!
# The friend lists as a relation

The lists of the cached users as the operations of `user_manager.cpp` leave them. Deleting
keeps a symmetric relation without repetitions and self-entries; adding does not look
whether the two are friends already, or whether they are the same user.
-/

set_option autoImplicit false

namespace Talko.Service

open Talko.Library

namespace UserManager

/-- The body of the loop of `addFriendToUser`. Unlike the loop of
`updateUserRelationshipInMemory`, it looks at a first user also as a second one. -/
def addFriendBody (userid friendid : Int) (found : PairFound) (user : User) :
    User × PairFound :=
  let first := if user.userid = userid then
      (user.appendFriend friendid, { found with first := true })
    else (user, found)
  if user.userid = friendid then
    (first.1.appendFriend userid, { first.2 with second := true })
  else first

/-- The loop of `addFriendToUser`, which returns as soon as both users are found. -/
def addFriendLoop (userid friendid : Int) : PairFound → List User → Bool × List User
  | _, [] => (false, [])
  | found, user :: rest =>
      let worked := addFriendBody userid friendid found user
      if worked.2.first && worked.2.second then (true, worked.1 :: rest)
      else
        let later := addFriendLoop userid friendid worked.2 rest
        (later.1, worked.1 :: later.2)

def addFriendToUser (manager : UserManager) (userid friendid : Int) : Bool × UserManager :=
  let after := addFriendLoop userid friendid ⟨false, false⟩ manager.allCachedUsers
  (after.1, { manager with allCachedUsers := after.2 })

end UserManager

inductive FriendStep where
  | addUser (u : NewUser) (answer : InsertAnswer)
  | addGroup (groupname : String) (ownerid : Int) (answer : InsertAnswer)
  | addFriendToUser (userid friendid : Int)
  | deleteFriendToUser (userid friendid : Int)
  | updateUserRelationshipInMemory (userid target : Int) (operation : FriendOperation)
  deriving DecidableEq, Repr

namespace Accounts

/-- The accounts whose manager a call has changed. -/
def withManager (accounts : Accounts) (manager : UserManager) : Accounts :=
  { accounts with toUserManager := manager }

def friendStep (accounts : Accounts) : FriendStep → Accounts
  | .addUser u answer => (accounts.addUser u answer).2
  | .addGroup groupname ownerid answer => (accounts.addGroup groupname ownerid answer).2
  | .addFriendToUser userid friendid =>
      accounts.withManager (accounts.toUserManager.addFriendToUser userid friendid).2
  | .deleteFriendToUser userid friendid =>
      accounts.withManager (accounts.toUserManager.deleteFriendToUser userid friendid).2
  | .updateUserRelationshipInMemory userid target operation =>
      accounts.withManager
        (accounts.toUserManager.updateUserRelationshipInMemory userid target operation).2

end Accounts

/-!
## Lists
-/

namespace User

def friendids (user : User) : List Int :=
  user.friends.map (·.friendid)

theorem lists_iff (user : User) (friendid : Int) :
    user.lists friendid = true ↔ friendid ∈ user.friendids := by
  simp [lists, friendids]

theorem friendids_appendFriend (user : User) (friendid : Int) :
    (user.appendFriend friendid).friendids = user.friendids ++ [friendid] := by
  simp [appendFriend, friendids]

theorem friendids_eraseFriend_sublist (user : User) (friendid : Int) :
    (user.eraseFriend friendid).1.friendids.Sublist user.friendids := by
  unfold eraseFriend
  split
  · exact List.eraseP_sublist.map _
  · exact List.Sublist.refl _

theorem mem_friendids_eraseFriend {user : User} (unrepeated : user.friendids.Nodup)
    (friendid other : Int) :
    other ∈ (user.eraseFriend friendid).1.friendids ↔
      other ≠ friendid ∧ other ∈ user.friendids := by
  have erased : (user.friends.eraseP (·.friendid = friendid)).map (·.friendid) =
      user.friendids.erase friendid := by
    rw [friendids, List.erase_eq_eraseP', List.eraseP_map]
    rfl
  unfold eraseFriend
  split
  · change other ∈ (user.friends.eraseP (·.friendid = friendid)).map (·.friendid) ↔ _
    rw [erased, unrepeated.mem_erase_iff]
  · next unlisted =>
      rw [lists_iff] at unlisted
      refine ⟨fun listed => ⟨?_, listed⟩, fun both => both.2⟩
      intro same
      exact unlisted (same ▸ listed)

/-- The two ends of a pair are edited, every other user is left alone. -/
def editPair (a b : Int) (first second : User → User) (user : User) : User :=
  if user.userid = a then first user else if user.userid = b then second user else user

def befriend (a b : Int) : User → User :=
  editPair a b (·.appendFriend b) (·.appendFriend a)

def part (a b : Int) : User → User :=
  editPair a b (fun user => (user.eraseFriend b).1) (fun user => (user.eraseFriend a).1)

theorem editPair_of_neither {a b : Int} {first second : User → User} {user : User}
    (notFirst : user.userid ≠ a) (notSecond : user.userid ≠ b) :
    editPair a b first second user = user := by
  rw [editPair, if_neg notFirst, if_neg notSecond]

end User

/-!
## What the operations do to the lists
-/

namespace UserManager

theorem forEachUser_map {body : PairFound → User → User × PairFound} {edit : User → User}
    {users : List User} (same : ∀ found, ∀ user ∈ users, (body found user).1 = edit user)
    (found : PairFound) : (forEachUser body found users).1 = users.map edit := by
  induction users generalizing found with
  | nil => rfl
  | cons user rest ih =>
      simp only [forEachUser, List.map_cons, same found user List.mem_cons_self]
      rw [ih fun found other member => same found other (List.mem_cons_of_mem _ member)]

theorem addBody_fst (a b : Int) (found : PairFound) (user : User) :
    (addBody a b found user).1 = user.befriend a b := by
  unfold addBody User.befriend User.editPair
  split
  · rfl
  · split
    · rfl
    · rfl

theorem deleteBody_fst {a b : Int} (different : a ≠ b) (found : PairFound) (user : User) :
    (deleteBody a b found user).1 = user.part a b := by
  unfold User.part User.editPair
  by_cases isFirst : user.userid = a
  · simp [deleteBody, deleteFirst, deleteSecond, isFirst, different]
  · by_cases isSecond : user.userid = b
    · simp [deleteBody, deleteFirst, deleteSecond, isSecond, different.symm]
    · simp [deleteBody, deleteFirst, deleteSecond, isFirst, isSecond]

theorem deleteBody_self {a : Int} {user : User} (unlisted : user.userid = a → user.lists a = false)
    (found : PairFound) : (deleteBody a a found user).1 = user := by
  by_cases isFirst : user.userid = a
  · have kept : (user.eraseFriend a).1 = user := by simp [User.eraseFriend, unlisted isFirst]
    unfold deleteBody deleteFirst deleteSecond
    rw [if_pos isFirst]
    dsimp only
    rw [kept]
    split
    · rfl
    · exact kept
  · simp [deleteBody, deleteFirst, deleteSecond, isFirst]

theorem addFriendBody_eq {a b : Int} (different : a ≠ b) (found : PairFound) (user : User) :
    addFriendBody a b found user =
      (user.befriend a b,
        ⟨found.first || user.userid = a, found.second || user.userid = b⟩) := by
  unfold addFriendBody User.befriend User.editPair
  by_cases isFirst : user.userid = a
  · simp [isFirst, different]
  · by_cases isSecond : user.userid = b
    · simp [isSecond, different.symm]
    · simp [isFirst, isSecond]

theorem addFriendLoop_of_absent {a b : Int} {users : List User}
    (absent : ∀ user ∈ users, user.userid ≠ a ∧ user.userid ≠ b) (found : PairFound) :
    (addFriendLoop a b found users).2 = users := by
  induction users generalizing found with
  | nil => rfl
  | cons user rest ih =>
      obtain ⟨⟨notFirst, notSecond⟩, later⟩ := List.forall_mem_cons.mp absent
      have untouched : addFriendBody a b found user = (user, found) := by
        simp [addFriendBody, notFirst, notSecond]
      rw [addFriendLoop, untouched]
      dsimp only
      split
      · rfl
      · rw [ih later]

/-- The loop ends before the end of the list only when nobody is left to edit. -/
theorem addFriendLoop_snd {a b : Int} (different : a ≠ b) {users : List User}
    (distinct : (users.map (·.userid)).Nodup) {found : PairFound}
    (first : found.first = true → a ∉ users.map (·.userid))
    (second : found.second = true → b ∉ users.map (·.userid)) :
    (addFriendLoop a b found users).2 = users.map (User.befriend a b) := by
  induction users generalizing found with
  | nil => rfl
  | cons user rest ih =>
      rw [List.map_cons, List.nodup_cons] at distinct
      obtain ⟨fresh, distinctRest⟩ := distinct
      have firstDone : (found.first || user.userid = a) = true → a ∉ rest.map (·.userid) := by
        intro done member
        rcases Bool.or_eq_true_iff.mp done with before | here
        · exact first before (List.mem_cons_of_mem _ member)
        · exact fresh (of_decide_eq_true here ▸ member)
      have secondDone : (found.second || user.userid = b) = true → b ∉ rest.map (·.userid) := by
        intro done member
        rcases Bool.or_eq_true_iff.mp done with before | here
        · exact second before (List.mem_cons_of_mem _ member)
        · exact fresh (of_decide_eq_true here ▸ member)
      rw [addFriendLoop, addFriendBody_eq different, List.map_cons]
      dsimp only
      split
      · next both =>
          obtain ⟨one, two⟩ := Bool.and_eq_true_iff.mp both
          have kept : rest.map (User.befriend a b) = rest := by
            apply map_eq_self
            intro other member
            apply User.editPair_of_neither
            · intro isFirst
              exact firstDone one (List.mem_map.mpr ⟨other, member, isFirst⟩)
            · intro isSecond
              exact secondDone two (List.mem_map.mpr ⟨other, member, isSecond⟩)
          rw [kept]
      · rw [ih distinctRest firstDone secondDone]

end UserManager

/-!
## The relation
-/

/-- A symmetric relation between the cached users, without repetitions and self-entries. -/
structure FriendSet (users : List User) : Prop where
  symmetric : ∀ a ∈ users, ∀ b ∈ users, a.lists b.userid = b.lists a.userid
  unrepeated : ∀ user ∈ users, user.friendids.Nodup
  irreflexive : ∀ user ∈ users, user.lists user.userid = false

/-- The two ids are those of the pair, in either order. -/
def IsPair (a b x y : Int) : Prop :=
  (x = a ∧ y = b) ∨ (x = b ∧ y = a)

theorem isPair_comm (a b x y : Int) : IsPair a b x y ↔ IsPair a b y x := by
  constructor
  · rintro (⟨first, second⟩ | ⟨first, second⟩)
    · exact .inr ⟨second, first⟩
    · exact .inl ⟨second, first⟩
  · rintro (⟨first, second⟩ | ⟨first, second⟩)
    · exact .inr ⟨second, first⟩
    · exact .inl ⟨second, first⟩

/-- A cached user of the pair is not its other end and does not list it. -/
def NewPair (a b : Int) (users : List User) : Prop :=
  ∀ user ∈ users,
    (user.userid = a → a ≠ b ∧ user.lists b = false) ∧
      (user.userid = b → a ≠ b ∧ user.lists a = false)

namespace User

theorem befriend_userid (a b : Int) (user : User) : (user.befriend a b).userid = user.userid := by
  unfold befriend editPair
  split
  · rfl
  · split
    · rfl
    · rfl

theorem part_userid (a b : Int) (user : User) : (user.part a b).userid = user.userid := by
  unfold part editPair
  split
  · exact eraseFriend_userid user b
  · split
    · exact eraseFriend_userid user a
    · rfl

theorem mem_befriend {a b : Int} {user : User} (different : user.userid = b → a ≠ b)
    (friendid : Int) :
    friendid ∈ (user.befriend a b).friendids ↔
      friendid ∈ user.friendids ∨ IsPair a b user.userid friendid := by
  unfold befriend editPair IsPair
  by_cases isFirst : user.userid = a
  · rw [if_pos isFirst, friendids_appendFriend, List.mem_append, List.mem_singleton]
    constructor
    · rintro (old | new)
      · exact .inl old
      · exact .inr (.inl ⟨isFirst, new⟩)
    · rintro (old | ⟨-, new⟩ | ⟨isSecond, -⟩)
      · exact .inl old
      · exact .inr new
      · exact absurd (isFirst.symm.trans isSecond) (different isSecond)
  · rw [if_neg isFirst]
    by_cases isSecond : user.userid = b
    · rw [if_pos isSecond, friendids_appendFriend, List.mem_append, List.mem_singleton]
      simp [isSecond, (different isSecond).symm]
    · rw [if_neg isSecond]
      simp [isFirst, isSecond]

theorem mem_part {a b : Int} {user : User} (different : a ≠ b)
    (unrepeated : user.friendids.Nodup) (friendid : Int) :
    friendid ∈ (user.part a b).friendids ↔
      friendid ∈ user.friendids ∧ ¬ IsPair a b user.userid friendid := by
  unfold part editPair IsPair
  by_cases isFirst : user.userid = a
  · rw [if_pos isFirst, mem_friendids_eraseFriend unrepeated]
    simp [isFirst, different, and_comm]
  · rw [if_neg isFirst]
    by_cases isSecond : user.userid = b
    · rw [if_pos isSecond, mem_friendids_eraseFriend unrepeated]
      simp [isSecond, different.symm, and_comm]
    · rw [if_neg isSecond]
      simp [isFirst, isSecond]

end User

namespace FriendSet

variable {users : List User}

theorem map {edit : User → User} (ids : ∀ user, (edit user).userid = user.userid)
    (symmetric : ∀ a ∈ users, ∀ b ∈ users,
      b.userid ∈ (edit a).friendids ↔ a.userid ∈ (edit b).friendids)
    (unrepeated : ∀ user ∈ users, (edit user).friendids.Nodup)
    (irreflexive : ∀ user ∈ users, user.userid ∉ (edit user).friendids) :
    FriendSet (users.map edit) := by
  refine ⟨?_, ?_, ?_⟩
  · intro a memberA b memberB
    obtain ⟨olda, inA, rfl⟩ := List.mem_map.mp memberA
    obtain ⟨oldb, inB, rfl⟩ := List.mem_map.mp memberB
    rw [ids, ids, Bool.eq_iff_iff, User.lists_iff, User.lists_iff]
    exact symmetric olda inA oldb inB
  · intro user member
    obtain ⟨old, inside, rfl⟩ := List.mem_map.mp member
    exact unrepeated old inside
  · intro user member
    obtain ⟨old, inside, rfl⟩ := List.mem_map.mp member
    rw [ids, Bool.eq_false_iff, ne_eq, User.lists_iff]
    exact irreflexive old inside

theorem mem_symmetric (set : FriendSet users) {a b : User} (memberA : a ∈ users)
    (memberB : b ∈ users) : b.userid ∈ a.friendids ↔ a.userid ∈ b.friendids := by
  rw [← User.lists_iff, ← User.lists_iff, set.symmetric a memberA b memberB]

theorem not_mem_self (set : FriendSet users) {user : User} (member : user ∈ users) :
    user.userid ∉ user.friendids := by
  rw [← User.lists_iff, set.irreflexive user member]
  exact Bool.false_ne_true

theorem befriend (set : FriendSet users) {a b : Int} (new : NewPair a b users) :
    FriendSet (users.map (User.befriend a b)) := by
  have mem : ∀ user ∈ users, ∀ friendid, friendid ∈ (user.befriend a b).friendids ↔
      friendid ∈ user.friendids ∨ IsPair a b user.userid friendid :=
    fun user member => User.mem_befriend fun isSecond => ((new user member).2 isSecond).1
  refine FriendSet.map (User.befriend_userid a b) ?_ ?_ ?_
  · intro p inP q inQ
    rw [mem p inP, mem q inQ, set.mem_symmetric inP inQ, isPair_comm]
  · intro user member
    have unrepeated := set.unrepeated user member
    have append : ∀ friendid, user.lists friendid = false →
        (user.appendFriend friendid).friendids.Nodup := by
      intro friendid unlisted
      rw [User.friendids_appendFriend]
      apply nodup_concat_of_not_mem unrepeated
      rw [← User.lists_iff, unlisted]
      exact Bool.false_ne_true
    unfold User.befriend User.editPair
    split
    · next isFirst => exact append b ((new user member).1 isFirst).2
    · split
      · next isSecond => exact append a ((new user member).2 isSecond).2
      · exact unrepeated
  · intro user member
    rw [mem user member]
    rintro (old | ⟨isFirst, same⟩ | ⟨isSecond, same⟩)
    · exact set.not_mem_self member old
    · exact ((new user member).1 isFirst).1 (isFirst.symm.trans same)
    · exact ((new user member).2 isSecond).1 (same.symm.trans isSecond)

theorem part (set : FriendSet users) {a b : Int} (different : a ≠ b) :
    FriendSet (users.map (User.part a b)) := by
  have mem : ∀ user ∈ users, ∀ friendid, friendid ∈ (user.part a b).friendids ↔
      friendid ∈ user.friendids ∧ ¬ IsPair a b user.userid friendid :=
    fun user member => User.mem_part different (set.unrepeated user member)
  refine FriendSet.map (User.part_userid a b) ?_ ?_ ?_
  · intro p inP q inQ
    rw [mem p inP, mem q inQ, set.mem_symmetric inP inQ, isPair_comm]
  · intro user member
    have unrepeated := set.unrepeated user member
    unfold User.part User.editPair
    split
    · exact (user.friendids_eraseFriend_sublist b).nodup unrepeated
    · split
      · exact (user.friendids_eraseFriend_sublist a).nodup unrepeated
      · exact unrepeated
  · intro user member
    rw [mem user member]
    intro listed
    exact set.not_mem_self member listed.1

theorem pushBack (set : FriendSet users) {user : User} (alone : user.friends = [])
    (unlisted : ∀ other ∈ users, other.lists user.userid = false) :
    FriendSet (users ++ [user]) := by
  have none : ∀ friendid, user.lists friendid = false := by
    intro friendid
    rw [User.lists, alone]
    rfl
  refine ⟨?_, ?_, ?_⟩
  · intro a memberA b memberB
    rcases List.mem_append.mp memberA with oldA | newA
    · rcases List.mem_append.mp memberB with oldB | newB
      · exact set.symmetric a oldA b oldB
      · rw [List.mem_singleton.mp newB, none, unlisted a oldA]
    · rw [List.mem_singleton.mp newA, none]
      rcases List.mem_append.mp memberB with oldB | newB
      · rw [unlisted b oldB]
      · rw [List.mem_singleton.mp newB, none]
  · intro other member
    rcases List.mem_append.mp member with old | new
    · exact set.unrepeated other old
    · rw [List.mem_singleton.mp new, User.friendids, alone]
      exact List.nodup_nil
  · intro other member
    rcases List.mem_append.mp member with old | new
    · exact set.irreflexive other old
    · rw [List.mem_singleton.mp new, none]

end FriendSet

namespace Accounts

/-- The id that the request gets is neither in use nor in a list, if the request succeeds. -/
def NewId (accounts : Accounts) (request : Request) (answer : InsertAnswer) : Prop :=
  answer.connects = true → answer.inserts = true →
    increment (accounts.base request) ∉ accounts.userids ∧
      ∀ user ∈ accounts.allCachedUsers, user.lists (increment (accounts.base request)) = false

/-- A friendship is added only between two different users who are not friends, and an entry
only under an id that nobody has or lists. -/
def AddsNew (accounts : Accounts) : FriendStep → Prop
  | .addUser u answer => accounts.NewId (.user u) answer
  | .addGroup groupname ownerid answer => accounts.NewId (.group groupname ownerid) answer
  | .addFriendToUser userid friendid => NewPair userid friendid accounts.allCachedUsers
  | .updateUserRelationshipInMemory userid target .add =>
      NewPair userid target accounts.allCachedUsers
  | _ => True

/-- The cached users with distinct ids and a relation between them. -/
structure Related (accounts : Accounts) : Prop extends FriendSet accounts.allCachedUsers where
  distinct : accounts.userids.Nodup

theorem Related.pushBack {accounts : Accounts} (related : accounts.Related) {user : User}
    (alone : user.friends = []) (unused : user.userid ∉ accounts.userids)
    (unlisted : ∀ other ∈ accounts.allCachedUsers, other.lists user.userid = false) :
    (accounts.pushBack user).Related := by
  refine ⟨related.toFriendSet.pushBack alone unlisted, ?_⟩
  rw [userids_pushBack]
  exact nodup_concat_of_not_mem related.distinct unused

theorem Related.bump {accounts : Accounts} (related : accounts.Related) (request : Request) :
    (accounts.bump request).Related := by
  have same := bump_allCachedUsers accounts request
  refine ⟨?_, ?_⟩
  · rw [same]
    exact related.toFriendSet
  · rw [userids, same]
    exact related.distinct

theorem Related.add {accounts : Accounts} (related : accounts.Related) {request : Request}
    {answer : InsertAnswer} (new : accounts.NewId request answer) :
    (accounts.add request answer).2.Related := by
  unfold Accounts.add
  split
  · next connects =>
      dsimp only
      split
      · next inserts =>
          obtain ⟨unused, unlisted⟩ := new connects inserts
          have same := bump_allCachedUsers accounts request
          apply (related.bump request).pushBack (Request.entry_friends _ request)
          · rw [Request.entry_userid, base_bump, userids, same]
            exact unused
          · rw [Request.entry_userid, base_bump, same]
            exact unlisted
      · exact related.bump request
  · exact related

/-- Editing every cached user keeps the ids. -/
theorem Related.map {accounts : Accounts} (related : accounts.Related) {edit : User → User}
    (ids : ∀ user, (edit user).userid = user.userid) {manager : UserManager}
    (edited : manager.allCachedUsers = accounts.allCachedUsers.map edit)
    (set : FriendSet (accounts.allCachedUsers.map edit)) :
    (accounts.withManager manager).Related := by
  refine ⟨?_, ?_⟩
  · change FriendSet manager.allCachedUsers
    rw [edited]
    exact set
  · have same : manager.allCachedUsers.map (·.userid) = accounts.userids := by
      rw [edited, List.map_map, userids]
      exact List.map_congr_left fun user _ => ids user
    change (manager.allCachedUsers.map (·.userid)).Nodup
    rw [same]
    exact related.distinct

theorem Related.unchanged {accounts : Accounts} (related : accounts.Related)
    {manager : UserManager} (same : manager.allCachedUsers = accounts.allCachedUsers) :
    (accounts.withManager manager).Related := by
  have ids : ∀ user : User, (id user).userid = user.userid := fun _ => rfl
  apply related.map ids
  · rw [same, List.map_id]
  · rw [List.map_id]
    exact related.toFriendSet

theorem Related.addFriendToUser {accounts : Accounts} (related : accounts.Related) {a b : Int}
    (new : NewPair a b accounts.allCachedUsers) :
    (accounts.withManager (accounts.toUserManager.addFriendToUser a b).2).Related := by
  by_cases same : a = b
  · -- A pair of one user with itself is new only when that user is not cached.
    have absent : ∀ user ∈ accounts.allCachedUsers, user.userid ≠ a ∧ user.userid ≠ b := by
      intro user member
      exact ⟨fun isFirst => ((new user member).1 isFirst).1 same,
        fun isSecond => ((new user member).2 isSecond).1 same⟩
    exact related.unchanged (UserManager.addFriendLoop_of_absent absent _)
  · exact related.map (User.befriend_userid a b)
      (UserManager.addFriendLoop_snd same related.distinct (by simp) (by simp))
      (related.toFriendSet.befriend new)

theorem friendStep_related {accounts : Accounts} (related : accounts.Related)
    {action : FriendStep} (new : accounts.AddsNew action) :
    (accounts.friendStep action).Related := by
  cases action with
  | addUser u answer => exact related.add new
  | addGroup groupname ownerid answer => exact related.add new
  | addFriendToUser userid friendid => exact related.addFriendToUser new
  | deleteFriendToUser userid friendid => exact related
  | updateUserRelationshipInMemory userid target operation =>
      cases operation with
      | add =>
          exact related.map (User.befriend_userid userid target)
            (UserManager.forEachUser_map (fun found user _ => UserManager.addBody_fst _ _ found user) _)
            (related.toFriendSet.befriend new)
      | delete =>
          by_cases different : userid = target
          · subst different
            have kept : ∀ found, ∀ user ∈ accounts.allCachedUsers,
                (UserManager.deleteBody userid userid found user).1 = id user := by
              intro found user member
              apply UserManager.deleteBody_self
              intro self
              rw [← self]
              exact related.irreflexive user member
            exact related.unchanged
              ((UserManager.forEachUser_map kept _).trans (List.map_id _))
          · exact related.map (User.part_userid userid target)
              (UserManager.forEachUser_map
                (fun found user _ => UserManager.deleteBody_fst different found user) _)
              (related.toFriendSet.part different)

/-- The friend lists stay a symmetric relation without repetitions and self-entries in every
run that adds only what is new. -/
theorem friends_related_of_new {accounts : Accounts} (distinct : accounts.userids.Nodup)
    (set : FriendSet accounts.allCachedUsers) (actions : List FriendStep)
    (new : Guarded friendStep AddsNew accounts actions) :
    FriendSet (run friendStep accounts actions).allCachedUsers := by
  have related : (run friendStep accounts actions).Related :=
    run_invariant Related (fun _ _ before adds => friendStep_related before adds)
      ⟨set, distinct⟩ new
  exact related.toFriendSet

private def twoMembers : Accounts :=
  (Accounts.new.pushBack (cachedBalloon 1)).pushBack (cachedBalloon 2)

/-- Adding the same friendship a second time repeats it in both lists. -/
theorem added_twice_repeats :
    FriendSet twoMembers.allCachedUsers ∧ twoMembers.userids.Nodup ∧
      ¬ FriendSet (run friendStep twoMembers
        [.addFriendToUser 1 2, .addFriendToUser 1 2]).allCachedUsers := by
  refine ⟨⟨by decide, by decide, by decide⟩, by decide, ?_⟩
  intro set
  have unrepeated := set.unrepeated
  revert unrepeated
  decide

theorem added_and_deleted_related :
    FriendSet (run friendStep twoMembers
      [.addFriendToUser 1 2, .updateUserRelationshipInMemory 2 1 .delete,
        .updateUserRelationshipInMemory 2 1 .add]).allCachedUsers := by
  refine friends_related_of_new (by decide) ⟨by decide, by decide, by decide⟩ _
    ⟨?_, trivial, ?_, trivial⟩
  · unfold AddsNew NewPair
    decide
  · unfold AddsNew NewPair
    decide

end Accounts

end Talko.Service
