import Talko.Service.FriendLists

/-!
# Rosters

What the lookups of `user_manager.cpp` tell of a user's friends. `getFriendInfoByUserId` copies
the list of the first user with the id, and appends for each entry the first cached user of
that id; an entry whose user is not cached is left out. It reports success in any case.
-/

set_option autoImplicit false

namespace Talko.Service

open Talko.Library

namespace UserManager

/-- The entries of the list that the lookup copies. -/
def friendInfo (manager : UserManager) (userid : Int) : List FriendInfo :=
  ((manager.getUserInfoByUserId userid).map (·.friends)).getD []

/-- `friends` is what the caller's list holds before. -/
def getFriendInfoByUserId (manager : UserManager) (userid : Int) (friends : List User) :
    Bool × List User :=
  (true, friends ++ (manager.friendInfo userid).filterMap fun entry =>
    manager.getUserInfoByUserId entry.friendid)

/-- The loop goes on behind a user with the id who does not list the friend. -/
def getFriendMarknameByUserId (manager : UserManager) (userid1 friendid : Int) : Option String :=
  manager.allCachedUsers.findSome? fun user =>
    if user.userid = userid1 then
      (user.friends.find? (·.friendid = friendid)).map (·.markname)
    else none

/-- The users that the lookup appends. -/
def roster (manager : UserManager) (userid : Int) : List User :=
  (manager.getFriendInfoByUserId userid []).2

/-!
## Lookups among users with distinct ids
-/

theorem getUserInfoByUserId_of_mem {manager : UserManager}
    (distinct : (manager.allCachedUsers.map (·.userid)).Nodup) {user : User}
    (member : user ∈ manager.allCachedUsers) :
    manager.getUserInfoByUserId user.userid = some user := by
  unfold getUserInfoByUserId
  cases found : manager.allCachedUsers.find? (·.userid = user.userid) with
  | none =>
      have none := List.find?_eq_none.mp found user member
      exact absurd (decide_eq_true rfl) none
  | some other =>
      have named := List.find?_some found
      have same : other.userid = user.userid := of_decide_eq_true named
      have among := List.mem_of_find?_eq_some found
      rw [List.inj_on_of_nodup_map distinct among member same]

theorem mem_of_getUserInfoByUserId {manager : UserManager} {userid : Int} {user : User}
    (found : manager.getUserInfoByUserId userid = some user) :
    user ∈ manager.allCachedUsers ∧ user.userid = userid := by
  have named := List.find?_some found
  exact ⟨List.mem_of_find?_eq_some found, of_decide_eq_true named⟩

theorem roster_of_mem {manager : UserManager}
    (distinct : (manager.allCachedUsers.map (·.userid)).Nodup) {user : User}
    (member : user ∈ manager.allCachedUsers) :
    manager.roster user.userid = user.friendids.filterMap manager.getUserInfoByUserId := by
  change [] ++ List.filterMap _ _ = _
  rw [friendInfo, getUserInfoByUserId_of_mem distinct member, User.friendids, List.filterMap_map]
  rfl

theorem mem_roster_iff {manager : UserManager}
    (distinct : (manager.allCachedUsers.map (·.userid)).Nodup) {user : User}
    (member : user ∈ manager.allCachedUsers) (friend : User) :
    friend ∈ manager.roster user.userid ↔
      friend ∈ manager.allCachedUsers ∧ friend.userid ∈ user.friendids := by
  rw [roster_of_mem distinct member, List.mem_filterMap]
  constructor
  · rintro ⟨friendid, listed, found⟩
    obtain ⟨cached, same⟩ := mem_of_getUserInfoByUserId found
    exact ⟨cached, same ▸ listed⟩
  · rintro ⟨cached, listed⟩
    exact ⟨friend.userid, listed, getUserInfoByUserId_of_mem distinct cached⟩

/-- The ids in a roster stand in the order of the list. -/
theorem roster_userids {manager : UserManager}
    (distinct : (manager.allCachedUsers.map (·.userid)).Nodup) {user : User}
    (member : user ∈ manager.allCachedUsers) :
    (manager.roster user.userid).map (·.userid) =
      user.friendids.filter (manager.getUserInfoByUserId · |>.isSome) := by
  rw [roster_of_mem distinct member]
  induction user.friendids with
  | nil => rfl
  | cons friendid rest ih =>
      rw [List.filterMap_cons, List.filter_cons]
      cases found : manager.getUserInfoByUserId friendid with
      | none => exact ih
      | some friend =>
          rw [Option.isSome_some, if_pos rfl, List.map_cons, ih,
            (mem_of_getUserInfoByUserId found).2]

theorem getFriendMarknameByUserId_isSome_iff {manager : UserManager}
    (distinct : (manager.allCachedUsers.map (·.userid)).Nodup) {user : User}
    (member : user ∈ manager.allCachedUsers) (friendid : Int) :
    (manager.getFriendMarknameByUserId user.userid friendid).isSome = true ↔
      friendid ∈ user.friendids := by
  unfold getFriendMarknameByUserId
  rw [List.isSome_findSome?, List.any_eq_true, ← User.lists_iff, User.lists, List.any_eq_true]
  constructor
  · rintro ⟨other, among, found⟩
    split at found
    · next same =>
        rw [List.inj_on_of_nodup_map distinct among member same, Option.isSome_map,
          List.isSome_find?, List.any_eq_true] at found
        exact found
    · cases found
  · intro listed
    refine ⟨user, member, ?_⟩
    rw [if_pos rfl, Option.isSome_map, List.isSome_find?, List.any_eq_true]
    exact listed

end UserManager

namespace Accounts

/-- What the rosters tell after every run of the manager's calls that adds only what is new:
nobody is in a roster twice or in their own, two cached users are in each other's or in neither's,
the order is that of the list, and a mark name is found for exactly the listed friends. -/
theorem rosters_mutual {accounts : Accounts} (distinct : accounts.userids.Nodup)
    (set : FriendSet accounts.allCachedUsers) (actions : List FriendStep)
    (new : Guarded friendStep AddsNew accounts actions) :
    let manager := (run friendStep accounts actions).toUserManager
    ∀ a ∈ manager.allCachedUsers,
      ((manager.roster a.userid).map (·.userid)).Nodup ∧ a ∉ manager.roster a.userid ∧
        ((manager.roster a.userid).map (·.userid)).Sublist a.friendids ∧
        ∀ b ∈ manager.allCachedUsers,
          (b ∈ manager.roster a.userid ↔ a ∈ manager.roster b.userid) ∧
            (b ∈ manager.roster a.userid ↔
              (manager.getFriendMarknameByUserId a.userid b.userid).isSome = true) := by
  intro manager a memberA
  have related : (run friendStep accounts actions).Related :=
    run_invariant Related (fun _ _ before adds => friendStep_related before adds)
      ⟨set, distinct⟩ new
  have ids := UserManager.roster_userids related.distinct memberA
  have within : ((manager.roster a.userid).map (·.userid)).Sublist a.friendids := by
    rw [ids]
    exact List.filter_sublist
  refine ⟨within.nodup (related.unrepeated a memberA), ?_, within, ?_⟩
  · rw [UserManager.mem_roster_iff related.distinct memberA]
    exact fun self => related.toFriendSet.not_mem_self memberA self.2
  · intro b memberB
    have both := related.toFriendSet.mem_symmetric memberA memberB
    have first : b ∈ manager.roster a.userid ↔ b.userid ∈ a.friendids :=
      (UserManager.mem_roster_iff related.distinct memberA b).trans (and_iff_right memberB)
    have second : a ∈ manager.roster b.userid ↔ a.userid ∈ b.friendids :=
      (UserManager.mem_roster_iff related.distinct memberB a).trans (and_iff_right memberA)
    have marked :=
      UserManager.getFriendMarknameByUserId_isSome_iff related.distinct memberA b.userid
    exact ⟨first.trans (both.trans second.symm), first.trans marked.symm⟩

private def twoStrangers : Accounts :=
  (Accounts.new.pushBack (cachedBalloon 1)).pushBack (cachedBalloon 2)

theorem befriended_not_in_own_roster :
    let manager := (run friendStep twoStrangers [.addFriendToUser 1 2]).toUserManager
    ∀ a ∈ manager.allCachedUsers, a ∉ manager.roster a.userid := by
  have new : Guarded friendStep AddsNew twoStrangers [.addFriendToUser 1 2] := by
    refine ⟨?_, trivial⟩
    unfold AddsNew NewPair
    decide
  intro manager a member
  exact (rosters_mutual (by decide) ⟨by decide, by decide, by decide⟩ _ new a member).2.1

end Accounts

end Talko.Service
