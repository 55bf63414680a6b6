import Mathlib.Data.List.Nodup
import Talko.Service.AccountsProperties
import Talko.Service.FriendTeams

/-!
# When the cached teams follow the table

`loadRelationshipFromDb` reads an empty team name as the default one, and the statements and
the loops of the operations compare the stored and the loaded name. They part company where
a name is empty on one side and the default on the other.
-/

set_option autoImplicit false

namespace Talko.Service

open Talko.Library

/-!
## Lists of friends
-/

def friendidsOf (friends : List FriendInfo) : List Int :=
  friends.map (·.friendid)

namespace Relationship

theorem involves_iff (row : Relationship) (userid : Int) :
    row.involves userid = true ↔ row.userId1 = userid ∨ row.userId2 = userid := by
  simp [involves]

theorem friendOf_friendid (row : Relationship) (userid : Int) :
    (row.friendOf userid).friendid =
      if row.userId1 = userid then row.userId2 else row.userId1 := by
  unfold friendOf
  split
  · rfl
  · rfl

theorem setMarkname_ids (userid friendid : Int) (new : String) (row : Relationship) :
    (row.setMarkname userid friendid new).userId1 = row.userId1 ∧
      (row.setMarkname userid friendid new).userId2 = row.userId2 := by
  unfold setMarkname
  split <;> split <;> exact ⟨rfl, rfl⟩

theorem setTeam_ids (userid friendid : Int) (new : String) (row : Relationship) :
    (row.setTeam userid friendid new).userId1 = row.userId1 ∧
      (row.setTeam userid friendid new).userId2 = row.userId2 := by
  unfold setTeam
  split <;> split <;> exact ⟨rfl, rfl⟩

/-- The name behind an `UPDATE` or an assignment that replaces one name by another. -/
def renamed (new old teamname : String) : String :=
  if teamname = old then new else teamname

end Relationship

theorem loaded_distinct {relationships : List Relationship} (formed : FormedTable relationships)
    (userid : Int) :
    (friendidsOf (UserManager.loadRelationshipFromDb relationships userid)).Nodup := by
  have rows : (relationships.filter (·.involves userid)).Nodup :=
    (formed.single.of_map _).filter _
  rw [friendidsOf, UserManager.loadRelationshipFromDb, List.map_map]
  refine rows.map_on ?_
  intro first inFirst second inSecond same
  obtain ⟨memberFirst, involvesFirst⟩ := List.mem_filter.mp inFirst
  obtain ⟨memberSecond, involvesSecond⟩ := List.mem_filter.mp inSecond
  have orderFirst := formed.ordered first memberFirst
  have orderSecond := formed.ordered second memberSecond
  rw [Relationship.involves_iff] at involvesFirst involvesSecond
  simp only [Function.comp_apply, Relationship.friendOf_friendid] at same
  apply List.inj_on_of_nodup_map formed.single memberFirst memberSecond
  rw [Prod.mk.injEq]
  split at same
  · split at same
    · omega
    · omega
  · split at same
    · omega
    · omega

/-!
## Edits
-/

namespace UserManager

/-- What no operation changes: the form of the table, the ids of the users and the friends
that each of them has. -/
structure Kept (manager : UserManager) : Prop where
  formed : FormedTable manager.relationships
  distinct : (manager.allCachedUsers.map (·.userid)).Nodup
  ids : ∀ user ∈ manager.allCachedUsers, friendidsOf user.friends =
    friendidsOf (loadRelationshipFromDb manager.relationships user.userid)

/-- An operation of one user: an edit of the rows that no other user sees and an edit of the
friends in the user's list. -/
structure Edits (manager : UserManager) (userid : Int) (rowEdit : Relationship → Relationship)
    (friendEdit : FriendInfo → FriendInfo) (after : UserManager) : Prop where
  table : after.relationships = manager.relationships.map rowEdit
  users : after.allCachedUsers = manager.allCachedUsers.map fun user =>
    if user.userid = userid then { user with friends := user.friends.map friendEdit } else user
  rowIds : ∀ row, (rowEdit row).userId1 = row.userId1 ∧ (rowEdit row).userId2 = row.userId2
  friendIds : ∀ friend, (friendEdit friend).friendid = friend.friendid
  others : ∀ row other, other ≠ userid → row.involves other = true →
    (rowEdit row).friendOf other = row.friendOf other

section

variable {manager after : UserManager} {userid : Int} {rowEdit : Relationship → Relationship}
  {friendEdit : FriendInfo → FriendInfo}

theorem Edits.involves (edits : manager.Edits userid rowEdit friendEdit after)
    (row : Relationship) (other : Int) :
    (rowEdit row).involves other = row.involves other := by
  obtain ⟨first, second⟩ := edits.rowIds row
  rw [Relationship.involves, first, second]
  rfl

theorem Edits.loaded_eq (edits : manager.Edits userid rowEdit friendEdit after) (other : Int) :
    loadRelationshipFromDb after.relationships other =
      (manager.relationships.filter (·.involves other)).map
        fun row => (rowEdit row).friendOf other := by
  have kept : (fun row => (rowEdit row).involves other) = fun row => row.involves other :=
    funext fun row => edits.involves row other
  rw [loadRelationshipFromDb, edits.table, List.filter_map, List.map_map]
  change ((manager.relationships.filter fun row => (rowEdit row).involves other).map _) = _
  rw [kept]
  rfl

theorem Edits.loaded_friendids (edits : manager.Edits userid rowEdit friendEdit after)
    (other : Int) :
    friendidsOf (loadRelationshipFromDb after.relationships other) =
      friendidsOf (loadRelationshipFromDb manager.relationships other) := by
  rw [edits.loaded_eq, loadRelationshipFromDb, friendidsOf, friendidsOf, List.map_map,
    List.map_map]
  refine List.map_congr_left ?_
  intro row _
  obtain ⟨first, second⟩ := edits.rowIds row
  simp only [Function.comp_apply, Relationship.friendOf_friendid, first, second]

theorem Edits.kept (edits : manager.Edits userid rowEdit friendEdit after) (kept : manager.Kept) :
    after.Kept := by
  refine ⟨⟨?_, ?_⟩, ?_, ?_⟩
  · rw [edits.table]
    intro row member
    obtain ⟨old, inside, rfl⟩ := List.mem_map.mp member
    obtain ⟨first, second⟩ := edits.rowIds old
    rw [first, second]
    exact kept.formed.ordered old inside
  · have pairs : (manager.relationships.map rowEdit).map (fun row => (row.userId1, row.userId2)) =
        manager.relationships.map fun row => (row.userId1, row.userId2) := by
      rw [List.map_map]
      refine List.map_congr_left ?_
      intro row _
      obtain ⟨first, second⟩ := edits.rowIds row
      simp only [Function.comp_apply, first, second]
    rw [edits.table, pairs]
    exact kept.formed.single
  · have ids : after.allCachedUsers.map (·.userid) = manager.allCachedUsers.map (·.userid) := by
      rw [edits.users, List.map_map]
      refine List.map_congr_left ?_
      intro user _
      simp only [Function.comp_apply]
      split
      · rfl
      · rfl
    rw [ids]
    exact kept.distinct
  · rw [edits.users]
    intro user member
    rw [edits.loaded_friendids]
    obtain ⟨old, inside, rfl⟩ := List.mem_map.mp member
    have before := kept.ids old inside
    split
    · have same : friendidsOf (old.friends.map friendEdit) = friendidsOf old.friends := by
        rw [friendidsOf, List.map_map]
        exact List.map_congr_left fun friend _ => edits.friendIds friend
      exact same.trans before
    · exact before

end

end UserManager

/-!
## The names that keep the cache in step
-/

namespace UserManager

end UserManager

end Talko.Service
