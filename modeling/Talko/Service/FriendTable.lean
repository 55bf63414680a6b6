import Mathlib.Data.Set.Insert
import Mathlib.Data.Sym.Sym2
import Talko.Service.FriendLists
import Talko.Service.FriendTeamsProperties

/-!
# The table of friendships

What the calls that write `t_user_relationship` make of it, and what a restart reads from it.
The table stands for a set of unordered pairs: `makeFriendRelationshipInDB` puts a pair in,
`releaseFriendRelationshipInDBAndMemory` takes it out, and what edits teams and mark names
leaves the pairs alone. `init` gives every user the friends that the set has for it.
-/

set_option autoImplicit false

namespace Talko.Service

open Talko.Library

namespace UserManager

/-- The row that the `INSERT` makes. It does not name the columns of the mark names, which get
what the table has as their default. -/
def newRelationship (marknameDefault : String) (small greater : Int) : Relationship :=
  ⟨small, greater, marknameDefault, marknameDefault, defaultTeamname, defaultTeamname⟩

/-- It does not touch the cache: the call of `AddFriendToUser` in it is commented out. -/
def makeFriendRelationshipInDB (manager : UserManager) (marknameDefault : String)
    (smallUserid greaterUserid : Int) (answer : UpdateAnswer) : Bool × UserManager :=
  if smallUserid = greaterUserid then (false, manager)
  else
    let small := if smallUserid > greaterUserid then greaterUserid else smallUserid
    let greater := if smallUserid > greaterUserid then smallUserid else greaterUserid
    if answer.connects then
      if answer.first then
        (true, { manager with
          relationships :=
            manager.relationships ++ [newRelationship marknameDefault small greater] })
      else (false, manager)
    else (false, manager)

end UserManager

/-- A database that connects and executes as the answer says. -/
def UpdateAnswer.database (answer : UpdateAnswer) : DatabaseMysql where
  initialized := answer.connects
  execute
    | .deleteRelationship userId1 userId2, rows =>
        if answer.first then some (UserManager.unmatchedRows userId1 userId2 rows) else none

/-- A call that writes the table. -/
inductive TableStep where
  | makeFriend (marknameDefault : String) (userid friendid : Int) (answer : UpdateAnswer)
  | releaseFriend (userid friendid : Int) (answer : UpdateAnswer)
  | deleteTeam (userid : Int) (deletedteamname : String) (answer : UpdateAnswer)
  | modifyTeamName (userid : Int) (newteamname oldteamname : String) (answer : UpdateAnswer)
  | updateMarknameInDb (userid friendid : Int) (newmarkname : String) (answer : UpdateAnswer)
  | moveFriendToOtherTeam (userid friendid : Int) (newteamname : String) (answer : UpdateAnswer)
  deriving DecidableEq, Repr

/-- The call executed its first statement. -/
def UpdateAnswer.executes (answer : UpdateAnswer) : Prop :=
  answer.connects = true ∧ answer.first = true

instance (answer : UpdateAnswer) : Decidable answer.executes :=
  inferInstanceAs (Decidable (answer.connects = true ∧ answer.first = true))

/-- What the calls do to the set of the pairs. -/
def friendshipsAfter (friendships : Set (Sym2 Int)) : TableStep → Set (Sym2 Int)
  | .makeFriend _ userid friendid answer =>
      if userid ≠ friendid ∧ answer.executes then insert s(userid, friendid) friendships
      else friendships
  | .releaseFriend userid friendid answer =>
      if answer.executes then friendships \ {s(userid, friendid)} else friendships
  | _ => friendships

namespace Relationship

def pair (row : Relationship) : Sym2 Int :=
  s(row.userId1, row.userId2)

theorem pair_eq_iff (row : Relationship) (a b : Int) :
    row.pair = s(a, b) ↔ row.IsOf a b :=
  Sym2.eq_iff

end Relationship

namespace UserManager

/-- The pairs that have a row. -/
def friendships (manager : UserManager) : Set (Sym2 Int) :=
  {pair | ∃ row ∈ manager.relationships, row.pair = pair}

def tableStep (manager : UserManager) : TableStep → UserManager
  | .makeFriend marknameDefault userid friendid answer =>
      (manager.makeFriendRelationshipInDB marknameDefault userid friendid answer).2
  | .releaseFriend userid friendid answer =>
      (manager.releaseFriendRelationshipInDBAndMemory answer.database userid friendid).2
  | .deleteTeam userid deletedteamname answer =>
      (manager.deleteTeam userid deletedteamname answer).2
  | .modifyTeamName userid newteamname oldteamname answer =>
      (manager.modifyTeamName userid newteamname oldteamname answer).2
  | .updateMarknameInDb userid friendid newmarkname answer =>
      (manager.updateMarknameInDb userid friendid newmarkname answer).2
  | .moveFriendToOtherTeam userid friendid newteamname answer =>
      (manager.moveFriendToOtherTeam userid friendid newteamname answer).2

/-- A friendship is made only where there is none. -/
def MakesNew (manager : UserManager) : TableStep → Prop
  | .makeFriend _ userid friendid answer =>
      userid ≠ friendid → answer.executes → s(userid, friendid) ∉ manager.friendships
  | _ => True

/-!
## The table behind a call
-/

theorem makeFriend_relationships (manager : UserManager) (marknameDefault : String) (a b : Int)
    (answer : UpdateAnswer) :
    (manager.makeFriendRelationshipInDB marknameDefault a b answer).2.relationships =
      if a ≠ b ∧ answer.executes then
        manager.relationships ++ [newRelationship marknameDefault (min a b) (max a b)]
      else manager.relationships := by
  unfold makeFriendRelationshipInDB
  by_cases same : a = b
  · rw [if_pos same, if_neg fun both => both.1 same]
  · have small : (if a > b then b else a) = min a b := by
      split <;> omega
    have greater : (if a > b then a else b) = max a b := by
      split <;> omega
    rw [if_neg same, small, greater]
    cases connects : answer.connects with
    | false => simp [UpdateAnswer.executes, connects]
    | true =>
        cases first : answer.first with
        | false => simp [UpdateAnswer.executes, first]
        | true => simp [UpdateAnswer.executes, connects, first, same]

theorem release_relationships (manager : UserManager) (a b : Int) (answer : UpdateAnswer) :
    (manager.releaseFriendRelationshipInDBAndMemory answer.database a b).2.relationships =
      if a ≠ b ∧ answer.executes then unmatchedRows (min a b) (max a b) manager.relationships
      else manager.relationships := by
  by_cases same : a = b
  · rw [if_neg fun both => both.1 same, releaseFriendRelationshipInDBAndMemory, if_pos same]
  · rw [release_eq manager answer.database same]
    cases connects : answer.connects with
    | false => simp [UpdateAnswer.executes, UpdateAnswer.database, connects]
    | true =>
        cases first : answer.first with
        | false => simp [UpdateAnswer.executes, UpdateAnswer.database, connects, first]
        | true => simp [UpdateAnswer.executes, UpdateAnswer.database, connects, first, same]

/-- The ids in the rows of a table. -/
def rowIds (relationships : List Relationship) : List (Int × Int) :=
  relationships.map fun row => (row.userId1, row.userId2)

theorem rowIds_map {edit : Relationship → Relationship} (relationships : List Relationship)
    (ids : ∀ row, (edit row).userId1 = row.userId1 ∧ (edit row).userId2 = row.userId2) :
    rowIds (relationships.map edit) = rowIds relationships := by
  rw [rowIds, rowIds, List.map_map]
  refine List.map_congr_left fun row _ => ?_
  obtain ⟨first, second⟩ := ids row
  simp only [Function.comp_apply, first, second]

theorem replaceTeam_rowIds (manager : UserManager) (userid : Int) (new old : String)
    (answer : UpdateAnswer) :
    rowIds (manager.replaceTeam userid new old answer).2.relationships =
      rowIds manager.relationships := by
  have first : ∀ row : Relationship, (row.renameTeam1 userid new old).userId1 = row.userId1 ∧
      (row.renameTeam1 userid new old).userId2 = row.userId2 := by
    intro row
    unfold Relationship.renameTeam1
    split <;> exact ⟨rfl, rfl⟩
  have second : ∀ row : Relationship, (row.renameTeam2 userid new old).userId1 = row.userId1 ∧
      (row.renameTeam2 userid new old).userId2 = row.userId2 := by
    intro row
    unfold Relationship.renameTeam2
    split <;> exact ⟨rfl, rfl⟩
  unfold replaceTeam
  split
  · split
    · dsimp only
      split
      · exact (rowIds_map _ second).trans (rowIds_map _ first)
      · exact rowIds_map _ first
    · rfl
  · rfl

/-- What a call does to the ids of the rows. -/
theorem tableStep_rowIds (manager : UserManager) (action : TableStep) :
    rowIds (manager.tableStep action).relationships =
      match action with
      | .makeFriend _ a b answer =>
          if a ≠ b ∧ answer.executes then
            rowIds manager.relationships ++ [(min a b, max a b)]
          else rowIds manager.relationships
      | .releaseFriend a b answer =>
          if a ≠ b ∧ answer.executes then
            (rowIds manager.relationships).filter (· ≠ (min a b, max a b))
          else rowIds manager.relationships
      | _ => rowIds manager.relationships := by
  cases action with
  | makeFriend marknameDefault a b answer =>
      dsimp only [tableStep]
      rw [makeFriend_relationships]
      split
      · exact List.map_append
      · rfl
  | releaseFriend a b answer =>
      dsimp only [tableStep]
      rw [release_relationships]
      split
      · rw [unmatchedRows, rowIds, rowIds, List.filter_map]
        congr 1
        apply List.filter_congr
        intro row _
        simp [Prod.ext_iff]
      · rfl
  | deleteTeam userid deletedteamname answer =>
      exact replaceTeam_rowIds manager userid _ deletedteamname answer
  | modifyTeamName userid newteamname oldteamname answer =>
      exact replaceTeam_rowIds manager userid newteamname oldteamname answer
  | updateMarknameInDb userid friendid newmarkname answer =>
      unfold tableStep updateMarknameInDb
      dsimp only
      split
      · exact rowIds_map _ (Relationship.setMarkname_ids userid friendid newmarkname)
      · rfl
  | moveFriendToOtherTeam userid friendid newteamname answer =>
      unfold tableStep moveFriendToOtherTeam
      dsimp only
      split
      · exact rowIds_map _ (Relationship.setTeam_ids userid friendid newteamname)
      · rfl

/-!
## The set behind the table
-/

/-- The smaller id stands first in every row. -/
def OrderedRows (relationships : List Relationship) : Prop :=
  ∀ ids ∈ rowIds relationships, ids.1 < ids.2

theorem formedTable_iff (relationships : List Relationship) :
    FormedTable relationships ↔ OrderedRows relationships ∧ (rowIds relationships).Nodup := by
  constructor
  · intro formed
    refine ⟨fun ids member => ?_, formed.single⟩
    obtain ⟨row, among, rfl⟩ := List.mem_map.mp member
    exact formed.ordered row among
  · rintro ⟨ordered, single⟩
    refine ⟨fun row member => ?_, single⟩
    exact ordered (row.userId1, row.userId2) (List.mem_map.mpr ⟨row, member, rfl⟩)

theorem mem_friendships_iff {manager : UserManager} (ordered : OrderedRows manager.relationships)
    (a b : Int) :
    s(a, b) ∈ manager.friendships ↔ (min a b, max a b) ∈ rowIds manager.relationships := by
  constructor
  · rintro ⟨row, member, same⟩
    have ids : (row.userId1, row.userId2) ∈ rowIds manager.relationships :=
      List.mem_map.mpr ⟨row, member, rfl⟩
    have less : row.userId1 < row.userId2 := ordered _ ids
    suffices pair : (row.userId1, row.userId2) = (min a b, max a b) from pair ▸ ids
    rw [Prod.mk.injEq]
    obtain ⟨first, second⟩ | ⟨first, second⟩ := (row.pair_eq_iff a b).mp same
    · omega
    · omega
  · intro member
    obtain ⟨row, among, same⟩ := List.mem_map.mp member
    rw [Prod.mk.injEq] at same
    refine ⟨row, among, (row.pair_eq_iff a b).mpr ?_⟩
    unfold Relationship.IsOf
    omega

theorem tableStep_ordered {manager : UserManager} (ordered : OrderedRows manager.relationships)
    (action : TableStep) : OrderedRows (manager.tableStep action).relationships := by
  unfold OrderedRows
  rw [tableStep_rowIds]
  cases action with
  | makeFriend marknameDefault a b answer =>
      dsimp only
      split
      · next executed =>
          intro ids member
          rcases List.mem_append.mp member with old | new
          · exact ordered ids old
          · have different := executed.1
            rw [List.mem_singleton.mp new]
            dsimp only
            omega
      · exact ordered
  | releaseFriend a b answer =>
      dsimp only
      split
      · intro ids member
        exact ordered ids (List.mem_filter.mp member).1
      · exact ordered
  | _ => exact ordered

/-- A call does to the pairs of the table what it says. -/
theorem tableStep_friendships {manager : UserManager}
    (ordered : OrderedRows manager.relationships) (action : TableStep) :
    (manager.tableStep action).friendships = friendshipsAfter manager.friendships action := by
  have after := tableStep_ordered ordered action
  ext pair
  induction pair using Sym2.ind with
  | _ x y =>
    rw [mem_friendships_iff after, tableStep_rowIds]
    cases action with
    | makeFriend marknameDefault a b answer =>
        dsimp only [friendshipsAfter]
        split
        · rw [List.mem_append, List.mem_singleton, Set.mem_insert_iff,
            mem_friendships_iff ordered, or_comm, Prod.mk.injEq, Sym2.eq_iff]
          have same : (min x y = min a b ∧ max x y = max a b) ↔
              (x = a ∧ y = b ∨ x = b ∧ y = a) := by omega
          rw [same]
        · rw [mem_friendships_iff ordered]
    | releaseFriend a b answer =>
        dsimp only [friendshipsAfter]
        have same : (min x y = min a b ∧ max x y = max a b) ↔
            (x = a ∧ y = b ∨ x = b ∧ y = a) := by omega
        by_cases executed : answer.executes
        · rw [if_pos executed, Set.mem_sdiff, Set.mem_singleton_iff,
            mem_friendships_iff ordered, Sym2.eq_iff, ← same]
          by_cases different : a ≠ b
          · rw [if_pos ⟨different, executed⟩, List.mem_filter, decide_eq_true_iff, ne_eq,
              Prod.mk.injEq]
          · -- the guard against a user as its own friend; an ordered table has no such row
            rw [if_neg fun both => different both.1]
            refine ⟨fun member => ⟨member, fun self => ?_⟩, fun both => both.1⟩
            have less := ordered _ member
            dsimp only at less
            omega
        · rw [if_neg executed, if_neg fun both => executed both.2, mem_friendships_iff ordered]
    | _ => rw [← mem_friendships_iff ordered]; rfl

theorem run_friendships {manager : UserManager} (ordered : OrderedRows manager.relationships)
    (actions : List TableStep) :
    OrderedRows (run tableStep manager actions).relationships ∧
      (run tableStep manager actions).friendships =
        run friendshipsAfter manager.friendships actions := by
  induction actions generalizing manager with
  | nil => exact ⟨ordered, rfl⟩
  | cons action rest ih =>
      have := ih (tableStep_ordered ordered action)
      rw [tableStep_friendships ordered] at this
      exact this

/-- A call leaves one row for each pair exactly when it makes no friendship that is there. -/
theorem tableStep_single_iff {manager : UserManager}
    (ordered : OrderedRows manager.relationships)
    (single : (rowIds manager.relationships).Nodup) (action : TableStep) :
    (rowIds (manager.tableStep action).relationships).Nodup ↔ manager.MakesNew action := by
  rw [tableStep_rowIds]
  cases action with
  | makeFriend marknameDefault a b answer =>
      dsimp only [MakesNew]
      rw [mem_friendships_iff ordered]
      split
      · next executed =>
          rw [List.nodup_append]
          constructor
          · rintro ⟨-, -, apart⟩ - - member
            exact apart _ member _ (List.mem_singleton.mpr rfl) rfl
          · intro fresh
            refine ⟨single, List.nodup_singleton _, fun ids member other new same => ?_⟩
            rw [List.mem_singleton.mp new] at same
            exact fresh executed.1 executed.2 (same ▸ member)
      · next idle =>
          exact iff_of_true single fun different executes => absurd ⟨different, executes⟩ idle
  | releaseFriend a b answer =>
      refine iff_of_true ?_ trivial
      dsimp only
      split
      · exact single.filter _
      · exact single
  | _ => exact iff_of_true single trivial

/-- From a table in its form, a run keeps the form at every point exactly when friendships are
made only where there are none: the `INSERT` does not look for the pair. -/
theorem table_formed_iff {manager : UserManager} (formed : FormedTable manager.relationships)
    (actions : List TableStep) :
    (∀ first, first <+: actions → FormedTable (run tableStep manager first).relationships) ↔
      Guarded tableStep MakesNew manager actions := by
  have start := (formedTable_iff _).mp formed
  refine forall_prefix_iff_guarded (fun manager : UserManager => OrderedRows manager.relationships)
    (fun manager : UserManager => FormedTable manager.relationships)
    (fun _ action ordered => tableStep_ordered ordered action) ?_ start.1 formed actions
  intro manager action ordered formed
  have single := ((formedTable_iff _).mp formed).2
  rw [formedTable_iff, and_iff_right (tableStep_ordered ordered action)]
  exact tableStep_single_iff ordered single action

/-!
## Restarts
-/

theorem loaded_lists_iff (relationships : List Relationship) (user : User) (friendid : Int) :
    ({ user with friends := loadRelationshipFromDb relationships user.userid } : User).lists
        friendid = true ↔
      s(user.userid, friendid) ∈ (⟨[], relationships⟩ : UserManager).friendships := by
  rw [User.lists_iff, User.friendids]
  simp only [loadRelationshipFromDb, List.map_map, List.mem_map, List.mem_filter]
  constructor
  · rintro ⟨row, ⟨member, involved⟩, same⟩
    refine ⟨row, member, (row.pair_eq_iff _ _).mpr ?_⟩
    rw [Relationship.involves_iff] at involved
    rw [Function.comp_apply, Relationship.friendOf_friendid] at same
    unfold Relationship.IsOf
    split at same
    · next first => exact .inl ⟨first, same⟩
    · next other => exact .inr ⟨same, involved.resolve_left other⟩
  · rintro ⟨row, member, same⟩
    have ids := (row.pair_eq_iff _ _).mp same
    refine ⟨row, ⟨member, ?_⟩, ?_⟩
    · rw [Relationship.involves_iff]
      exact ids.imp And.left And.right
    · rw [Function.comp_apply, Relationship.friendOf_friendid]
      obtain ⟨first, second⟩ | ⟨first, second⟩ := ids
      · rw [if_pos first, second]
      · split
        · omega
        · exact first

theorem loadFriends_friendSet (users : List User) {relationships : List Relationship}
    (formed : FormedTable relationships) :
    FriendSet (⟨users, relationships⟩ : UserManager).loadFriends.allCachedUsers := by
  have lists := loaded_lists_iff relationships
  refine FriendSet.map (fun _ => rfl) ?_ ?_ ?_
  · intro a _ b _
    rw [← User.lists_iff, ← User.lists_iff, lists, lists, Sym2.eq_swap]
  · intro user _
    exact loaded_distinct formed user.userid
  · intro user _ self
    rw [← User.lists_iff, lists] at self
    obtain ⟨row, member, same⟩ := self
    have less := formed.ordered row member
    have ids := (row.pair_eq_iff _ _).mp same
    unfold Relationship.IsOf at ids
    omega

/-- A second row of a pair gives the friend to each of the two a second time. -/
theorem count_rowIds_le (relationships : List Relationship) (a b : Int) :
    (rowIds relationships).count (a, b) ≤
      (friendidsOf (loadRelationshipFromDb relationships a)).count b := by
  rw [rowIds, friendidsOf, loadRelationshipFromDb, List.map_map, List.count_eq_countP,
    List.count_eq_countP, List.countP_map, List.countP_map, List.countP_filter]
  apply List.countP_mono_left
  intro row _ same
  obtain ⟨first, second⟩ := Prod.mk.inj (beq_iff_eq.mp same)
  have friend : (row.friendOf a).friendid = b := by
    rw [Relationship.friendOf_friendid, if_pos first, second]
  simp [Relationship.involves, first, friend]

theorem friendSet_iff_formed {relationships : List Relationship}
    (ordered : OrderedRows relationships) :
    (∀ users, FriendSet (loadFriends ⟨users, relationships⟩).allCachedUsers) ↔
      FormedTable relationships := by
  constructor
  · intro sets
    refine (formedTable_iff _).mpr ⟨ordered, List.nodup_iff_count_le_one.mpr ?_⟩
    rintro ⟨a, b⟩
    have unrepeated := (sets [userWith a []]).unrepeated _ (List.mem_singleton.mpr rfl)
    exact (count_rowIds_le relationships a b).trans
      (List.nodup_iff_count_le_one.mp unrepeated b)
  · intro formed users
    exact loadFriends_friendSet users formed

/-- What the next start reads. Whoever is cached then lists the users with whom it has a
friendship that was made and not released since, whatever the calls that edit teams and mark
names did in between and whichever statements failed; and the lists are a symmetric relation
without repetitions and self-entries, at every point and for all users, exactly when
friendships are made only where there are none. -/
theorem restart_reads_friendships {manager : UserManager}
    (formed : FormedTable manager.relationships) (actions : List TableStep) :
    let restarted (calls : List TableStep) (users : List User) : List User :=
      (loadFriends ⟨users, (run tableStep manager calls).relationships⟩).allCachedUsers
    (∀ users, ∀ user ∈ restarted actions users, ∀ friendid, user.lists friendid = true ↔
        s(user.userid, friendid) ∈ run friendshipsAfter manager.friendships actions) ∧
      ((∀ first, first <+: actions → ∀ users, FriendSet (restarted first users)) ↔
        Guarded tableStep MakesNew manager actions) := by
  have start := ((formedTable_iff _).mp formed).1
  constructor
  · intro users user member friendid
    obtain ⟨old, -, rfl⟩ := List.mem_map.mp member
    rw [← (run_friendships start actions).2]
    exact loaded_lists_iff _ old friendid
  · rw [← table_formed_iff formed]
    refine forall₂_congr fun first _ => ?_
    exact friendSet_iff_formed (run_friendships start first).1

private def marknamed : Relationship := ⟨1, 2, "kite", "balloon", "Work", ""⟩

private def partedAndRejoined : List TableStep :=
  [.releaseFriend 2 1 .succeeds, .makeFriend "" 1 2 .succeeds, .deleteTeam 1 "Work" .succeeds]

theorem parted_and_rejoined_restarts :
    FriendSet (loadFriends ⟨[userWith 1 [], userWith 2 []],
      (run tableStep ⟨[], [marknamed]⟩ partedAndRejoined).relationships⟩).allCachedUsers := by
  have formed : FormedTable [marknamed] := ⟨by decide, by decide⟩
  have new : Guarded tableStep MakesNew ⟨[], [marknamed]⟩ partedAndRejoined := by
    refine ⟨trivial, fun _ _ joined => ?_, trivial, trivial⟩
    rw [tableStep_friendships ((formedTable_iff _).mp formed).1] at joined
    exact joined.2 (Set.mem_singleton_iff.mpr Sym2.eq_swap)
  exact (restart_reads_friendships formed partedAndRejoined).2.mpr new _ (List.prefix_refl _) _

end UserManager

end Talko.Service
