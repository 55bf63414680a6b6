import Talko.Library.KeyedList
import Talko.Library.Run
import Talko.Service.Accounts

/-!
# Teams and mark names of friends

A row of `t_user_relationship` carries both directions of a friendship: the columns of
`user1` are what the user with the smaller id calls the other and the team it keeps the other
in, those of `user2` the opposite. `loadRelationshipFromDb` reads one direction;
`deleteTeam`, `modifyTeamName`, `updateMarknameInDb` and `moveFriendToOtherTeam` change the
table and then the cached list.
-/

set_option autoImplicit false

namespace Talko.Service

open Talko.Library

/-- Which of the statements of a call succeed: the connection and up to two `UPDATE`s. -/
structure UpdateAnswer where
  connects : Bool
  first : Bool
  second : Bool
  deriving DecidableEq, Repr

def UpdateAnswer.succeeds : UpdateAnswer := ⟨true, true, true⟩

/-- The team that an empty column stands for. -/
def loadedTeamname (teamname : String) : String :=
  if teamname = "" then defaultTeamname else teamname

namespace Relationship

def involves (row : Relationship) (userid : Int) : Bool :=
  row.userId1 = userid || row.userId2 = userid

/-- The friend that a row gives the user. -/
def friendOf (row : Relationship) (userid : Int) : FriendInfo :=
  if row.userId1 = userid then
    ⟨row.userId2, row.user1Markname, loadedTeamname row.user1Teamname⟩
  else ⟨row.userId1, row.user2Markname, loadedTeamname row.user2Teamname⟩

/-- `SET f_user1_teamname=new WHERE f_user_id1=userid AND f_user1_teamname=old`. -/
def renameTeam1 (userid : Int) (new old : String) (row : Relationship) : Relationship :=
  if row.userId1 = userid ∧ row.user1Teamname = old then { row with user1Teamname := new }
  else row

/-- `SET f_user2_teamname=new WHERE f_user_id2=userid AND f_user2_teamname=old`. -/
def renameTeam2 (userid : Int) (new old : String) (row : Relationship) : Relationship :=
  if row.userId2 = userid ∧ row.user2Teamname = old then { row with user2Teamname := new }
  else row

/-- The statement of `updateMarknameInDb`; the order of the ids chooses the column. -/
def setMarkname (userid friendid : Int) (new : String) (row : Relationship) : Relationship :=
  if userid < friendid then
    if row.userId1 = userid ∧ row.userId2 = friendid then { row with user1Markname := new }
    else row
  else
    if row.userId2 = userid ∧ row.userId1 = friendid then { row with user2Markname := new }
    else row

/-- The statement of `moveFriendToOtherTeam`. -/
def setTeam (userid friendid : Int) (new : String) (row : Relationship) : Relationship :=
  if userid < friendid then
    if row.userId1 = userid ∧ row.userId2 = friendid then { row with user1Teamname := new }
    else row
  else
    if row.userId1 = friendid ∧ row.userId2 = userid then { row with user2Teamname := new }
    else row

end Relationship

namespace FriendInfo

def renameTeam (new old : String) (friend : FriendInfo) : FriendInfo :=
  if friend.teamname = old then { friend with teamname := new } else friend

def setMarkname (new : String) (friend : FriendInfo) : FriendInfo :=
  { friend with markname := new }

def setTeam (new : String) (friend : FriendInfo) : FriendInfo :=
  { friend with teamname := new }

end FriendInfo

namespace User

def renameTeam (new old : String) (user : User) : User :=
  { user with friends := user.friends.map (·.renameTeam new old) }

/-- The search loop over `friends` that changes the first entry of the friend. -/
def editFriend (friendid : Int) (edit : FriendInfo → FriendInfo) (user : User) : User :=
  { user with friends := (editFirst (·.friendid = friendid) edit user.friends).2 }

end User

namespace UserManager

def loadRelationshipFromDb (relationships : List Relationship) (userid : Int) :
    List FriendInfo :=
  (relationships.filter (·.involves userid)).map (·.friendOf userid)

/-- The part of `init` that fills the friend lists. -/
def loadFriends (manager : UserManager) : UserManager :=
  { manager with
    allCachedUsers := manager.allCachedUsers.map fun user =>
      { user with friends := loadRelationshipFromDb manager.relationships user.userid } }

/-- The two `UPDATE`s and the loop that `deleteTeam` and `modifyTeamName` share. The result
is `none` when a statement fails, and otherwise whether the user was found. -/
def replaceTeam (manager : UserManager) (userid : Int) (new old : String)
    (answer : UpdateAnswer) : Option Bool × UserManager :=
  if answer.connects then
    if answer.first then
      let once := { manager with
        relationships := manager.relationships.map (·.renameTeam1 userid new old) }
      if answer.second then
        let edited := editFirst (·.userid = userid) (·.renameTeam new old)
          once.allCachedUsers
        (some edited.1,
          { allCachedUsers := edited.2
            relationships := once.relationships.map (·.renameTeam2 userid new old) })
      else (none, once)
    else (none, manager)
  else (none, manager)

def deleteTeam (manager : UserManager) (userid : Int) (deletedteamname : String)
    (answer : UpdateAnswer) : Bool × UserManager :=
  let after := manager.replaceTeam userid defaultTeamname deletedteamname answer
  (after.1 = some true, after.2)

/-- Unlike `deleteTeam` it returns true also when the user is not cached. -/
def modifyTeamName (manager : UserManager) (userid : Int) (newteamname oldteamname : String)
    (answer : UpdateAnswer) : Bool × UserManager :=
  let after := manager.replaceTeam userid newteamname oldteamname answer
  (after.1.isSome, after.2)

/-- The loop goes on behind a user with the id who does not list the friend. -/
def updateMarknameInDb (manager : UserManager) (userid friendid : Int) (newmarkname : String)
    (answer : UpdateAnswer) : Bool × UserManager :=
  if answer.connects ∧ answer.first then
    let edited := editFirst (fun user => user.userid = userid && user.lists friendid)
      (·.editFriend friendid (·.setMarkname newmarkname)) manager.allCachedUsers
    (edited.1,
      { allCachedUsers := edited.2
        relationships := manager.relationships.map (·.setMarkname userid friendid newmarkname) })
  else (false, manager)

/-- The user is looked up first, and then the friend in its list. -/
def moveFriendToOtherTeam (manager : UserManager) (userid friendid : Int) (newteamname : String)
    (answer : UpdateAnswer) : Bool × UserManager :=
  if answer.connects ∧ answer.first then
    let found := (manager.getUserInfoByUserId userid).any (·.lists friendid)
    let edited := editFirst (·.userid = userid)
      (·.editFriend friendid (·.setTeam newteamname)) manager.allCachedUsers
    (found,
      { allCachedUsers := edited.2
        relationships := manager.relationships.map (·.setTeam userid friendid newteamname) })
  else (false, manager)

end UserManager

/-- The smaller id stands first in a row, and a pair has at most one row. -/
structure FormedTable (relationships : List Relationship) : Prop where
  ordered : ∀ row ∈ relationships, row.userId1 < row.userId2
  single : (relationships.map fun row => (row.userId1, row.userId2)).Nodup

end Talko.Service
