/-!
# The user manager

The friend lists of `user_manager.cpp`: the users that `UserManager` keeps in
`all_cached_users_` and the table `t_user_relationship`. MySQL and its client are not
part of the repository; their behaviour is a parameter.
-/

set_option autoImplicit false

namespace Talko.Service

def defaultTeamname : String := "My Friends"

structure FriendInfo where
  friendid : Int
  markname : String
  teamname : String
  deriving DecidableEq, Repr

structure User where
  userid : Int
  username : String
  password : String
  nickname : String
  facetype : Int
  customface : String
  customfacefmt : String
  gender : Int
  birthday : Int
  signature : String
  address : String
  phonenumber : String
  mail : String
  teaminfo : String
  ownerid : Int
  friends : List FriendInfo
  deriving DecidableEq, Repr

structure Relationship where
  userId1 : Int
  userId2 : Int
  user1Markname : String
  user2Markname : String
  user1Teamname : String
  user2Teamname : String
  deriving DecidableEq, Repr

inductive Statement where
  | deleteRelationship (userId1 userId2 : Int)
  deriving DecidableEq, Repr

/-- What the database answers: whether it can be connected to, and for each statement the
table after an `execute` that succeeds, `none` for one that fails. -/
structure DatabaseMysql where
  initialized : Bool
  execute : Statement → List Relationship → Option (List Relationship)

inductive FriendOperation where
  | add
  | delete
  deriving DecidableEq, Repr

/-- The manager's cache beside the table it is kept in step with. -/
structure UserManager where
  allCachedUsers : List User
  relationships : List Relationship
  deriving DecidableEq, Repr

structure PairFound where
  first : Bool
  second : Bool
  deriving DecidableEq, Repr

namespace User

def lists (user : User) (friendid : Int) : Bool :=
  user.friends.any (·.friendid = friendid)

/-- The search loop over `friends`: the first entry of the friend is erased. The flag says
whether there was one. -/
def eraseFriend (user : User) (friendid : Int) : User × Bool :=
  if user.lists friendid then
    ({ user with friends := user.friends.eraseP (·.friendid = friendid) }, true)
  else (user, false)

def appendFriend (user : User) (friendid : Int) : User :=
  { user with friends := user.friends ++ [⟨friendid, "", defaultTeamname⟩] }

end User

namespace UserManager

def forEachUser (body : PairFound → User → User × PairFound) :
    PairFound → List User → List User × PairFound
  | found, [] => ([], found)
  | found, user :: rest =>
      let worked := body found user
      let later := forEachUser body worked.2 rest
      (worked.1 :: later.1, later.2)

def deleteFirst (userid friendid : Int) (found : PairFound) (user : User) : User × PairFound :=
  if user.userid = userid then
    ((user.eraseFriend friendid).1,
      { found with first := found.first || (user.eraseFriend friendid).2 })
  else (user, found)

/-- The half for the second user. A first user is done with once the first flag is set. -/
def deleteSecond (userid friendid : Int) (worked : User × PairFound) : User × PairFound :=
  if worked.1.userid = userid ∧ worked.2.first = true then worked
  else if worked.1.userid = friendid then
    ((worked.1.eraseFriend userid).1,
      { worked.2 with second := worked.2.second || (worked.1.eraseFriend userid).2 })
  else worked

def deleteBody (userid friendid : Int) (found : PairFound) (user : User) : User × PairFound :=
  deleteSecond userid friendid (deleteFirst userid friendid found user)

def addBody (userid target : Int) (found : PairFound) (user : User) : User × PairFound :=
  if user.userid = userid then (user.appendFriend target, { found with first := true })
  else if user.userid = target then (user.appendFriend userid, { found with second := true })
  else (user, found)

def updateUserRelationshipInMemory (manager : UserManager) (userid target : Int)
    (operation : FriendOperation) : Bool × UserManager :=
  let body := match operation with
    | .add => addBody userid target
    | .delete => deleteBody userid target
  let after := forEachUser body ⟨false, false⟩ manager.allCachedUsers
  (after.2.first && after.2.second, { manager with allCachedUsers := after.1 })

/-- `deleteFriendToUser`. The loop variable is declared by value, so the body works on a
copy of each user and the copies are dropped. -/
def deleteFriendToUser (manager : UserManager) (userid friendid : Int) : Bool × UserManager :=
  let after := forEachUser (deleteBody userid friendid) ⟨false, false⟩ manager.allCachedUsers
  (after.2.first && after.2.second, manager)

def isFriend (manager : UserManager) (userid friendid : Int) : Bool :=
  manager.allCachedUsers.any fun user => user.userid = userid && user.lists friendid

def releaseFriendRelationshipInDBAndMemory (manager : UserManager) (database : DatabaseMysql)
    (smallUserid greaterUserid : Int) : Bool × UserManager :=
  if smallUserid = greaterUserid then (false, manager)
  else
    let small := if smallUserid > greaterUserid then greaterUserid else smallUserid
    let greater := if smallUserid > greaterUserid then smallUserid else greaterUserid
    if database.initialized then
      match database.execute (.deleteRelationship small greater) manager.relationships with
      | none => (false, manager)
      | some relationships =>
          let manager := { manager with relationships := relationships }
          let deleted := manager.deleteFriendToUser small greater
          if deleted.1 then (true, deleted.2) else (false, deleted.2)
    else (false, manager)

end UserManager

end Talko.Service
