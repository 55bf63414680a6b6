import Mathlib.Algebra.Group.Nat.Defs
import Talko.Library.Run
import Talko.Service.UserManager

/-!
# Accounts

How `user_manager.cpp` fills `all_cached_users_`: `loadUsersFromDb` reads the table `t_user`
and derives the two id counters from it, `addUser` and `addGroup` give out the next ids. Users
and groups are entries of one list; ids above `GROUPID_BOUBDARY` are groups.

Fields that the source leaves uninitialised are zero here; no modelled function reads them.
-/

set_option autoImplicit false

namespace Talko.Service

def GROUPID_BOUBDARY : Int := 0x0FFFFFFF

/-- The columns of `t_user` that `loadUsersFromDb` selects. -/
structure UserRow where
  userId : Int
  username : String
  nickname : String
  password : String
  facetype : Int
  customface : String
  gender : Int
  birthday : Int
  signature : String
  address : String
  phonenumber : String
  mail : String
  teaminfo : String
  deriving DecidableEq, Repr

/-- The fields of the `User` that `register_user` passes to `addUser`. -/
structure NewUser where
  username : String
  nickname : String
  password : String
  deriving DecidableEq, Repr

/-- A call of `addUser` or of `addGroup`. -/
inductive Request where
  | user (u : NewUser)
  | group (groupname : String) (ownerid : Int)
  deriving DecidableEq, Repr

/-- The columns that the `INSERT` of `addUser` and of `addGroup` gives. -/
structure AccountRow where
  userId : Int
  username : String
  nickname : String
  password : String
  ownerId : Option Int
  deriving DecidableEq, Repr

/-- The manager with its id counters. -/
structure Accounts extends UserManager where
  baseUserId : Int
  baseGroupId : Int
  deriving DecidableEq, Repr

/-- What a call is answered: whether the connection is made and the `INSERT` succeeds. -/
structure InsertAnswer where
  connects : Bool
  inserts : Bool
  deriving DecidableEq, Repr

/-- `operator++` of an `std::atomic<int>`, which wraps around. -/
def increment (id : Int) : Int :=
  Int.bmod (id + 1) (2 ^ 32)

def UserRow.toUser (row : UserRow) : User where
  userid := row.userId
  username := row.username
  password := row.password
  nickname := row.nickname
  facetype := row.facetype
  customface := row.customface
  customfacefmt := ""
  gender := row.gender
  birthday := row.birthday
  signature := row.signature
  address := row.address
  phonenumber := row.phonenumber
  mail := row.mail
  teaminfo := row.teaminfo
  ownerid := 0
  friends := []

namespace Request

def isUser : Request → Bool
  | .user _ => true
  | .group _ _ => false

/-- The entry that is pushed for the request under the id its counter shows then. -/
def entry (id : Int) : Request → User
  | .user u =>
      { userid := id, username := u.username, password := u.password, nickname := u.nickname
        facetype := 0, customface := "", customfacefmt := "", gender := 0, birthday := 19900101
        signature := "", address := "", phonenumber := "", mail := "", teaminfo := ""
        ownerid := 0, friends := [] }
  | .group groupname ownerid =>
      { userid := id, username := toString id, password := "", nickname := groupname
        facetype := 0, customface := "", customfacefmt := "", gender := 0, birthday := 0
        signature := "", address := "", phonenumber := "", mail := "", teaminfo := ""
        ownerid := ownerid, friends := [] }

def row (id : Int) : Request → AccountRow
  | .user u => ⟨id, u.username, u.nickname, u.password, none⟩
  | .group groupname ownerid => ⟨id, toString id, groupname, "", some ownerid⟩

end Request

/-!
Two people that the runs of this and of other modules register.
-/

def balloon : NewUser := ⟨"13917043329", "balloon", "123"⟩

def kite : NewUser := ⟨"13917043328", "kite", "456"⟩

/-- The entry that is pushed for the first of them. -/
def cachedBalloon (userid : Int) : User :=
  Request.entry userid (.user balloon)

namespace Accounts

def new : Accounts where
  allCachedUsers := []
  relationships := []
  baseUserId := 0
  baseGroupId := 0x0FFFFFFF

def userids (accounts : Accounts) : List Int :=
  accounts.allCachedUsers.map (·.userid)

def pushBack (accounts : Accounts) (user : User) : Accounts :=
  { accounts with allCachedUsers := accounts.allCachedUsers ++ [user] }

/-!
## Loading
-/

/-- The body of the loop of `loadUsersFromDb`. -/
def loadRow (accounts : Accounts) (row : UserRow) : Accounts :=
  { accounts.pushBack row.toUser with
    baseUserId :=
      if row.userId < GROUPID_BOUBDARY ∧ row.userId > accounts.baseUserId then row.userId
      else accounts.baseUserId
    baseGroupId :=
      if row.userId > GROUPID_BOUBDARY ∧ row.userId > accounts.baseGroupId then row.userId
      else accounts.baseGroupId }

/-- The result is `none` when the connection or the query fails. -/
def loadUsersFromDb (accounts : Accounts) (result : Option (List UserRow)) : Bool × Accounts :=
  match result with
  | none => (false, accounts)
  | some rows => (true, rows.foldl loadRow accounts)

/-!
## Adding
-/

def base (accounts : Accounts) : Request → Int
  | .user _ => accounts.baseUserId
  | .group _ _ => accounts.baseGroupId

def bump (accounts : Accounts) : Request → Accounts
  | .user _ => { accounts with baseUserId := increment accounts.baseUserId }
  | .group _ _ => { accounts with baseGroupId := increment accounts.baseGroupId }

/-- The end of a call whose `INSERT` has succeeded. It reads the counter again. -/
def push (accounts : Accounts) (request : Request) : Accounts :=
  accounts.pushBack (request.entry (accounts.base request))

/-- `addUser` and `addGroup`, which differ in the counter they use and the entry they make.
A call that succeeds returns the id. -/
def add (accounts : Accounts) (request : Request) (answer : InsertAnswer) :
    Option Int × Accounts :=
  if answer.connects then
    let bumped := accounts.bump request
    if answer.inserts then (some (bumped.base request), bumped.push request) else (none, bumped)
  else (none, accounts)

def addUser (accounts : Accounts) (u : NewUser) (answer : InsertAnswer) : Bool × Accounts :=
  ((accounts.add (.user u) answer).1.isSome, (accounts.add (.user u) answer).2)

def addGroup (accounts : Accounts) (groupname : String) (ownerid : Int) (answer : InsertAnswer) :
    Option Int × Accounts :=
  accounts.add (.group groupname ownerid) answer

end Accounts

namespace UserManager

def getUserInfoByUsername (manager : UserManager) (username : String) : Option User :=
  manager.allCachedUsers.find? (·.username = username)

def getUserInfoByUserId (manager : UserManager) (userid : Int) : Option User :=
  manager.allCachedUsers.find? (·.userid = userid)

end UserManager

end Talko.Service
