import Talko.Library.KeyedList
import Talko.Library.Run
import Talko.Service.Accounts

/-!
# Updates of users

`modifyUserPassword`, `updateUserInfoInDb` and `updateUserTeamInfoInDbAndMemory`: each
executes an `UPDATE` of `t_user` and later writes the same values into the cached user, under
`mutex_`. Calls of several worker loops overlap, so that between the two steps of one call
there can be steps of others.
-/

set_option autoImplicit false

namespace Talko.Service

/-- The fields of `newuserinfo` that `updateUserInfoInDb` writes. -/
structure UserInfo where
  nickname : String
  facetype : Int
  customface : String
  gender : Int
  birthday : Int
  signature : String
  address : String
  phonenumber : String
  mail : String
  deriving DecidableEq, Repr

inductive UpdateKind where
  | info
  | password
  | teaminfo
  deriving DecidableEq, Repr

inductive Update where
  | info (newuserinfo : UserInfo)
  | password (newpassword : String)
  | teaminfo (newteaminfo : String)
  deriving DecidableEq, Repr

structure UpdateCall where
  userid : Int
  update : Update
  deriving DecidableEq, Repr

namespace Update

def kind : Update → UpdateKind
  | .info _ => .info
  | .password _ => .password
  | .teaminfo _ => .teaminfo

/-- The `SET` clause of the statement. -/
def setRow (row : UserRow) : Update → UserRow
  | .info new =>
      { row with
        nickname := new.nickname, facetype := new.facetype, customface := new.customface
        gender := new.gender, birthday := new.birthday, signature := new.signature
        address := new.address, phonenumber := new.phonenumber, mail := new.mail }
  | .password newpassword => { row with password := newpassword }
  | .teaminfo newteaminfo => { row with teaminfo := newteaminfo }

/-- The assignments to the cached user. -/
def setUser (user : User) : Update → User
  | .info new =>
      { user with
        nickname := new.nickname, facetype := new.facetype, customface := new.customface
        gender := new.gender, birthday := new.birthday, signature := new.signature
        address := new.address, phonenumber := new.phonenumber, mail := new.mail }
  | .password newpassword => { user with password := newpassword }
  | .teaminfo newteaminfo => { user with teaminfo := newteaminfo }

end Update

namespace UpdateCall

/-- The `UPDATE`, which changes the rows that match its `WHERE` clause. -/
def execute (call : UpdateCall) (table : List UserRow) : List UserRow :=
  table.map fun row => if row.userId = call.userid then call.update.setRow row else row

/-- The loop over the cached users; it returns at the first one with the id. -/
def updateCached (call : UpdateCall) (users : List User) : Bool × List User :=
  Library.editFirst (·.userid = call.userid) (fun user => call.update.setUser user) users

end UpdateCall

/-- The cache and the table, with the calls whose `UPDATE` has been executed and whose cache
update is to come, in the order of the `UPDATE`s. -/
structure UserStore where
  users : List User
  table : List UserRow
  waiting : List UpdateCall
  deriving DecidableEq, Repr

inductive UpdateStep where
  | execute (call : UpdateCall)
  | updateCached (position : Nat)
  deriving DecidableEq, Repr

def UserStore.step (s : UserStore) : UpdateStep → UserStore
  | .execute call =>
      { s with table := call.execute s.table, waiting := s.waiting ++ [call] }
  | .updateCached position =>
      match s.waiting[position]? with
      | some call =>
          { s with
            users := (call.updateCached s.users).2
            waiting := s.waiting.eraseIdx position }
      | none => s

/-- The row holds the password, the team info and the profile of the user. -/
structure UserRow.Agrees (row : UserRow) (user : User) : Prop where
  password : row.password = user.password
  teaminfo : row.teaminfo = user.teaminfo
  nickname : row.nickname = user.nickname
  facetype : row.facetype = user.facetype
  customface : row.customface = user.customface
  gender : row.gender = user.gender
  birthday : row.birthday = user.birthday
  signature : row.signature = user.signature
  address : row.address = user.address
  phonenumber : row.phonenumber = user.phonenumber
  mail : row.mail = user.mail

end Talko.Service
