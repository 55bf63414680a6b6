import Mathlib.Data.List.Basic
import Talko.Library.SqlStatement

/-!
# The texts of the statements

The text that the members of `UserManager` hand to `execute`. `addUser` prints its statement
into a buffer of 256 bytes, the others put theirs together in a stream; in both, the strings
of a client are put between quotes as they are.
-/

set_option autoImplicit false

namespace Talko.Service

open Talko.Library

/-- The fields of `newuserinfo` that `updateUserInfoInDb` writes, as bytes. -/
structure InfoTexts where
  nickname : List UInt8
  facetype : Int
  customface : List UInt8
  gender : Int
  birthday : Int
  signature : List UInt8
  address : List UInt8
  phonenumber : List UInt8
  mail : List UInt8
  deriving DecidableEq, Repr

inductive TextCall where
  | addUser (userid : Int) (username nickname password : List UInt8)
  | updateUserInfoInDb (userid : Int) (newuserinfo : InfoTexts)
  | modifyUserPassword (userid : Int) (newpassword : List UInt8)
  | deleteTeam (userid : Int) (deletedteamname : List UInt8)
  | modifyTeamName (userid : Int) (newteamname oldteamname : List UInt8)
  | updateMarknameInDb (userid friendid : Int) (newmarkname : List UInt8)
  | saveChatMsgToDb (senderid targetid : Int) (chatmsg : List UInt8)
  deriving DecidableEq, Repr

inductive TextMember where
  | addUser
  | updateUserInfoInDb
  | modifyUserPassword
  | deleteTeam
  | modifyTeamName
  | updateMarknameInDb
  | saveChatMsgToDb
  deriving DecidableEq, Repr

def defaultTeamnameText : List UInt8 :=
  asciiText "My Friends"

def addUserBeginning : List UInt8 :=
  asciiText
    "INSERT INTO t_user(f_user_id, f_username, f_nickname, f_password, f_register_time) VALUES("

/-- The statement of `addUser`, with the given text behind the last argument. -/
def addUserStatement (userid : Int) (username nickname password ending : List UInt8) :
    SqlStatement where
  head := addUserBeginning
  fields := [(.number userid, asciiText ", "), (.text username, asciiText ", "),
    (.text nickname, asciiText ", "), (.text password, ending)]

def addUserEnding : List UInt8 :=
  asciiText ", NOW())"

def updateUserInfoStatement (userid : Int) (newuserinfo : InfoTexts) : SqlStatement where
  head := asciiText "UPDATE t_user SET f_nickname="
  fields := [(.text newuserinfo.nickname, asciiText ", f_facetype="),
    (.number newuserinfo.facetype, asciiText ", f_customface="),
    (.text newuserinfo.customface, asciiText ", f_gender="),
    (.number newuserinfo.gender, asciiText ", f_birthday="),
    (.number newuserinfo.birthday, asciiText ", f_signature="),
    (.text newuserinfo.signature, asciiText ", f_address="),
    (.text newuserinfo.address, asciiText ", f_phonenumber="),
    (.text newuserinfo.phonenumber, asciiText ", f_mail="),
    (.text newuserinfo.mail, asciiText " WHERE f_user_id="),
    (.number userid, [])]

def modifyUserPasswordStatement (userid : Int) (newpassword : List UInt8) : SqlStatement where
  head := asciiText "UPDATE t_user SET f_password="
  fields := [(.text newpassword, asciiText " WHERE f_user_id="), (.number userid, [])]

/-- The `UPDATE` of the team name on the first side of a relationship. -/
def teamname1Statement (userid : Int) (newteamname oldteamname : List UInt8) : SqlStatement where
  head := asciiText "UPDATE t_user_relationship SET f_user1_teamname="
  fields := [(.text newteamname, asciiText " WHERE f_user_id1="),
    (.number userid, asciiText " AND f_user1_teamname="), (.text oldteamname, [])]

def teamname2Statement (userid : Int) (newteamname oldteamname : List UInt8) : SqlStatement where
  head := asciiText "UPDATE t_user_relationship SET f_user2_teamname="
  fields := [(.text newteamname, asciiText " WHERE f_user_id2="),
    (.number userid, asciiText " AND f_user2_teamname="), (.text oldteamname, [])]

def markname1Statement (userid friendid : Int) (newmarkname : List UInt8) : SqlStatement where
  head := asciiText "UPDATE t_user_relationship SET f_user1_markname="
  fields := [(.text newmarkname, asciiText " WHERE f_user_id1="),
    (.number userid, asciiText " AND f_user_id2="), (.number friendid, [])]

def markname2Statement (userid friendid : Int) (newmarkname : List UInt8) : SqlStatement where
  head := asciiText "UPDATE t_user_relationship SET f_user2_markname="
  fields := [(.text newmarkname, asciiText " WHERE f_user_id2="),
    (.number userid, asciiText " AND f_user_id1="), (.number friendid, [])]

def saveChatMsgStatement (senderid targetid : Int) (chatmsg : List UInt8) : SqlStatement where
  head := asciiText "INSERT INTO t_chatmsg(f_senderid, f_targetid, f_msgcontent) VALUES("
  fields := [(.number senderid, asciiText ", "), (.number targetid, asciiText ", "),
    (.text chatmsg, asciiText ")")]

namespace TextCall

def member : TextCall → TextMember
  | .addUser .. => .addUser
  | .updateUserInfoInDb .. => .updateUserInfoInDb
  | .modifyUserPassword .. => .modifyUserPassword
  | .deleteTeam .. => .deleteTeam
  | .modifyTeamName .. => .modifyTeamName
  | .updateMarknameInDb .. => .updateMarknameInDb
  | .saveChatMsgToDb .. => .saveChatMsgToDb

def statements : TextCall → List SqlStatement
  | .addUser userid username nickname password =>
      [addUserStatement userid username nickname password addUserEnding]
  | .updateUserInfoInDb userid newuserinfo => [updateUserInfoStatement userid newuserinfo]
  | .modifyUserPassword userid newpassword => [modifyUserPasswordStatement userid newpassword]
  | .deleteTeam userid deletedteamname =>
      [teamname1Statement userid defaultTeamnameText deletedteamname,
        teamname2Statement userid defaultTeamnameText deletedteamname]
  | .modifyTeamName userid newteamname oldteamname =>
      [teamname1Statement userid newteamname oldteamname,
        teamname2Statement userid newteamname oldteamname]
  | .updateMarknameInDb userid friendid newmarkname =>
      if userid < friendid then [markname1Statement userid friendid newmarkname]
      else [markname2Statement userid friendid newmarkname]
  | .saveChatMsgToDb senderid targetid chatmsg => [saveChatMsgStatement senderid targetid chatmsg]

/-- The texts that the call hands to `execute`. -/
def texts (call : TextCall) : List (List UInt8) :=
  match call with
  | .addUser .. => call.statements.map (·.printed 256)
  | _ => call.statements.map (·.streamed)

/-- The strings that come from the client. -/
def strings : TextCall → List (List UInt8)
  | .addUser _ username nickname password => [username, nickname, password]
  | .updateUserInfoInDb _ newuserinfo =>
      [newuserinfo.nickname, newuserinfo.customface, newuserinfo.signature, newuserinfo.address,
        newuserinfo.phonenumber, newuserinfo.mail]
  | .modifyUserPassword _ newpassword => [newpassword]
  | .deleteTeam _ deletedteamname => [deletedteamname]
  | .modifyTeamName _ newteamname oldteamname => [newteamname, oldteamname]
  | .updateMarknameInDb _ _ newmarkname => [newmarkname]
  | .saveChatMsgToDb _ _ chatmsg => [chatmsg]

/-- Every literal of the texts is the argument that was passed for it. -/
def ReadsArguments (call : TextCall) : Prop :=
  call.texts.map (fun text => literalContents (sqlTokens text)) =
    call.statements.map (·.arguments)

/-- The tokens of the texts, without the contents of literals and numbers. -/
def shape (call : TextCall) : List (List SqlToken) :=
  call.texts.map fun text => tokenShape (sqlTokens text)

/-- The two calls hand over statements that differ only in what the literals and numbers
hold, and the literals hold the arguments. -/
def FixedShape (call other : TextCall) : Prop :=
  call.shape = other.shape ∧ call.ReadsArguments ∧ other.ReadsArguments

instance (call other : TextCall) : Decidable (call.FixedShape other) :=
  inferInstanceAs (Decidable (call.shape = other.shape ∧
    call.texts.map (fun text => literalContents (sqlTokens text)) =
      call.statements.map (·.arguments) ∧
    other.texts.map (fun text => literalContents (sqlTokens text)) =
      other.statements.map (·.arguments)))

end TextCall

/-- The bytes of the statement of `addUser` up to the end of its last argument. -/
def addUserLength (userid : Int) (username nickname password : List UInt8) : Nat :=
  (signedText userid).length + username.length + nickname.length + password.length + 102

/-- As much of `, NOW())` as the buffer has room for. -/
def addUserRoom (userid : Int) (username nickname password : List UInt8) : Nat :=
  min 8 (255 - addUserLength userid username nickname password)

namespace TextCall

/-- What else the texts depend on: in `addUser` the buffer has room for the arguments and
ends both texts behind the same token, and in `updateMarknameInDb` both pairs of ids are in
the same order. -/
def CutAlike : TextCall → TextCall → Prop
  | .addUser userid username nickname password, .addUser userid' username' nickname' password' =>
      addUserLength userid username nickname password ≤ 255 ∧
        addUserLength userid' username' nickname' password' ≤ 255 ∧
        (addUserRoom userid username nickname password =
            addUserRoom userid' username' nickname' password' ∨
          addUserRoom userid username nickname password ∈ [1, 2] ∧
            addUserRoom userid' username' nickname' password' ∈ [1, 2])
  | .updateMarknameInDb userid friendid _, .updateMarknameInDb userid' friendid' _ =>
      userid < friendid ↔ userid' < friendid'
  | _, _ => True

end TextCall

/-- The statements without their arguments. -/
theorem blank_wellFormed :
    (addUserStatement 0 [] [] [] addUserEnding).WellFormed ∧
      (updateUserInfoStatement 0 ⟨[], 0, [], 0, 0, [], [], [], []⟩).WellFormed ∧
      (modifyUserPasswordStatement 0 []).WellFormed ∧
      ((teamname1Statement 0 [] []).WellFormed ∧ (teamname2Statement 0 [] []).WellFormed) ∧
      ((markname1Statement 0 0 []).WellFormed ∧ (markname2Statement 0 0 []).WellFormed) ∧
      (saveChatMsgStatement 0 0 []).WellFormed := by
  decide +kernel

theorem addUserEnding_ends : EndsField addUserEnding := by
  decide

theorem addUserStatement_wellFormed (userid : Int) (username nickname password : List UInt8)
    {ending : List UInt8} (ends : EndsField ending) :
    (addUserStatement userid username nickname password ending).WellFormed := by
  have blank := blank_wellFormed.1
  obtain ⟨behind, last | ⟨nonempty, mode, -⟩⟩ := blank.separated
  · cases last
  · have gap : EndsField (asciiText ", ") ∧ asciiText ", " ≠ [] ∧
        modeAfter .blank (asciiText ", ") = .blank := ⟨behind, nonempty, mode⟩
    exact ⟨blank.unquoted, blank.nonzero, blank.blank,
      .cons gap (.cons gap (.cons gap (.last ends)))⟩

theorem teamname1Statement_wellFormed (userid : Int) (newteamname oldteamname : List UInt8) :
    (teamname1Statement userid newteamname oldteamname).WellFormed := by
  obtain ⟨-, -, -, ⟨formed, -⟩, -⟩ := blank_wellFormed
  exact formed.of_texts rfl rfl

theorem teamname2Statement_wellFormed (userid : Int) (newteamname oldteamname : List UInt8) :
    (teamname2Statement userid newteamname oldteamname).WellFormed := by
  obtain ⟨-, -, -, ⟨-, formed⟩, -⟩ := blank_wellFormed
  exact formed.of_texts rfl rfl

namespace TextCall

theorem statements_updateMarknameInDb (userid friendid : Int) (newmarkname : List UInt8) :
    (updateMarknameInDb userid friendid newmarkname).statements =
      if userid < friendid then [markname1Statement userid friendid newmarkname]
      else [markname2Statement userid friendid newmarkname] := rfl

theorem wellFormed (call : TextCall) : ∀ s ∈ call.statements, s.WellFormed := by
  obtain ⟨-, info, password, -, ⟨first, second⟩, chat⟩ := blank_wellFormed
  intro s member
  cases call with
  | addUser userid username nickname password =>
      rw [List.mem_singleton.mp member]
      exact addUserStatement_wellFormed userid username nickname password addUserEnding_ends
  | updateUserInfoInDb userid newuserinfo =>
      rw [List.mem_singleton.mp member]
      exact info.of_texts rfl rfl
  | modifyUserPassword userid newpassword =>
      rw [List.mem_singleton.mp member]
      exact password.of_texts rfl rfl
  | deleteTeam userid deletedteamname =>
      rcases List.mem_pair.mp member with first | second
      · rw [first]
        exact teamname1Statement_wellFormed userid _ _
      · rw [second]
        exact teamname2Statement_wellFormed userid _ _
  | modifyTeamName userid newteamname oldteamname =>
      rcases List.mem_pair.mp member with first | second
      · rw [first]
        exact teamname1Statement_wellFormed userid _ _
      · rw [second]
        exact teamname2Statement_wellFormed userid _ _
  | updateMarknameInDb userid friendid newmarkname =>
      rw [statements_updateMarknameInDb] at member
      split at member
      · rw [List.mem_singleton.mp member]
        exact first.of_texts rfl rfl
      · rw [List.mem_singleton.mp member]
        exact second.of_texts rfl rfl
  | saveChatMsgToDb senderid targetid chatmsg =>
      rw [List.mem_singleton.mp member]
      exact chat.of_texts rfl rfl

theorem one_statement_plain_iff {s : SqlStatement} {arguments : List (List UInt8)}
    (same : s.arguments = arguments) :
    (∀ t ∈ [s], ∀ argument ∈ t.arguments, Plain argument) ↔
      ∀ argument ∈ arguments, Plain argument := by
  rw [List.forall_mem_singleton, same]

theorem two_statements_plain_iff {s t : SqlStatement} {arguments : List (List UInt8)}
    (same : s.arguments = arguments) (same' : t.arguments = arguments) :
    (∀ u ∈ [s, t], ∀ argument ∈ u.arguments, Plain argument) ↔
      ∀ argument ∈ arguments, Plain argument := by
  rw [List.forall_mem_cons, List.forall_mem_singleton, same, same', and_self]

/-- Besides the strings of the client the statements have only the default team name, which
is plain. -/
theorem arguments_plain_iff (call : TextCall) :
    (∀ s ∈ call.statements, ∀ argument ∈ s.arguments, Plain argument) ↔
      ∀ text ∈ call.strings, Plain text := by
  cases call with
  | addUser userid username nickname password => exact one_statement_plain_iff rfl
  | updateUserInfoInDb userid newuserinfo => exact one_statement_plain_iff rfl
  | modifyUserPassword userid newpassword => exact one_statement_plain_iff rfl
  | deleteTeam userid deletedteamname =>
      have default : Plain defaultTeamnameText := Plain.of_all (by decide)
      have both : (∀ s ∈ (deleteTeam userid deletedteamname).statements,
          ∀ argument ∈ s.arguments, Plain argument) ↔
            ∀ text ∈ [defaultTeamnameText, deletedteamname], Plain text :=
        two_statements_plain_iff rfl rfl
      rw [both, List.forall_mem_cons, and_iff_right default]
      rfl
  | modifyTeamName userid newteamname oldteamname => exact two_statements_plain_iff rfl rfl
  | updateMarknameInDb userid friendid newmarkname =>
      rw [statements_updateMarknameInDb]
      split
      · exact one_statement_plain_iff rfl
      · exact one_statement_plain_iff rfl
  | saveChatMsgToDb senderid targetid chatmsg => exact one_statement_plain_iff rfl

theorem texts_streamed {call : TextCall} (other : call.member ≠ .addUser) :
    call.texts = call.statements.map (·.streamed) := by
  cases call with
  | addUser => exact absurd rfl other
  | _ => rfl

theorem streamed_readsArguments_iff {call : TextCall} (other : call.member ≠ .addUser) :
    call.ReadsArguments ↔ ∀ text ∈ call.strings, Plain text := by
  rw [← arguments_plain_iff, ReadsArguments, texts_streamed other, List.map_map, List.map_inj_left]
  apply forall_congr'
  intro s
  apply forall_congr'
  intro member
  exact SqlStatement.literalContents_streamed_iff (call.wellFormed s member)

/-- The shapes of the statements if all arguments are plain. -/
def plainShapes (statements : List SqlStatement) : List (List SqlToken) :=
  statements.map fun s => tokenShape s.tokens

theorem streamed_shape {call : TextCall} (other : call.member ≠ .addUser)
    (plain : ∀ text ∈ call.strings, Plain text) :
    call.shape = plainShapes call.statements := by
  rw [shape, plainShapes, texts_streamed other, List.map_map, List.map_inj_left]
  intro s member
  have formed := call.wellFormed s member
  have arguments := (arguments_plain_iff call).mpr plain s member
  change tokenShape (sqlTokens s.streamed) = _
  rw [SqlStatement.streamed_of_plain formed arguments,
    SqlStatement.sqlTokens_of_plain formed arguments]

end TextCall

/-!
## The buffer of `addUser`
-/

theorem addUser_cString {username nickname password : List UInt8}
    (plain : ∀ text ∈ [username, nickname, password], Plain text) :
    cString username = username ∧ cString nickname = nickname ∧ cString password = password := by
  have visible : ∀ text ∈ [username, nickname, password], cString text = text :=
    fun text member => cString_of_nonzero (plain text member).no_zero
  exact ⟨visible username (by simp), visible nickname (by simp), visible password (by simp)⟩

theorem length_addUserBeginning : addUserBeginning.length = 90 := by
  decide +kernel

theorem addUser_textEnd {userid : Int} {username nickname password ending : List UInt8}
    (plain : ∀ text ∈ [username, nickname, password], Plain text) :
    let s := addUserStatement userid username nickname password ending
    s.head.length + textEnd s.fields = addUserLength userid username nickname password := by
  obtain ⟨first, second, third⟩ := addUser_cString plain
  have head := length_addUserBeginning
  have gap : (asciiText ", ").length = 2 := by decide
  simp only [addUserStatement, textEnd, fieldArguments, SqlField.argument, SqlField.printed,
    addUserLength, first, second, third, gap, head, List.filterMap_cons, List.filterMap_nil,
    List.length_cons, List.length_append, List.length_nil]
  simp
  omega

theorem addUser_printedFields (userid : Int) (username nickname password ending : List UInt8) :
    printedFields (addUserStatement userid username nickname password ending).fields =
      printedFields (addUserStatement userid username nickname password []).fields ++ ending := by
  simp [printedFields, addUserStatement]

/-- Up to the end of its last argument the statement is in the buffer as it is. -/
theorem addUser_printed {userid : Int} {username nickname password : List UInt8}
    (plain : ∀ text ∈ [username, nickname, password], Plain text)
    (fits : addUserLength userid username nickname password ≤ 255) :
    (addUserStatement userid username nickname password addUserEnding).printed 256 =
      let s := addUserStatement userid username nickname password
        (addUserEnding.take (addUserRoom userid username nickname password))
      s.head ++ printedFields s.fields := by
  obtain ⟨first, second, third⟩ := addUser_cString plain
  have head := length_addUserBeginning
  have gap : (asciiText ", ").length = 2 := by decide
  have ending : addUserEnding.length = 8 := by decide
  have body : (addUserBeginning ++
      printedFields (addUserStatement userid username nickname password []).fields).length =
        addUserLength userid username nickname password := by
    simp [printedFields, addUserStatement, SqlField.printed, addUserLength, first, second, third,
      gap, head]
    omega
  dsimp only
  rw [SqlStatement.printed, addUser_printedFields, addUser_printedFields _ _ _ _ (List.take _ _)]
  change (addUserBeginning ++ (_ ++ addUserEnding)).take 255 = addUserBeginning ++ (_ ++ _)
  rw [← List.append_assoc, List.take_append, body, List.take_of_length_le (by rw [body]; exact fits),
    List.append_assoc, addUserRoom, ← ending, Nat.min_comm, ← List.take_eq_take_min]

theorem addUser_reads_iff (userid : Int) (username nickname password : List UInt8) :
    (TextCall.addUser userid username nickname password).ReadsArguments ↔
      (∀ text ∈ [username, nickname, password], Plain text) ∧
        addUserLength userid username nickname password ≤ 255 := by
  have formed := addUserStatement_wellFormed userid username nickname password
    addUserEnding_ends
  have present : (addUserStatement userid username nickname password addUserEnding).arguments ≠ [] :=
    List.cons_ne_nil _ _
  have one : (TextCall.addUser userid username nickname password).ReadsArguments ↔
      literalContents (sqlTokens
        ((addUserStatement userid username nickname password addUserEnding).printed 256)) =
        (addUserStatement userid username nickname password addUserEnding).arguments := by
    constructor
    · intro reads
      exact (List.cons.inj reads).1
    · intro reads
      exact congrArg (fun found => [found]) reads
  rw [one, SqlStatement.printed, SqlStatement.literalContents_take_iff formed]
  apply and_congr_right
  intro plain
  rw [or_iff_right present, addUser_textEnd plain]

/-- The tokens of what is left of `, NOW())`. -/
theorem ending_tokens_iff : ∀ room ≤ 8, ∀ room' ≤ 8,
    (tokenShape (sqlTokens (addUserEnding.take room)) =
        tokenShape (sqlTokens (addUserEnding.take room')) ↔
      room = room' ∨ room ∈ [1, 2] ∧ room' ∈ [1, 2]) := by
  decide +kernel

theorem addUser_shape {userid : Int} {username nickname password : List UInt8}
    (plain : ∀ text ∈ [username, nickname, password], Plain text)
    (fits : addUserLength userid username nickname password ≤ 255) :
    (TextCall.addUser userid username nickname password).shape =
      [tokenShape (addUserStatement 0 [] [] [] []).tokens ++
        tokenShape (sqlTokens
          (addUserEnding.take (addUserRoom userid username nickname password)))] := by
  have ends : EndsField (addUserEnding.take (addUserRoom userid username nickname password)) :=
    addUserEnding_ends.take _
  have formed := addUserStatement_wellFormed userid username nickname password ends
  change [tokenShape (sqlTokens ((addUserStatement userid username nickname password
    addUserEnding).printed 256))] = _
  rw [addUser_printed plain fits]
  dsimp only
  rw [SqlStatement.sqlTokens_of_plain formed plain]
  simp [SqlStatement.tokens, addUserStatement, tokenShape, SqlField.token, SqlToken.erase, sqlTokens,
    tokensFrom, LexMode.flush]

namespace TextCall

theorem streamed_fixedShape_iff {call other : TextCall} (first : call.member ≠ .addUser)
    (second : other.member ≠ .addUser) :
    call.FixedShape other ↔
      (∀ text ∈ call.strings, Plain text) ∧ (∀ text ∈ other.strings, Plain text) ∧
        plainShapes call.statements = plainShapes other.statements := by
  rw [FixedShape, streamed_readsArguments_iff first, streamed_readsArguments_iff second]
  constructor
  · rintro ⟨shapes, plain, plain'⟩
    rw [streamed_shape first plain, streamed_shape second plain'] at shapes
    exact ⟨plain, plain', shapes⟩
  · rintro ⟨plain, plain', shapes⟩
    rw [streamed_shape first plain, streamed_shape second plain']
    exact ⟨shapes, plain, plain'⟩

theorem addUser_fixedShape_iff (userid userid' : Int)
    (username nickname password username' nickname' password' : List UInt8) :
    (addUser userid username nickname password).FixedShape
        (addUser userid' username' nickname' password') ↔
      (∀ text ∈ [username, nickname, password], Plain text) ∧
        (∀ text ∈ [username', nickname', password'], Plain text) ∧
        (addUser userid username nickname password).CutAlike
          (addUser userid' username' nickname' password') := by
  have rooms := ending_tokens_iff (addUserRoom userid username nickname password)
    (Nat.min_le_left _ _) (addUserRoom userid' username' nickname' password') (Nat.min_le_left _ _)
  rw [FixedShape, addUser_reads_iff, addUser_reads_iff]
  constructor
  · rintro ⟨shapes, ⟨plain, fits⟩, plain', fits'⟩
    rw [addUser_shape plain fits, addUser_shape plain' fits', List.cons.injEq,
      List.append_cancel_left_eq] at shapes
    exact ⟨plain, plain', fits, fits', rooms.mp shapes.1⟩
  · rintro ⟨plain, plain', fits, fits', alike⟩
    rw [addUser_shape plain fits, addUser_shape plain' fits', rooms.mpr alike]
    exact ⟨rfl, ⟨plain, fits⟩, plain', fits'⟩

theorem plainShapes_one {s s' : SqlStatement} (forms : s.form = s'.form) :
    plainShapes [s] = plainShapes [s'] :=
  congrArg (fun shape => [shape]) (SqlStatement.tokenShape_tokens_of_form forms)

theorem plainShapes_two {s t s' t' : SqlStatement} (forms : s.form = s'.form)
    (forms' : t.form = t'.form) : plainShapes [s, t] = plainShapes [s', t'] :=
  congrArg₂ (fun shape shape' => [shape, shape']) (SqlStatement.tokenShape_tokens_of_form forms)
    (SqlStatement.tokenShape_tokens_of_form forms')

/-- The two statements of `updateMarknameInDb` name the columns of different sides. -/
theorem marknames_differ (userid friendid userid' friendid' : Int)
    (newmarkname newmarkname' : List UInt8) :
    plainShapes [markname1Statement userid friendid newmarkname] ≠
      plainShapes [markname2Statement userid' friendid' newmarkname'] := by
  have blanks : plainShapes [markname1Statement 0 0 []] ≠
      plainShapes [markname2Statement 0 0 []] := by
    decide +kernel
  intro same
  apply blanks
  calc plainShapes [markname1Statement 0 0 []]
    _ = plainShapes [markname1Statement userid friendid newmarkname] := plainShapes_one rfl
    _ = plainShapes [markname2Statement userid' friendid' newmarkname'] := same
    _ = plainShapes [markname2Statement 0 0 []] := plainShapes_one rfl

theorem updateMarknameInDb_shapes_iff (userid friendid userid' friendid' : Int)
    (newmarkname newmarkname' : List UInt8) :
    plainShapes (updateMarknameInDb userid friendid newmarkname).statements =
        plainShapes (updateMarknameInDb userid' friendid' newmarkname').statements ↔
      (userid < friendid ↔ userid' < friendid') := by
  rw [statements_updateMarknameInDb, statements_updateMarknameInDb]
  split
  · next less =>
      split
      · next less' => exact iff_of_true (plainShapes_one rfl) (iff_of_true less less')
      · next more' =>
          exact iff_of_false (marknames_differ _ _ _ _ _ _) fun same => more' (same.mp less)
  · next more =>
      split
      · next less' =>
          exact iff_of_false (marknames_differ _ _ _ _ _ _).symm fun same => more (same.mpr less')
      · next more' => exact iff_of_true (plainShapes_one rfl) (iff_of_false more more')

/-- Statements put together in a stream have the same shape as soon as their fixed texts are
the same, and only `updateMarknameInDb` has a choice between two. -/
theorem streamed_shapes_iff {call other : TextCall} (same : call.member = other.member)
    (streamed : call.member ≠ .addUser) :
    plainShapes call.statements = plainShapes other.statements ↔ call.CutAlike other := by
  cases call with
  | addUser => exact absurd rfl streamed
  | updateUserInfoInDb userid newuserinfo =>
      cases other with
      | updateUserInfoInDb => exact iff_of_true (plainShapes_one rfl) trivial
      | _ => cases same
  | modifyUserPassword userid newpassword =>
      cases other with
      | modifyUserPassword => exact iff_of_true (plainShapes_one rfl) trivial
      | _ => cases same
  | deleteTeam userid deletedteamname =>
      cases other with
      | deleteTeam => exact iff_of_true (plainShapes_two rfl rfl) trivial
      | _ => cases same
  | modifyTeamName userid newteamname oldteamname =>
      cases other with
      | modifyTeamName => exact iff_of_true (plainShapes_two rfl rfl) trivial
      | _ => cases same
  | saveChatMsgToDb senderid targetid chatmsg =>
      cases other with
      | saveChatMsgToDb => exact iff_of_true (plainShapes_one rfl) trivial
      | _ => cases same
  | updateMarknameInDb userid friendid newmarkname =>
      cases other with
      | updateMarknameInDb userid' friendid' newmarkname' =>
          exact updateMarknameInDb_shapes_iff userid friendid userid' friendid' newmarkname
            newmarkname'
      | _ => cases same

/-- Two calls of the same member hand over statements of one shape, with the arguments in the
literals, exactly when all strings are plain and the buffer and the order of the ids treat
both alike. -/
theorem fixed_shape_iff {call other : TextCall} (same : call.member = other.member) :
    call.FixedShape other ↔
      (∀ text ∈ call.strings, Plain text) ∧ (∀ text ∈ other.strings, Plain text) ∧
        call.CutAlike other := by
  by_cases buffered : call.member = .addUser
  · cases call with
    | addUser userid username nickname password =>
        cases other with
        | addUser userid' username' nickname' password' =>
            exact addUser_fixedShape_iff userid userid' username nickname password username'
              nickname' password'
        | _ => cases same
    | _ => cases buffered
  · rw [streamed_fixedShape_iff buffered (same ▸ buffered), streamed_shapes_iff same buffered]

theorem chat_messages_fixed_shape :
    (saveChatMsgToDb 3 4 (asciiText "hello")).FixedShape
      (saveChatMsgToDb (-1) 12 (asciiText "100% -- (sure)")) := by
  have plain : ∀ message : List UInt8,
      message.all (fun byte => byte ≠ quote ∧ byte ≠ backslash ∧ byte ≠ 0) = true →
      ∀ senderid targetid : Int, ∀ text ∈ (saveChatMsgToDb senderid targetid message).strings,
        Plain text := by
    intro message ordinary senderid targetid text member
    rw [List.mem_singleton.mp member]
    exact Plain.of_all ordinary
  have same : (saveChatMsgToDb 3 4 (asciiText "hello")).member =
      (saveChatMsgToDb (-1) 12 (asciiText "100% -- (sure)")).member := rfl
  exact (fixed_shape_iff same).mpr ⟨plain _ (by decide) 3 4, plain _ (by decide) (-1) 12,
    trivial⟩

/-- A quote in the password ends its literal. -/
theorem quote_in_password_changes_shape :
    ¬ (modifyUserPassword 8 (asciiText "123")).FixedShape
      (modifyUserPassword 8 (asciiText "', f_owner_id='1")) := by
  decide +kernel

end TextCall

end Talko.Service
