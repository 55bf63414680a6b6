import Talko.Service.UserUpdates

/-!
# When the cache follows the table

Behind its `UPDATE` a call owes the cache its values. A cached user that catches up with what
it is owed, in the order of the `UPDATE`s, agrees with its row; when the calls write the
cache in another order, the user keeps the values of an earlier `UPDATE`.
-/

set_option autoImplicit false

namespace Talko.Service

open Talko.Library

/-- A call as it acts on one user. -/
def User.update (user : User) (call : UpdateCall) : User :=
  if user.userid = call.userid then call.update.setUser user else user

namespace Update

@[simp] theorem setUser_userid (update : Update) (user : User) :
    (update.setUser user).userid = user.userid := by
  cases update with
  | info new => rfl
  | password newpassword => rfl
  | teaminfo newteaminfo => rfl

@[simp] theorem setRow_userId (update : Update) (row : UserRow) :
    (update.setRow row).userId = row.userId := by
  cases update with
  | info new => rfl
  | password newpassword => rfl
  | teaminfo newteaminfo => rfl

/-- Updates of different kinds write different fields. -/
theorem setUser_comm {first second : Update} (apart : first.kind ≠ second.kind) (user : User) :
    second.setUser (first.setUser user) = first.setUser (second.setUser user) := by
  cases first with
  | info new =>
      cases second with
      | info new' => exact absurd rfl apart
      | password newpassword => rfl
      | teaminfo newteaminfo => rfl
  | password newpassword =>
      cases second with
      | info new => rfl
      | password newpassword' => exact absurd rfl apart
      | teaminfo newteaminfo => rfl
  | teaminfo newteaminfo =>
      cases second with
      | info new => rfl
      | password newpassword => rfl
      | teaminfo newteaminfo' => exact absurd rfl apart

theorem agrees_set {row : UserRow} {user : User} (agrees : row.Agrees user) (update : Update) :
    (update.setRow row).Agrees (update.setUser user) := by
  obtain ⟨password, teaminfo, nickname, facetype, customface, gender, birthday, signature,
    address, phonenumber, mail⟩ := agrees
  cases update with
  | info new => exact ⟨password, teaminfo, rfl, rfl, rfl, rfl, rfl, rfl, rfl, rfl, rfl⟩
  | password newpassword =>
      exact ⟨rfl, teaminfo, nickname, facetype, customface, gender, birthday, signature,
        address, phonenumber, mail⟩
  | teaminfo newteaminfo =>
      exact ⟨password, rfl, nickname, facetype, customface, gender, birthday, signature,
        address, phonenumber, mail⟩

end Update

namespace User

@[simp] theorem update_userid (user : User) (call : UpdateCall) :
    (user.update call).userid = user.userid := by
  unfold update
  split
  · exact Update.setUser_userid _ _
  · rfl

theorem update_of_eq {user : User} {call : UpdateCall} (same : user.userid = call.userid) :
    user.update call = call.update.setUser user :=
  if_pos same

theorem update_of_ne {user : User} {call : UpdateCall} (other : user.userid ≠ call.userid) :
    user.update call = user :=
  if_neg other

/-- Two calls write different fields or different users. -/
theorem update_comm {first second : UpdateCall}
    (apart : ¬ (first.userid = second.userid ∧ first.update.kind = second.update.kind))
    (user : User) : (user.update first).update second = (user.update second).update first := by
  by_cases one : user.userid = first.userid
  · by_cases two : user.userid = second.userid
    · have kinds : first.update.kind ≠ second.update.kind :=
        fun same => apart ⟨one.symm.trans two, same⟩
      rw [update_of_eq ((user.update_userid first).trans two), update_of_eq one,
        update_of_eq ((user.update_userid second).trans one), update_of_eq two,
        Update.setUser_comm kinds]
    · have later : (user.update first).userid ≠ second.userid := by rwa [update_userid]
      rw [update_of_ne two, update_of_ne later]
  · have later : (user.update second).userid ≠ first.userid := by rwa [update_userid]
    rw [update_of_ne one, update_of_ne later]

theorem run_update_userid (user : User) (calls : List UpdateCall) :
    (run update user calls).userid = user.userid :=
  run_invariant_always (fun later : User => later.userid = user.userid)
    (fun later call same => (later.update_userid call).trans same) rfl calls

end User

/-!
## Steps
-/

namespace UserStore

/-- The cached users catch up with the calls that wait and then agree with their rows. -/
structure CatchesUp (s : UserStore) : Prop where
  distinct : (s.users.map (·.userid)).Nodup
  recorded : ∀ user ∈ s.users, ∃ row ∈ s.table, row.userId = user.userid
  agrees : ∀ user ∈ s.users, ∀ row ∈ s.table, row.userId = user.userid →
    row.Agrees (run User.update user s.waiting)

theorem updateCached_snd (call : UpdateCall) {users : List User}
    (distinct : (users.map (·.userid)).Nodup) :
    (call.updateCached users).2 = users.map (·.update call) := by
  rw [UpdateCall.updateCached,
    editFirst_snd (fun user selected => of_decide_eq_true selected) distinct]
  exact List.map_congr_left fun user _ => by simp only [User.update, decide_eq_true_eq]

theorem CatchesUp.execute {s : UserStore} (holds : s.CatchesUp) (call : UpdateCall) :
    (s.step (.execute call)).CatchesUp := by
  have ids : ∀ row : UserRow,
      (if row.userId = call.userid then call.update.setRow row else row).userId = row.userId := by
    intro row
    split
    · exact Update.setRow_userId _ _
    · rfl
  refine ⟨holds.distinct, ?_, ?_⟩
  · intro user member
    obtain ⟨row, inTable, same⟩ := holds.recorded user member
    exact ⟨_, List.mem_map.mpr ⟨row, inTable, rfl⟩, (ids row).trans same⟩
  · intro user member row inTable same
    obtain ⟨old, inOld, rfl⟩ := List.mem_map.mp inTable
    have sameOld : old.userId = user.userid := (ids old).symm.trans same
    have before := holds.agrees user member old inOld sameOld
    have target : (run User.update user s.waiting).userid = old.userId :=
      (user.run_update_userid s.waiting).trans sameOld.symm
    change (if old.userId = call.userid then call.update.setRow old else old).Agrees
      (run User.update user (s.waiting ++ [call]))
    rw [run_append, run_cons, run_nil]
    split
    · next hit =>
        rw [User.update_of_eq (target.trans hit)]
        exact Update.agrees_set before call.update
    · next missed =>
        rw [User.update_of_ne fun equal => missed (target.symm.trans equal)]
        exact before

/-- A cache update comes before no cache update of the same kind for the same user whose
`UPDATE` was executed earlier. -/
def CachesInOrder (s : UserStore) : UpdateStep → Prop
  | .execute _ => True
  | .updateCached position =>
      ∀ call ∈ s.waiting[position]?, ∀ earlier ∈ s.waiting.take position,
        ¬ (earlier.userid = call.userid ∧ earlier.update.kind = call.update.kind)

/-- A call that commutes with those before it can be taken first. -/
theorem run_eraseIdx {s : UserStore} {position : Nat} {call : UpdateCall}
    (inOrder : s.CachesInOrder (.updateCached position))
    (here : s.waiting[position]? = some call) (user : User) :
    run User.update (user.update call) (s.waiting.eraseIdx position) =
      run User.update user s.waiting := by
  obtain ⟨within, found⟩ := List.getElem?_eq_some_iff.mp here
  have split : s.waiting.take position ++ call :: s.waiting.drop (position + 1) = s.waiting := by
    rw [← found, ← List.drop_eq_getElem_cons within, List.take_append_drop]
  have commutes : ∀ user : User, ∀ earlier ∈ s.waiting.take position,
      (user.update earlier).update call = (user.update call).update earlier :=
    fun user earlier member => User.update_comm (inOrder call here earlier member) user
  have first := run_take_first commutes user (s.waiting.drop (position + 1))
  rw [split] at first
  rw [first, run_cons, List.eraseIdx_eq_take_drop_succ]

theorem CatchesUp.updateCached {s : UserStore} (holds : s.CatchesUp) {position : Nat}
    (inOrder : s.CachesInOrder (.updateCached position)) :
    (s.step (.updateCached position)).CatchesUp := by
  unfold step
  dsimp only
  split
  · next call here =>
      have edited := updateCached_snd call holds.distinct
      refine ⟨?_, ?_, ?_⟩
      · have ids : (s.users.map (·.update call)).map (·.userid) = s.users.map (·.userid) := by
          rw [List.map_map]
          exact List.map_congr_left fun user _ => user.update_userid call
        dsimp only
        rw [edited, ids]
        exact holds.distinct
      · dsimp only
        rw [edited]
        intro user member
        obtain ⟨old, inside, rfl⟩ := List.mem_map.mp member
        rw [User.update_userid]
        exact holds.recorded old inside
      · dsimp only
        rw [edited]
        intro user member row inTable same
        obtain ⟨old, inside, rfl⟩ := List.mem_map.mp member
        rw [User.update_userid] at same
        rw [run_eraseIdx inOrder here]
        exact holds.agrees old inside row inTable same
  · exact holds

private def crossed : List UpdateStep :=
  [.execute ⟨1, .password "first"⟩, .execute ⟨1, .password "second"⟩,
    .updateCached 1, .updateCached 0]

end UserStore

end Talko.Service
