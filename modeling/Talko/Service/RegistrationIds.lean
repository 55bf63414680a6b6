import Talko.Library.KeyedList
import Talko.Service.AccountsProperties
import Talko.Service.Registration

/-!
# The ids that overlapping calls get

A call caches its entry under the id its counter shows at the push, which is the id of its
`INSERT` as long as no other call increments the counter in between.
-/

set_option autoImplicit false

namespace Talko.Service

open Talko.Library

/-- The `INSERT` of the call has been sent under this id and its entry is not pushed yet. -/
def Stage.Awaits (request : Request) (id : Int) (stage : Stage) : Prop :=
  stage = .sent request id ∨ stage = .answered request id

theorem Accounts.base_bump_of_ne (accounts : Accounts) {request other : Request}
    (different : other.isUser ≠ request.isUser) :
    (accounts.bump request).base other = accounts.base other := by
  cases request with
  | user u =>
      cases other with
      | user u' => exact absurd rfl different
      | group groupname ownerid => rfl
  | group groupname ownerid =>
      cases other with
      | user u => rfl
      | group groupname' ownerid' => exact absurd rfl different

theorem Accounts.base_push (accounts : Accounts) (request other : Request) :
    (accounts.push request).base other = accounts.base other := by
  cases other with
  | user u => rfl
  | group groupname ownerid => rfl

@[simp] theorem Request.row_userId (id : Int) (request : Request) :
    (request.row id).userId = id := by
  cases request with
  | user u => rfl
  | group groupname ownerid => rfl

namespace Registration

variable {Call : Type}

/-- MySQL executes an `INSERT` exactly when no row has its id. -/
def InsertsUnused (s : Registration Call) : CallStep Call → Prop
  | .answer call succeeds =>
      ∀ request id, s.stage call = .sent request id → (succeeds = true ↔ id ∉ s.tableIds)
  | _ => True

/-- A counter is incremented only while no call that uses it waits between its `INSERT` and
its push. -/
def IncrementsAlone (s : Registration Call) : CallStep Call → Prop
  | .increment call =>
      ∀ request, s.stage call = .entered request →
        ∀ other waiting id, (s.stage other).Awaits waiting id → waiting.isUser ≠ request.isUser
  | _ => True

/-- Every call that has returned true has cached an entry under the id of the row its own
`INSERT` made, and the ids of the entries are distinct. -/
structure OwnIds (s : Registration Call) : Prop where
  returned : ∀ call request id user, s.stage call = .returned request id user →
    user ∈ s.accounts.allCachedUsers ∧ user.userid = id ∧ request.row id ∈ s.table
  distinct : s.accounts.userids.Nodup

/-- What holds beside it while calls are under way. -/
structure IdsInvariant (s : Registration Call) : Prop extends OwnIds s where
  recorded : ∀ id ∈ s.accounts.userids, id ∈ s.tableIds
  current : ∀ call request id, (s.stage call).Awaits request id → s.accounts.base request = id
  inserted : ∀ call request id, s.stage call = .answered request id →
    request.row id ∈ s.table ∧ id ∉ s.accounts.userids
  apart : ∀ call other request request' id, s.stage call = .answered request id →
    s.stage other = .answered request' id → call = other

theorem start_ids {accounts : Accounts} {table : List AccountRow}
    (distinct : accounts.userids.Nodup)
    (recorded : ∀ id ∈ accounts.userids, id ∈ table.map (·.userId)) :
    (start accounts table : Registration Call).IdsInvariant where
  returned := by
    intro call request id user idle
    cases idle
  distinct := distinct
  recorded := recorded
  current := by
    intro call request id waits
    rcases waits with sent | answered
    · cases sent
    · cases answered
  inserted := by
    intro call request id idle
    cases idle
  apart := by
    intro call other request request' id idle
    cases idle

variable [DecidableEq Call]

theorem stage_moveTo {s : Registration Call} {call other : Call} {stage found : Stage}
    (finds : (s.moveTo call stage).stage other = found) :
    (other = call ∧ stage = found) ∨ (other ≠ call ∧ s.stage other = found) := by
  simp only [moveTo] at finds
  by_cases same : other = call
  · rw [same, Function.update_self] at finds
    exact .inl ⟨same, finds⟩
  · rw [Function.update_of_ne same] at finds
    exact .inr ⟨same, finds⟩

theorem awaits_moveTo {s : Registration Call} {call other : Call} {stage : Stage}
    {request : Request} {id : Int} (waits : ((s.moveTo call stage).stage other).Awaits request id) :
    (other = call ∧ stage.Awaits request id) ∨ (s.stage other).Awaits request id := by
  obtain ⟨same, reached⟩ | ⟨-, kept⟩ :=
    stage_moveTo (rfl : (s.moveTo call stage).stage other = _)
  · exact .inl ⟨same, reached ▸ waits⟩
  · exact .inr (kept ▸ waits)

/-- The state that a step leads to. The call takes the step where it stands before it, and
otherwise the step changes nothing. -/
inductive Moves (s : Registration Call) : CallStep Call → Registration Call → Prop where
  | stays (action : CallStep Call) : Moves s action s
  | known {call : Call} {u : NewUser} (idle : s.stage call = .idle)
      (cached : s.cachedUserid u.username ≠ 0) :
      Moves s (.registerUser call u) (s.moveTo call .registered)
  | registers {call : Call} {u : NewUser} (idle : s.stage call = .idle)
      (unknown : s.cachedUserid u.username = 0) :
      Moves s (.registerUser call u) (s.moveTo call (.entered (.user u)))
  | adds {call : Call} {u : NewUser} (idle : s.stage call = .idle) :
      Moves s (.addUser call u) (s.moveTo call (.entered (.user u)))
  | groups {call : Call} {groupname : String} {ownerid : Int} (idle : s.stage call = .idle) :
      Moves s (.addGroup call groupname ownerid)
        (s.moveTo call (.entered (.group groupname ownerid)))
  | increments {call : Call} {request : Request} (here : s.stage call = .entered request) :
      Moves s (.increment call)
        { s.moveTo call (.incremented request) with accounts := s.accounts.bump request }
  | sends {call : Call} {request : Request} (here : s.stage call = .incremented request) :
      Moves s (.send call) (s.moveTo call (.sent request (s.accounts.base request)))
  | granted {call : Call} {request : Request} {id : Int} (here : s.stage call = .sent request id) :
      Moves s (.answer call true)
        { s.moveTo call (.answered request id) with table := s.table ++ [request.row id] }
  | refused {call : Call} {request : Request} {id : Int} (here : s.stage call = .sent request id) :
      Moves s (.answer call false) (s.moveTo call .failed)
  | pushes {call : Call} {request : Request} {id : Int}
      (here : s.stage call = .answered request id) :
      Moves s (.push call)
        { s.moveTo call (.returned request id (request.entry (s.accounts.base request))) with
          accounts := s.accounts.push request }

theorem step_moves (s : Registration Call) (action : CallStep Call) :
    s.Moves action (s.step action) := by
  cases action with
  | registerUser call u =>
      change s.Moves _ (s.lookUp call u)
      unfold lookUp
      split
      · next idle =>
          split
          · next cached => exact .known idle cached
          · next unknown => exact .registers idle (Decidable.not_not.mp unknown)
      · exact .stays _
  | addUser call u =>
      change s.Moves _ (s.enter call (.user u))
      unfold enter
      split
      · next idle => exact .adds idle
      · exact .stays _
  | addGroup call groupname ownerid =>
      change s.Moves _ (s.enter call (.group groupname ownerid))
      unfold enter
      split
      · next idle => exact .groups idle
      · exact .stays _
  | increment call =>
      change s.Moves _ (s.incrementBase call)
      unfold incrementBase
      split
      · next here => exact .increments here
      · exact .stays _
  | send call =>
      change s.Moves _ (s.send call)
      unfold send
      split
      · next here => exact .sends here
      · exact .stays _
  | answer call succeeds =>
      change s.Moves _ (s.answer call succeeds)
      unfold answer
      split
      · next here =>
          cases succeeds with
          | true => exact .granted here
          | false => exact .refused here
      · exact .stays _
  | push call =>
      change s.Moves _ (s.push call)
      unfold push
      split
      · next here => exact .pushes here
      · exact .stays _

/-- A call whose steps nothing comes between does what `addUser` does. -/
theorem uninterrupted_accounts {s : Registration Call} {call : Call} (idle : s.stage call = .idle)
    (u : NewUser) :
    (run step s [.addUser call u, .increment call, .send call, .answer call true,
      .push call]).accounts = (s.accounts.addUser u ⟨true, true⟩).2 := by
  simp [step, enter, incrementBase, send, answer, push, moveTo, idle, Accounts.addUser,
    Accounts.add]

/-- The stages of a call that has no row to push, or has pushed none. -/
def Unanswered (stage : Stage) : Prop :=
  (∀ request id, stage ≠ .answered request id) ∧ ∀ request id user, stage ≠ .returned request id user

/-- A call moves to a stage without a row of its own, and the counters still show every
waiting call its id. -/
theorem IdsInvariant.unanswered {s : Registration Call} (holds : s.IdsInvariant) (call : Call)
    {stage : Stage} (unanswered : Unanswered stage) {accounts : Accounts}
    (cached : accounts.allCachedUsers = s.accounts.allCachedUsers)
    (own : ∀ request id, stage.Awaits request id → accounts.base request = id)
    (others : ∀ other request id, (s.stage other).Awaits request id →
      accounts.base request = s.accounts.base request) :
    ({ s.moveTo call stage with accounts := accounts }).IdsInvariant := by
  have ids : accounts.userids = s.accounts.userids := by rw [Accounts.userids, cached]; rfl
  have answered : ∀ other request id,
      (s.moveTo call stage).stage other = .answered request id →
      s.stage other = .answered request id := by
    intro other request id finds
    obtain ⟨-, reached⟩ | ⟨-, before⟩ := stage_moveTo finds
    · exact absurd reached (unanswered.1 request id)
    · exact before
  refine ⟨⟨?_, ?_⟩, ?_, ?_, ?_, ?_⟩
  · intro other request id user finds
    obtain ⟨-, reached⟩ | ⟨-, before⟩ := stage_moveTo finds
    · exact absurd reached (unanswered.2 request id user)
    · rw [cached]
      exact holds.returned other request id user before
  · rw [ids]
    exact holds.distinct
  · rw [ids]
    exact holds.recorded
  · intro other request id waits
    obtain ⟨-, reached⟩ | before := awaits_moveTo waits
    · exact own request id reached
    · exact (others other request id before).trans (holds.current other request id before)
  · intro other request id finds
    rw [ids]
    exact holds.inserted other request id (answered other request id finds)
  · intro first second request request' id finds finds'
    exact holds.apart first second request request' id (answered first request id finds)
      (answered second request' id finds')

/-- A call moves to a stage in which it does not wait. -/
theorem IdsInvariant.moveTo {s : Registration Call} (holds : s.IdsInvariant) (call : Call)
    {stage : Stage} (unanswered : Unanswered stage)
    (idle : ∀ request id, ¬ stage.Awaits request id) : (s.moveTo call stage).IdsInvariant :=
  holds.unanswered call unanswered rfl (fun request id waits => absurd waits (idle request id))
    fun _ _ _ _ => rfl

theorem IdsInvariant.send {s : Registration Call} (holds : s.IdsInvariant) (call : Call)
    (request : Request) :
    (s.moveTo call (.sent request (s.accounts.base request))).IdsInvariant := by
  refine holds.unanswered call (by simp [Unanswered]) rfl ?_ fun _ _ _ _ => rfl
  rintro request' id (sent | answered)
  · cases sent
    rfl
  · cases answered

/-- The row of a successful `INSERT` is the call's own: no entry and no other call has its
id. -/
theorem IdsInvariant.insert {s : Registration Call} (holds : s.IdsInvariant) {call : Call}
    {request : Request} {id : Int} (sent : s.stage call = .sent request id)
    (unused : id ∉ s.tableIds) :
    ({ s.moveTo call (.answered request id) with
        table := s.table ++ [request.row id] }).IdsInvariant := by
  have other_id : ∀ other request' id', s.stage other = .answered request' id' → id' ≠ id := by
    intro other request' id' answered same
    have row := (holds.inserted other request' id' answered).1
    exact unused (List.mem_map.mpr ⟨_, row, by rw [Request.row_userId, same]⟩)
  refine ⟨⟨?_, holds.distinct⟩, ?_, ?_, ?_, ?_⟩
  · intro other request' id' user finds
    obtain ⟨-, reached⟩ | ⟨-, before⟩ := stage_moveTo finds
    · cases reached
    · obtain ⟨cached, own, row⟩ := holds.returned other request' id' user before
      exact ⟨cached, own, List.mem_append_left _ row⟩
  · intro id' cached
    have known := holds.recorded id' cached
    rw [tableIds] at known ⊢
    rw [List.map_append]
    exact List.mem_append_left _ known
  · intro other request' id' waits
    rcases awaits_moveTo waits with ⟨-, reached | reached⟩ | before
    · cases reached
    · cases reached
      exact holds.current call request id (.inl sent)
    · exact holds.current other request' id' before
  · intro other request' id' finds
    obtain ⟨-, reached⟩ | ⟨-, before⟩ := stage_moveTo finds
    · cases reached
      refine ⟨List.mem_append_right _ (List.mem_singleton.mpr rfl), ?_⟩
      intro cached
      exact unused (holds.recorded id cached)
    · obtain ⟨row, uncached⟩ := holds.inserted other request' id' before
      exact ⟨List.mem_append_left _ row, uncached⟩
  · intro first second request' request'' id' finds finds'
    obtain ⟨same, reached⟩ | ⟨-, before⟩ := stage_moveTo finds
    · obtain ⟨same', -⟩ | ⟨-, before'⟩ := stage_moveTo finds'
      · rw [same, same']
      · cases reached
        exact absurd rfl (other_id second request'' id before')
    · obtain ⟨-, reached⟩ | ⟨-, before'⟩ := stage_moveTo finds'
      · cases reached
        exact absurd rfl (other_id first request' id before)
      · exact holds.apart first second request' request'' id' before before'

theorem IdsInvariant.push {s : Registration Call} (holds : s.IdsInvariant) {call : Call}
    {request : Request} {id : Int} (answered : s.stage call = .answered request id) :
    ({ s.moveTo call (.returned request id (request.entry (s.accounts.base request))) with
        accounts := s.accounts.push request }).IdsInvariant := by
  have own : s.accounts.base request = id := holds.current call request id (.inr answered)
  obtain ⟨row, uncached⟩ := holds.inserted call request id answered
  have ids : (s.accounts.push request).userids = s.accounts.userids ++ [id] := by
    rw [Accounts.push, Accounts.userids_pushBack, Request.entry_userid, own]
  refine ⟨⟨?_, ?_⟩, ?_, ?_, ?_, ?_⟩
  · intro other request' id' user finds
    obtain ⟨-, reached⟩ | ⟨-, before⟩ := stage_moveTo finds
    · cases reached
      refine ⟨List.mem_append_right _ (List.mem_singleton.mpr rfl), ?_, row⟩
      rw [Request.entry_userid, own]
    · obtain ⟨cached, own', row'⟩ := holds.returned other request' id' user before
      exact ⟨List.mem_append_left _ cached, own', row'⟩
  · rw [ids]
    exact nodup_concat_of_not_mem holds.distinct uncached
  · rw [ids]
    intro id' member
    rcases List.mem_append.mp member with old | new
    · exact holds.recorded id' old
    · rw [List.mem_singleton.mp new]
      exact List.mem_map.mpr ⟨_, row, Request.row_userId id request⟩
  · intro other request' id' waits
    rw [Accounts.base_push]
    rcases awaits_moveTo waits with ⟨-, reached | reached⟩ | before
    · cases reached
    · cases reached
    · exact holds.current other request' id' before
  · intro other request' id' finds
    obtain ⟨-, reached⟩ | ⟨different, before⟩ := stage_moveTo finds
    · cases reached
    · obtain ⟨row', uncached'⟩ := holds.inserted other request' id' before
      refine ⟨row', ?_⟩
      rw [ids]
      intro member
      rcases List.mem_append.mp member with old | new
      · exact uncached' old
      · rw [List.mem_singleton.mp new] at before
        exact different (holds.apart other call request' request id before answered)
  · intro first second request' request'' id' finds finds'
    obtain ⟨-, reached⟩ | ⟨-, before⟩ := stage_moveTo finds
    · cases reached
    · obtain ⟨-, reached⟩ | ⟨-, before'⟩ := stage_moveTo finds'
      · cases reached
      · exact holds.apart first second request' request'' id' before before'

theorem step_ids {s : Registration Call} (holds : s.IdsInvariant) {action : CallStep Call}
    (mysql : s.InsertsUnused action) (alone : s.IncrementsAlone action) :
    (s.step action).IdsInvariant := by
  have entered : ∀ call request, (s.moveTo call (.entered request)).IdsInvariant :=
    fun call request => holds.moveTo call (by simp [Unanswered]) (by simp [Stage.Awaits])
  have moves := s.step_moves action
  generalize s.step action = after at moves ⊢
  cases moves with
  | stays => exact holds
  | known => exact holds.moveTo _ (by simp [Unanswered]) (by simp [Stage.Awaits])
  | registers => exact entered _ _
  | adds => exact entered _ _
  | groups => exact entered _ _
  | @increments call request here =>
      refine holds.unanswered call (by simp [Unanswered])
        (s.accounts.bump_allCachedUsers request) (by simp [Stage.Awaits]) ?_
      intro other waiting id waits
      exact Accounts.base_bump_of_ne _ (alone request here other waiting id waits)
  | sends => exact IdsInvariant.send holds _ _
  | @granted call request id here => exact holds.insert here ((mysql request id here).mp rfl)
  | refused => exact holds.moveTo _ (by simp [Unanswered]) (by simp [Stage.Awaits])
  | pushes here => exact IdsInvariant.push holds here

/-- With a database that refuses the ids it has, every call that returns true has cached its
own id and the cached ids are distinct, in every run in which no counter is incremented
while a call that uses it waits for its push. -/
theorem ids_own_of_alone {accounts : Accounts} {table : List AccountRow}
    (distinct : accounts.userids.Nodup)
    (recorded : ∀ id ∈ accounts.userids, id ∈ table.map (·.userId))
    (actions : List (CallStep Call))
    (mysql : Guarded step InsertsUnused (start accounts table) actions)
    (alone : Guarded step IncrementsAlone (start accounts table) actions) :
    (run step (start accounts table) actions).OwnIds := by
  have kept : (run step (start accounts table) actions).IdsInvariant :=
    run_invariant IdsInvariant
      (fun _ _ holds guards => step_ids holds guards.1 guards.2)
      (start_ids distinct recorded) (mysql.and alone)
  exact kept.toOwnIds

private def interrupted : List (CallStep Bool) :=
  [.addUser false balloon, .addUser true kite, .increment false, .send false,
    .increment true, .answer false true, .push false]

/-- The second call increments the counter between the `INSERT` of the first, which made the
row 1, and its push, which caches the id 2. -/
theorem interrupted_caches_other_id :
    Guarded step InsertsUnused (start .new []) interrupted ∧
      ¬ (run step (start .new []) interrupted).OwnIds := by
  refine ⟨⟨trivial, trivial, trivial, trivial, trivial, ?_, trivial, trivial⟩, ?_⟩
  · intro request id here
    simp [tableIds, step, start, enter, incrementBase, send, moveTo]
  · intro own
    have same := (own.returned false (.user balloon) 1 (Request.entry 2 (.user balloon)) rfl).2.1
    exact absurd same (by decide)

private def oneAfterTheOther : List (CallStep Bool) :=
  [.addUser false balloon, .addUser true kite, .increment false, .send false,
    .answer false true, .push false, .increment true, .send true, .answer true true, .push true]

theorem one_after_the_other_own_ids :
    (run step (start .new []) oneAfterTheOther).OwnIds := by
  refine ids_own_of_alone (by decide) (by decide) oneAfterTheOther ?_ ?_
  · refine ⟨trivial, trivial, trivial, trivial, ?_, trivial, trivial, trivial, ?_, trivial, trivial⟩
    · intro request id here
      cases here
      decide
    · intro request id here
      cases here
      decide
  · refine ⟨trivial, trivial, ?_, trivial, trivial, trivial, ?_, trivial, trivial, trivial, trivial⟩
    · intro request here other waiting id waits
      cases other with
      | false =>
          rcases waits with sent | answered
          · cases sent
          · cases answered
      | true =>
          rcases waits with sent | answered
          · cases sent
          · cases answered
    · intro request here other waiting id waits
      cases other with
      | false =>
          rcases waits with sent | answered
          · cases sent
          · cases answered
      | true =>
          rcases waits with sent | answered
          · cases sent
          · cases answered

end Registration

end Talko.Service
