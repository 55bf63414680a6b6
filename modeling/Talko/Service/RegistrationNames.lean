import Talko.Service.RegistrationIds

/-!
# The names that overlapping calls take

A registration looks its name up and pushes it much later, and a group takes the text of its
id as its name without looking. The names stay distinct as long as no name is taken or asked
for in between.
-/

set_option autoImplicit false

namespace Talko.Service

open Talko.Library

def Request.username? : Request → Option String
  | .user u => some u.username
  | .group _ _ => none

/-- The name that a registration past its lookup is going to push. -/
def Stage.pendingName : Stage → Option String
  | .entered request | .incremented request | .sent request _ | .answered request _ =>
      request.username?
  | _ => none

namespace Registration

variable {Call : Type}

/-- No entry has the name and no registration under way is going to push it. -/
def NameFree (s : Registration Call) (name : String) : Prop :=
  name ∉ s.usernames ∧ ∀ call, (s.stage call).pendingName ≠ some name

/-- A registration gets past its lookup only with a free name, and a group is pushed only
when the text of the id that it reads is free. -/
def TakesFreeNames (s : Registration Call) : CallStep Call → Prop
  | .registerUser call u =>
      s.stage call = .idle → s.cachedUserid u.username = 0 → s.NameFree u.username
  | .addUser call u => s.stage call = .idle → s.NameFree u.username
  | .push call =>
      ∀ groupname ownerid id, s.stage call = .answered (.group groupname ownerid) id →
        s.NameFree (toString s.accounts.baseGroupId)
  | _ => True

structure NamesInvariant (s : Registration Call) : Prop where
  distinct : s.usernames.Nodup
  free : ∀ call name, (s.stage call).pendingName = some name → name ∉ s.usernames
  apart : ∀ call other name, (s.stage call).pendingName = some name →
    (s.stage other).pendingName = some name → call = other

theorem start_names {accounts : Accounts} {table : List AccountRow}
    (distinct : (accounts.allCachedUsers.map (·.username)).Nodup) :
    (start accounts table : Registration Call).NamesInvariant where
  distinct := distinct
  free := by
    intro call name idle
    cases idle
  apart := by
    intro call other name idle
    cases idle

variable [DecidableEq Call]

theorem pendingName_moveTo {s : Registration Call} {call other : Call} {stage : Stage}
    {name : String} (pending : ((s.moveTo call stage).stage other).pendingName = some name) :
    (other = call ∧ stage.pendingName = some name) ∨
      (other ≠ call ∧ (s.stage other).pendingName = some name) := by
  obtain ⟨same, reached⟩ | ⟨different, kept⟩ :=
    stage_moveTo (rfl : (s.moveTo call stage).stage other = _)
  · exact .inl ⟨same, reached ▸ pending⟩
  · exact .inr ⟨different, kept ▸ pending⟩

/-- A call that goes on with its name, or gives it up, takes none from the others. -/
theorem NamesInvariant.keep {s : Registration Call} (holds : s.NamesInvariant) {call : Call}
    {stage : Stage}
    (kept : ∀ name, stage.pendingName = some name → (s.stage call).pendingName = some name)
    {after : Registration Call} (stages : after.stage = (s.moveTo call stage).stage)
    (names : after.usernames = s.usernames) : after.NamesInvariant := by
  have earlier : ∀ other name, (after.stage other).pendingName = some name →
      (s.stage other).pendingName = some name := by
    intro other name pending
    rw [stages] at pending
    rcases pendingName_moveTo pending with ⟨same, reached⟩ | ⟨-, before⟩
    · rw [same]
      exact kept name reached
    · exact before
  refine ⟨?_, ?_, ?_⟩
  · rw [names]
    exact holds.distinct
  · intro other name pending
    rw [names]
    exact holds.free other name (earlier other name pending)
  · intro first second name pending pending'
    exact holds.apart first second name (earlier first name pending)
      (earlier second name pending')

theorem NamesInvariant.take {s : Registration Call} (holds : s.NamesInvariant) (call : Call)
    {u : NewUser} (free : s.NameFree u.username) :
    (s.moveTo call (.entered (.user u))).NamesInvariant := by
  refine ⟨holds.distinct, ?_, ?_⟩
  · intro other name pending
    rcases pendingName_moveTo pending with ⟨-, reached⟩ | ⟨-, before⟩
    · cases reached
      exact free.1
    · exact holds.free other name before
  · intro first second name pending pending'
    rcases pendingName_moveTo pending with ⟨same, reached⟩ | ⟨-, before⟩
    · rcases pendingName_moveTo pending' with ⟨same', -⟩ | ⟨-, before'⟩
      · rw [same, same']
      · cases reached
        exact absurd before' (free.2 second)
    · rcases pendingName_moveTo pending' with ⟨-, reached⟩ | ⟨-, before'⟩
      · cases reached
        exact absurd before (free.2 first)
      · exact holds.apart first second name before before'

/-- An entry is pushed whose name no other entry has and no other call is going to push. -/
theorem NamesInvariant.push {s : Registration Call} (holds : s.NamesInvariant) {call : Call}
    {request : Request} {id : Int} {name : String}
    (named : (request.entry (s.accounts.base request)).username = name)
    (free : name ∉ s.usernames)
    (others : ∀ other, other ≠ call → (s.stage other).pendingName ≠ some name) :
    ({ s.moveTo call (.returned request id (request.entry (s.accounts.base request))) with
        accounts := s.accounts.push request } : Registration Call).NamesInvariant := by
  have names : ({ s.moveTo call (.returned request id
      (request.entry (s.accounts.base request))) with
        accounts := s.accounts.push request } : Registration Call).usernames =
        s.usernames ++ [name] := by
    simp [usernames, Accounts.push, Accounts.pushBack, named]
  refine ⟨?_, ?_, ?_⟩
  · rw [names]
    exact nodup_concat_of_not_mem holds.distinct free
  · intro other name' pending
    rw [names]
    rcases pendingName_moveTo pending with ⟨-, reached⟩ | ⟨different, before⟩
    · cases reached
    · intro member
      rcases List.mem_append.mp member with old | new
      · exact holds.free other name' before old
      · rw [List.mem_singleton.mp new] at before
        exact others other different before
  · intro first second name' pending pending'
    rcases pendingName_moveTo pending with ⟨-, reached⟩ | ⟨-, before⟩
    · cases reached
    · rcases pendingName_moveTo pending' with ⟨-, reached⟩ | ⟨-, before'⟩
      · cases reached
      · exact holds.apart first second name' before before'

theorem step_names {s : Registration Call} (holds : s.NamesInvariant) {action : CallStep Call}
    (takes : s.TakesFreeNames action) : (s.step action).NamesInvariant := by
  have moves := s.step_moves action
  generalize s.step action = after at moves ⊢
  cases moves with
  | stays => exact holds
  | known => exact holds.keep (by simp [Stage.pendingName]) rfl rfl
  | registers idle unknown => exact holds.take _ (takes idle unknown)
  | adds idle => exact holds.take _ (takes idle)
  | groups => exact holds.keep (by simp [Stage.pendingName, Request.username?]) rfl rfl
  | @increments call request here =>
      refine holds.keep (by simp [here, Stage.pendingName]) rfl ?_
      cases request with
      | user u => rfl
      | group groupname ownerid => rfl
  | sends here => exact holds.keep (by simp [here, Stage.pendingName]) rfl rfl
  | granted here => exact holds.keep (by simp [here, Stage.pendingName]) rfl rfl
  | refused => exact holds.keep (by simp [Stage.pendingName]) rfl rfl
  | @pushes call request id here =>
      cases request with
      | user u =>
          have pending : (s.stage call).pendingName = some u.username := by
            rw [here]
            rfl
          refine NamesInvariant.push holds rfl (holds.free call _ pending) ?_
          intro other different pending'
          exact different (holds.apart other call _ pending' pending)
      | group groupname ownerid =>
          obtain ⟨free, others⟩ := takes groupname ownerid id here
          exact NamesInvariant.push holds rfl free fun other _ => others other

/-- The names of the entries stay distinct in every run that takes only free names. -/
theorem usernames_distinct_of_free {accounts : Accounts} {table : List AccountRow}
    (distinct : (accounts.allCachedUsers.map (·.username)).Nodup) (actions : List (CallStep Call))
    (free : Guarded step TakesFreeNames (start accounts table) actions) :
    (run step (start accounts table) actions).usernames.Nodup := by
  have kept : (run step (start accounts table) actions).NamesInvariant :=
    run_invariant NamesInvariant (fun _ _ holds takes => step_names holds takes)
      (start_names distinct) free
  exact kept.distinct

private def registeredTwice : List (CallStep Bool) :=
  [.registerUser false balloon, .registerUser true balloon,
    .increment false, .send false, .answer false true, .push false,
    .increment true, .send true, .answer true true, .push true]

/-- Both registrations look the name up before either has pushed it. -/
theorem overlapping_registrations_share_name :
    ¬ (run step (start .new []) registeredTwice).usernames.Nodup := by
  have names : (run step (start .new []) registeredTwice).usernames =
      [balloon.username, balloon.username] := rfl
  rw [names]
  simp

private def registeredThenGroup : List (CallStep Bool) :=
  [.registerUser false balloon, .addGroup true "balloons" 1,
    .increment true, .increment false, .send true, .answer true true, .push true]

theorem group_beside_registration_distinct :
    (run step (start .new []) registeredThenGroup).usernames.Nodup := by
  refine usernames_distinct_of_free ?_ registeredThenGroup
    ⟨?_, trivial, trivial, trivial, trivial, trivial, ?_, trivial⟩
  · exact List.nodup_nil
  · intro _ _
    refine ⟨List.not_mem_nil, ?_⟩
    intro call pending
    cases pending
  · intro groupname ownerid id _
    refine ⟨List.not_mem_nil, ?_⟩
    intro call pending
    cases call with
    | false => exact absurd pending (by decide)
    | true => exact absurd pending (by decide)

end Registration

end Talko.Service
