import Mathlib.Tactic.Linarith
import Talko.Network.TimerLoopPasses

/-!
# Timers whose times fit

`Timer::run` adds the interval to `expiration_` without a look at the range of `int64_t`. A timer
keeps its time exactly as long as every call finds the start time and the intervals up to it in
that range; behind it the expiration wraps, and the timer is called early. Over all later runs this
is a bound on start time, interval and count.
-/

set_option autoImplicit false

namespace Talko.Network

open Talko.Library

namespace TimerLoop

variable {Callback : Type} {address : TimerAddress} {when interval count : Int64}

/-!
## The calls of one step
-/

theorem dueAt_le_dueAt (forward : 0 ≤ interval.toInt) {first second : Nat}
    (before : first ≤ second) : dueAt when interval first ≤ dueAt when interval second := by
  have more : (first : Int) * interval.toInt ≤ second * interval.toInt :=
    Int.mul_le_mul_of_nonneg_right (Int.ofNat_le.mpr before) forward
  exact Int.add_le_add_left more when.toInt

/-- Every time that the count allows fits. -/
def AlwaysFits (when interval count : Int64) : Prop :=
  interval = 0 ∨ 1 ≤ count.toInt ∧ dueAt when interval (count.toInt - 1).toNat < 2 ^ 63

instance (when interval count : Int64) : Decidable (AlwaysFits when interval count) :=
  inferInstanceAs (Decidable
    (interval = 0 ∨ 1 ≤ count.toInt ∧ dueAt when interval (count.toInt - 1).toNat < 2 ^ 63))

theorem AlwaysFits.fits {loop : TimerLoop Callback} (always : AlwaysFits when interval count)
    (forward : 0 ≤ interval.toInt) (tracks : loop.Tracks address when interval count) :
    loop.Fits address when interval := by
  intro index below
  obtain rfl | ⟨positive, last⟩ := always
  · have start := when.toInt_lt
    have zero : (0 : Int64).toInt = 0 := rfl
    simpa [dueAt, zero] using start
  · have counted := tracks.counted positive
    have within : index ≤ (count.toInt - 1).toNat := by omega
    exact Int.lt_of_le_of_lt (dueAt_le_dueAt forward within) last

end TimerLoop

end Talko.Network
