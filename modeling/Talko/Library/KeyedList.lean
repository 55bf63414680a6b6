import Mathlib.Data.List.Nodup

/-!
# Lists of keyed items

A loop that edits the first item it selects and stops there. In a list whose items have
distinct keys, a loop that selects by the key might as well go on to the end.
-/

set_option autoImplicit false

namespace Talko.Library

variable {Item Key : Type*}

theorem map_eq_self {edit : Item → Item} {items : List Item}
    (fixed : ∀ item ∈ items, edit item = item) : items.map edit = items :=
  (List.map_congr_left fixed).trans (List.map_id items)

theorem map_eq_self_iff {edit : Item → Item} {items : List Item} :
    items.map edit = items ↔ ∀ item ∈ items, edit item = item := by
  constructor
  · intro same
    have fixed : items.map edit = items.map id := by rw [same, List.map_id]
    exact List.map_inj_left.mp fixed
  · exact map_eq_self

/-- An edit under a condition leaves an item alone just where the condition fails. -/
theorem ite_eq_self_iff {condition : Prop} [Decidable condition] {edited item : Item}
    (changes : condition → edited ≠ item) :
    (if condition then edited else item) = item ↔ ¬ condition := by
  split
  · next met => exact iff_of_false (changes met) (not_not_intro met)
  · next unmet => exact iff_of_true rfl unmet

/-- The flag says whether an item was selected. -/
def editFirst (selects : Item → Bool) (edit : Item → Item) : List Item → Bool × List Item
  | [] => (false, [])
  | item :: rest =>
      if selects item then (true, edit item :: rest)
      else
        let later := editFirst selects edit rest
        (later.1, item :: later.2)

theorem editFirst_snd {selects : Item → Bool} {edit : Item → Item} {key : Item → Key}
    {wanted : Key} (one : ∀ item, selects item = true → key item = wanted) {items : List Item}
    (distinct : (items.map key).Nodup) :
    (editFirst selects edit items).2 =
      items.map fun item => if selects item then edit item else item := by
  induction items with
  | nil => rfl
  | cons item rest ih =>
      obtain ⟨fresh, distinctRest⟩ := List.nodup_cons.mp distinct
      rw [editFirst, List.map_cons]
      split
      · next selected =>
          have kept : rest.map (fun item => if selects item then edit item else item) = rest := by
            apply map_eq_self
            intro other member
            apply if_neg
            intro also
            have same : key other = key item := (one other also).trans (one item selected).symm
            exact fresh (List.mem_map.mpr ⟨other, member, same⟩)
          rw [kept]
      · dsimp only
        rw [ih distinctRest]

theorem editFirst_fst (selects : Item → Bool) (edit : Item → Item) (items : List Item) :
    (editFirst selects edit items).1 = items.any selects := by
  induction items with
  | nil => rfl
  | cons item rest ih =>
      rw [editFirst, List.any_cons]
      split
      · next selected => rw [selected, Bool.true_or]
      · next passed => rw [ih, Bool.eq_false_iff.mpr passed, Bool.false_or]

theorem editFirst_snd_eq_self {selects : Item → Bool} {edit : Item → Item} {items : List Item}
    (fixed : ∀ item ∈ items, selects item = true → edit item = item) :
    (editFirst selects edit items).2 = items := by
  induction items with
  | nil => rfl
  | cons item rest ih =>
      obtain ⟨here, later⟩ := List.forall_mem_cons.mp fixed
      rw [editFirst]
      split
      · next selected => rw [here selected]
      · dsimp only
        rw [ih later]

/-- The items behind the first one selected. -/
def behindFirst (selects : Item → Bool) (items : List Item) : List Item :=
  (items.dropWhile fun item => !selects item).tail

/-- Without distinct keys the loop misses the edits behind the first one. -/
theorem editFirst_snd_eq_map_iff (selects : Item → Bool) (edit : Item → Item)
    (items : List Item) :
    (editFirst selects edit items).2 =
        items.map (fun item => if selects item then edit item else item) ↔
      ∀ item ∈ behindFirst selects items, selects item = true → edit item = item := by
  induction items with
  | nil => simp [editFirst, behindFirst]
  | cons item rest ih =>
      cases selected : selects item with
      | true =>
          have behind : behindFirst selects (item :: rest) = rest := by
            simp [behindFirst, selected]
          rw [editFirst, if_pos selected, List.map_cons, if_pos selected, behind,
            List.cons_eq_cons, and_iff_right rfl, eq_comm, map_eq_self_iff]
          exact forall₂_congr fun _ _ => ite_eq_right_iff
      | false =>
          have behind : behindFirst selects (item :: rest) = behindFirst selects rest := by
            simp [behindFirst, selected]
          have passed : ¬ selects item = true := Bool.eq_false_iff.mp selected
          rw [editFirst, if_neg passed, List.map_cons, if_neg passed, behind, ← ih]
          exact ⟨fun same => (List.cons.inj same).2, fun same => congrArg (item :: ·) same⟩

theorem nodup_concat_of_not_mem {keys : List Key} (distinct : keys.Nodup) {key : Key}
    (fresh : key ∉ keys) : (keys ++ [key]).Nodup := by
  rw [← List.concat_eq_append]
  exact distinct.concat fresh

/-- A place of a list that got one more item holds an old item or is the new last place. -/
theorem getElem?_concat_cases {items : List Item} {item found : Item} {index : Nat}
    (place : (items ++ [item])[index]? = some found) :
    (index < items.length ∧ items[index]? = some found) ∨
      (index = items.length ∧ item = found) := by
  rw [List.getElem?_append] at place
  split at place
  · next inside => exact .inl ⟨inside, place⟩
  · next outside =>
      rw [List.getElem?_singleton] at place
      split at place
      · next first => exact .inr ⟨by omega, Option.some.inj place⟩
      · cases place

end Talko.Library
