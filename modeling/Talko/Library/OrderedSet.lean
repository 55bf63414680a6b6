import Mathlib.Data.List.Sort

/-!
# Ordered sets with a cursor

A set of a linear order kept as its ascending list, as the ordered containers of a
standard library keep it: an element that is there already is not inserted again, a
cursor names the element it stands on, and the element after a cursor is the least
one above it. The last section is about a walk over a list that stops at the first
element without a property.
-/

set_option autoImplicit false

namespace Talko.Library

section OrderedSet

variable {α : Type*} [LinearOrder α]

def Ascending (elements : List α) : Prop :=
  elements.Pairwise (· < ·)

def orderedSetInsert (element : α) (elements : List α) : List α :=
  if element ∈ elements then elements else elements.orderedInsert (· ≤ ·) element

/-- Where a cursor on `element` stands after it moves on; `none` is the end. -/
def orderedSetNext (elements : List α) (element : α) : Option α :=
  elements.find? (element < ·)

theorem mem_orderedSetInsert {element other : α} {elements : List α} :
    other ∈ orderedSetInsert element elements ↔ other = element ∨ other ∈ elements := by
  unfold orderedSetInsert
  split
  · rename_i present
    constructor
    · exact Or.inr
    · rintro (rfl | inside)
      · exact present
      · exact inside
  · exact List.mem_orderedInsert _

theorem orderedSetInsert_perm {element : α} {elements : List α} (absent : element ∉ elements) :
    (orderedSetInsert element elements).Perm (element :: elements) := by
  rw [orderedSetInsert, if_neg absent]
  exact List.perm_orderedInsert _ _ _

theorem Ascending.insert {elements : List α} (ascending : Ascending elements) (element : α) :
    Ascending (orderedSetInsert element elements) := by
  unfold orderedSetInsert
  split
  · exact ascending
  · rename_i absent
    have sorted : (elements.orderedInsert (· ≤ ·) element).Pairwise (· ≤ ·) :=
      List.Pairwise.orderedInsert _ _ (ascending.imp le_of_lt)
    have unique : (elements.orderedInsert (· ≤ ·) element).Nodup := by
      rw [(List.perm_orderedInsert _ _ _).nodup_iff, List.nodup_cons]
      exact ⟨absent, ascending.imp ne_of_lt⟩
    exact (sorted.and unique).imp fun both => lt_of_le_of_ne both.1 both.2

theorem orderedSetNext_split {front rest : List α} {element : α}
    (ascending : Ascending (front ++ element :: rest)) :
    orderedSetNext (front ++ element :: rest) element = rest.head? := by
  obtain ⟨_, fromElement, across⟩ := List.pairwise_append.mp ascending
  have below : ∀ other ∈ front, ¬ element < other := fun other inside =>
    not_lt_of_gt (across other inside element List.mem_cons_self)
  have frontMissed : front.find? (element < ·) = none :=
    List.find?_eq_none.mpr fun other inside => by simpa using below other inside
  rw [orderedSetNext, List.find?_append, frontMissed, Option.none_or]
  cases rest with
  | nil => simp
  | cons next rest =>
      have above : element < next := (List.pairwise_cons.mp fromElement).1 next List.mem_cons_self
      simp [above]

theorem Ascending.erase_split [BEq α] [LawfulBEq α] {front rest : List α} {element : α}
    (ascending : Ascending (front ++ element :: rest)) :
    (front ++ element :: rest).erase element = front ++ rest := by
  have across := (List.pairwise_append.mp ascending).2.2
  have absent : element ∉ front := fun inside =>
    lt_irrefl element (across element inside element List.mem_cons_self)
  rw [List.erase_append_right _ absent, List.erase_cons_head]

end OrderedSet

section Walk

variable {α : Type*}

/-- A walk that stops at the first element without `due` reaches every `wanted` one if
and only if no element without `due` comes before a `wanted` one. -/
theorem reached_iff_pairwise {wanted : α → Prop} {due : α → Bool} {elements : List α}
    (wantedDue : ∀ element, wanted element → due element = true) (unique : elements.Nodup) :
    (∀ element ∈ elements, wanted element → element ∈ elements.takeWhile due) ↔
      elements.Pairwise fun earlier later => wanted later → due earlier = true := by
  induction elements with
  | nil => simp
  | cons head rest ih =>
      obtain ⟨absent, restUnique⟩ := List.nodup_cons.mp unique
      rw [List.pairwise_cons, ← ih restUnique]
      cases isDue : due head with
      | true =>
          rw [List.takeWhile_cons_of_pos isDue]
          constructor
          · intro reached
            refine ⟨fun _ _ _ => rfl, fun element inside isWanted => ?_⟩
            have different : element ≠ head := fun same => absent (same ▸ inside)
            have found := reached element (List.mem_cons_of_mem head inside) isWanted
            exact (List.mem_cons.mp found).resolve_left different
          · rintro ⟨_, reached⟩ element inside isWanted
            rcases List.mem_cons.mp inside with rfl | inside
            · exact List.mem_cons_self
            · exact List.mem_cons_of_mem head (reached element inside isWanted)
      | false =>
          have stopped : (head :: rest).takeWhile due = [] := by simp [isDue]
          rw [stopped]
          constructor
          · intro reached
            have nothingWanted : ∀ element ∈ rest, ¬ wanted element := fun element inside isWanted =>
              List.not_mem_nil (reached element (List.mem_cons_of_mem head inside) isWanted)
            exact ⟨fun element inside isWanted => absurd isWanted (nothingWanted element inside),
              fun element inside isWanted => absurd isWanted (nothingWanted element inside)⟩
          · rintro ⟨headFirst, _⟩ element inside isWanted
            rcases List.mem_cons.mp inside with rfl | inside
            · exact absurd (wantedDue element isWanted) (by simp [isDue])
            · exact absurd (headFirst element inside isWanted) (by simp)

end Walk

end Talko.Library
