import Mathlib.Data.List.Nodup
import Mathlib.Data.List.Perm.Subperm

/-!
# The open files of a process

A table of open descriptors with a limit, each with its owner. Opening takes the lowest number
that is free and fails when the table is full; closing a number that is not open does nothing.
-/

set_option autoImplicit false

namespace Talko.Library

/-- The lowest number that is not taken. -/
def lowestFree (taken : List Nat) : Nat :=
  ((List.range (taken.length + 1)).find? fun fd => decide (fd ∉ taken)).getD taken.length

theorem lowestFree_not_mem (taken : List Nat) : lowestFree taken ∉ taken := by
  unfold lowestFree
  cases found : (List.range (taken.length + 1)).find? fun fd => decide (fd ∉ taken) with
  | some fd =>
      have free := List.find?_some found
      exact of_decide_eq_true free
  | none =>
      -- All of `taken.length + 1` numbers would be taken.
      have subset : List.range (taken.length + 1) ⊆ taken := by
        intro fd member
        have taken' := List.find?_eq_none.mp found fd member
        exact of_not_not fun absent => taken' (decide_eq_true absent)
      have length := (List.subperm_of_subset List.nodup_range subset).length_le
      rw [List.length_range] at length
      exact absurd length (Nat.not_succ_le_self _)

structure FileTable (Owner : Type) where
  limit : Nat
  files : List (Nat × Owner)
  distinct : (files.map Prod.fst).Nodup
  within : files.length ≤ limit

namespace FileTable

variable {Owner : Type}

def empty (limit : Nat) : FileTable Owner :=
  ⟨limit, [], List.nodup_nil, Nat.zero_le limit⟩

/-- The table is full. -/
def full (table : FileTable Owner) : Prop :=
  table.limit ≤ table.files.length

instance (table : FileTable Owner) : Decidable table.full :=
  inferInstanceAs (Decidable (table.limit ≤ table.files.length))

/-- The number that the next file gets. -/
def next (table : FileTable Owner) : Nat :=
  lowestFree (table.files.map Prod.fst)

theorem next_not_mem (table : FileTable Owner) : table.next ∉ table.files.map Prod.fst :=
  lowestFree_not_mem _

def add (table : FileTable Owner) (owner : Owner) (room : ¬ table.full) : FileTable Owner where
  limit := table.limit
  files := (table.next, owner) :: table.files
  distinct := List.nodup_cons.mpr ⟨table.next_not_mem, table.distinct⟩
  within := Nat.lt_of_not_le room

/-- The number and the table behind it, or nothing when the table is full. -/
def openFile (table : FileTable Owner) (owner : Owner) : Option (Nat × FileTable Owner) :=
  if full : table.full then none else some (table.next, table.add owner full)

def close (table : FileTable Owner) (fd : Nat) : FileTable Owner where
  limit := table.limit
  files := table.files.filter fun entry => entry.1 ≠ fd
  distinct := table.distinct.sublist (List.filter_sublist.map Prod.fst)
  within := Nat.le_trans (List.length_filter_le _ _) table.within

/-- Who has the number. -/
def owner? (table : FileTable Owner) (fd : Nat) : Option Owner :=
  table.files.lookup fd

theorem openFile_eq_none {table : FileTable Owner} {owner : Owner} (full : table.full) :
    table.openFile owner = none :=
  dif_pos full

theorem openFile_eq_some {table : FileTable Owner} {owner : Owner} (room : ¬ table.full) :
    table.openFile owner = some (table.next, table.add owner room) :=
  dif_neg room

/-- What opening a file can give. -/
theorem openFile_cases (table : FileTable Owner) (owner : Owner) :
    (table.full ∧ table.openFile owner = none) ∨
      ∃ room : ¬ table.full, table.openFile owner = some (table.next, table.add owner room) := by
  by_cases full : table.full
  · exact .inl ⟨full, openFile_eq_none full⟩
  · exact .inr ⟨full, openFile_eq_some full⟩

theorem mem_add {table : FileTable Owner} {owner : Owner} (room : ¬ table.full)
    {entry : Nat × Owner} :
    entry ∈ (table.add owner room).files ↔ entry = (table.next, owner) ∨ entry ∈ table.files :=
  List.mem_cons

/-- Opening a file leaves those of the other owners. -/
theorem mem_add_of_ne {table : FileTable Owner} {opener owner : Owner} (room : ¬ table.full)
    (differ : owner ≠ opener) (fd : Nat) :
    (fd, owner) ∈ (table.add opener room).files ↔ (fd, owner) ∈ table.files := by
  rw [mem_add room]
  exact or_iff_right fun same => differ (congrArg Prod.snd same)

theorem mem_of_mem_add {table : FileTable Owner} {opener owner : Owner} (room : ¬ table.full)
    {fd : Nat} (listed : (fd, owner) ∈ (table.add opener room).files) (differ : owner ≠ opener) :
    (fd, owner) ∈ table.files :=
  (mem_add_of_ne room differ fd).mp listed

theorem mem_close {table : FileTable Owner} {fd : Nat} {entry : Nat × Owner} :
    entry ∈ (table.close fd).files ↔ entry ∈ table.files ∧ entry.1 ≠ fd := by
  simp [close]

/-- A number names one file. -/
theorem entry_unique {table : FileTable Owner} {first second : Nat × Owner}
    (firstIn : first ∈ table.files) (secondIn : second ∈ table.files)
    (same : first.1 = second.1) : first = second :=
  List.inj_on_of_nodup_map table.distinct firstIn secondIn same

/-- Closing a file leaves those of the other owners. -/
theorem mem_close_of_ne {table : FileTable Owner} {closed : Nat} {closer : Owner}
    (named : (closed, closer) ∈ table.files) (owner : Owner) (differ : owner ≠ closer) (fd : Nat) :
    (fd, owner) ∈ (table.close closed).files ↔ (fd, owner) ∈ table.files := by
  rw [mem_close]
  refine and_iff_left_of_imp fun member same => differ ?_
  exact congrArg Prod.snd (entry_unique member named same)

theorem mem_of_owner? {table : FileTable Owner} {fd : Nat} {owner : Owner}
    (found : table.owner? fd = some owner) : (fd, owner) ∈ table.files := by
  obtain ⟨before, after, split, _⟩ := List.lookup_eq_some_iff.mp found
  rw [split]
  exact List.mem_append_right _ List.mem_cons_self

theorem owner?_eq_some {table : FileTable Owner} {fd : Nat} {owner : Owner}
    (member : (fd, owner) ∈ table.files) : table.owner? fd = some owner := by
  unfold owner?
  cases found : table.files.lookup fd with
  | none =>
      have absent := List.lookup_eq_none_iff.mp found (fd, owner) member
      simp at absent
  | some other =>
      exact congrArg (fun entry => some entry.2) (entry_unique (mem_of_owner? found) member rfl)

/-- Closing a number that is open makes room. -/
theorem length_close_lt {table : FileTable Owner} {fd : Nat} {owner : Owner}
    (member : (fd, owner) ∈ table.files) :
    (table.close fd).files.length < table.files.length :=
  List.length_filter_lt_length_iff_exists.mpr ⟨(fd, owner), member, by simp⟩

theorem length_close_le (table : FileTable Owner) (fd : Nat) :
    (table.close fd).files.length ≤ table.files.length :=
  List.length_filter_le _ _

theorem not_full_close {table : FileTable Owner} {fd : Nat} (room : ¬ table.full) :
    ¬ (table.close fd).full :=
  fun full => room (Nat.le_trans full (table.length_close_le fd))

theorem not_full_close_of_mem {table : FileTable Owner} {fd : Nat} {owner : Owner}
    (member : (fd, owner) ∈ table.files) : ¬ (table.close fd).full :=
  Nat.not_le_of_lt (Nat.lt_of_lt_of_le (length_close_lt member) table.within)

end FileTable

end Talko.Library
