import Mathlib.Data.List.Perm.Basic

/-!
# Items that are lent

A stock of items of which some are idle, in a queue, and the others are lent to borrowers. A
loan takes the item at the front, a return puts it at the back. Neither makes or loses an item.
-/

set_option autoImplicit false

namespace Talko.Library

structure Lending (Borrower Item : Type) where
  idle : List Item
  lent : List (Borrower × Item)
  deriving DecidableEq, Repr

namespace Lending

variable {Borrower Item : Type}

def lentItems (stock : Lending Borrower Item) : List Item :=
  stock.lent.map Prod.snd

/-- Every item of the stock, wherever it is. -/
def items (stock : Lending Borrower Item) : List Item :=
  stock.idle ++ stock.lentItems

/-- The item at the front leaves the stock; an empty queue gives nothing. -/
def take (stock : Lending Borrower Item) : Option Item × Lending Borrower Item :=
  match stock.idle with
  | [] => (none, stock)
  | item :: rest => (some item, { stock with idle := rest })

def add (stock : Lending Borrower Item) (item : Item) : Lending Borrower Item :=
  { stock with idle := stock.idle ++ [item] }

def lend (stock : Lending Borrower Item) (borrower : Borrower) (item : Item) :
    Lending Borrower Item :=
  { stock with lent := stock.lent ++ [(borrower, item)] }

/-- A loan of the item at the front. -/
def borrow (stock : Lending Borrower Item) (borrower : Borrower) : Lending Borrower Item :=
  match stock.take with
  | (none, rest) => rest
  | (some item, rest) => rest.lend borrower item

theorem take_of_empty {stock : Lending Borrower Item} (empty : stock.idle = []) :
    stock.take = (none, stock) := by
  simp [take, empty]

theorem take_of_filled {stock : Lending Borrower Item} (filled : stock.idle ≠ []) :
    ∃ item rest, stock.take = (some item, rest) ∧ (item :: rest.items).Perm stock.items := by
  obtain ⟨item, rest, idle⟩ := List.exists_cons_of_ne_nil filled
  refine ⟨item, { stock with idle := rest }, by simp [take, idle], ?_⟩
  simp only [items, idle]
  exact .refl _

theorem add_items_perm (stock : Lending Borrower Item) (item : Item) :
    (stock.add item).items.Perm (item :: stock.items) := by
  simp only [items, lentItems, add]
  rw [List.append_assoc]
  exact List.perm_middle

theorem lend_items_perm (stock : Lending Borrower Item) (borrower : Borrower) (item : Item) :
    (stock.lend borrower item).items.Perm (item :: stock.items) := by
  simp only [items, lentItems, lend, List.map_append, List.map_cons, List.map_nil]
  rw [← List.append_assoc]
  exact List.perm_append_singleton item _

theorem borrow_items_perm (stock : Lending Borrower Item) (borrower : Borrower) :
    (stock.borrow borrower).items.Perm stock.items := by
  unfold borrow
  by_cases empty : stock.idle = []
  · rw [take_of_empty empty]
  · obtain ⟨item, rest, taken, perm⟩ := take_of_filled empty
    rw [taken]
    exact (lend_items_perm rest borrower item).trans perm

theorem take_idle (stock : Lending Borrower Item) : stock.take.2.idle = stock.idle.tail := by
  unfold take
  cases idle : stock.idle with
  | nil => exact idle
  | cons item rest => rfl

theorem borrow_idle (stock : Lending Borrower Item) (borrower : Borrower) :
    (stock.borrow borrower).idle = stock.idle.tail := by
  rw [← take_idle, borrow]
  rcases stock.take with ⟨_ | item, rest⟩
  · rfl
  · rfl

variable [DecidableEq Borrower] [DecidableEq Item]

/-- A borrower gives back what it holds. -/
def giveBack (stock : Lending Borrower Item) (loan : Borrower × Item) : Lending Borrower Item :=
  if loan ∈ stock.lent then ({ stock with lent := stock.lent.erase loan }).add loan.2 else stock

theorem giveBack_items_perm (stock : Lending Borrower Item) (loan : Borrower × Item) :
    (stock.giveBack loan).items.Perm stock.items := by
  unfold giveBack
  split
  · rename_i lent
    have split := (List.perm_cons_erase lent).map Prod.snd
    refine (add_items_perm _ loan.2).trans ?_
    exact List.perm_middle.symm.trans (split.symm.append_left stock.idle)
  · exact .refl _

theorem giveBack_idle_le (stock : Lending Borrower Item) (loan : Borrower × Item) :
    (stock.giveBack loan).idle.length ≤ stock.idle.length + 1 := by
  unfold giveBack
  split
  · exact Nat.le_of_eq List.length_append
  · exact Nat.le_succ _

end Lending

end Talko.Library
