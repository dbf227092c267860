/-
**A memory written, copied and compared in pieces.**

A memory is a function from offsets to cells. `store` replaces a stretch of it, `storeAll` several
stretches one after the other, and `load` reads it from the start. `move` reads a stretch and
stores it elsewhere in the same memory.

* `load_store`: reading up to the end of the last stretch gives what was there before it, then it.
* `load_storeAll`: pieces stored end to end are read back as one.
* `Copied.move`: a copy that moves its pieces in order, from a higher to a lower place, moves what
  was there at the start, also where the two stretches overlap.
* `compared_access`: which cells a comparison reads that stops at the first access that differs,
  access by access.
-/

import Mathlib.Data.List.Basic
import Mathlib.Data.Set.Function
import Mathlib.Order.Interval.Set.LinearOrder

namespace TrustzoneWatchdog.Lib.Memory

variable {α : Type*}

/-- The cells from `offset` on are replaced by `cells`. -/
def store (mem : Nat → α) (offset : Nat) (cells : List α) : Nat → α := fun address =>
  if address < offset then mem address else (cells[address - offset]?).getD (mem address)

/-- The first `size` cells. -/
def load (mem : Nat → α) (size : Nat) : List α := (List.range size).map mem

/-- Stores in the order of the list. -/
def storeAll (mem : Nat → α) (stores : List (Nat × List α)) : Nat → α :=
  stores.foldl (fun mem piece => store mem piece.1 piece.2) mem

theorem store_below {mem : Nat → α} {offset address : Nat} (below : address < offset)
    (cells : List α) : store mem offset cells address = mem address :=
  if_pos below

theorem store_inside {mem : Nat → α} {offset i : Nat} {cells : List α} (inside : i < cells.length) :
    store mem offset cells (offset + i) = cells[i] := by
  rw [store, if_neg (by omega), Nat.add_sub_cancel_left, List.getElem?_eq_getElem inside,
    Option.getD_some]

theorem load_store (mem : Nat → α) (offset : Nat) (cells : List α) :
    load (store mem offset cells) (offset + cells.length) = load mem offset ++ cells := by
  apply List.ext_getElem
  · simp [load]
  · intro address read _
    have read : address < offset + cells.length := by simpa [load] using read
    by_cases below : address < offset
    · rw [List.getElem_append_left (by simpa [load] using below)]
      simp [load, store_below below]
    · obtain ⟨i, rfl⟩ := Nat.exists_eq_add_of_le (Nat.le_of_not_lt below)
      rw [List.getElem_append_right (by simp [load])]
      simp [load, store_inside (show i < cells.length by omega)]

theorem storeAll_concat (mem : Nat → α) (stores : List (Nat × List α)) (piece : Nat × List α) :
    storeAll mem (stores ++ [piece]) = store (storeAll mem stores) piece.1 piece.2 := by
  rw [storeAll, List.foldl_append]
  rfl

/-- **Pieces stored end to end are read back as one.** -/
theorem load_storeAll (mem : Nat → α) {start : Nat → Nat} {piece : Nat → List α}
    (first : start 0 = 0) (n : Nat)
    (adjacent : ∀ k < n, start (k + 1) = start k + (piece k).length) :
    load (storeAll mem ((List.range n).map fun k => (start k, piece k))) (start n) =
      ((List.range n).map piece).flatten := by
  induction n with
  | zero => simp [load, first]
  | succ n ih =>
    have before := ih fun k below => adjacent k (by omega)
    rw [List.range_succ, List.map_append, List.map_singleton, storeAll_concat,
      adjacent n (by omega), load_store, before, List.map_append, List.flatten_append]
    simp

theorem load_eq_iff {mem mem' : Nat → α} {size : Nat} :
    load mem size = load mem' size ↔ ∀ k < size, mem k = mem' k := by
  simp [load]

/-! ### Copies within one memory -/

theorem store_behind {mem : Nat → α} {offset address : Nat} {cells : List α}
    (behind : offset + cells.length ≤ address) : store mem offset cells address = mem address := by
  rw [store, if_neg (by omega), List.getElem?_eq_none (by omega), Option.getD_none]

/-- The `size` cells from `src` on are read, and then stored from `dst` on. -/
def move (mem : Nat → α) (dst src size : Nat) : Nat → α :=
  store mem dst (load (fun k => mem (src + k)) size)

theorem move_inside {mem : Nat → α} {dst src size k : Nat} (inside : k < size) :
    move mem dst src size (dst + k) = mem (src + k) := by
  rw [move, store_inside (by simpa [load] using inside)]
  simp [load]

theorem move_below {mem : Nat → α} {dst src size address : Nat} (below : address < dst) :
    move mem dst src size address = mem address :=
  store_below below _

theorem move_behind {mem : Nat → α} {dst src size address : Nat} (behind : dst + size ≤ address) :
    move mem dst src size address = mem address :=
  store_behind (by simpa [load] using behind)

/-- In `mem'` the `size` cells from `dst` on are those that `mem` has from `src` on, and what lies
behind them is as it was. -/
structure Copied (mem mem' : Nat → α) (dst src size : Nat) : Prop where
  inside : ∀ k < size, mem' (dst + k) = mem (src + k)
  behind : ∀ address, dst + size ≤ address → mem' address = mem address

theorem Copied.start (mem : Nat → α) (dst src : Nat) : Copied mem mem dst src 0 :=
  ⟨fun k below => absurd below (Nat.not_lt_zero k), fun _ _ => rfl⟩

/-- **A copy to a lower place goes on**: the next piece has not been overwritten yet. -/
theorem Copied.move {mem mem' : Nat → α} {dst src done : Nat} (lower : dst ≤ src)
    (copied : Copied mem mem' dst src done) (size : Nat) :
    Copied mem (move mem' (dst + done) (src + done) size) dst src (done + size) := by
  constructor
  · intro k below
    by_cases earlier : k < done
    · rw [move_below (by omega), copied.inside k earlier]
    · -- the new piece is read behind everything written so far
      obtain ⟨i, rfl⟩ := Nat.exists_eq_add_of_le (Nat.le_of_not_lt earlier)
      rw [← Nat.add_assoc, move_inside (by omega), copied.behind _ (by omega), Nat.add_assoc]
  · intro address behind
    rw [move_behind (by omega), copied.behind address (by omega)]

/-! ### Comparisons -/

section Compare

variable {mem mem' : Nat → α}

/-- An interval is checked piece by piece. -/
theorem eqOn_Ico_split {i j k : Nat} (lower : i ≤ j) (upper : j ≤ k) :
    Set.EqOn mem mem' (Set.Ico i k) ↔
      Set.EqOn mem mem' (Set.Ico i j) ∧ Set.EqOn mem mem' (Set.Ico j k) := by
  rw [← Set.Ico_union_Ico_eq_Ico lower upper, Set.eqOn_union]

theorem eqOn_Ico_one {i : Nat} : Set.EqOn mem mem' (Set.Ico i (i + 1)) ↔ mem i = mem' i := by
  constructor
  · intro same
    exact same ⟨le_rfl, Nat.lt_succ_self i⟩
  · intro same k inside
    rwa [le_antisymm (Nat.lt_succ_iff.mp inside.2) inside.1]

theorem eqOn_Ico_zero {n : Nat} : Set.EqOn mem mem' (Set.Ico 0 n) ↔ ∀ k < n, mem k = mem' k := by
  simp [Set.EqOn]

/-- Cell `d` is among those read. -/
def Touches (reads : List (Nat × Nat)) (d : Nat) : Prop :=
  ∃ access ∈ reads, access.1 ≤ d ∧ d < access.1 + access.2

@[simp] theorem touches_nil (d : Nat) : ¬ Touches [] d := by
  simp [Touches]

@[simp] theorem touches_cons (i size : Nat) (reads : List (Nat × Nat)) (d : Nat) :
    Touches ((i, size) :: reads) d ↔ (i ≤ d ∧ d < i + size) ∨ Touches reads d := by
  simp [Touches]

@[simp] theorem touches_append (first second : List (Nat × Nat)) (d : Nat) :
    Touches (first ++ second) d ↔ Touches first d ∨ Touches second d := by
  simp [Touches, or_and_right, exists_or]

/-- Cell `d` is read when `n` cells are compared from offset `i` on, in accesses of `size` cells and
up to the first that differs. -/
def Compared (mem mem' : Nat → α) (size i n d : Nat) : Prop :=
  i ≤ d ∧ d < i + n / size * size ∧ Set.EqOn mem mem' (Set.Ico i (i + (d - i) / size * size))

theorem not_compared {size i n d : Nat} (less : n < size) : ¬ Compared mem mem' size i n d := by
  rintro ⟨lower, upper, _⟩
  rw [Nat.div_eq_of_lt less] at upper
  omega

/-- The first access, and after it the others. -/
theorem compared_access {size i n d : Nat} (positive : 0 < size) :
    Compared mem mem' size i (n + size) d ↔ (i ≤ d ∧ d < i + size) ∨
      Set.EqOn mem mem' (Set.Ico i (i + size)) ∧ Compared mem mem' size (i + size) n d := by
  have longer : (n + size) / size * size = n / size * size + size := by
    rw [Nat.add_div_right n positive, Nat.succ_mul]
  unfold Compared
  rw [longer]
  by_cases first : d < i + size
  · have start : i ≤ d → (d - i) / size = 0 := fun lower => Nat.div_eq_of_lt (by omega)
    constructor
    · rintro ⟨lower, _⟩
      exact Or.inl ⟨lower, first⟩
    · rintro (⟨lower, _⟩ | ⟨_, lower, _⟩)
      · refine ⟨lower, by omega, ?_⟩
        rw [start lower, Nat.zero_mul, Nat.add_zero, Set.Ico_self]
        exact Set.eqOn_empty mem mem'
      · omega
  · obtain ⟨e, rfl⟩ := Nat.exists_eq_add_of_le (Nat.le_of_not_lt first)
    have start : i + (i + size + e - i) / size * size = i + size + e / size * size := by
      rw [show i + size + e - i = e + size by omega, Nat.add_div_right e positive, Nat.succ_mul]
      omega
    rw [start, Nat.add_sub_cancel_left,
      eqOn_Ico_split (Nat.le_add_right i size) (Nat.le_add_right _ _)]
    constructor
    · rintro ⟨_, upper, same, rest⟩
      exact Or.inr ⟨same, Nat.le_add_right _ _, by omega, rest⟩
    · rintro (⟨_, upper⟩ | ⟨same, _, upper, rest⟩)
      · omega
      · exact ⟨by omega, by omega, same, rest⟩

theorem compared_one {i n d : Nat} :
    Compared mem mem' 1 i n d ↔ i ≤ d ∧ d < i + n ∧ Set.EqOn mem mem' (Set.Ico i d) := by
  rw [Compared, Nat.div_one, Nat.mul_one]
  refine and_congr_right fun lower => ?_
  rw [Nat.div_one, Nat.mul_one, Nat.add_sub_cancel' lower]

end Compare

end TrustzoneWatchdog.Lib.Memory
