/-
**Records with times.**

A record is what happened, in order, each event with the time at which it happened. An event of one
kind may have to keep a distance to the next of its kind (`Spaced`), or may have to come again
before long (`Recurs`). Both can be decided on a given record.

* `exists_last`: the last event of a kind.
* `Recurs.reach`: how late anything can be after a given number of events that recur.
-/

import TrustzoneWatchdog.Lib.AlarmRun

namespace TrustzoneWatchdog.Lib.Timed

open TrustzoneWatchdog.Lib.AlarmRun

variable {ε : Type*}

/-- What happened, without the times. -/
def events (record : List (Nat × ε)) : List ε := record.map Prod.snd

@[simp] theorem events_nil : events ([] : List (Nat × ε)) = [] := rfl

@[simp] theorem events_cons (x : Nat × ε) (record : List (Nat × ε)) :
    events (x :: record) = x.2 :: events record := rfl

@[simp] theorem events_append (first second : List (Nat × ε)) :
    events (first ++ second) = events first ++ events second :=
  List.map_append

/-- Time does not run backwards. -/
def Ordered (record : List (Nat × ε)) : Prop := record.Pairwise fun x y => x.1 ≤ y.1

/-- Within `gap` after an event of the kind comes another one, or the record has ended. -/
def Recurs (kind : ε) (gap : Nat) (record : List (Nat × ε)) : Prop :=
  ∀ before t between x after, record = before ++ (t, kind) :: between ++ x :: after →
    kind ∉ events between → x.1 ≤ t + gap

/-- The events of the kind are a period apart, each of them late by `jitter` at most. -/
def Spaced [DecidableEq ε] (kind : ε) (period jitter : Nat) (record : List (Nat × ε)) : Prop :=
  ∀ before t between t' after, record = before ++ (t, kind) :: between ++ (t', kind) :: after →
    t + ((events between).count kind + 1) * period ≤ t' + jitter

/-! ### On a given record -/

theorem recurs_iff {kind : ε} {gap : Nat} {record : List (Nat × ε)} :
    Recurs kind gap record ↔ ∀ before x between y after,
      record = before ++ x :: between ++ y :: after →
        x.2 = kind → kind ∉ events between → y.1 ≤ x.1 + gap := by
  constructor
  · rintro recurs before ⟨t, _⟩ between y after split rfl
    exact recurs before t between y after split
  · intro each before t between x after split
    exact each before (t, kind) between x after split rfl

theorem spaced_iff [DecidableEq ε] {kind : ε} {period jitter : Nat} {record : List (Nat × ε)} :
    Spaced kind period jitter record ↔ ∀ before x between y after,
      record = before ++ x :: between ++ y :: after → x.2 = kind → y.2 = kind →
        x.1 + ((events between).count kind + 1) * period ≤ y.1 + jitter := by
  constructor
  · rintro spaced before ⟨t, _⟩ between ⟨t', _⟩ after split rfl rfl
    exact spaced before t between t' after split
  · intro each before t between t' after split
    exact each before (t, kind) between (t', kind) after split rfl rfl

instance [DecidableEq ε] (kind : ε) (gap : Nat) (record : List (Nat × ε)) :
    Decidable (Recurs kind gap record) :=
  decidable_of_iff' _ (recurs_iff.trans forall_window)

instance [DecidableEq ε] (kind : ε) (period jitter : Nat) (record : List (Nat × ε)) :
    Decidable (Spaced kind period jitter record) :=
  decidable_of_iff' _ (spaced_iff.trans forall_window)

instance (record : List (Nat × ε)) : Decidable (Ordered record) :=
  inferInstanceAs (Decidable (record.Pairwise fun x y => x.1 ≤ y.1))

/-! ### Parts of a record -/

theorem Recurs.concat {kind : ε} {gap : Nat} {record : List (Nat × ε)} {last : Nat × ε}
    (recurs : Recurs kind gap (record ++ [last])) : Recurs kind gap record :=
  fun before t between x after split =>
    recurs before t between x (after ++ [last]) (by rw [split]; simp)

theorem Spaced.concat [DecidableEq ε] {kind : ε} {period jitter : Nat} {record : List (Nat × ε)}
    {last : Nat × ε} (spaced : Spaced kind period jitter (record ++ [last])) :
    Spaced kind period jitter record :=
  fun before t between t' after split =>
    spaced before t between t' (after ++ [last]) (by rw [split]; simp)

/-- A place among the events is a place of the record. -/
theorem split_of_events {record : List (Nat × ε)} {before after : List ε} {e : ε}
    (split : events record = before ++ e :: after) :
    ∃ front t back, record = front ++ (t, e) :: back ∧ events front = before ∧
      events back = after := by
  obtain ⟨front, tail, rfl, rfl, back⟩ := List.map_eq_append_iff.mp split
  obtain ⟨⟨t, e⟩, rest, rfl, rfl, rfl⟩ := List.map_eq_cons_iff.mp back
  exact ⟨front, t, rest, rfl, rfl, rfl⟩

/-- The last event of a kind. -/
theorem exists_last [DecidableEq ε] {kind : ε} {record : List (Nat × ε)}
    (inside : kind ∈ events record) :
    ∃ before t after, record = before ++ (t, kind) :: after ∧ kind ∉ events after := by
  induction record using List.reverseRecOn with
  | nil => simp at inside
  | append_singleton record last ih =>
    obtain ⟨t, e⟩ := last
    by_cases here : e = kind
    · subst here
      exact ⟨record, t, [], rfl, by simp⟩
    · have earlier : kind ∈ events record := by simpa [Ne.symm here] using inside
      obtain ⟨before, t', after, split, none⟩ := ih earlier
      exact ⟨before, t', after ++ [(t, e)], by rw [split]; simp, by simp [none, Ne.symm here]⟩

/-- An event is no earlier than one before it. -/
theorem Ordered.le {record : List (Nat × ε)} (ordered : Ordered record)
    (before : List (Nat × ε)) (x : Nat × ε) (between : List (Nat × ε)) (y : Nat × ε)
    (after : List (Nat × ε)) (split : record = before ++ x :: between ++ y :: after) :
    x.1 ≤ y.1 := by
  subst split
  rw [Ordered, List.append_assoc, List.pairwise_append] at ordered
  exact (List.pairwise_cons.mp ordered.2.1).1 y (by simp)

/-- **How late anything can be.** Where an event recurs, what comes after `n` further ones is no
later than `n + 1` gaps. The induction goes back from one of them to the one before. -/
theorem Recurs.reach [DecidableEq ε] {kind : ε} {gap t : Nat} {before rest : List (Nat × ε)}
    (recurs : Recurs kind gap (before ++ rest)) (seen : kind ∈ events before)
    (early : ∀ x ∈ before, x.1 ≤ t) (first : List (Nat × ε)) (x : Nat × ε)
    (second : List (Nat × ε)) (split : rest = first ++ x :: second) :
    x.1 ≤ t + ((events first).count kind + 1) * gap := by
  induction length : first.length using Nat.strongRecOn generalizing first x second with
  | ind n ih =>
    by_cases again : kind ∈ events first
    · obtain ⟨front, t', between, splits, none⟩ := exists_last again
      subst splits
      have previous := ih front.length (by simp [← length]) front (t', kind)
        (between ++ x :: second) (by rw [split]; simp) rfl
      have next := recurs (before ++ front) t' between x second (by rw [split]; simp) none
      have counted : (events (front ++ (t', kind) :: between)).count kind =
          (events front).count kind + 1 := by
        simp [List.count_eq_zero.mpr none]
      rw [counted, Nat.add_mul _ 1 gap]
      simp only at previous
      omega
    · obtain ⟨front, t', between, splits, none⟩ := exists_last seen
      have last := early (t', kind) (by simp [splits])
      have next := recurs front t' (between ++ first) x second (by rw [splits, split]; simp)
        (by simp [none, again])
      rw [List.count_eq_zero.mpr again]
      simp only at last
      omega

end TrustzoneWatchdog.Lib.Timed
