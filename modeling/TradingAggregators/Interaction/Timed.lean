import Mathlib.Algebra.BigOperators.Group.List.Basic
import Mathlib.Algebra.GroupWithZero.Nat
import Mathlib.Data.List.Basic
import Mathlib.Tactic.Common

/-!
# Runs on a clock

A timed event takes some time, possibly none, until the next one begins.  A clock that starts
with the first event is therefore monotone, and every monotone clock is one of these.

* `Timed.stamped`: when each event begins; `mem_stamped_iff`.
* `Timed.Clocked`: what the events report about the clock is what the clock shows.
* `Clocked.stamp_eq`: from a report to a later event the clock advances by what passes between.
-/

namespace Interaction

variable {α : Type}

/-- An event and the time until the next one begins. -/
structure Timed (α : Type) where
  event : α
  duration : ℕ

namespace Timed

/-- The time that events take together. -/
def total (xs : List (Timed α)) : ℕ :=
  (xs.map Timed.duration).sum

@[simp] theorem total_cons (x : Timed α) (xs : List (Timed α)) :
    total (x :: xs) = x.duration + total xs :=
  List.sum_cons

@[simp] theorem total_append (xs ys : List (Timed α)) :
    total (xs ++ ys) = total xs + total ys := by
  rw [total, List.map_append, List.sum_append]
  rfl

/-- The events with the times at which they begin. -/
def stamped (start : ℕ) : List (Timed α) → List (Timed α × ℕ)
  | [] => []
  | x :: xs => (x, start) :: stamped (start + x.duration) xs

theorem mem_stamped_iff {start t : ℕ} {x : Timed α} {xs : List (Timed α)} :
    (x, t) ∈ stamped start xs ↔
      ∃ before after, xs = before ++ x :: after ∧ t = start + total before := by
  induction xs generalizing start with
  | nil => simp [stamped]
  | cons y xs ih =>
    rw [stamped, List.mem_cons, ih]
    constructor
    · rintro (hfirst | ⟨before, after, rfl, rfl⟩)
      · obtain ⟨rfl, rfl⟩ := Prod.mk.inj hfirst
        exact ⟨[], xs, rfl, rfl⟩
      · exact ⟨y :: before, after, rfl, by rw [total_cons, Nat.add_assoc]⟩
    · rintro ⟨before, after, hsplit, rfl⟩
      cases before with
      | nil =>
        obtain ⟨rfl, rfl⟩ := List.cons.inj hsplit
        exact Or.inl rfl
      | cons z before =>
        obtain ⟨rfl, rfl⟩ := List.cons.inj hsplit
        exact Or.inr ⟨before, after, rfl, by rw [total_cons, Nat.add_assoc]⟩

/-- What events report about the clock is what it shows when they begin. -/
def Clocked (report : α → Option ℕ) (start : ℕ) (xs : List (Timed α)) : Prop :=
  ∀ p ∈ stamped start xs, ∀ now ∈ report p.1.event, now = p.2

instance (report : α → Option ℕ) (start : ℕ) (xs : List (Timed α)) :
    Decidable (Clocked report start xs) :=
  inferInstanceAs (Decidable (∀ p ∈ stamped start xs, ∀ now ∈ report p.1.event, now = p.2))

section Clocked

variable {report : α → Option ℕ} {start now : ℕ} {x : Timed α}
  {before between after : List (Timed α)}

theorem Clocked.report_eq (h : Clocked report start (before ++ x :: after))
    (hnow : report x.event = some now) : now = start + total before :=
  h (x, _) (mem_stamped_iff.mpr ⟨before, after, rfl, rfl⟩) now hnow

/-- The time at which an event begins, counted from an earlier report. -/
theorem Clocked.stamp_eq (h : Clocked report start (before ++ x :: (between ++ after)))
    (hnow : report x.event = some now) :
    start + total (before ++ x :: between) = now + (x.duration + total between) := by
  have hreport := h.report_eq hnow
  rw [total_append, total_cons]
  omega

end Clocked

end Timed
end Interaction
