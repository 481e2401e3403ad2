import Mathlib.Data.List.Forall2
import Mathlib.Logic.Basic
import Mathlib.Tactic.SplitIfs

/-!
# Sequences of checks

A function that checks its input and then computes is a chain of `Except` steps.  The
lemmas here take a chain that succeeded apart (`bind_eq_ok`, `failIf_eq_ok`) and a chain
that failed as well (`bind_eq_error`), so that a proof reads off which checks were passed
without unfolding the chain.
-/

namespace Interaction

variable {ε ε' α β : Type}

/-- Fail with `e` when `bad` holds. -/
def failIf (bad : Prop) [Decidable bad] (e : ε) : Except ε Unit :=
  if bad then .error e else .ok ()

@[simp] theorem failIf_eq_ok {bad : Prop} [Decidable bad] {e : ε} {u : Unit} :
    failIf bad e = .ok u ↔ ¬ bad := by
  rw [failIf]
  split_ifs with h <;> simp [h]

@[simp] theorem failIf_eq_error {bad : Prop} [Decidable bad] {e e' : ε} :
    failIf bad e = .error e' ↔ bad ∧ e = e' := by
  rw [failIf]
  split_ifs with h <;> simp [h]

theorem failIf_pos {bad : Prop} [Decidable bad] (h : bad) (e : ε) :
    failIf bad e = .error e := if_pos h

theorem failIf_neg {bad : Prop} [Decidable bad] (h : ¬ bad) (e : ε) :
    failIf bad e = .ok () := if_neg h

/-- A chain succeeds when its first step does and the rest does on the value it returned. -/
theorem bind_eq_ok {x : Except ε α} {f : α → Except ε β} {b : β} :
    (x >>= f) = .ok b ↔ ∃ a, x = .ok a ∧ f a = .ok b := by
  cases x with
  | error e => exact ⟨fun h => (nomatch h), fun ⟨_, h, _⟩ => (nomatch h)⟩
  | ok a => exact ⟨fun h => ⟨a, rfl, h⟩, fun ⟨_, h, hf⟩ => by cases h; exact hf⟩

/-- A chain fails in its first step or in the rest. -/
theorem bind_eq_error {x : Except ε α} {f : α → Except ε β} {e : ε} :
    (x >>= f) = .error e ↔ x = .error e ∨ ∃ a, x = .ok a ∧ f a = .error e := by
  cases x with
  | error e' =>
    constructor
    · intro h
      cases h
      exact Or.inl rfl
    · rintro (h | ⟨_, h, _⟩)
      · cases h
        rfl
      · exact nomatch h
  | ok a =>
    constructor
    · exact fun h => Or.inr ⟨a, rfl, h⟩
    · rintro (h | ⟨_, h, hf⟩)
      · exact nomatch h
      · cases h
        exact hf

@[simp] theorem ok_bind (a : α) (f : α → Except ε β) : (Except.ok a >>= f) = f a := rfl

@[simp] theorem pure_eq_ok {a b : α} : (pure a : Except ε α) = .ok b ↔ a = b :=
  ⟨fun h => by cases h; rfl, fun h => by rw [h]; rfl⟩

@[simp] theorem mapError_eq_ok {x : Except ε α} {f : ε → ε'} {a : α} :
    x.mapError f = .ok a ↔ x = .ok a := by
  cases x <;> simp [Except.mapError]

theorem isOk_iff {x : Except ε α} : x.isOk = true ↔ ∃ a, x = .ok a := by
  cases x with
  | error e => exact ⟨fun h => absurd h Bool.false_ne_true, fun ⟨_, h⟩ => nomatch h⟩
  | ok a => exact ⟨fun _ => ⟨a, rfl⟩, fun _ => rfl⟩

theorem toOption_eq_some {x : Except ε α} {a : α} : x.toOption = some a ↔ x = .ok a := by
  cases x with
  | error e => exact ⟨fun h => (nomatch h), fun h => (nomatch h)⟩
  | ok b => exact ⟨fun h => by rw [Option.some.inj h], fun h => by rw [Except.ok.inj h]; rfl⟩

/-- A result of which a part is known: what evaluating it can show where its values cannot be
compared. -/
theorem toOption_map_eq_some {x : Except ε α} {f : α → β} {b : β} :
    x.toOption.map f = some b ↔ ∃ a, x = .ok a ∧ f a = b := by
  rw [Option.map_eq_some_iff]
  exact exists_congr fun a => and_congr_left fun _ => toOption_eq_some

/-- A pass over a list succeeds when every step does. -/
theorem mapM_eq_ok {f : α → Except ε β} {xs : List α} {ys : List β} :
    xs.mapM f = .ok ys ↔ List.Forall₂ (fun x y => f x = .ok y) xs ys := by
  induction xs generalizing ys with
  | nil =>
    rw [List.mapM_nil, pure_eq_ok, List.forall₂_nil_left_iff, eq_comm]
  | cons x xs ih =>
    rw [List.mapM_cons, bind_eq_ok, List.forall₂_cons_left_iff]
    constructor
    · rintro ⟨y, hy, h⟩
      obtain ⟨ys', hys, hpure⟩ := bind_eq_ok.mp h
      exact ⟨y, ys', hy, ih.mp hys, (pure_eq_ok.mp hpure).symm⟩
    · rintro ⟨y, ys', hy, hys, rfl⟩
      exact ⟨y, hy, bind_eq_ok.mpr ⟨ys', ih.mpr hys, rfl⟩⟩

/-- What stands on the right of a pairing has its partner on the left. -/
theorem exists_of_forall₂ {R : α → β → Prop} {xs : List α} {ys : List β}
    (h : List.Forall₂ R xs ys) {y : β} (hy : y ∈ ys) : ∃ x ∈ xs, R x y := by
  induction h with
  | nil => exact nomatch hy
  | @cons x _ xs _ hxy _ ih =>
    rcases List.mem_cons.mp hy with rfl | hy
    · exact ⟨x, List.mem_cons_self, hxy⟩
    · obtain ⟨x', hx', hr⟩ := ih hy
      exact ⟨x', List.mem_cons_of_mem x hx', hr⟩

theorem mem_iff_of_forall₂ {P : α → Prop} {xs : List α} {ys : List β} {y : β}
    (h : List.Forall₂ (fun x z => z = y ↔ P x) xs ys) : y ∈ ys ↔ ∃ x ∈ xs, P x := by
  induction h with
  | nil => exact ⟨fun hy => absurd hy List.not_mem_nil, fun ⟨_, hx, _⟩ => nomatch hx⟩
  | cons hxy _ ih => rw [List.mem_cons, List.exists_mem_cons_iff, ← hxy, ih, eq_comm]

/-- The last element with a property, where there is one. -/
theorem exists_last_split {p : α → Prop} {xs : List α} (h : ∃ x ∈ xs, p x) :
    ∃ before x after, xs = before ++ x :: after ∧ p x ∧ ∀ y ∈ after, ¬ p y := by
  induction xs with
  | nil =>
    obtain ⟨x, hx, -⟩ := h
    exact absurd hx List.not_mem_nil
  | cons a xs ih =>
    by_cases hlater : ∃ x ∈ xs, p x
    · obtain ⟨before, x, after, rfl, hx, hafter⟩ := ih hlater
      exact ⟨a :: before, x, after, rfl, hx, hafter⟩
    · obtain ⟨x, hx, hpx⟩ := h
      rcases List.mem_cons.mp hx with rfl | hx
      · exact ⟨[], x, xs, rfl, hpx, fun y hy hpy => hlater ⟨y, hy, hpy⟩⟩
      · exact absurd ⟨x, hx, hpx⟩ hlater

end Interaction
