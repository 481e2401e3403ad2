import Mathlib.Data.List.InsertIdx
import TradingAggregators.Interaction.Procedure

/-!
# Many procedures at once

Concurrent halves nest: three procedures, or a whole list of them, run side by side with their
questions interleaved freely.

* `three`: three procedures, each with its outcome.
* `gather`: a list of procedures, with the outcomes in the order in which they complete.  Nothing
  in the program decides that order (`arrange`).
-/

namespace Interaction

variable {Q : Type} {A : Q → Type} {σ ε α β γ : Type}

/-! ## Orders -/

/-- An order of a list: `n` spells, in a mixed radix, where each element is put among those
behind it. -/
def arrange : ℕ → List α → List α
  | _, [] => []
  | n, a :: as =>
      (arrange (n / (as.length + 1)) as).insertIdx (n % (as.length + 1)) a

namespace Program

/-- Run programs concurrently and wait for all of them. -/
def joinAll : List (Program A α) → Program A (List α)
  | [] => .pure []
  | p :: ps => (join p (joinAll ps)).map fun c => c.1 :: c.2

end Program

namespace Proc

/-! ## A list of procedures -/

/-- Run procedures concurrently and hand their outcomes on as they complete. -/
def gather {ε' : Type} (xs : List (Proc A Unit ε α)) : Proc A σ ε' (List (Except ε α)) :=
  perform <| (Program.joinAll (xs.map fun x => x.start ())).bind fun cs =>
    .choose fun n => .pure (arrange n (cs.map Prod.fst))

/-! ## Two procedures -/

/-- Two concurrent procedures, and what follows them. -/
theorem runs_both_bind {ε₁ ε₂ : Type} {x : Proc A Unit ε₁ α} {y : Proc A Unit ε₂ β}
    {f : Except ε₁ α × Except ε₂ β → Proc A σ ε γ} {s s' : σ} {tr : Trace A} {r : Except ε γ}
    (h : (both x y >>= f).Runs s tr r s') :
    ∃ c d tr₁ tr₂ tr₃, tr₁ ⊆ tr ∧ tr₂ ⊆ tr ∧ tr₃ ⊆ tr ∧
      x.Runs () tr₁ c () ∧ y.Runs () tr₂ d () ∧ (f (c, d)).Runs s tr₃ r s' := by
  rcases runs_bind.mp h with ⟨e, -, h₁⟩ | ⟨c, s₁, tr', tr₃, rfl, h₁, h₂⟩
  · obtain ⟨_, _, _, hc, -⟩ := runs_both h₁
    exact nomatch hc
  · obtain ⟨c', tr₁, tr₂, hc, rfl, hmerge, hx, hy⟩ := runs_both h₁
    cases hc
    refine ⟨c.1, c.2, tr₁, tr₂, tr₃, ?_, ?_, List.subset_append_right _ _, hx, hy, h₂⟩
    · intro e he
      exact List.mem_append_left _ ((hmerge.mem_iff e).mpr (Or.inl he))
    · intro e he
      exact List.mem_append_left _ ((hmerge.mem_iff e).mpr (Or.inr he))

/-! ## Three procedures -/

/-- Run three procedures concurrently and hand all outcomes on. -/
def three {ε₁ ε₂ ε₃ : Type} (x : Proc A Unit ε₁ α) (y : Proc A Unit ε₂ β)
    (z : Proc A Unit ε₃ γ) : Proc A σ ε (Except ε₁ α × Except ε₂ β × Except ε₃ γ) :=
  perform <| (Program.join (x.start ()) (Program.join (y.start ()) (z.start ()))).map
    fun c => (c.1.1, c.2.1.1, c.2.2.1)

/-- A run of three concurrent procedures is made of a run of each. -/
theorem runs_three {ε₁ ε₂ ε₃ : Type} {x : Proc A Unit ε₁ α} {y : Proc A Unit ε₂ β}
    {z : Proc A Unit ε₃ γ} {s s' : σ} {tr : Trace A}
    {r : Except ε (Except ε₁ α × Except ε₂ β × Except ε₃ γ)}
    (h : (three x y z : Proc A σ ε _).Runs s tr r s') :
    ∃ c tr₁ tr₂ tr₃, r = .ok c ∧ s' = s ∧ (∀ e, e ∈ tr ↔ e ∈ tr₁ ∨ e ∈ tr₂ ∨ e ∈ tr₃) ∧
      x.Runs () tr₁ c.1 () ∧ y.Runs () tr₂ c.2.1 () ∧ z.Runs () tr₃ c.2.2 () := by
  obtain ⟨c, hc, rfl, rfl⟩ := runs_perform.mp h
  obtain ⟨d, hd, rfl⟩ := Program.runs_map.mp hc
  obtain ⟨tr₁, tr', hmerge, hx, hrest⟩ := Program.runs_join hd
  obtain ⟨tr₂, tr₃, hmerge', hy, hz⟩ := Program.runs_join hrest
  refine ⟨_, tr₁, tr₂, tr₃, rfl, rfl, fun e => ?_, ?_, ?_, ?_⟩
  · rw [hmerge.mem_iff, hmerge'.mem_iff]
  · unfold Runs
    exact hx
  · unfold Runs
    exact hy
  · unfold Runs
    exact hz

/-- Three concurrent procedures, and what follows them. -/
theorem runs_three_bind {δ ε₁ ε₂ ε₃ : Type} {x : Proc A Unit ε₁ α} {y : Proc A Unit ε₂ β}
    {z : Proc A Unit ε₃ γ} {f : Except ε₁ α × Except ε₂ β × Except ε₃ γ → Proc A σ ε δ}
    {s s' : σ} {tr : Trace A} {r : Except ε δ} (h : (three x y z >>= f).Runs s tr r s') :
    ∃ c d c' tr₁ tr₂ tr₃ tr₄, tr₁ ⊆ tr ∧ tr₂ ⊆ tr ∧ tr₃ ⊆ tr ∧ tr₄ ⊆ tr ∧
      x.Runs () tr₁ c () ∧ y.Runs () tr₂ d () ∧ z.Runs () tr₃ c' () ∧
      (f (c, d, c')).Runs s tr₄ r s' := by
  rcases runs_bind.mp h with ⟨e, -, h₁⟩ | ⟨c, s₁, tr', tr₄, rfl, h₁, h₂⟩
  · obtain ⟨_, _, _, _, hc, -⟩ := runs_three h₁
    exact nomatch hc
  · obtain ⟨c', tr₁, tr₂, tr₃, hc, rfl, hmem, hx, hy, hz⟩ := runs_three h₁
    cases hc
    refine ⟨c.1, c.2.1, c.2.2, tr₁, tr₂, tr₃, tr₄, ?_, ?_, ?_, List.subset_append_right _ _,
      hx, hy, hz, h₂⟩
    · intro e he
      exact List.mem_append_left _ ((hmem e).mpr (Or.inl he))
    · intro e he
      exact List.mem_append_left _ ((hmem e).mpr (Or.inr (Or.inl he)))
    · intro e he
      exact List.mem_append_left _ ((hmem e).mpr (Or.inr (Or.inr he)))

/-! ## What concurrent procedures can ask -/

variable {P : Q → Prop}

theorem Asks.three {ε₁ ε₂ ε₃ : Type} {x : Proc A Unit ε₁ α} {y : Proc A Unit ε₂ β}
    {z : Proc A Unit ε₃ γ} (hx : x.Asks P) (hy : y.Asks P) (hz : z.Asks P) :
    (Proc.three x y z : Proc A σ ε _).Asks P :=
  asks_perform (((hx.start ()).join ((hy.start ()).join (hz.start ()))).map _)

theorem asks_gather {ε' : Type} {xs : List (Proc A Unit ε α)} (h : ∀ x ∈ xs, x.Asks P) :
    (gather xs : Proc A σ ε' _).Asks P := by
  have hall : (Program.joinAll (xs.map fun x => x.start ())).Asks P := by
    induction xs with
    | nil => trivial
    | cons x xs ih =>
      obtain ⟨hx, hxs⟩ := List.forall_mem_cons.mp h
      exact ((hx.start ()).join (ih hxs)).map _
  exact asks_perform (hall.bind fun _ _ => trivial)

end Proc
end Interaction
