import Mathlib.Data.List.Perm.Basic
import TradingAggregators.Interaction.Parallel

/-!
# What the answers determine

`Determined P x R` says that the events with `P`, which may be those of one state of the
environment, leave the procedure `x` no choice of its value: in every run with these events it
returns `a` exactly when `R a`.  Nothing is said about its errors.

* `Determined.bind`, `Determined.both`, `Determined.three`: sequences and concurrent halves of
  determined procedures are determined, however their questions interleave.
* `Determined.gather`: of a list of determined procedures run at once the outcomes are, up to their
  order.
-/

namespace Interaction

variable {Q : Type} {A : Q → Type} {σ ε α β γ ι : Type}

/-! ## Orders -/

/-- An order of a list has the same elements. -/
theorem arrange_perm (n : ℕ) (as : List α) : (arrange n as).Perm as := by
  induction as generalizing n with
  | nil => exact List.Perm.refl []
  | cons a as ih =>
    have hle : n % (as.length + 1) ≤ (arrange (n / (as.length + 1)) as).length := by
      rw [(ih _).length_eq]
      exact Nat.le_of_lt_succ (Nat.mod_lt n (Nat.succ_pos _))
    exact (List.perm_insertIdx a _ hle).trans ((ih _).cons a)

namespace Program

/-- Programs run at once each have a run of their own. -/
theorem runs_joinAll {ps : List (Program A α)} {tr : Trace A} {as : List α}
    (h : (joinAll ps).Runs tr as) :
    List.Forall₂ (fun p a => ∃ tr', tr' ⊆ tr ∧ p.Runs tr' a) ps as := by
  induction ps generalizing tr as with
  | nil =>
    obtain ⟨-, rfl⟩ := h
    exact List.Forall₂.nil
  | cons p ps ih =>
    obtain ⟨c, hc, rfl⟩ := runs_map.mp h
    obtain ⟨tr₁, tr₂, hmerge, hp, hps⟩ := runs_join hc
    refine List.Forall₂.cons ⟨tr₁, fun e he => (hmerge.mem_iff e).mpr (Or.inl he), hp⟩ ?_
    refine (ih hps).imp fun p' a hrun => ?_
    obtain ⟨tr', hsub, hrun⟩ := hrun
    exact ⟨tr', fun e he => (hmerge.mem_iff e).mpr (Or.inr (hsub he)), hrun⟩

end Program

namespace Proc

/-- A list of procedures run at once, and what follows them: the outcomes are those of a run of
each, in some order. -/
theorem runs_gather_bind {ε' : Type} {xs : List (Proc A Unit ε α)}
    {f : List (Except ε α) → Proc A σ ε' β} {s s' : σ} {tr : Trace A} {r : Except ε' β}
    (h : (gather xs >>= f).Runs s tr r s') :
    ∃ cs ds tr', tr' ⊆ tr ∧ (f cs).Runs s tr' r s' ∧ cs.Perm ds ∧
      List.Forall₂ (fun x d => ∃ tr₁, tr₁ ⊆ tr ∧ x.Runs () tr₁ d ()) xs ds := by
  rcases runs_bind.mp h with ⟨e, -, h₁⟩ | ⟨cs, s₁, tr₁, tr₂, rfl, h₁, h₂⟩
  · obtain ⟨_, -, hc, -⟩ := runs_perform.mp h₁
    exact nomatch hc
  · obtain ⟨cs', hrun, hc, rfl⟩ := runs_perform.mp h₁
    obtain rfl := Except.ok.inj hc
    obtain ⟨as, tr₃, tr₄, rfl, hall, n, rfl, rfl⟩ := Program.runs_bind.mp hrun
    refine ⟨_, as.map Prod.fst, tr₂, List.subset_append_right _ _, h₂, arrange_perm n _, ?_⟩
    rw [List.forall₂_map_right_iff]
    have hruns := Program.runs_joinAll hall
    rw [List.forall₂_map_left_iff] at hruns
    refine hruns.imp fun x a hrun => ?_
    obtain ⟨tr', hsub, hrun⟩ := hrun
    refine ⟨tr', fun e he => ?_, ?_⟩
    · exact List.mem_append_left _ (List.mem_append_left _ (hsub he))
    · unfold Runs
      exact hrun

/-! ## Determined procedures -/

/-- In every run whose events satisfy `P`, the values of `R` are what the procedure returns. -/
def Determined (P : Event A → Prop) (x : Proc A σ ε α) (R : α → Prop) : Prop :=
  ∀ s tr r s', x.Runs s tr r s' → (∀ e ∈ tr, P e) → ∀ a, r = .ok a ↔ R a

namespace Determined

variable {P : Event A → Prop}

theorem pure (a : α) : Determined P (pure a : Proc A σ ε α) (· = a) := by
  intro s tr r s' h _ b
  obtain ⟨-, rfl, -⟩ := runs_pure.mp h
  rw [Except.ok.injEq, eq_comm]

theorem ofResult (c : Except ε α) :
    Determined P (ofResult c : Proc A σ ε α) fun a => c = .ok a := by
  intro s tr r s' h _ a
  obtain ⟨-, rfl, -⟩ := runs_ofResult.mp h
  exact Iff.rfl

theorem congr {x : Proc A σ ε α} {R S : α → Prop} (hx : Determined P x R)
    (h : ∀ a, R a ↔ S a) : Determined P x S :=
  fun s tr r s' hrun hP a => (hx s tr r s' hrun hP a).trans (h a)

theorem bind {x : Proc A σ ε α} {f : α → Proc A σ ε β} {R : α → Prop} {S : α → β → Prop}
    (hx : Determined P x R) (hf : ∀ a, R a → Determined P (f a) (S a)) :
    Determined P (x >>= f) fun b => ∃ a, R a ∧ S a b := by
  intro s tr r s' h hP b
  rcases runs_bind.mp h with ⟨e, rfl, h₁⟩ | ⟨a, s₁, tr₁, tr₂, rfl, h₁, h₂⟩
  · constructor
    · exact fun hb => nomatch hb
    · rintro ⟨a, ha, -⟩
      exact nomatch (hx _ _ _ _ h₁ hP a).mpr ha
  · have hx' := hx _ _ _ _ h₁ fun e he => hP e (List.mem_append_left _ he)
    have ha : R a := (hx' a).mp rfl
    have hfa := hf a ha _ _ _ _ h₂ fun e he => hP e (List.mem_append_right _ he)
    constructor
    · exact fun hb => ⟨a, ha, (hfa b).mp hb⟩
    · rintro ⟨a', ha', hb⟩
      obtain rfl := Except.ok.inj ((hx' a').mpr ha')
      exact (hfa b).mpr hb

/-- Two concurrent halves, and what follows for outcomes with their values. -/
theorem both {ε₁ ε₂ : Type} {x : Proc A Unit ε₁ α} {y : Proc A Unit ε₂ β}
    {f : Except ε₁ α × Except ε₂ β → Proc A σ ε γ} {R : α → Prop} {S : β → Prop} {T : γ → Prop}
    (hx : Determined P x R) (hy : Determined P y S)
    (hf : ∀ c d, (∀ a, c = .ok a ↔ R a) → (∀ b, d = .ok b ↔ S b) → Determined P (f (c, d)) T) :
    Determined P (Proc.both x y >>= f) T := by
  intro s tr r s' h hP
  obtain ⟨c, d, tr₁, tr₂, tr₃, hsub₁, hsub₂, hsub₃, hc, hd, hrest⟩ := runs_both_bind h
  refine hf c d ?_ ?_ s tr₃ r s' hrest fun e he => hP e (hsub₃ he)
  · exact hx _ _ _ _ hc fun e he => hP e (hsub₁ he)
  · exact hy _ _ _ _ hd fun e he => hP e (hsub₂ he)

theorem three {δ ε₁ ε₂ ε₃ : Type} {x : Proc A Unit ε₁ α} {y : Proc A Unit ε₂ β}
    {z : Proc A Unit ε₃ γ} {f : Except ε₁ α × Except ε₂ β × Except ε₃ γ → Proc A σ ε δ}
    {R : α → Prop} {S : β → Prop} {T : γ → Prop} {U : δ → Prop}
    (hx : Determined P x R) (hy : Determined P y S) (hz : Determined P z T)
    (hf : ∀ c d c', (∀ a, c = .ok a ↔ R a) → (∀ b, d = .ok b ↔ S b) →
      (∀ a, c' = .ok a ↔ T a) → Determined P (f (c, d, c')) U) :
    Determined P (Proc.three x y z >>= f) U := by
  intro s tr r s' h hP
  obtain ⟨c, d, c', tr₁, tr₂, tr₃, tr₄, hsub₁, hsub₂, hsub₃, hsub₄, hc, hd, hc', hrest⟩ :=
    runs_three_bind h
  refine hf c d c' ?_ ?_ ?_ s tr₄ r s' hrest fun e he => hP e (hsub₄ he)
  · exact hx _ _ _ _ hc fun e he => hP e (hsub₁ he)
  · exact hy _ _ _ _ hd fun e he => hP e (hsub₂ he)
  · exact hz _ _ _ _ hc' fun e he => hP e (hsub₃ he)

/-- **Determined procedures run at once** return the values of each, in some order. -/
theorem gather {ε' : Type} {is : List ι} {x : ι → Proc A Unit ε α} {R : ι → α → Prop}
    (hx : ∀ i ∈ is, Determined P (x i) (R i)) {f : List (Except ε α) → Proc A σ ε' β} {s s' : σ}
    {tr : Trace A} {r : Except ε' β} (h : (Proc.gather (is.map x) >>= f).Runs s tr r s')
    (hP : ∀ e ∈ tr, P e) :
    ∃ cs ds tr', tr' ⊆ tr ∧ (f cs).Runs s tr' r s' ∧ cs.Perm ds ∧
      List.Forall₂ (fun i d => ∀ a, d = .ok a ↔ R i a) is ds := by
  obtain ⟨cs, ds, tr', hsub, hrest, hperm, hruns⟩ := runs_gather_bind h
  rw [List.forall₂_map_left_iff] at hruns
  refine ⟨cs, ds, tr', hsub, hrest, hperm, ?_⟩
  refine (List.forall₂_and_left _ _ |>.mpr ⟨fun i hi => hx i hi, hruns⟩).imp ?_
  rintro i d ⟨hi, tr₁, hsub₁, hrun⟩
  exact hi _ _ _ _ hrun fun e he => hP e (hsub₁ he)

end Determined

end Proc
end Interaction
