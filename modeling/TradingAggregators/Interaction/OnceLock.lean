import TradingAggregators.Interaction.Crash
import TradingAggregators.Interaction.Determined

/-!
# Programs that share a cell which is written once

A `OnceLock` is empty at first and keeps the first value that it is given.  A program that
shares one asks it beside its environment, so concurrent programs meet at the lock in the order
of their events, and `LockStep` says what the lock answers.

* `settled`, `offered_of_settled`: once something was stored it stays, and it was offered.
* `beside`: a procedure of the environment among those that share a lock.
* `readThrough`, `initWith`: two ways to fill a lock, keeping one's own value or taking the
  stored one.
* `Serves`: a procedure with a lock does what a procedure does that is told the lock's content.
* `serves_concurrently`, `initWith_agree`: what holds of any number of them at once.
* `served`: the run against one environment, to be evaluated.
-/

namespace Interaction

variable {Q V : Type} {A : Q → Type} {σ ε α β : Type}

/-- What a program that shares a lock can ask. -/
inductive LockQuery (Q V : Type) where
  | env (q : Q)
  | get
  | set (v : V)
  | getOrInit (v : V)

/-- The answers.  `set` gives a value back that came too late. -/
def LockAnswer (A : Q → Type) (V : Type) : LockQuery Q V → Type
  | .env q => A q
  | .get => Option V
  | .set _ => Except V Unit
  | .getOrInit _ => V

namespace OnceLock

/-! ## 1.  The lock -/

/-- What `set` answers. -/
def setAnswer (v : V) : Option V → Except V Unit
  | none => .ok ()
  | some _ => .error v

/-- The lock's content before and after an event. -/
def LockStep (cell : Option V) : Event (LockAnswer A V) → Option V → Prop
  | ⟨.env _, _⟩, cell' => cell' = cell
  | ⟨.get, a⟩, cell' => a = cell ∧ cell' = cell
  | ⟨.set v, a⟩, cell' => a = setAnswer v cell ∧ cell' = some (cell.getD v)
  | ⟨.getOrInit v, a⟩, cell' => a = cell.getD v ∧ cell' = some (cell.getD v)

/-- An event that would store a value. -/
def Offers (v : V) (e : Event (LockAnswer A V)) : Prop :=
  e.query = .set v ∨ e.query = .getOrInit v

theorem LockStep.keeps {v : V} {e : Event (LockAnswer A V)} {cell : Option V}
    (h : LockStep (some v) e cell) : cell = some v := by
  obtain ⟨q, a⟩ := e
  cases q with
  | env q => exact h
  | get => exact h.2
  | set w => exact h.2
  | getOrInit w => exact h.2

/-- A step stores nothing or what its event offers. -/
theorem LockStep.offered {e : Event (LockAnswer A V)} {cell : Option V} {w : V}
    (h : LockStep cell e (some w)) : cell = some w ∨ Offers w e := by
  cases cell with
  | some v => exact Or.inl h.keeps.symm
  | none =>
    obtain ⟨q, a⟩ := e
    cases q with
    | env q => exact Or.inl h.symm
    | get => exact Or.inl h.2.symm
    | set v =>
      obtain rfl := Option.some.inj h.2
      exact Or.inr (Or.inl rfl)
    | getOrInit v =>
      obtain rfl := Option.some.inj h.2
      exact Or.inr (Or.inr rfl)

/-- An offer leaves something in the lock. -/
theorem LockStep.stores {v : V} {e : Event (LockAnswer A V)} {cell cell' : Option V}
    (h : LockStep cell e cell') (he : Offers v e) : cell' = some (cell.getD v) := by
  obtain ⟨q, a⟩ := e
  rcases he with hq | hq
  · subst hq
    exact h.2
  · subst hq
    exact h.2

section Path

variable {tr : Trace (LockAnswer A V)} {cell cell' : Option V}

/-- A full lock is left as it is, and every look at it finds what it holds. -/
theorem kept {v : V} (h : Protocol.Path LockStep cell tr cell') (hcell : cell = some v) :
    cell' = some v ∧ ∀ a, ⟨.get, a⟩ ∈ tr → a = some v := by
  induction h with
  | nil => exact ⟨hcell, fun a ha => absurd ha List.not_mem_nil⟩
  | cons hstep _ ih =>
    subst hcell
    obtain ⟨hlast, hgets⟩ := ih hstep.keeps
    refine ⟨hlast, fun a ha => ?_⟩
    rcases List.mem_cons.mp ha with rfl | ha
    · exact hstep.1
    · exact hgets a ha

/-- **What an event leaves in the lock stays there.** -/
theorem settled {e : Event (LockAnswer A V)} {w : V} (h : Protocol.Path LockStep cell tr cell')
    (he : e ∈ tr) (hleaves : ∀ c c', LockStep c e c' → c' = some w) : cell' = some w := by
  induction h with
  | nil => exact absurd he List.not_mem_nil
  | cons hstep hpath ih =>
    rcases List.mem_cons.mp he with rfl | he
    · exact (kept hpath (hleaves _ _ hstep)).1
    · exact ih he

theorem settled_of_get {w : V} (h : Protocol.Path LockStep cell tr cell')
    (hget : ⟨.get, some w⟩ ∈ tr) : cell' = some w :=
  settled h hget fun _ _ hstep => hstep.2.trans hstep.1.symm

theorem settled_of_getOrInit {v w : V} (h : Protocol.Path LockStep cell tr cell')
    (hinit : ⟨.getOrInit v, w⟩ ∈ tr) : cell' = some w :=
  settled h hinit fun _ _ hstep => by rw [hstep.2, ← hstep.1]

/-- What is stored was there at the start or was offered on the way. -/
theorem offered_of_settled {w : V} (h : Protocol.Path LockStep cell tr cell')
    (hcell : cell' = some w) : cell = some w ∨ ∃ e ∈ tr, Offers w e := by
  induction h with
  | nil => exact Or.inl hcell
  | cons hstep _ ih =>
    rcases ih hcell with hnext | ⟨e, he, hoffers⟩
    · rw [hnext] at hstep
      rcases hstep.offered with hcell | hoffers
      · exact Or.inl hcell
      · exact Or.inr ⟨_, List.mem_cons_self, hoffers⟩
    · exact Or.inr ⟨e, List.mem_cons_of_mem _ he, hoffers⟩

/-- Behind an offer every look at the lock finds what it will hold at the end. -/
theorem get_after_offer {before after : Trace (LockAnswer A V)} {e : Event (LockAnswer A V)}
    {v : V} (h : Protocol.Path LockStep cell (before ++ e :: after) cell') (he : Offers v e)
    {a : Option V} (hget : ⟨.get, a⟩ ∈ after) : a = cell' ∧ a ≠ none := by
  induction before generalizing cell with
  | nil =>
    cases h with
    | cons hstep hpath =>
      obtain ⟨hlast, hgets⟩ := kept hpath (hstep.stores he)
      rw [hgets a hget, hlast]
      exact ⟨rfl, Option.some_ne_none _⟩
  | cons d before ih =>
    cases h with
    | cons _ hpath => exact ih hpath

end Path

/-! ## 2.  Procedures beside a lock -/

/-- What an event asked of the environment. -/
def asked : Event (LockAnswer A V) → Option (Event A)
  | ⟨.env q, a⟩ => some ⟨q, a⟩
  | _ => none

/-- A program of the environment, among those that share a lock. -/
def besideProgram (V : Type) : Program A α → Program (LockAnswer A V) α
  | .pure a => .pure a
  | .ask q k => .ask (.env q) fun x => besideProgram V (k x)
  | .choose k => .choose fun n => besideProgram V (k n)

def beside (x : Proc A σ ε α) : Proc (LockAnswer A V) σ ε α :=
  ExceptT.mk fun s => besideProgram V (x.start s)

def get : Proc (LockAnswer A V) σ ε (Option V) :=
  Proc.ask (LockQuery.get : LockQuery Q V)

def set (v : V) : Proc (LockAnswer A V) σ ε (Except V Unit) :=
  Proc.ask (LockQuery.set v : LockQuery Q V)

def getOrInit (v : V) : Proc (LockAnswer A V) σ ε V :=
  Proc.ask (LockQuery.getOrInit v : LockQuery Q V)

/-- Use what is stored, or else fetch a value and store it. -/
def through (store : V → Proc (LockAnswer A V) σ ε V) (fetch : Proc A σ ε V) :
    Proc (LockAnswer A V) σ ε V := do
  match ← get with
  | some v => pure v
  | none => do
      let v ← beside fetch
      store v

/-- Store a value if nothing came before it, and keep to one's own. -/
def keepOwn (v : V) : Proc (LockAnswer A V) σ ε V := do
  let _ ← set v
  pure v

def readThrough (fetch : Proc A σ ε V) : Proc (LockAnswer A V) σ ε V :=
  through keepOwn fetch

def initWith (fetch : Proc A σ ε V) : Proc (LockAnswer A V) σ ε V :=
  through getOrInit fetch

theorem runs_besideProgram {p : Program A α} {tr : Trace (LockAnswer A V)} {a : α}
    (h : (besideProgram V p).Runs tr a) : p.Runs (tr.filterMap asked) a := by
  induction p generalizing tr with
  | pure b =>
    obtain ⟨rfl, rfl⟩ := h
    exact ⟨rfl, rfl⟩
  | ask q k ih =>
    obtain ⟨x, tr', rfl, hx⟩ := h
    exact ⟨x, _, rfl, ih x hx⟩
  | choose k ih =>
    obtain ⟨n, hn⟩ := h
    exact ⟨n, ih n hn⟩

theorem asks_besideProgram (p : Program A α) :
    (besideProgram V p).Asks fun q => ∃ q', q = .env q' := by
  induction p with
  | pure a => trivial
  | ask q k ih => exact ⟨⟨q, rfl⟩, ih⟩
  | choose k ih => exact ih

theorem runs_beside {x : Proc A σ ε α} {s s' : σ} {tr : Trace (LockAnswer A V)}
    {r : Except ε α} (h : (beside x).Runs s tr r s') : x.Runs s (tr.filterMap asked) r s' := by
  unfold Proc.Runs at h ⊢
  exact runs_besideProgram h

/-! ## 3.  Runs that may be dropped -/

/-- A run that may be dropped between two of its events, with the outcome if it was not. -/
def Ends (x : Proc A σ ε α) (s : σ) (tr : Trace A) (o : Option (Except ε α × σ)) : Prop :=
  (x.start s).timeout.Runs tr o

theorem runs_timeout_of_runs {p : Program A α} {tr : Trace A} {a : α} (h : p.Runs tr a) :
    p.timeout.Runs tr (some a) := by
  induction p generalizing tr with
  | pure b =>
    obtain ⟨rfl, rfl⟩ := h
    exact ⟨rfl, rfl⟩
  | ask q k ih =>
    obtain ⟨x, tr', rfl, hx⟩ := h
    exact Program.runs_either.mpr (Or.inr ⟨x, tr', rfl, ih x hx⟩)
  | choose k ih =>
    obtain ⟨n, hn⟩ := h
    exact ⟨n, ih n hn⟩

theorem runs_timeout_bind {p : Program A α} {f : α → Program A β} {tr : Trace A}
    {o : Option β} (h : (p.bind f).timeout.Runs tr o) :
    p.timeout.Runs tr none ∨
      ∃ a tr₁ tr₂, tr = tr₁ ++ tr₂ ∧ p.Runs tr₁ a ∧ (f a).timeout.Runs tr₂ o := by
  induction p generalizing tr with
  | pure a => exact Or.inr ⟨a, [], tr, rfl, ⟨rfl, rfl⟩, h⟩
  | ask q k ih =>
    rcases Program.runs_either.mp h with ⟨rfl, -⟩ | ⟨x, tr', rfl, hx⟩
    · exact Or.inl (Program.runs_either.mpr (Or.inl ⟨rfl, rfl⟩))
    · rcases ih x hx with hdropped | ⟨a, tr₁, tr₂, rfl, hk, hf⟩
      · exact Or.inl (Program.runs_either.mpr (Or.inr ⟨x, tr', rfl, hdropped⟩))
      · exact Or.inr ⟨a, _, tr₂, rfl, ⟨x, tr₁, rfl, hk⟩, hf⟩
  | choose k ih =>
    obtain ⟨n, hn⟩ := h
    rcases ih n hn with hdropped | ⟨a, tr₁, tr₂, rfl, hk, hf⟩
    · exact Or.inl ⟨n, hdropped⟩
    · exact Or.inr ⟨a, tr₁, tr₂, rfl, ⟨n, hk⟩, hf⟩

section Ends

variable {x : Proc A σ ε α} {s s' : σ} {tr : Trace A}

theorem ends_of_runs {r : Except ε α} (h : x.Runs s tr r s') : Ends x s tr (some (r, s')) := by
  unfold Proc.Runs at h
  exact runs_timeout_of_runs h

theorem runs_of_ends {c : Except ε α × σ} (h : Ends x s tr (some c)) : x.Runs s tr c.1 c.2 := by
  unfold Proc.Runs
  exact Program.runs_of_runs_timeout h

/-- A sequence ends in its first part, or completes it and ends in its second. -/
theorem ends_bind {f : α → Proc A σ ε β} {o : Option (Except ε β × σ)}
    (h : Ends (x >>= f) s tr o) :
    (∃ o', Ends x s tr o') ∨
      ∃ a s₁ tr₁ tr₂, tr = tr₁ ++ tr₂ ∧ x.Runs s tr₁ (.ok a) s₁ ∧ Ends (f a) s₁ tr₂ o := by
  rcases runs_timeout_bind h with hdropped | ⟨⟨r, s₁⟩, tr₁, tr₂, rfl, hx, hf⟩
  · exact Or.inl ⟨none, hdropped⟩
  · cases r with
    | error e =>
      obtain ⟨rfl, -⟩ := hf
      rw [List.append_nil]
      exact Or.inl ⟨_, runs_timeout_of_runs hx⟩
    | ok a =>
      refine Or.inr ⟨a, s₁, tr₁, tr₂, rfl, ?_, hf⟩
      unfold Proc.Runs
      exact hx

theorem ends_ask_bind {q : Q} {f : A q → Proc A σ ε α} {o : Option (Except ε α × σ)}
    (h : Ends (Proc.ask q >>= f) s tr o) :
    tr = [] ∨ ∃ a tr', tr = ⟨q, a⟩ :: tr' ∧ Ends (f a) s tr' o := by
  rcases Program.runs_either.mp h with ⟨rfl, -⟩ | ⟨a, tr', rfl, hf⟩
  · exact Or.inl rfl
  · exact Or.inr ⟨a, tr', rfl, hf⟩

theorem ends_pure {a : α} {o : Option (Except ε α × σ)} (h : Ends (pure a) s tr o) : tr = [] :=
  h.1

end Ends

/-! ## 4.  Told the content -/

/-- Every value that a trace offers was made from one of its answers. -/
def OffersFrom (From : Event A → V → Prop) (tr : Trace (LockAnswer A V)) : Prop :=
  ∀ e ∈ tr, ∀ v, Offers v e → ∃ d ∈ tr.filterMap asked, From d v

/-- Each run of `y` is one of `x`, told what `y` found in the lock, or that the lock was
empty; and `y` offers what it made of an answer, wherever it is dropped. -/
structure Serves (From : Event A → V → Prop) (x : Option V → Proc A σ ε α)
    (y : Proc (LockAnswer A V) σ ε α) : Prop where
  told : ∀ s tr r s', y.Runs s tr r s' → ∃ cached, (cached = none ∨ ⟨.get, cached⟩ ∈ tr) ∧
    (x cached).Runs s (tr.filterMap asked) r s'
  offers : ∀ s tr o, Ends y s tr o → OffersFrom From tr

section Rules

variable {From : Event A → V → Prop}

/-- Parts of a trace that offer only what was answered make a whole that does. -/
theorem OffersFrom.of_mem_iff {tr tr₁ tr₂ : Trace (LockAnswer A V)}
    (hmem : ∀ e, e ∈ tr ↔ e ∈ tr₁ ∨ e ∈ tr₂) (h₁ : OffersFrom From tr₁)
    (h₂ : OffersFrom From tr₂) : OffersFrom From tr := by
  have hpart : ∀ part : Trace (LockAnswer A V), part ⊆ tr → OffersFrom From part →
      ∀ e ∈ part, ∀ v, Offers v e → ∃ d ∈ tr.filterMap asked, From d v := by
    intro part hsub hpart e he v hoffers
    obtain ⟨d, hd, hfrom⟩ := hpart e he v hoffers
    exact ⟨d, List.filterMap_subset _ hsub hd, hfrom⟩
  intro e he
  rcases (hmem e).mp he with he | he
  · exact hpart tr₁ (fun d hd => (hmem d).mpr (Or.inl hd)) h₁ e he
  · exact hpart tr₂ (fun d hd => (hmem d).mpr (Or.inr hd)) h₂ e he

theorem offersFrom_nil : OffersFrom From ([] : Trace (LockAnswer A V)) :=
  fun _ he => absurd he List.not_mem_nil

theorem OffersFrom.cons_get {found : Option V} {tr : Trace (LockAnswer A V)}
    (h : OffersFrom From tr) : OffersFrom From (⟨.get, found⟩ :: tr) := by
  intro e he v hoffers
  rcases List.mem_cons.mp he with rfl | he
  · rcases hoffers with hq | hq <;> cases hq
  · exact h e he v hoffers

/-- What the environment is asked offers nothing. -/
theorem offersFrom_of_ends {x : Proc A σ ε α} {s : σ} {tr : Trace (LockAnswer A V)}
    {o : Option (Except ε α × σ)} (h : Ends (beside x) s tr o) : OffersFrom From tr := by
  intro e he v hoffers
  obtain ⟨q, hq⟩ := (asks_besideProgram (x.start s)).timeout.runs h e he
  rcases hoffers with hoffers | hoffers <;> cases hq.symm.trans hoffers

theorem offersFrom_of_runs {x : Proc A σ ε α} {s s' : σ} {tr : Trace (LockAnswer A V)}
    {r : Except ε α} (h : (beside x).Runs s tr r s') : OffersFrom From tr :=
  offersFrom_of_ends (ends_of_runs h)

/-- What goes through a lock is offered after the answer that it was made from. -/
theorem offersFrom_through {store : V → Proc (LockAnswer A V) σ ε V} {fetch : Proc A σ ε V}
    {s : σ} {tr : Trace (LockAnswer A V)} {o : Option (Except ε V × σ)}
    (hstore : ∀ v s tr o, Ends (store v) s tr o → ∀ e ∈ tr, ∀ w, Offers w e → w = v)
    (hfetch : ∀ tr v s', fetch.Runs s tr (.ok v) s' → ∃ d ∈ tr, From d v)
    (h : Ends (through store fetch) s tr o) : OffersFrom From tr := by
  rcases ends_ask_bind h with rfl | ⟨found, tr', rfl, hrest⟩
  · exact offersFrom_nil
  refine .cons_get ?_
  cases found with
  | some v =>
    rw [ends_pure hrest]
    exact offersFrom_nil
  | none =>
    rcases ends_bind hrest with ⟨o', hx⟩ | ⟨v, s₁, tr₁, tr₂, rfl, hx, hstored⟩
    · exact offersFrom_of_ends hx
    intro e he w hoffers
    have hleft : tr₁.filterMap asked ⊆ (tr₁ ++ tr₂).filterMap asked :=
      List.filterMap_subset _ (List.subset_append_left _ _)
    rcases List.mem_append.mp he with he | he
    · obtain ⟨d, hd, hfrom⟩ := offersFrom_of_runs hx e he w hoffers
      exact ⟨d, hleft hd, hfrom⟩
    · obtain ⟨d, hd, hfrom⟩ := hfetch _ v s₁ (runs_beside hx)
      rw [hstore v s₁ tr₂ o hstored e he w hoffers]
      exact ⟨d, hleft hd, hfrom⟩

/-- One question to the lock, and what is returned. -/
theorem offers_ask_pure {q : LockQuery Q V} {g : LockAnswer A V q → V} {v : V} {s : σ}
    {tr : Trace (LockAnswer A V)} {o : Option (Except ε V × σ)}
    (hq : ∀ w, q = .set w ∨ q = .getOrInit w → w = v)
    (h : Ends (Proc.ask q >>= fun a => pure (g a)) s tr o) :
    ∀ e ∈ tr, ∀ w, Offers w e → w = v := by
  intro e he w hoffers
  rcases ends_ask_bind h with rfl | ⟨answer, tr', rfl, hpure⟩
  · exact absurd he List.not_mem_nil
  · rw [ends_pure hpure] at he
    obtain rfl := List.mem_singleton.mp he
    exact hq w hoffers

theorem offers_keepOwn {v : V} {s : σ} {tr : Trace (LockAnswer A V)}
    {o : Option (Except ε V × σ)} (h : Ends (keepOwn v) s tr o) :
    ∀ e ∈ tr, ∀ w, Offers w e → w = v := by
  refine offers_ask_pure (q := .set v) (g := fun _ => v) (fun w hw => ?_) h
  rcases hw with hw | hw <;> cases hw
  rfl

theorem offers_getOrInit {v : V} {s : σ} {tr : Trace (LockAnswer A V)}
    {o : Option (Except ε V × σ)} (h : Ends (getOrInit v) s tr o) :
    ∀ e ∈ tr, ∀ w, Offers w e → w = v := by
  refine offers_ask_pure (q := .getOrInit v) (g := id) (fun w hw => ?_) h
  rcases hw with hw | hw <;> cases hw
  rfl

namespace Serves

theorem beside_bind {x : Proc A σ ε α} {f : Option V → α → Proc A σ ε β}
    {g : α → Proc (LockAnswer A V) σ ε β} (h : ∀ a, Serves From (fun c => f c a) (g a)) :
    Serves From (fun c => x >>= f c) (beside x >>= g) where
  told s tr r s' hrun := by
    rcases Proc.runs_bind.mp hrun with ⟨e, rfl, hx⟩ | ⟨a, s₁, tr₁, tr₂, rfl, hx, hg⟩
    · exact ⟨none, Or.inl rfl, Proc.runs_bind.mpr (Or.inl ⟨e, rfl, runs_beside hx⟩)⟩
    · obtain ⟨cached, hcached, hf⟩ := (h a).told s₁ tr₂ r s' hg
      refine ⟨cached, hcached.imp_right (List.mem_append_right _), ?_⟩
      rw [List.filterMap_append]
      exact Proc.runs_bind.mpr (Or.inr ⟨a, s₁, _, _, rfl, runs_beside hx, hf⟩)
  offers s tr o hends := by
    rcases ends_bind hends with ⟨o', hx⟩ | ⟨a, s₁, tr₁, tr₂, rfl, hx, hg⟩
    · exact offersFrom_of_ends hx
    · exact .of_mem_iff (fun e => List.mem_append) (offersFrom_of_runs hx)
        ((h a).offers s₁ tr₂ o hg)

theorem bind_beside {x : Option V → Proc A σ ε α} {y : Proc (LockAnswer A V) σ ε α}
    {k : α → Proc A σ ε β} (h : Serves From x y) :
    Serves From (fun c => x c >>= k) (y >>= fun a => beside (k a)) where
  told s tr r s' hrun := by
    rcases Proc.runs_bind.mp hrun with ⟨e, rfl, hy⟩ | ⟨a, s₁, tr₁, tr₂, rfl, hy, hk⟩
    · obtain ⟨cached, hcached, hx⟩ := h.told s tr _ s' hy
      exact ⟨cached, hcached, Proc.runs_bind.mpr (Or.inl ⟨e, rfl, hx⟩)⟩
    · obtain ⟨cached, hcached, hx⟩ := h.told s tr₁ _ s₁ hy
      refine ⟨cached, hcached.imp_right (List.mem_append_left _), ?_⟩
      rw [List.filterMap_append]
      exact Proc.runs_bind.mpr (Or.inr ⟨a, s₁, _, _, rfl, hx, runs_beside hk⟩)
  offers s tr o hends := by
    rcases ends_bind hends with ⟨o', hy⟩ | ⟨a, s₁, tr₁, tr₂, rfl, hy, hk⟩
    · exact h.offers s tr o' hy
    · exact .of_mem_iff (fun e => List.mem_append) (h.offers s tr₁ _ (ends_of_runs hy))
        (offersFrom_of_ends hk)

/-- A procedure that is told the content takes it, or fetches a value of its own. -/
theorem readThrough {x : Option V → Proc A σ ε V} (hsome : ∀ v, x (some v) = pure v)
    (hfetch : ∀ s tr v s', (x none).Runs s tr (.ok v) s' → ∃ d ∈ tr, From d v) :
    Serves From x (readThrough (x none)) where
  told s tr r s' hrun := by
    obtain ⟨found, tr', rfl, hrest⟩ := Proc.runs_ask_bind.mp hrun
    cases found with
    | some v =>
      obtain ⟨rfl, rfl, rfl⟩ := Proc.runs_pure.mp hrest
      refine ⟨some v, Or.inr List.mem_cons_self, ?_⟩
      rw [hsome]
      exact Proc.runs_pure.mpr ⟨rfl, rfl, rfl⟩
    | none =>
      refine ⟨none, Or.inl rfl, ?_⟩
      rcases Proc.runs_bind.mp hrest with ⟨e, rfl, hx⟩ | ⟨v, s₁, tr₁, tr₂, rfl, hx, hset⟩
      · show (x none).Runs s (tr'.filterMap asked) _ _
        exact runs_beside hx
      · obtain ⟨answer, tr₃, rfl, hpure⟩ := Proc.runs_ask_bind.mp hset
        obtain ⟨rfl, rfl, rfl⟩ := Proc.runs_pure.mp hpure
        show (x none).Runs s ((tr₁ ++ [_]).filterMap asked) _ _
        rw [List.filterMap_append]
        show (x none).Runs s (tr₁.filterMap asked ++ []) _ _
        rw [List.append_nil]
        exact runs_beside hx
  offers s tr o hends :=
    offersFrom_through (fun _ _ _ _ => offers_keepOwn) (hfetch s) hends

end Serves
end Rules

/-! ## 5.  Many at once -/

/-- What an `initWith` returns is what the lock then holds. -/
theorem runs_initWith {fetch : Proc A σ ε V} {s s' : σ} {tr : Trace (LockAnswer A V)} {v : V}
    (h : (initWith fetch).Runs s tr (.ok v) s') :
    ⟨.get, some v⟩ ∈ tr ∨ ∃ w, ⟨.getOrInit w, v⟩ ∈ tr := by
  obtain ⟨found, tr', rfl, hrest⟩ := Proc.runs_ask_bind.mp h
  cases found with
  | some w =>
    obtain ⟨-, hv, -⟩ := Proc.runs_pure.mp hrest
    cases hv
    exact Or.inl List.mem_cons_self
  | none =>
    obtain ⟨w, s₁, tr₁, tr₂, rfl, -, hinit⟩ := Proc.runs_bind_ok.mp hrest
    obtain ⟨a, rfl, ha, -⟩ := Proc.runs_ask.mp hinit
    cases ha
    exact Or.inr ⟨w, List.mem_cons_of_mem _ (List.mem_append_right _ List.mem_cons_self)⟩

section Concurrently

variable {From : Event A → V → Prop}

/-- Concurrent programs offer what each of them offers. -/
theorem offersFrom_joinAll {ps : List (Program (LockAnswer A V) α)}
    (h : ∀ p ∈ ps, ∀ tr a, p.Runs tr a → OffersFrom From tr) {tr : Trace (LockAnswer A V)}
    {as : List α} (hrun : (Program.joinAll ps).Runs tr as) : OffersFrom From tr := by
  induction ps generalizing tr as with
  | nil =>
    obtain ⟨rfl, -⟩ := hrun
    exact fun e he => absurd he List.not_mem_nil
  | cons p ps ih =>
    obtain ⟨hp, hps⟩ := List.forall_mem_cons.mp h
    obtain ⟨c, hc, -⟩ := Program.runs_map.mp hrun
    obtain ⟨tr₁, tr₂, hmerge, h₁, h₂⟩ := Program.runs_join hc
    exact .of_mem_iff hmerge.mem_iff (hp tr₁ _ h₁) (ih hps h₂)

/-- What a lock that was empty holds in the end was made from an answer. -/
theorem made_from_answer {ps : List (Program (LockAnswer A V) α)}
    (h : ∀ p ∈ ps, ∀ tr a, p.Runs tr a → OffersFrom From tr) {tr : Trace (LockAnswer A V)}
    {as : List α} (hrun : (Program.joinAll ps).Runs tr as) {cell : Option V}
    (hpath : Protocol.Path LockStep none tr cell) {v : V} (hcell : cell = some v) :
    ∃ d ∈ tr.filterMap asked, From d v := by
  rcases offered_of_settled hpath hcell with hnone | ⟨e, he, hoffers⟩
  · exact absurd hnone.symm (Option.some_ne_none v)
  · exact offersFrom_joinAll h hrun e he v hoffers

/-- A call of a procedure with a lock, beside what it does when it is told the content. -/
structure Call (A : Q → Type) (V ε α : Type) where
  told : Option V → Proc A Unit ε α
  shared : Proc (LockAnswer A V) Unit ε α

/-- **Concurrent calls that share a lock**, each dropped or run to its end: each one runs as if
it were told that the lock is empty, or what the lock holds in the end, and that was made from
an answer. -/
theorem serves_concurrently {calls : List (Call A V ε α)}
    (h : ∀ call ∈ calls, Serves From call.told call.shared)
    {tr : Trace (LockAnswer A V)} {outcomes : List (Option (Except ε α × Unit))}
    {cell : Option V}
    (hrun : (Program.joinAll (calls.map fun call => (call.shared.start ()).timeout)).Runs tr
      outcomes)
    (hpath : Protocol.Path LockStep none tr cell) :
    List.Forall₂ (fun call outcome => ∀ r, outcome = some (r, ()) → ∃ cached tr',
        (cached = none ∨ cached = cell) ∧ tr' ⊆ tr.filterMap asked ∧
          (call.told cached).Runs () tr' r ()) calls outcomes ∧
      ∀ v, cell = some v → ∃ d ∈ tr.filterMap asked, From d v := by
  constructor
  · have hruns := Program.runs_joinAll hrun
    rw [List.forall₂_map_left_iff, List.forall₂_iff_zip] at hruns
    refine List.forall₂_iff_zip.mpr ⟨hruns.1, fun {call outcome} hmem r hr => ?_⟩
    obtain ⟨tr', hsub, hcall⟩ := hruns.2 hmem
    subst hr
    obtain ⟨cached, hcached, htold⟩ :=
      (h call (List.of_mem_zip hmem).1).told () tr' r () (runs_of_ends hcall)
    refine ⟨cached, _, ?_, List.filterMap_subset _ hsub, htold⟩
    cases cached with
    | none => exact Or.inl rfl
    | some v =>
      refine Or.inr (settled_of_get hpath (hsub ?_)).symm
      exact hcached.resolve_left (Option.some_ne_none v)
  · intro v hcell
    refine made_from_answer (fun p hp tr' o hends => ?_) hrun hpath hcell
    obtain ⟨call, hcall, rfl⟩ := List.mem_map.mp hp
    exact (h call hcall).offers () tr' o hends

/-- **Concurrent calls that take the stored value agree**, whatever each of them fetches, and
that value was made from an answer. -/
theorem initWith_agree {calls : List (Proc A Unit ε V × (V → α))}
    (hfetch : ∀ call ∈ calls, ∀ tr v s', call.1.Runs () tr (.ok v) s' → ∃ d ∈ tr, From d v)
    {tr : Trace (LockAnswer A V)} {outcomes : List (Option (Except ε α × Unit))}
    {cell : Option V}
    (hrun : (Program.joinAll (calls.map fun call =>
      ((initWith call.1 >>= fun v => pure (call.2 v) :
        Proc (LockAnswer A V) Unit ε α).start ()).timeout)).Runs tr outcomes)
    (hpath : Protocol.Path LockStep none tr cell) :
    List.Forall₂ (fun call outcome => ∀ a, outcome = some (.ok a, ()) →
        ∃ v, cell = some v ∧ a = call.2 v) calls outcomes ∧
      ∀ v, cell = some v → ∃ d ∈ tr.filterMap asked, From d v := by
  constructor
  · have hruns := Program.runs_joinAll hrun
    rw [List.forall₂_map_left_iff] at hruns
    refine hruns.imp fun call outcome hcall a ha => ?_
    obtain ⟨tr', hsub, hcall⟩ := hcall
    subst ha
    obtain ⟨v, s₁, tr₁, tr₂, rfl, hinit, hpure⟩ := Proc.runs_bind_ok.mp (runs_of_ends hcall)
    obtain ⟨-, hv, -⟩ := Proc.runs_pure.mp hpure
    refine ⟨v, ?_, Except.ok.inj hv⟩
    rcases runs_initWith hinit with hget | ⟨w, hinit⟩
    · exact settled_of_get hpath (hsub (List.mem_append_left _ hget))
    · exact settled_of_getOrInit hpath (hsub (List.mem_append_left _ hinit))
  · intro v hcell
    refine made_from_answer (fun p hp tr' o hends => ?_) hrun hpath hcell
    obtain ⟨call, hcall, rfl⟩ := List.mem_map.mp hp
    have hoffers : ∀ tr o, Ends (initWith call.1) () tr o → OffersFrom From tr := fun _ _ =>
      offersFrom_through (fun _ _ _ _ => offers_getOrInit) (hfetch call hcall)
    rcases ends_bind hends with ⟨o', hinit⟩ | ⟨w, s₁, tr₁, tr₂, rfl, hinit, hpure⟩
    · exact hoffers _ _ hinit
    · rw [ends_pure hpure, List.append_nil]
      exact hoffers _ _ (ends_of_runs hinit)

end Concurrently

/-! ## 6.  Evaluation -/

/-- What a lock answers, beside an environment that always answers the same. -/
def respond (answers : (q : Q) → A q) (cell : Option V) :
    (q : LockQuery Q V) → LockAnswer A V q × Option V
  | .env q => (answers q, cell)
  | .get => (cell, cell)
  | .set v => (setAnswer v cell, some (cell.getD v))
  | .getOrInit v => (cell.getD v, some (cell.getD v))

theorem lockStep_respond (answers : (q : Q) → A q) (cell : Option V) (q : LockQuery Q V) :
    LockStep cell ⟨q, (respond answers cell q).1⟩ (respond answers cell q).2 := by
  cases q with
  | env q => exact rfl
  | get => exact ⟨rfl, rfl⟩
  | set v => exact ⟨rfl, rfl⟩
  | getOrInit v => exact ⟨rfl, rfl⟩

/-- A run of concurrent programs that nobody drops: the last one goes first. -/
def served (answers : (q : Q) → A q) (p : Program (LockAnswer A V) α) :
    Trace (LockAnswer A V) × α × Option V :=
  Program.serve (respond answers) 1 p none

theorem runs_served (answers : (q : Q) → A q) (p : Program (LockAnswer A V) α) :
    p.Runs (served answers p).1 (served answers p).2.1 ∧
      Protocol.Path LockStep none (served answers p).1 (served answers p).2.2 :=
  ⟨Program.runs_serve (respond answers) 1 p none,
    Program.path_serve (lockStep_respond answers) 1 p none⟩

end OnceLock
end Interaction
