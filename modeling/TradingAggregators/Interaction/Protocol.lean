import TradingAggregators.Interaction.Procedure

/-!
# Programs that follow a protocol

A protocol is a step relation on the phases of an exchange: it says which event may come next
in a phase and where it leads.  A program follows a protocol when each of its events is a step,
whatever it is answered and whenever a deadline cuts it off.

* `Program.Follows`, `Proc.Follows`: the program follows the protocol from a phase on, and
  where it returns the phase and the result satisfy a postcondition.
* `Follows.bind`, `Follows.join`, `Follows.timeout`, ...: one rule for each construct.  What
  runs beside a program may ask only what leaves every phase unchanged.
* `Follows.runs`: the trace of a run is a path of the protocol, and it ends in a phase of the
  postcondition.
-/

namespace Interaction

variable {Q : Type} {A : Q → Type} {S σ τ ε α β : Type}

/-- Which events a phase allows, and to which phase they lead. -/
abbrev Protocol (A : Q → Type) (S : Type) := S → Event A → S → Prop

namespace Protocol

variable {m : Protocol A S}

/-- A trace whose events lead from one phase to another. -/
inductive Path (m : Protocol A S) : S → Trace A → S → Prop where
  | nil (p : S) : Path m p [] p
  | cons {p p' p'' : S} {e : Event A} {tr : Trace A} :
      m p e p' → Path m p' tr p'' → Path m p (e :: tr) p''

/-- Questions that no phase minds. -/
def Ignores (m : Protocol A S) (P : Q → Prop) : Prop :=
  ∀ e : Event A, P e.query → ∀ p, m p e p

end Protocol

namespace Program

variable {m : Protocol A S} {P : Q → Prop}

/-- From the phase `p` on, every event of the program is a step, and where it returns the phase
and the result satisfy `post`. -/
def Follows (m : Protocol A S) (post : S → α → Prop) : S → Program A α → Prop
  | p, .pure a => post p a
  | p, .ask q k => ∀ x, ∃ p', m p ⟨q, x⟩ p' ∧ (k x).Follows m post p'
  | p, .choose k => ∀ n, (k n).Follows m post p

/-- **The trace of a run is a path of the protocol.** -/
theorem Follows.runs {post : S → α → Prop} {p : S} {x : Program A α} (h : x.Follows m post p)
    {tr : Trace A} {a : α} (hrun : x.Runs tr a) : ∃ p', m.Path p tr p' ∧ post p' a := by
  induction x generalizing p tr with
  | pure b =>
    obtain ⟨rfl, rfl⟩ := hrun
    exact ⟨p, .nil p, h⟩
  | ask q k ih =>
    obtain ⟨x, tr', rfl, hx⟩ := hrun
    obtain ⟨p', hstep, hk⟩ := h x
    obtain ⟨p'', hpath, hpost⟩ := ih x hk hx
    exact ⟨p'', .cons hstep hpath, hpost⟩
  | choose k ih =>
    obtain ⟨n, hn⟩ := hrun
    exact ih n (h n) hn

/-- What is known of every run is known where it ends. -/
theorem Follows.of_runs {post post' : S → α → Prop} {p : S} {x : Program A α}
    (h : x.Follows m post p) (himp : ∀ p' a tr, post p' a → x.Runs tr a → post' p' a) :
    x.Follows m post' p := by
  induction x generalizing p with
  | pure a => exact himp p a [] h ⟨rfl, rfl⟩
  | ask q k ih =>
    intro x
    obtain ⟨p', hstep, hk⟩ := h x
    exact ⟨p', hstep, ih x hk fun p'' a tr hpost hrun =>
      himp p'' a (⟨q, x⟩ :: tr) hpost ⟨x, tr, rfl, hrun⟩⟩
  | choose k ih =>
    exact fun n => ih n (h n) fun p' a tr hpost hrun => himp p' a tr hpost ⟨n, hrun⟩

theorem Follows.mono {post post' : S → α → Prop} {p : S} {x : Program A α}
    (h : x.Follows m post p) (himp : ∀ p' a, post p' a → post' p' a) : x.Follows m post' p :=
  h.of_runs fun p' a _ hpost _ => himp p' a hpost

/-- A program whose questions leave the phase alone. -/
theorem Follows.of_asks {p : S} {x : Program A α} (h : x.Asks P)
    (hstep : ∀ e : Event A, P e.query → m p e p) :
    x.Follows m (fun p' _ => p' = p) p := by
  induction x with
  | pure a => rfl
  | ask q k ih => exact fun x => ⟨p, hstep ⟨q, x⟩ h.1, ih x (h.2 x)⟩
  | choose k ih => exact fun n => ih n (h n)

theorem Follows.bind {mid : S → α → Prop} {post : S → β → Prop} {p : S} {x : Program A α}
    {f : α → Program A β} (h : x.Follows m mid p)
    (hf : ∀ p' a, mid p' a → (f a).Follows m post p') : (x.bind f).Follows m post p := by
  induction x generalizing p with
  | pure a => exact hf p a h
  | ask q k ih =>
    intro x
    obtain ⟨p', hstep, hk⟩ := h x
    exact ⟨p', hstep, ih x hk⟩
  | choose k ih => exact fun n => ih n (h n)

theorem Follows.map {post : S → α → Prop} {post' : S → β → Prop} {p : S} {x : Program A α}
    {f : α → β} (h : x.Follows m post p) (himp : ∀ p' a, post p' a → post' p' (f a)) :
    (x.map f).Follows m post' p :=
  h.bind himp

theorem Follows.either {post : S → α → Prop} {p : S} {x y : Program A α}
    (hx : x.Follows m post p) (hy : y.Follows m post p) : (either x y).Follows m post p := by
  intro n
  by_cases h0 : n = 0
  · simpa [h0] using hx
  · simpa [h0] using hy

/-- A deadline cuts a program off between two of its events. -/
theorem Follows.timeout {post : S → α → Prop} {p : S} {x : Program A α}
    (h : x.Follows m post p) : x.timeout.Follows m (fun p' o => ∀ a, o = some a → post p' a) p := by
  induction x generalizing p with
  | pure a =>
    intro b hb
    cases hb
    exact h
  | ask q k ih =>
    refine .either (fun a ha => nomatch ha) fun x => ?_
    obtain ⟨p', hstep, hk⟩ := h x
    exact ⟨p', hstep, ih x hk⟩
  | choose k ih => exact fun n => ih n (h n)

/-- A program beside one that asks only what every phase ignores. -/
theorem Follows.join {post : S → α → Prop} {p : S} {x : Program A α} {y : Program A β}
    (h : x.Follows m post p) (hy : y.Asks P) (hignores : m.Ignores P) :
    (Program.join x y).Follows m (fun p' c => post p' c.1) p := by
  induction x generalizing p y with
  | pure a =>
    exact (Follows.of_asks hy fun e he => hignores e he p).map fun p' b hp' => hp' ▸ h
  | ask q k ih =>
    show (joinAsk q (fun x => Program.join (k x)) (.ask q k) y).Follows m _ p
    induction y with
    | pure b => exact Follows.map h fun _ _ hpost => hpost
    | ask q' k' ih' =>
      refine .either (fun x => ?_) fun b => ⟨p, hignores ⟨q', b⟩ hy.1 p, ih' b (hy.2 b)⟩
      obtain ⟨p', hstep, hk⟩ := h x
      exact ⟨p', hstep, ih x hk hy⟩
    | choose k' ih' => exact fun n => ih' n (hy n)
  | choose k ih => exact fun n => ih n (h n) hy

end Program

/-! ## Procedures -/

namespace Proc

variable {m : Protocol A S} {P : Q → Prop}

/-- From the phase `p` and the variable `s`, every event of the procedure is a step, and where
it ends the phase, the outcome and the variable satisfy `post`. -/
def Follows (m : Protocol A S) (post : S → Except ε α → σ → Prop) (p : S) (s : σ)
    (x : Proc A σ ε α) : Prop :=
  (x.start s).Follows m (fun p' c => post p' c.1 c.2) p

namespace Follows

variable {post : S → Except ε α → σ → Prop} {p : S} {s : σ} {x : Proc A σ ε α}

theorem runs (h : Follows m post p s x) {tr : Trace A} {r : Except ε α} {s' : σ}
    (hrun : x.Runs s tr r s') : ∃ p', m.Path p tr p' ∧ post p' r s' := by
  unfold Proc.Runs at hrun
  exact Program.Follows.runs h hrun

theorem of_runs {post' : S → Except ε α → σ → Prop} (h : Follows m post p s x)
    (himp : ∀ p' r s' tr, post p' r s' → x.Runs s tr r s' → post' p' r s') :
    Follows m post' p s x := by
  unfold Proc.Runs at himp
  exact Program.Follows.of_runs h fun p' c tr => himp p' c.1 c.2 tr

theorem mono {post' : S → Except ε α → σ → Prop} (h : Follows m post p s x)
    (himp : ∀ p' r s', post p' r s' → post' p' r s') : Follows m post' p s x :=
  Program.Follows.mono h fun p' c => himp p' c.1 c.2

theorem of_asks (h : x.Asks P) (hstep : ∀ e : Event A, P e.query → m p e p) :
    Follows m (fun p' _ _ => p' = p) p s x :=
  Program.Follows.of_asks (h.start s) hstep

theorem pure {a : α} (h : post p (.ok a) s) : Follows m post p s (pure a) := h

theorem throw {e : ε} (h : post p (.error e) s) : Follows m post p s (throw e) := h

theorem bind {mid : S → Except ε β → σ → Prop} {y : Proc A σ ε β} {f : β → Proc A σ ε α}
    (h : Follows m mid p s y) (herror : ∀ p' e s', mid p' (.error e) s' → post p' (.error e) s')
    (hok : ∀ p' b s', mid p' (.ok b) s' → Follows m post p' s' (f b)) :
    Follows m post p s (y >>= f) := by
  refine Program.Follows.bind h fun p' c hc => ?_
  obtain ⟨r, s'⟩ := c
  cases r with
  | error e => exact herror p' e s' hc
  | ok b => exact hok p' b s' hc

theorem read_bind {f : σ → Proc A σ ε α} (h : Follows m post p s (f s)) :
    Follows m post p s (read >>= f) := h

theorem update {f : σ → σ} {post : S → Except ε Unit → σ → Prop} (h : post p (.ok ()) (f s)) :
    Follows m post p s (update f) := h

theorem ask_bind {q : Q} {f : A q → Proc A σ ε α}
    (h : ∀ a, ∃ p', m p ⟨q, a⟩ p' ∧ Follows m post p' s (f a)) :
    Follows m post p s (ask q >>= f) := h

theorem ofResult_bind {r : Except ε β} {f : β → Proc A σ ε α}
    (herror : ∀ e, r = .error e → post p (.error e) s)
    (hok : ∀ b, r = .ok b → Follows m post p s (f b)) :
    Follows m post p s (Proc.ofResult r >>= f) := by
  cases r with
  | error e => exact herror e rfl
  | ok b => exact hok b rfl

theorem failIf_bind {bad : Prop} [Decidable bad] {e : ε} {f : Unit → Proc A σ ε α}
    (herror : bad → post p (.error e) s) (hok : ¬ bad → Follows m post p s (f ())) :
    Follows m post p s (failIf bad e >>= f) :=
  ofResult_bind (fun e' he => by
      obtain ⟨hbad, rfl⟩ := failIf_eq_error.mp he
      exact herror hbad)
    fun _ hb => hok (failIf_eq_ok.mp hb)

theorem scope {x : Proc A τ ε α} {t : τ} {post : S → Except ε (α × τ) → σ → Prop}
    (h : Follows m (fun p' r t' => post p' (r.map fun a => (a, t')) s) p t x) :
    Follows m post p s (scope x t) :=
  Program.Follows.bind (Program.Follows.map h fun _ _ hc => hc) fun _ _ hc => hc

theorem mapErr {ε' : Type} {f : ε → ε'} {post : S → Except ε' α → σ → Prop}
    (h : Follows m (fun p' r s' => post p' (r.mapError f) s') p s x) :
    Follows m post p s (mapErr f x) :=
  Program.Follows.bind h fun _ _ hc => hc

theorem perform {x : Program A α} (h : x.Follows m (fun p' a => post p' (.ok a) s) p) :
    Follows m post p s (perform x) := by
  have hlift : (x.bind fun a => Program.pure (a, s)).Follows m
      (fun p' c => post p' (.ok c.1) c.2) p := Program.Follows.bind h fun _ _ hc => hc
  exact Program.Follows.bind hlift fun _ _ hc => hc

theorem call {x : Program A (Except ε α)} (h : x.Follows m (fun p' r => post p' r s) p) :
    Follows m post p s (call x) :=
  Program.Follows.bind h fun _ _ hc => hc

/-- A deadline that passes is an outcome of any phase on the way. -/
theorem within {late : ε} {x : Proc A Unit ε α} {mid : S → Except ε α → Unit → Prop}
    (h : Follows m mid p () x) (himp : ∀ p' r, mid p' r () → post p' r s)
    (hlate : ∀ p', post p' (.error late) s) : Follows m post p s (within late x) := by
  refine call (Program.Follows.map (Program.Follows.timeout h) fun p' o ho => ?_)
  cases o with
  | none => exact hlate p'
  | some c => exact himp p' c.1 (ho c rfl)

/-- Two concurrent procedures of which the second asks only what every phase ignores. -/
theorem both {ε₁ ε₂ : Type} {x : Proc A Unit ε₁ α} {y : Proc A Unit ε₂ β}
    {mid : S → Except ε₁ α → Unit → Prop}
    {post : S → Except ε (Except ε₁ α × Except ε₂ β) → σ → Prop}
    (h : Follows m mid p () x) (hy : y.Asks P) (hignores : m.Ignores P)
    (himp : ∀ p' c d, mid p' c () → post p' (.ok (c, d)) s) :
    Follows m post p s (both x y) :=
  perform (Program.Follows.map (Program.Follows.join h (hy.start ()) hignores)
    fun p' c hc => himp p' c.1.1 c.2.1 hc)

end Follows
end Proc
end Interaction
