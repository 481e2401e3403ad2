import TradingAggregators.Interaction.Guard
import TradingAggregators.Interaction.Program

/-!
# Procedures: programs that can fail and update a variable

A procedure is a program that returns either an error or a value and threads one
mutable variable, whose last value survives an error.  `x.Runs s tr r s'` says that `x`,
started with the variable at `s`, can ask `tr`, end with `r` and leave the variable at
`s'`.

Every construct has one inversion lemma for its runs (`runs_bind`, `runs_ofResult`,
`runs_failIf_bind`, ...), so a run of a procedure is taken apart without unfolding the monad.
-/

namespace Interaction

variable {Q : Type} {A : Q → Type} {σ ε α β : Type}

/-- Programs with an error of type `ε` and a mutable variable of type `σ`. -/
abbrev Proc (A : Q → Type) (σ ε α : Type) := ExceptT ε (StateT σ (Program A)) α

namespace Proc

/-- The program behind a procedure, from a value of its variable. -/
def start (x : Proc A σ ε α) (s : σ) : Program A (Except ε α × σ) :=
  StateT.run (ExceptT.run x) s

/-- `x.Runs s tr r s'`: from `s`, `x` can ask exactly `tr`, end with `r` and leave `s'`. -/
def Runs (x : Proc A σ ε α) (s : σ) (tr : Trace A) (r : Except ε α) (s' : σ) : Prop :=
  (x.start s).Runs tr (r, s')

/-- Whatever the variable holds, every question the procedure can ask satisfies `P`. -/
def Asks (P : Q → Prop) (x : Proc A σ ε α) : Prop :=
  ∀ s, (x.start s).Asks P

/-! ## Constructs -/

/-- Run a program that has neither errors nor a variable. -/
def perform (p : Program A α) : Proc A σ ε α :=
  ExceptT.lift (StateT.lift p)

/-- Ask one question. -/
def ask (q : Q) : Proc A σ ε (A q) :=
  perform (Program.query q)

/-- Fail or go on according to a computed result. -/
def ofResult (r : Except ε α) : Proc A σ ε α :=
  ExceptT.mk (pure r)

/-- Fail with `e` when `bad` holds, otherwise go on. -/
def failIf (bad : Prop) [Decidable bad] (e : ε) : Proc A σ ε Unit :=
  ofResult (Interaction.failIf bad e)

/-- Run a program whose result is an error or a value; the variable is untouched. -/
def call (p : Program A (Except ε α)) : Proc A σ ε α :=
  ExceptT.mk (StateT.lift p)

/-- Replace the variable by its image under `f`. -/
def update (f : σ → σ) : Proc A σ ε Unit :=
  ExceptT.lift (modify f)

/-- The current value of the variable. -/
def read : Proc A σ ε σ :=
  ExceptT.lift MonadState.get

/-- Run a procedure on a variable of its own, started at `s`; its final value is returned
with the result and lost on an error. -/
def scope {τ : Type} (x : Proc A τ ε α) (s : τ) : Proc A σ ε (α × τ) :=
  call ((x.start s).map fun c => c.1.map fun a => (a, c.2))

/-- Change the error a procedure fails with. -/
def mapErr {ε' : Type} (f : ε → ε') (x : Proc A σ ε α) : Proc A σ ε' α :=
  ExceptT.mk ((fun r => r.mapError f) <$> ExceptT.run x)

/-- Run a procedure that has no variable and hand its outcome on as a value. -/
def attempt {ε' : Type} (x : Proc A Unit ε α) : Proc A σ ε' (Except ε α) :=
  perform ((x.start ()).map Prod.fst)

/-- Run a procedure on a variable of its own, started at `s`, and hand on its outcome with the
final value. -/
def capture {τ ε' : Type} (x : Proc A τ ε α) (s : τ) : Proc A σ ε' (Except ε α × τ) :=
  perform (x.start s)

/-- Run two procedures concurrently and hand both outcomes on. -/
def both {ε₁ ε₂ : Type} (x : Proc A Unit ε₁ α) (y : Proc A Unit ε₂ β) :
    Proc A σ ε (Except ε₁ α × Except ε₂ β) :=
  perform ((Program.join (x.start ()) (y.start ())).map fun c => (c.1.1, c.2.1))

/-- Run two procedures concurrently until both succeed or one fails; of two failures either
may be the one that is noticed. -/
def tryBoth (x : Proc A Unit ε α) (y : Proc A Unit ε β) : Proc A σ ε (α × β) := do
  match ← both x y with
  | (.ok a, .ok b) => pure (a, b)
  | (.error e, .ok _) | (.ok _, .error e) => throw e
  | (.error e, .error e') =>
      let first ← perform (Program.either (.pure e) (.pure e'))
      throw first

/-- Run a procedure under a deadline, failing with `late` when the deadline passes. -/
def within (late : ε) (x : Proc A Unit ε α) : Proc A σ ε α :=
  call ((x.start ()).timeout.map fun
    | none => .error late
    | some c => c.1)

/-! ## Runs of the constructs -/

@[simp] theorem runs_pure {a : α} {s s' : σ} {tr : Trace A} {r : Except ε α} :
    (pure a : Proc A σ ε α).Runs s tr r s' ↔ tr = [] ∧ r = .ok a ∧ s' = s := by
  show tr = [] ∧ (r, s') = (.ok a, s) ↔ _
  rw [Prod.mk.injEq]

@[simp] theorem runs_throw {e : ε} {s s' : σ} {tr : Trace A} {r : Except ε α} :
    (throw e : Proc A σ ε α).Runs s tr r s' ↔ tr = [] ∧ r = .error e ∧ s' = s := by
  show tr = [] ∧ (r, s') = (.error e, s) ↔ _
  rw [Prod.mk.injEq]

@[simp] theorem runs_ofResult {c r : Except ε α} {s s' : σ} {tr : Trace A} :
    (ofResult c : Proc A σ ε α).Runs s tr r s' ↔ tr = [] ∧ r = c ∧ s' = s := by
  show tr = [] ∧ (r, s') = (c, s) ↔ _
  rw [Prod.mk.injEq]

@[simp] theorem runs_update {f : σ → σ} {s s' : σ} {tr : Trace A} {r : Except ε Unit} :
    (update f : Proc A σ ε Unit).Runs s tr r s' ↔ tr = [] ∧ r = .ok () ∧ s' = f s := by
  show tr = [] ∧ (r, s') = (.ok (), f s) ↔ _
  rw [Prod.mk.injEq]

@[simp] theorem runs_read {s s' : σ} {tr : Trace A} {r : Except ε σ} :
    (read : Proc A σ ε σ).Runs s tr r s' ↔ tr = [] ∧ r = .ok s ∧ s' = s := by
  show tr = [] ∧ (r, s') = (.ok s, s) ↔ _
  rw [Prod.mk.injEq]

theorem runs_perform {p : Program A α} {s s' : σ} {tr : Trace A} {r : Except ε α} :
    (perform p : Proc A σ ε α).Runs s tr r s' ↔ ∃ a, p.Runs tr a ∧ r = .ok a ∧ s' = s := by
  show ((p.bind fun a => Program.pure (a, s)).bind fun c =>
    Program.pure (Except.ok c.1, c.2)).Runs tr (r, s') ↔ _
  rw [Program.bind_assoc, Program.runs_bind]
  constructor
  · rintro ⟨a, tr₁, tr₂, rfl, h, rfl, hc⟩
    rw [Prod.mk.injEq] at hc
    exact ⟨a, by rwa [List.append_nil], hc⟩
  · rintro ⟨a, h, rfl, rfl⟩
    exact ⟨a, tr, [], (List.append_nil tr).symm, h, rfl, rfl⟩

@[simp] theorem runs_ask {q : Q} {s s' : σ} {tr : Trace A} {r : Except ε (A q)} :
    (ask q : Proc A σ ε (A q)).Runs s tr r s' ↔ ∃ x, tr = [⟨q, x⟩] ∧ r = .ok x ∧ s' = s := by
  rw [ask, runs_perform]
  simp only [Program.runs_query]

theorem runs_call {p : Program A (Except ε α)} {s s' : σ} {tr : Trace A} {r : Except ε α} :
    (call p : Proc A σ ε α).Runs s tr r s' ↔ p.Runs tr r ∧ s' = s := by
  show (p.bind fun c => Program.pure (c, s)).Runs tr (r, s') ↔ _
  rw [Program.runs_bind]
  constructor
  · rintro ⟨c, tr₁, tr₂, rfl, h, rfl, hc⟩
    rw [Prod.mk.injEq] at hc
    obtain ⟨rfl, rfl⟩ := hc
    exact ⟨by rwa [List.append_nil], rfl⟩
  · rintro ⟨h, rfl⟩
    exact ⟨r, tr, [], (List.append_nil tr).symm, h, rfl, rfl⟩

/-- A sequence either fails in its first part or completes it and runs its second. -/
theorem runs_bind {x : Proc A σ ε α} {f : α → Proc A σ ε β} {s s' : σ} {tr : Trace A}
    {r : Except ε β} :
    (x >>= f).Runs s tr r s' ↔
      (∃ e, r = .error e ∧ x.Runs s tr (.error e) s') ∨
      (∃ a s₁ tr₁ tr₂, tr = tr₁ ++ tr₂ ∧ x.Runs s tr₁ (.ok a) s₁ ∧ (f a).Runs s₁ tr₂ r s') := by
  show ((x.start s).bind fun c => _).Runs tr (r, s') ↔ _
  rw [Program.runs_bind]
  constructor
  · rintro ⟨⟨c, s₁⟩, tr₁, tr₂, rfl, h₁, h₂⟩
    cases c with
    | error e =>
      obtain ⟨rfl, hc⟩ := h₂
      rw [Prod.mk.injEq] at hc
      obtain ⟨rfl, rfl⟩ := hc
      exact Or.inl ⟨e, rfl, by rwa [List.append_nil]⟩
    | ok a => exact Or.inr ⟨a, s₁, tr₁, tr₂, rfl, h₁, h₂⟩
  · rintro (⟨e, rfl, h⟩ | ⟨a, s₁, tr₁, tr₂, rfl, h₁, h₂⟩)
    · exact ⟨(.error e, s'), tr, [], (List.append_nil tr).symm, h, rfl, rfl⟩
    · exact ⟨(.ok a, s₁), tr₁, tr₂, rfl, h₁, h₂⟩

/-- A sequence that succeeds completed both parts. -/
theorem runs_bind_ok {x : Proc A σ ε α} {f : α → Proc A σ ε β} {s s' : σ} {tr : Trace A}
    {b : β} :
    (x >>= f).Runs s tr (.ok b) s' ↔
      ∃ a s₁ tr₁ tr₂, tr = tr₁ ++ tr₂ ∧ x.Runs s tr₁ (.ok a) s₁ ∧
        (f a).Runs s₁ tr₂ (.ok b) s' := by
  rw [runs_bind]
  simp

/-! A first step that asks nothing leaves no trace of its own. -/

@[simp] theorem runs_read_bind {f : σ → Proc A σ ε β} {s s' : σ} {tr : Trace A}
    {r : Except ε β} : (read >>= f).Runs s tr r s' ↔ (f s).Runs s tr r s' := Iff.rfl

@[simp] theorem runs_update_bind {g : σ → σ} {f : Unit → Proc A σ ε β} {s s' : σ}
    {tr : Trace A} {r : Except ε β} :
    (update g >>= f).Runs s tr r s' ↔ (f ()).Runs (g s) tr r s' := Iff.rfl

theorem runs_ofResult_bind {c : Except ε α} {f : α → Proc A σ ε β} {s s' : σ} {tr : Trace A}
    {r : Except ε β} :
    (ofResult c >>= f).Runs s tr r s' ↔
      (∃ e, c = .error e ∧ tr = [] ∧ r = .error e ∧ s' = s) ∨
      (∃ a, c = .ok a ∧ (f a).Runs s tr r s') := by
  cases c with
  | error e =>
    have hfail : (ofResult (.error e) >>= f).Runs s tr r s' ↔
        (throw e : Proc A σ ε β).Runs s tr r s' := Iff.rfl
    rw [hfail, runs_throw]
    simp
  | ok a =>
    have hok : (ofResult (.ok a) >>= f).Runs s tr r s' ↔ (f a).Runs s tr r s' := Iff.rfl
    rw [hok]
    simp

theorem runs_ofResult_bind_ok {c : Except ε α} {f : α → Proc A σ ε β} {s s' : σ} {tr : Trace A}
    {b : β} :
    (ofResult c >>= f).Runs s tr (.ok b) s' ↔ ∃ a, c = .ok a ∧ (f a).Runs s tr (.ok b) s' := by
  rw [runs_ofResult_bind]
  simp

theorem runs_failIf_bind {bad : Prop} [Decidable bad] {e : ε} {f : Unit → Proc A σ ε β}
    {s s' : σ} {tr : Trace A} {r : Except ε β} :
    (failIf bad e >>= f).Runs s tr r s' ↔
      (bad ∧ tr = [] ∧ r = .error e ∧ s' = s) ∨ (¬ bad ∧ (f ()).Runs s tr r s') := by
  rw [failIf, runs_ofResult_bind]
  simp only [Interaction.failIf_eq_error, Interaction.failIf_eq_ok]
  constructor
  · rintro (⟨e', ⟨hbad, rfl⟩, h⟩ | ⟨⟨⟩, hbad, h⟩)
    · exact Or.inl ⟨hbad, h⟩
    · exact Or.inr ⟨hbad, h⟩
  · rintro (⟨hbad, h⟩ | ⟨hbad, h⟩)
    · exact Or.inl ⟨e, ⟨hbad, rfl⟩, h⟩
    · exact Or.inr ⟨(), hbad, h⟩

/-- A question is asked, whatever becomes of the rest. -/
theorem runs_ask_bind {q : Q} {f : A q → Proc A σ ε β} {s s' : σ} {tr : Trace A}
    {r : Except ε β} :
    (ask q >>= f).Runs s tr r s' ↔
      ∃ x tr', tr = ⟨q, x⟩ :: tr' ∧ (f x).Runs s tr' r s' := Iff.rfl

/-- One question whose answer decides the result. -/
theorem runs_ask_ofResult {q : Q} {f : A q → Except ε α} {s s' : σ} {tr : Trace A}
    {r : Except ε α} :
    (ask q >>= fun x => (ofResult (f x) : Proc A σ ε α)).Runs s tr r s' ↔
      s' = s ∧ ∃ x, tr = [⟨q, x⟩] ∧ r = f x := by
  rw [runs_ask_bind]
  constructor
  · rintro ⟨x, tr', rfl, h⟩
    obtain ⟨rfl, rfl, rfl⟩ := runs_ofResult.mp h
    exact ⟨rfl, x, rfl, rfl⟩
  · rintro ⟨rfl, x, rfl, rfl⟩
    exact ⟨x, [], rfl, runs_ofResult.mpr ⟨rfl, rfl, rfl⟩⟩

theorem runs_scope {τ : Type} {x : Proc A τ ε α} {t : τ} {s s' : σ} {tr : Trace A}
    {r : Except ε (α × τ)} :
    (scope x t : Proc A σ ε (α × τ)).Runs s tr r s' ↔
      s' = s ∧ ∃ c t', x.Runs t tr c t' ∧ r = c.map fun a => (a, t') := by
  rw [scope, runs_call, Program.runs_map]
  constructor
  · rintro ⟨⟨⟨c, t'⟩, h, rfl⟩, rfl⟩
    exact ⟨rfl, c, t', h, rfl⟩
  · rintro ⟨rfl, c, t', h, rfl⟩
    exact ⟨⟨(c, t'), h, rfl⟩, rfl⟩

theorem runs_mapErr {ε' : Type} {f : ε → ε'} {x : Proc A σ ε α} {s s' : σ} {tr : Trace A}
    {r : Except ε' α} :
    (mapErr f x).Runs s tr r s' ↔ ∃ c, x.Runs s tr c s' ∧ r = c.mapError f := by
  show ((x.start s).bind fun c => Program.pure (c.1.mapError f, c.2)).Runs tr (r, s') ↔ _
  rw [Program.runs_bind]
  constructor
  · rintro ⟨⟨c, s₁⟩, tr₁, tr₂, rfl, h, rfl, hc⟩
    rw [Prod.mk.injEq] at hc
    obtain ⟨rfl, rfl⟩ := hc
    exact ⟨c, by rwa [List.append_nil], rfl⟩
  · rintro ⟨c, h, rfl⟩
    exact ⟨(c, s'), tr, [], (List.append_nil tr).symm, h, rfl, rfl⟩

theorem runs_attempt {ε' : Type} {x : Proc A Unit ε α} {s s' : σ} {tr : Trace A}
    {r : Except ε' (Except ε α)} :
    (attempt x : Proc A σ ε' (Except ε α)).Runs s tr r s' ↔
      ∃ c, x.Runs () tr c () ∧ r = .ok c ∧ s' = s := by
  rw [attempt, runs_perform]
  constructor
  · rintro ⟨c, h, rfl, rfl⟩
    obtain ⟨d, hd, rfl⟩ := Program.runs_map.mp h
    exact ⟨d.1, hd, rfl, rfl⟩
  · rintro ⟨c, h, rfl, rfl⟩
    exact ⟨c, Program.runs_map.mpr ⟨(c, ()), h, rfl⟩, rfl, rfl⟩

theorem runs_capture {τ ε' : Type} {x : Proc A τ ε α} {t : τ} {s s' : σ} {tr : Trace A}
    {r : Except ε' (Except ε α × τ)} :
    (capture x t : Proc A σ ε' _).Runs s tr r s' ↔
      ∃ c t', x.Runs t tr c t' ∧ r = .ok (c, t') ∧ s' = s := by
  rw [capture, runs_perform]
  constructor
  · rintro ⟨⟨c, t'⟩, h, rfl, rfl⟩
    exact ⟨c, t', h, rfl, rfl⟩
  · rintro ⟨c, t', h, rfl, rfl⟩
    exact ⟨(c, t'), h, rfl, rfl⟩

theorem runs_both {ε₁ ε₂ : Type} {x : Proc A Unit ε₁ α} {y : Proc A Unit ε₂ β} {s s' : σ}
    {tr : Trace A} {r : Except ε (Except ε₁ α × Except ε₂ β)}
    (h : (both x y : Proc A σ ε _).Runs s tr r s') :
    ∃ c tr₁ tr₂, r = .ok c ∧ s' = s ∧ Program.Interleaving tr₁ tr₂ tr ∧
      x.Runs () tr₁ c.1 () ∧ y.Runs () tr₂ c.2 () := by
  obtain ⟨c, hc, rfl, rfl⟩ := runs_perform.mp h
  obtain ⟨d, hd, rfl⟩ := Program.runs_map.mp hc
  obtain ⟨tr₁, tr₂, hi, h₁, h₂⟩ := Program.runs_join hd
  exact ⟨_, tr₁, tr₂, rfl, rfl, hi, h₁, h₂⟩

theorem both_of_runs {ε₁ ε₂ : Type} {x : Proc A Unit ε₁ α} {y : Proc A Unit ε₂ β} {s : σ}
    {tr₁ tr₂ : Trace A} {c : Except ε₁ α} {d : Except ε₂ β} (hx : x.Runs () tr₁ c ())
    (hy : y.Runs () tr₂ d ()) :
    (both x y : Proc A σ ε _).Runs s (tr₁ ++ tr₂) (.ok (c, d)) s :=
  runs_perform.mpr ⟨(c, d),
    Program.runs_map.mpr ⟨((c, ()), (d, ())), Program.runs_join_of_runs hx hy, rfl⟩, rfl, rfl⟩

/-- Two halves that succeed together both ran to their end. -/
theorem runs_tryBoth_ok {x : Proc A Unit ε α} {y : Proc A Unit ε β} {s s' : σ} {tr : Trace A}
    {c : α × β} (h : (tryBoth x y : Proc A σ ε _).Runs s tr (.ok c) s') :
    s' = s ∧ ∃ tr₁ tr₂, Program.Interleaving tr₁ tr₂ tr ∧ x.Runs () tr₁ (.ok c.1) () ∧
      y.Runs () tr₂ (.ok c.2) () := by
  obtain ⟨d, s₁, tr', tr'', htr, hboth, hrest⟩ := runs_bind_ok.mp h
  obtain ⟨d', tr₁, tr₂, hd, rfl, hmerge, hx, hy⟩ := runs_both hboth
  cases hd
  obtain ⟨r₁, r₂⟩ := d
  cases r₁ with
  | error e =>
    cases r₂ with
    | error e' =>
      obtain ⟨_, _, _, _, -, -, hthrow⟩ := runs_bind_ok.mp hrest
      exact nomatch (runs_throw.mp hthrow).2.1
    | ok b => exact nomatch (runs_throw.mp hrest).2.1
  | ok a =>
    cases r₂ with
    | error e' => exact nomatch (runs_throw.mp hrest).2.1
    | ok b =>
      obtain ⟨rfl, hc, rfl⟩ := runs_pure.mp hrest
      cases hc
      rw [List.append_nil] at htr
      exact ⟨rfl, tr₁, tr₂, htr ▸ hmerge, hx, hy⟩

theorem tryBoth_of_runs {x : Proc A Unit ε α} {y : Proc A Unit ε β} {s : σ}
    {tr₁ tr₂ : Trace A} {a : α} {b : β} (hx : x.Runs () tr₁ (.ok a) ())
    (hy : y.Runs () tr₂ (.ok b) ()) :
    (tryBoth x y : Proc A σ ε _).Runs s (tr₁ ++ tr₂) (.ok (a, b)) s :=
  runs_bind_ok.mpr ⟨_, s, tr₁ ++ tr₂, [], (List.append_nil _).symm, both_of_runs hx hy,
    runs_pure.mpr ⟨rfl, rfl, rfl⟩⟩

/-- A procedure that beats its deadline ran as it would have without one. -/
theorem runs_within_ok {late : ε} {x : Proc A Unit ε α} {s s' : σ} {tr : Trace A} {a : α}
    (h : (within late x : Proc A σ ε α).Runs s tr (.ok a) s') :
    s' = s ∧ x.Runs () tr (.ok a) () := by
  rw [within, runs_call, Program.runs_map] at h
  obtain ⟨⟨o, ho, ha⟩, rfl⟩ := h
  cases o with
  | none => exact nomatch ha
  | some c =>
    obtain ⟨r, u⟩ := c
    have hr : r = .ok a := ha.symm
    subst hr
    exact ⟨rfl, Program.runs_of_runs_timeout ho⟩

/-- Evaluating a procedure against one environment gives a run. -/
theorem runs_of_exec (env : ℕ → (q : Q) → A q) (turn : ℕ → ℕ) (x : Proc A σ ε α) (s : σ)
    {r : Except ε α} (h : (Program.exec env turn (x.start s) 0).2.1 = r) :
    ∃ tr s', x.Runs s tr r s' := by
  subst h
  exact ⟨_, _, Program.runs_exec env turn (x.start s) 0⟩

/-- A procedure has a run with every property that its evaluation has. -/
theorem runs_of_exec_prop (env : ℕ → (q : Q) → A q) (turn : ℕ → ℕ) (x : Proc A σ ε α) (s : σ)
    (P : Trace A → Except ε α → Prop)
    (h : P (Program.exec env turn (x.start s) 0).1 (Program.exec env turn (x.start s) 0).2.1) :
    ∃ tr r s', x.Runs s tr r s' ∧ P tr r :=
  ⟨_, _, _, Program.runs_exec env turn (x.start s) 0, h⟩

/-- A procedure has a run, with the result of its evaluation, in which every answer is the
environment's. -/
theorem runs_of_exec_answered (env : ℕ → (q : Q) → A q) (turn : ℕ → ℕ) (x : Proc A σ ε α) (s : σ)
    (P : Except ε α → Prop) (h : P (Program.exec env turn (x.start s) 0).2.1) :
    ∃ tr r s', x.Runs s tr r s' ∧ P r ∧ ∀ e ∈ tr, ∃ j, e.answer = env j e.query :=
  ⟨_, _, _, Program.runs_exec env turn (x.start s) 0, h,
    fun _ he => Program.answer_of_mem_exec he⟩

/-- A procedure that evaluates to some value has a run that returns it. -/
theorem runs_ok_of_exec (env : ℕ → (q : Q) → A q) (turn : ℕ → ℕ) (x : Proc A σ ε α) (s : σ)
    (h : (Program.exec env turn (x.start s) 0).2.1.isOk = true) :
    ∃ tr a s', x.Runs s tr (.ok a) s' := by
  obtain ⟨a, ha⟩ := isOk_iff.mp h
  obtain ⟨tr, s', hrun⟩ := runs_of_exec env turn x s ha
  exact ⟨tr, a, s', hrun⟩

/-! ## What the constructs can ask -/

variable {P : Q → Prop}

theorem Asks.start {x : Proc A σ ε α} (hx : x.Asks P) (s : σ) : (x.start s).Asks P :=
  hx s

theorem Asks.runs {x : Proc A σ ε α} (hx : x.Asks P) {s s' : σ} {tr : Trace A}
    {r : Except ε α} (h : x.Runs s tr r s') : ∀ e ∈ tr, P e.query :=
  (hx s).runs h

theorem Asks.mono {P' : Q → Prop} {x : Proc A σ ε α} (hx : x.Asks P)
    (h : ∀ q, P q → P' q) : x.Asks P' :=
  fun s => Program.Asks.mono (hx s) h

@[simp] theorem asks_pure (a : α) : (pure a : Proc A σ ε α).Asks P := fun _ => trivial

@[simp] theorem asks_throw (e : ε) : (throw e : Proc A σ ε α).Asks P := fun _ => trivial

@[simp] theorem asks_ofResult (r : Except ε α) : (ofResult r : Proc A σ ε α).Asks P :=
  fun _ => trivial

@[simp] theorem asks_failIf (bad : Prop) [Decidable bad] (e : ε) :
    (failIf bad e : Proc A σ ε Unit).Asks P :=
  fun _ => trivial

@[simp] theorem asks_update (f : σ → σ) : (update f : Proc A σ ε Unit).Asks P :=
  fun _ => trivial

@[simp] theorem asks_read : (read : Proc A σ ε σ).Asks P :=
  fun _ => trivial

@[simp] theorem asks_ask {q : Q} (hq : P q) : (ask q : Proc A σ ε (A q)).Asks P :=
  fun _ => ⟨hq, fun _ => trivial⟩

theorem asks_call {p : Program A (Except ε α)} (hp : p.Asks P) :
    (call p : Proc A σ ε α).Asks P :=
  fun _ => Program.Asks.bind hp fun _ => trivial

theorem Asks.mapErr {ε' : Type} {x : Proc A σ ε α} (hx : x.Asks P) (f : ε → ε') :
    (Proc.mapErr f x).Asks P :=
  fun s => Program.Asks.bind (hx s) fun _ => trivial

theorem asks_perform {p : Program A α} (hp : p.Asks P) : (perform p : Proc A σ ε α).Asks P :=
  fun _ => Program.Asks.bind (Program.Asks.bind hp fun _ => trivial) fun _ => trivial

theorem Asks.attempt {ε' : Type} {x : Proc A Unit ε α} (hx : x.Asks P) :
    (Proc.attempt x : Proc A σ ε' _).Asks P :=
  asks_perform ((hx ()).map _)

theorem Asks.both {ε₁ ε₂ : Type} {x : Proc A Unit ε₁ α} {y : Proc A Unit ε₂ β}
    (hx : x.Asks P) (hy : y.Asks P) : (Proc.both x y : Proc A σ ε _).Asks P :=
  asks_perform (((hx ()).join (hy ())).map _)

theorem Asks.within {x : Proc A Unit ε α} (hx : x.Asks P) (late : ε) :
    (Proc.within late x : Proc A σ ε α).Asks P :=
  asks_call ((hx ()).timeout.map _)

theorem asks_scope {τ : Type} {x : Proc A τ ε α} (hx : x.Asks P) (t : τ) :
    (scope x t : Proc A σ ε (α × τ)).Asks P :=
  asks_call ((hx t).map _)

theorem Asks.bind {x : Proc A σ ε α} {f : α → Proc A σ ε β} (hx : x.Asks P)
    (hf : ∀ a, (f a).Asks P) : (x >>= f).Asks P := by
  intro s
  refine Program.Asks.bind (hx s) fun c => ?_
  obtain ⟨r, s₁⟩ := c
  cases r with
  | error e => trivial
  | ok a => exact hf a s₁

theorem Asks.tryBoth {x : Proc A Unit ε α} {y : Proc A Unit ε β} (hx : x.Asks P)
    (hy : y.Asks P) : (Proc.tryBoth x y : Proc A σ ε _).Asks P := by
  refine Asks.bind (hx.both hy) fun c => ?_
  obtain ⟨r₁, r₂⟩ := c
  cases r₁ with
  | error e =>
    cases r₂ with
    | error e' =>
      exact Asks.bind (asks_perform (.either trivial trivial)) fun _ => asks_throw _
    | ok b => exact asks_throw _
  | ok a =>
    cases r₂ with
    | error e' => exact asks_throw _
    | ok b => exact asks_pure _

/-! ## Invariants of the variable -/

/-- From a variable that satisfies `I`, every run leaves it satisfying `I` and asks only
questions that satisfy `P`. -/
def Maintains (I : σ → Prop) (P : Q → Prop) (x : Proc A σ ε α) : Prop :=
  ∀ s tr r s', I s → x.Runs s tr r s' → I s' ∧ ∀ e ∈ tr, P e.query

namespace Maintains

variable {I : σ → Prop}

theorem pure (a : α) : Maintains I P (pure a : Proc A σ ε α) := by
  intro s tr r s' hs h
  obtain ⟨rfl, -, rfl⟩ := runs_pure.mp h
  exact ⟨hs, by simp⟩

theorem ofResult (c : Except ε α) : Maintains I P (ofResult c : Proc A σ ε α) := by
  intro s tr r s' hs h
  obtain ⟨rfl, -, rfl⟩ := runs_ofResult.mp h
  exact ⟨hs, by simp⟩

theorem failIf (bad : Prop) [Decidable bad] (e : ε) :
    Maintains I P (failIf bad e : Proc A σ ε Unit) :=
  ofResult _

theorem ask {q : Q} (hq : P q) : Maintains I P (ask q : Proc A σ ε (A q)) := by
  intro s tr r s' hs h
  obtain ⟨x, rfl, -, rfl⟩ := runs_ask.mp h
  exact ⟨hs, by simpa using hq⟩

theorem update {f : σ → σ} (hf : ∀ s, I s → I (f s)) :
    Maintains I P (update f : Proc A σ ε Unit) := by
  intro s tr r s' hs h
  obtain ⟨rfl, -, rfl⟩ := runs_update.mp h
  exact ⟨hf s hs, by simp⟩

theorem bind {x : Proc A σ ε α} {f : α → Proc A σ ε β} (hx : Maintains I P x)
    (hf : ∀ a, Maintains I P (f a)) : Maintains I P (x >>= f) := by
  intro s tr r s' hs h
  rcases runs_bind.mp h with ⟨e, -, h⟩ | ⟨a, s₁, tr₁, tr₂, rfl, h₁, h₂⟩
  · exact hx s tr _ s' hs h
  · obtain ⟨hs₁, hp₁⟩ := hx s tr₁ _ s₁ hs h₁
    obtain ⟨hs', hp₂⟩ := hf a s₁ tr₂ r s' hs₁ h₂
    refine ⟨hs', fun e he => ?_⟩
    rcases List.mem_append.mp he with he | he
    · exact hp₁ e he
    · exact hp₂ e he

/-- What is read satisfies the invariant. -/
theorem readBind {f : σ → Proc A σ ε β} (hf : ∀ s, I s → Maintains I P (f s)) :
    Maintains I P (read >>= f) :=
  fun s tr r s' hs h => hf s hs s tr r s' hs h

end Maintains

/-! ## Procedures that cannot fail -/

/-- Every run of the procedure returns a value. -/
def Returns (x : Proc A σ ε α) : Prop :=
  ∀ s tr r s', x.Runs s tr r s' → ∃ a, r = .ok a

namespace Returns

theorem pure (a : α) : Returns (pure a : Proc A σ ε α) :=
  fun _ _ _ _ h => ⟨a, (runs_pure.mp h).2.1⟩

theorem ask (q : Q) : Returns (ask q : Proc A σ ε (A q)) := by
  intro s tr r s' h
  obtain ⟨x, -, hr, -⟩ := runs_ask.mp h
  exact ⟨x, hr⟩

theorem attempt {ε' : Type} (x : Proc A Unit ε' α) :
    Returns (attempt x : Proc A σ ε (Except ε' α)) := by
  intro s tr r s' h
  obtain ⟨c, -, hr, -⟩ := runs_attempt.mp h
  exact ⟨c, hr⟩

theorem bind {x : Proc A σ ε α} {f : α → Proc A σ ε β} (hx : Returns x)
    (hf : ∀ a, Returns (f a)) : Returns (x >>= f) := by
  intro s tr r s' h
  rcases runs_bind.mp h with ⟨e, -, h⟩ | ⟨a, s₁, tr₁, tr₂, -, -, h⟩
  · obtain ⟨a, ha⟩ := hx _ _ _ _ h
    exact nomatch ha
  · exact hf a _ _ _ _ h

end Returns

-- Runs are taken apart by the lemmas above; on a concrete procedure they would evaluate.
attribute [irreducible] Runs Asks

end Proc
end Interaction
