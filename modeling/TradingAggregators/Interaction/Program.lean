import Mathlib.Logic.Basic
import Mathlib.Data.List.Basic

/-!
# Programs that ask their environment

A program is a finite-depth tree.  At a node it either returns, asks one question of
its environment and goes on with whatever answer comes back, or takes a turn that
nothing in the program decides (which of two concurrent halves moves first, how many
rounds a loop gets before its deadline).  Nothing restricts the answers, so a property
of all runs is a property against every environment.

* `Runs`: `p.Runs tr a` says that `p` can return `a` having asked exactly the questions
  of `tr`, in that order and with those answers.
* `runs_bind`: a run of a sequence splits into a run of each part.
* `join`, `timeout`: two halves run concurrently; a deadline that may cut a program off between
  two questions.
* `Asks`: every question the program can ever ask satisfies a predicate, the one fact
  about a program that needs no reference to its result.
* `exec`: the run against one fixed environment, to be evaluated.
-/

namespace Interaction

variable {Q : Type} {A : Q → Type} {α β γ : Type}

/-- One question together with the answer it received. -/
structure Event (A : Q → Type) where
  query : Q
  answer : A query

/-- The questions a run asked, oldest first. -/
abbrev Trace (A : Q → Type) := List (Event A)

/-- The latest answer of one kind in a trace. -/
def latest (f : Event A → Option α) (tr : Trace A) : Option α :=
  (tr.filterMap f).getLast?

theorem latest_append_of_some {f : Event A → Option α} {tr tr' : Trace A} {a : α}
    (h : latest f tr' = some a) : latest f (tr ++ tr') = some a := by
  rw [latest, List.filterMap_append, List.getLast?_append]
  unfold latest at h
  rw [h]
  rfl

/-- An event that stands behind a prefix it does not occur in. -/
theorem split_behind {xs ys before after : Trace A} {e : Event A}
    (h : xs ++ ys = before ++ e :: after) (he : e ∉ xs) :
    ∃ m, before = xs ++ m ∧ ys = m ++ e :: after := by
  rcases List.append_eq_append_iff.mp h with ⟨m, hbefore, hys⟩ | ⟨m, hxs, hm⟩
  · exact ⟨m, hbefore, hys⟩
  · cases m with
    | nil =>
      rw [List.append_nil] at hxs
      exact ⟨[], by rw [hxs, List.append_nil], hm.symm⟩
    | cons e' m =>
      have hee : e = e' := (List.cons.inj hm).1
      refine absurd ?_ he
      rw [hxs, hee]
      exact List.mem_append_right _ List.mem_cons_self

/-- A program whose questions are drawn from `Q`, the answer to `q` having type `A q`. -/
inductive Program (A : Q → Type) (α : Type) where
  | pure (a : α)
  | ask (q : Q) (k : A q → Program A α)
  | choose (k : ℕ → Program A α)

namespace Program

/-- Continue every leaf of a program with another one. -/
def bind : Program A α → (α → Program A β) → Program A β
  | .pure a, f => f a
  | .ask q k, f => .ask q fun x => (k x).bind f
  | .choose k, f => .choose fun n => (k n).bind f

/-- Apply a function to every result. -/
def map (f : α → β) (p : Program A α) : Program A β :=
  p.bind fun a => .pure (f a)

instance : Monad (Program A) where
  pure := .pure
  bind := .bind

theorem bind_pure (p : Program A α) : p.bind .pure = p := by
  induction p with
  | pure a => rfl
  | ask q k ih => simp only [bind, ih]
  | choose k ih => simp only [bind, ih]

theorem bind_assoc (p : Program A α) (f : α → Program A β) (g : β → Program A γ) :
    (p.bind f).bind g = p.bind fun a => (f a).bind g := by
  induction p with
  | pure a => rfl
  | ask q k ih => simp only [bind, ih]
  | choose k ih => simp only [bind, ih]

instance : LawfulMonad (Program A) :=
  LawfulMonad.mk' (Program A) (fun p => bind_pure p) (fun _ _ => rfl) bind_assoc

/-- Ask one question and return its answer. -/
def query (q : Q) : Program A (A q) :=
  .ask q .pure

/-- Go on with one of two programs, nothing here decides which. -/
def either (p p' : Program A α) : Program A α :=
  .choose fun n => if n = 0 then p else p'

/-! ## Runs -/

/-- `p.Runs tr a`: against some environment `p` asks exactly `tr` and returns `a`. -/
def Runs : Program A α → Trace A → α → Prop
  | .pure a, tr, b => tr = [] ∧ b = a
  | .ask q k, tr, b => ∃ x tr', tr = ⟨q, x⟩ :: tr' ∧ (k x).Runs tr' b
  | .choose k, tr, b => ∃ n, (k n).Runs tr b

@[simp] theorem runs_query {q : Q} {tr : Trace A} {x : A q} :
    (query q : Program A (A q)).Runs tr x ↔ tr = [⟨q, x⟩] := by
  constructor
  · rintro ⟨y, tr', rfl, rfl, rfl⟩
    rfl
  · rintro rfl
    exact ⟨x, [], rfl, rfl, rfl⟩

theorem runs_either {p p' : Program A α} {tr : Trace A} {a : α} :
    (either p p').Runs tr a ↔ p.Runs tr a ∨ p'.Runs tr a := by
  constructor
  · rintro ⟨n, hn⟩
    by_cases h0 : n = 0
    · exact Or.inl (by simpa [h0] using hn)
    · exact Or.inr (by simpa [h0] using hn)
  · rintro (h | h)
    · exact ⟨0, h⟩
    · exact ⟨1, h⟩

/-- A run of a sequence is a run of the first part followed by one of the second. -/
theorem runs_bind {p : Program A α} {f : α → Program A β} {tr : Trace A} {b : β} :
    (p.bind f).Runs tr b ↔ ∃ a tr₁ tr₂, tr = tr₁ ++ tr₂ ∧ p.Runs tr₁ a ∧ (f a).Runs tr₂ b := by
  induction p generalizing tr with
  | pure a =>
    constructor
    · intro h
      exact ⟨a, [], tr, rfl, ⟨rfl, rfl⟩, h⟩
    · rintro ⟨a', tr₁, tr₂, rfl, ⟨rfl, rfl⟩, h⟩
      exact h
  | ask q k ih =>
    constructor
    · rintro ⟨x, tr', rfl, h⟩
      obtain ⟨a, tr₁, tr₂, rfl, h₁, h₂⟩ := (ih x).mp h
      exact ⟨a, ⟨q, x⟩ :: tr₁, tr₂, rfl, ⟨x, tr₁, rfl, h₁⟩, h₂⟩
    · rintro ⟨a, tr₁, tr₂, rfl, ⟨x, tr', rfl, h₁⟩, h₂⟩
      exact ⟨x, tr' ++ tr₂, rfl, (ih x).mpr ⟨a, tr', tr₂, rfl, h₁, h₂⟩⟩
  | choose k ih =>
    constructor
    · rintro ⟨n, h⟩
      obtain ⟨a, tr₁, tr₂, rfl, h₁, h₂⟩ := (ih n).mp h
      exact ⟨a, tr₁, tr₂, rfl, ⟨n, h₁⟩, h₂⟩
    · rintro ⟨a, tr₁, tr₂, rfl, ⟨n, h₁⟩, h₂⟩
      exact ⟨n, (ih n).mpr ⟨a, tr₁, tr₂, rfl, h₁, h₂⟩⟩

theorem runs_map {p : Program A α} {f : α → β} {tr : Trace A} {b : β} :
    (p.map f).Runs tr b ↔ ∃ a, p.Runs tr a ∧ b = f a := by
  rw [map, runs_bind]
  constructor
  · rintro ⟨a, tr₁, tr₂, rfl, h, rfl, rfl⟩
    exact ⟨a, by rwa [List.append_nil], rfl⟩
  · rintro ⟨a, h, rfl⟩
    exact ⟨a, tr, [], (List.append_nil tr).symm, h, rfl, rfl⟩

/-! ## Concurrent halves -/

/-- The right half of a `join` whose left half is about to ask `q`: either side may move,
and `left x` is the join of the left half continued with the answer `x`. -/
def joinAsk (q : Q) (left : A q → Program A β → Program A (α × β)) (whole : Program A α) :
    Program A β → Program A (α × β)
  | .pure b => whole.map (·, b)
  | .ask q' k =>
      either (.ask q fun x => left x (.ask q' k)) (.ask q' fun y => joinAsk q left whole (k y))
  | .choose k => .choose fun n => joinAsk q left whole (k n)

/-- Run two programs concurrently and wait for both: their questions interleave freely. -/
def join : Program A α → Program A β → Program A (α × β)
  | .pure a, p => p.map (a, ·)
  | .ask q k, p => joinAsk q (fun x => join (k x)) (.ask q k) p
  | .choose k, p => .choose fun n => join (k n) p

/-- `tr` is a merge of `tr₁` and `tr₂` that keeps the order inside each. -/
inductive Interleaving : Trace A → Trace A → Trace A → Prop where
  | nil : Interleaving [] [] []
  | left {tr₁ tr₂ tr : Trace A} (e : Event A) :
      Interleaving tr₁ tr₂ tr → Interleaving (e :: tr₁) tr₂ (e :: tr)
  | right {tr₁ tr₂ tr : Trace A} (e : Event A) :
      Interleaving tr₁ tr₂ tr → Interleaving tr₁ (e :: tr₂) (e :: tr)

theorem Interleaving.nil_left (tr : Trace A) : Interleaving [] tr tr := by
  induction tr with
  | nil => exact .nil
  | cons e tr ih => exact .right e ih

theorem Interleaving.nil_right (tr : Trace A) : Interleaving tr [] tr := by
  induction tr with
  | nil => exact .nil
  | cons e tr ih => exact .left e ih

theorem Interleaving.mem_iff {tr₁ tr₂ tr : Trace A} (h : Interleaving tr₁ tr₂ tr)
    (e : Event A) : e ∈ tr ↔ e ∈ tr₁ ∨ e ∈ tr₂ := by
  induction h with
  | nil => simp
  | left d _ ih => simp only [List.mem_cons, ih, or_assoc]
  | right d _ ih => simp only [List.mem_cons, ih, or_left_comm]

theorem Interleaving.sublist_left {tr₁ tr₂ tr : Trace A} (h : Interleaving tr₁ tr₂ tr) :
    tr₁.Sublist tr := by
  induction h with
  | nil => exact List.Sublist.slnil
  | left e _ ih => exact ih.cons_cons e
  | right e _ ih => exact ih.cons e

theorem runs_joinAsk {q : Q} {k : A q → Program A α}
    {left : A q → Program A β → Program A (α × β)}
    (hleft : ∀ x p tr c, (left x p).Runs tr c →
      ∃ tr₁ tr₂, Interleaving tr₁ tr₂ tr ∧ (k x).Runs tr₁ c.1 ∧ p.Runs tr₂ c.2)
    {p : Program A β} {tr : Trace A} {c : α × β}
    (h : (joinAsk q left (.ask q k) p).Runs tr c) :
    ∃ tr₁ tr₂, Interleaving tr₁ tr₂ tr ∧ (Program.ask q k).Runs tr₁ c.1 ∧ p.Runs tr₂ c.2 := by
  induction p generalizing tr with
  | pure b =>
    obtain ⟨a, ha, rfl⟩ := runs_map.mp h
    exact ⟨tr, [], .nil_right tr, ha, rfl, rfl⟩
  | ask q' k' ih =>
    rcases runs_either.mp h with ⟨x, tr', rfl, hx⟩ | ⟨y, tr', rfl, hy⟩
    · obtain ⟨tr₁, tr₂, hi, h₁, h₂⟩ := hleft x _ _ _ hx
      exact ⟨_, tr₂, .left _ hi, ⟨x, tr₁, rfl, h₁⟩, h₂⟩
    · obtain ⟨tr₁, tr₂, hi, h₁, h₂⟩ := ih y hy
      exact ⟨tr₁, _, .right _ hi, h₁, ⟨y, tr₂, rfl, h₂⟩⟩
  | choose k' ih =>
    obtain ⟨n, hn⟩ := h
    obtain ⟨tr₁, tr₂, hi, h₁, h₂⟩ := ih n hn
    exact ⟨tr₁, tr₂, hi, h₁, ⟨n, h₂⟩⟩

/-- A run of two concurrent halves is a merge of a run of each. -/
theorem runs_join {p : Program A α} {p' : Program A β} {tr : Trace A} {c : α × β}
    (h : (join p p').Runs tr c) :
    ∃ tr₁ tr₂, Interleaving tr₁ tr₂ tr ∧ p.Runs tr₁ c.1 ∧ p'.Runs tr₂ c.2 := by
  induction p generalizing p' tr c with
  | pure a =>
    obtain ⟨b, hb, rfl⟩ := runs_map.mp h
    exact ⟨[], tr, .nil_left tr, ⟨rfl, rfl⟩, hb⟩
  | ask q k ih => exact runs_joinAsk (fun x _ _ _ hx => ih x hx) h
  | choose k ih =>
    obtain ⟨n, hn⟩ := h
    obtain ⟨tr₁, tr₂, hi, h₁, h₂⟩ := ih n hn
    exact ⟨tr₁, tr₂, hi, ⟨n, h₁⟩, h₂⟩

theorem runs_joinAsk_of_runs {q : Q} {k : A q → Program A α}
    {left : A q → Program A β → Program A (α × β)} {a : α} {b : β} {x : A q} {tr₁ : Trace A}
    (hx : (k x).Runs tr₁ a)
    (hleft : ∀ p tr₂, p.Runs tr₂ b → (left x p).Runs (tr₁ ++ tr₂) (a, b))
    {p : Program A β} {tr₂ : Trace A} (h : p.Runs tr₂ b) :
    (joinAsk q left (.ask q k) p).Runs (⟨q, x⟩ :: tr₁ ++ tr₂) (a, b) := by
  induction p with
  | pure b' =>
    obtain ⟨rfl, rfl⟩ := h
    rw [List.append_nil]
    exact runs_map.mpr ⟨a, ⟨x, tr₁, rfl, hx⟩, rfl⟩
  | ask q' k' _ => exact runs_either.mpr (Or.inl ⟨x, _, rfl, hleft _ _ h⟩)
  | choose k' ih =>
    obtain ⟨n, hn⟩ := h
    exact ⟨n, ih n hn⟩

/-- Two runs side by side: the left half may ask all its questions first. -/
theorem runs_join_of_runs {p : Program A α} {p' : Program A β} {tr₁ tr₂ : Trace A} {a : α}
    {b : β} (h : p.Runs tr₁ a) (h' : p'.Runs tr₂ b) :
    (join p p').Runs (tr₁ ++ tr₂) (a, b) := by
  induction p generalizing p' tr₁ tr₂ with
  | pure a' =>
    obtain ⟨rfl, rfl⟩ := h
    exact runs_map.mpr ⟨b, h', rfl⟩
  | ask q k ih =>
    obtain ⟨x, tr', rfl, hx⟩ := h
    exact runs_joinAsk_of_runs hx (fun _ _ hp => ih x hx hp) h'
  | choose k ih =>
    obtain ⟨n, hn⟩ := h
    exact ⟨n, ih n hn h'⟩

/-! ## Deadlines and polling -/

/-- Run under a deadline, which may pass before any question is answered. -/
def timeout : Program A α → Program A (Option α)
  | .pure a => .pure (some a)
  | .ask q k => either (.pure none) (.ask q fun x => (k x).timeout)
  | .choose k => .choose fun n => (k n).timeout

/-- A run that beats its deadline is a run of the program itself. -/
theorem runs_of_runs_timeout {p : Program A α} {tr : Trace A} {a : α}
    (h : p.timeout.Runs tr (some a)) : p.Runs tr a := by
  induction p generalizing tr with
  | pure b =>
    obtain ⟨rfl, hb⟩ := h
    exact ⟨rfl, Option.some.inj hb⟩
  | ask q k ih =>
    rcases runs_either.mp h with ⟨-, hn⟩ | ⟨x, tr', rfl, hx⟩
    · exact absurd hn (by simp)
    · exact ⟨x, tr', rfl, ih x hx⟩
  | choose k ih =>
    obtain ⟨n, hn⟩ := h
    exact ⟨n, ih n hn⟩

/-! ## What a program can ask -/

/-- Every question the program can ask, whatever the answers, satisfies `P`. -/
def Asks (P : Q → Prop) : Program A α → Prop
  | .pure _ => True
  | .ask q k => P q ∧ ∀ x, (k x).Asks P
  | .choose k => ∀ n, (k n).Asks P

theorem Asks.runs {P : Q → Prop} {p : Program A α} (hp : p.Asks P) {tr : Trace A} {a : α}
    (h : p.Runs tr a) : ∀ e ∈ tr, P e.query := by
  induction p generalizing tr with
  | pure b =>
    obtain ⟨rfl, -⟩ := h
    simp
  | ask q k ih =>
    obtain ⟨x, tr', rfl, hx⟩ := h
    intro e he
    rcases List.mem_cons.mp he with rfl | he
    · exact hp.1
    · exact ih x (hp.2 x) hx e he
  | choose k ih =>
    obtain ⟨n, hn⟩ := h
    exact ih n (hp n) hn

theorem Asks.mono {P P' : Q → Prop} {p : Program A α} (hp : p.Asks P)
    (h : ∀ q, P q → P' q) : p.Asks P' := by
  induction p with
  | pure a => trivial
  | ask q k ih => exact ⟨h q hp.1, fun x => ih x (hp.2 x)⟩
  | choose k ih => exact fun n => ih n (hp n)

theorem Asks.either {P : Q → Prop} {p p' : Program A α} (hp : p.Asks P) (hp' : p'.Asks P) :
    (Program.either p p').Asks P := by
  intro n
  by_cases h0 : n = 0
  · simpa [h0] using hp
  · simpa [h0] using hp'

theorem Asks.bind {P : Q → Prop} {p : Program A α} {f : α → Program A β}
    (hp : p.Asks P) (hf : ∀ a, (f a).Asks P) : (p >>= f).Asks P := by
  induction p with
  | pure a => exact hf a
  | ask q k ih => exact ⟨hp.1, fun x => ih x (hp.2 x)⟩
  | choose k ih => exact fun n => ih n (hp n)

theorem Asks.map {P : Q → Prop} {p : Program A α} (hp : p.Asks P) (f : α → β) :
    (p.map f).Asks P :=
  Asks.bind hp fun _ => trivial

theorem Asks.joinAsk {P : Q → Prop} {q : Q} {left : A q → Program A β → Program A (α × β)}
    {whole : Program A α} (hq : P q) (hwhole : whole.Asks P)
    (hleft : ∀ x p, p.Asks P → (left x p).Asks P) {p : Program A β} (hp : p.Asks P) :
    (Program.joinAsk q left whole p).Asks P := by
  induction p with
  | pure b => exact hwhole.map _
  | ask q' k ih =>
    exact .either ⟨hq, fun x => hleft x _ hp⟩ ⟨hp.1, fun y => ih y (hp.2 y)⟩
  | choose k ih => exact fun n => ih n (hp n)

theorem Asks.join {P : Q → Prop} {p : Program A α} {p' : Program A β} (hp : p.Asks P)
    (hp' : p'.Asks P) : (join p p').Asks P := by
  induction p generalizing p' with
  | pure a => exact hp'.map _
  | ask q k ih => exact .joinAsk hp.1 hp (fun x _ h => ih x (hp.2 x) h) hp'
  | choose k ih => exact fun n => ih n (hp n) hp'

theorem Asks.timeout {P : Q → Prop} {p : Program A α} (hp : p.Asks P) : p.timeout.Asks P := by
  induction p with
  | pure a => trivial
  | ask q k ih => exact .either trivial ⟨hp.1, fun x => ih x (hp.2 x)⟩
  | choose k ih => exact fun n => ih n (hp n)

/-! ## One environment -/

/-- The run against one environment, told how many questions came before, that also
takes every open turn: the trace and the result. -/
def exec (env : ℕ → (q : Q) → A q) (turn : ℕ → ℕ) : Program A α → ℕ → Trace A × α
  | .pure a, _ => ([], a)
  | .ask q k, i =>
      let r := exec env turn (k (env i q)) (i + 1)
      (⟨q, env i q⟩ :: r.1, r.2)
  | .choose k, i => exec env turn (k (turn i)) i

theorem runs_exec (env : ℕ → (q : Q) → A q) (turn : ℕ → ℕ) (p : Program A α) (i : ℕ) :
    p.Runs (exec env turn p i).1 (exec env turn p i).2 := by
  induction p generalizing i with
  | pure a => exact ⟨rfl, rfl⟩
  | ask q k ih => exact ⟨env i q, _, rfl, ih _ (i + 1)⟩
  | choose k ih => exact ⟨turn i, ih _ i⟩

/-- Every answer in an evaluation is the environment's. -/
theorem answer_of_mem_exec {env : ℕ → (q : Q) → A q} {turn : ℕ → ℕ} {p : Program A α} {i : ℕ}
    {e : Event A} (h : e ∈ (exec env turn p i).1) : ∃ j, e.answer = env j e.query := by
  induction p generalizing i with
  | pure a => exact absurd h List.not_mem_nil
  | ask q k ih =>
    rcases List.mem_cons.mp h with rfl | h
    · exact ⟨i, rfl⟩
    · exact ih _ h
  | choose k ih => exact ih _ h

end Program
end Interaction
