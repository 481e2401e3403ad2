import TradingAggregators.Interaction.Protocol

/-!
# Programs that may be interrupted

A program that changes a world outside of it may be cut off after any of its events.  The
environment is a step relation on worlds (`Protocol`): it says which answer a question may get in
a world, and which world it leaves.

* `Program.Withstands`, `Proc.Withstands`: against every answer of the environment, the world
  satisfies the crash condition wherever the program is cut off, and the postcondition where it
  returns.
* `Withstands.bind`, `Withstands.ask_bind`, ...: one rule for each construct.
* `Interrupted`: the world before and after a run that was cut off somewhere, or not at all.
* `serve`: the run against one deterministic environment, to be evaluated.
-/

namespace Interaction

variable {Q : Type} {A : Q → Type} {W σ ε α β : Type}

namespace Protocol

variable {env env' : Protocol A W}

/-- A path of an environment is one of every environment that allows more. -/
theorem Path.mono (hsteps : ∀ w e w', env w e w' → env' w e w') {w w' : W} {tr : Trace A}
    (h : env.Path w tr w') : env'.Path w tr w' := by
  induction h with
  | nil w => exact .nil w
  | cons hstep _ ih => exact .cons (hsteps _ _ _ hstep) ih

end Protocol

/-! ## Programs -/

namespace Program

variable {env : Protocol A W} {crash : W → Prop}

/-- Wherever the program is cut off the world satisfies `crash`, and where it returns the world
and the result satisfy `post`. -/
def Withstands (env : Protocol A W) (crash : W → Prop) (post : W → α → Prop) :
    W → Program A α → Prop
  | w, .pure a => crash w ∧ post w a
  | w, .ask q k => crash w ∧ ∀ x w', env w ⟨q, x⟩ w' → (k x).Withstands env crash post w'
  | w, .choose k => crash w ∧ ∀ n, (k n).Withstands env crash post w

namespace Withstands

variable {post : W → α → Prop} {w : W} {x : Program A α}

/-- **A run that is not interrupted** ends in the postcondition. -/
theorem runs (h : x.Withstands env crash post w) {tr : Trace A} {a : α} (hrun : x.Runs tr a)
    {w' : W} (hpath : env.Path w tr w') : post w' a := by
  induction x generalizing w tr with
  | pure b =>
    obtain ⟨rfl, rfl⟩ := hrun
    cases hpath
    exact h.2
  | ask q k ih =>
    obtain ⟨x, tr', rfl, hx⟩ := hrun
    cases hpath with
    | cons hstep hpath => exact ih x (h.2 x _ hstep) hx hpath
  | choose k ih =>
    obtain ⟨n, hn⟩ := hrun
    exact ih n (h.2 n) hn hpath

/-- **A run that is cut off** leaves the crash condition. -/
theorem cut (h : x.Withstands env crash post w) {done rest : Trace A} {a : α}
    (hrun : x.Runs (done ++ rest) a) {w' : W} (hpath : env.Path w done w') : crash w' := by
  induction x generalizing w done with
  | pure b =>
    obtain ⟨hnil, -⟩ := hrun
    obtain ⟨rfl, -⟩ := List.append_eq_nil_iff.mp hnil
    cases hpath
    exact h.1
  | ask q k ih =>
    obtain ⟨x, tr', htr, hx⟩ := hrun
    cases hpath with
    | nil => exact h.1
    | cons hstep hpath =>
      obtain ⟨rfl, rfl⟩ := List.cons.inj htr
      exact ih x (h.2 x _ hstep) hx hpath
  | choose k ih =>
    obtain ⟨n, hn⟩ := hrun
    exact ih n (h.2 n) hn hpath

theorem mono {crash' : W → Prop} {post' : W → α → Prop} (h : x.Withstands env crash post w)
    (hcrash : ∀ w', crash w' → crash' w') (hpost : ∀ w' a, post w' a → post' w' a) :
    x.Withstands env crash' post' w := by
  induction x generalizing w with
  | pure a => exact ⟨hcrash w h.1, hpost w a h.2⟩
  | ask q k ih => exact ⟨hcrash w h.1, fun x w' hstep => ih x (h.2 x w' hstep)⟩
  | choose k ih => exact ⟨hcrash w h.1, fun n => ih n (h.2 n)⟩

theorem bind {mid : W → α → Prop} {post : W → β → Prop} {f : α → Program A β}
    (h : x.Withstands env crash mid w)
    (hf : ∀ w' a, crash w' → mid w' a → (f a).Withstands env crash post w') :
    (x.bind f).Withstands env crash post w := by
  induction x generalizing w with
  | pure a => exact hf w a h.1 h.2
  | ask q k ih => exact ⟨h.1, fun x w' hstep => ih x (h.2 x w' hstep)⟩
  | choose k ih => exact ⟨h.1, fun n => ih n (h.2 n)⟩

/-- A program whose questions keep an invariant. -/
theorem of_asks {P : Q → Prop} {inv : W → Prop} (h : x.Asks P)
    (hstep : ∀ w e w', inv w → P e.query → env w e w' → inv w') (hw : inv w) :
    x.Withstands env inv (fun w' _ => inv w') w := by
  induction x generalizing w with
  | pure a => exact ⟨hw, hw⟩
  | ask q k ih => exact ⟨hw, fun x w' he => ih x (h.2 x) (hstep w ⟨q, x⟩ w' hw h.1 he)⟩
  | choose k ih => exact ⟨hw, fun n => ih n (h n) hw⟩

/-- What every step of the environment keeps. -/
theorem of_step {inv : W → Prop} (hstep : ∀ w e w', inv w → env w e w' → inv w') (hw : inv w) :
    x.Withstands env inv (fun w' _ => inv w') w := by
  induction x generalizing w with
  | pure a => exact ⟨hw, hw⟩
  | ask q k ih => exact ⟨hw, fun x w' he => ih x (hstep w ⟨q, x⟩ w' hw he)⟩
  | choose k ih => exact ⟨hw, fun n => ih n hw⟩

end Withstands

/-! ## Evaluation -/

/-- Run a program against an environment that answers one question after the other. -/
def serve (respond : W → (q : Q) → A q × W) (turn : ℕ) : Program A α → W → Trace A × α × W
  | .pure a, w => ([], a, w)
  | .ask q k, w =>
      let r := serve respond turn (k (respond w q).1) (respond w q).2
      (⟨q, (respond w q).1⟩ :: r.1, r.2)
  | .choose k, w => serve respond turn (k turn) w

theorem runs_serve (respond : W → (q : Q) → A q × W) (turn : ℕ) (x : Program A α) (w : W) :
    x.Runs (serve respond turn x w).1 (serve respond turn x w).2.1 := by
  induction x generalizing w with
  | pure a => exact ⟨rfl, rfl⟩
  | ask q k ih => exact ⟨(respond w q).1, _, rfl, ih _ _⟩
  | choose k ih => exact ⟨turn, ih _ _⟩

theorem path_serve {respond : W → (q : Q) → A q × W}
    (hrespond : ∀ w q, env w ⟨q, (respond w q).1⟩ (respond w q).2) (turn : ℕ) (x : Program A α)
    (w : W) : env.Path w (serve respond turn x w).1 (serve respond turn x w).2.2 := by
  induction x generalizing w with
  | pure a => exact .nil w
  | ask q k ih => exact .cons (hrespond w q) (ih _ _)
  | choose k ih => exact ih _ _

end Program

/-! ## Procedures -/

namespace Proc

variable {env : Protocol A W} {crash : W → Prop}

/-- Wherever the procedure is cut off the world satisfies `crash`, and where it ends the world,
the outcome and the variable satisfy `post`. -/
def Withstands (env : Protocol A W) (crash : W → Prop) (post : W → Except ε α → σ → Prop) (w : W)
    (s : σ) (x : Proc A σ ε α) : Prop :=
  (x.start s).Withstands env crash (fun w' c => post w' c.1 c.2) w

namespace Withstands

variable {post : W → Except ε α → σ → Prop} {w : W} {s : σ} {x : Proc A σ ε α}

theorem runs (h : Withstands env crash post w s x) {tr : Trace A} {r : Except ε α} {s' : σ}
    (hrun : x.Runs s tr r s') {w' : W} (hpath : env.Path w tr w') : post w' r s' := by
  unfold Proc.Runs at hrun
  exact Program.Withstands.runs h hrun hpath

theorem cut (h : Withstands env crash post w s x) {done rest : Trace A} {r : Except ε α} {s' : σ}
    (hrun : x.Runs s (done ++ rest) r s') {w' : W} (hpath : env.Path w done w') : crash w' := by
  unfold Proc.Runs at hrun
  exact Program.Withstands.cut h hrun hpath

theorem mono {crash' : W → Prop} {post' : W → Except ε α → σ → Prop}
    (h : Withstands env crash post w s x) (hcrash : ∀ w', crash w' → crash' w')
    (hpost : ∀ w' r s', post w' r s' → post' w' r s') : Withstands env crash' post' w s x :=
  Program.Withstands.mono h hcrash fun w' c => hpost w' c.1 c.2

theorem of_asks {P : Q → Prop} {inv : W → Prop} (h : x.Asks P)
    (hstep : ∀ w e w', inv w → P e.query → env w e w' → inv w') (hw : inv w) :
    Withstands env inv (fun w' _ _ => inv w') w s x :=
  Program.Withstands.of_asks (h.start s) hstep hw

theorem of_step {inv : W → Prop} (hstep : ∀ w e w', inv w → env w e w' → inv w') (hw : inv w) :
    Withstands env inv (fun w' _ _ => inv w') w s x :=
  Program.Withstands.of_step hstep hw

theorem pure {a : α} (hcrash : crash w) (h : post w (.ok a) s) :
    Withstands env crash post w s (pure a) :=
  ⟨hcrash, h⟩

theorem throw {e : ε} (hcrash : crash w) (h : post w (.error e) s) :
    Withstands env crash post w s (throw e) :=
  ⟨hcrash, h⟩

theorem bind {mid : W → Except ε β → σ → Prop} {y : Proc A σ ε β} {f : β → Proc A σ ε α}
    (h : Withstands env crash mid w s y)
    (herror : ∀ w' e s', crash w' → mid w' (.error e) s' → post w' (.error e) s')
    (hok : ∀ w' b s', crash w' → mid w' (.ok b) s' → Withstands env crash post w' s' (f b)) :
    Withstands env crash post w s (y >>= f) := by
  refine Program.Withstands.bind h fun w' c hcrash hc => ?_
  obtain ⟨r, s'⟩ := c
  cases r with
  | error e => exact ⟨hcrash, herror w' e s' hcrash hc⟩
  | ok b => exact hok w' b s' hcrash hc

theorem ask_bind {q : Q} {f : A q → Proc A σ ε α} (hcrash : crash w)
    (h : ∀ a w', env w ⟨q, a⟩ w' → Withstands env crash post w' s (f a)) :
    Withstands env crash post w s (ask q >>= f) :=
  ⟨hcrash, h⟩

theorem ofResult_bind {r : Except ε β} {f : β → Proc A σ ε α} (hcrash : crash w)
    (herror : ∀ e, r = .error e → post w (.error e) s)
    (hok : ∀ b, r = .ok b → Withstands env crash post w s (f b)) :
    Withstands env crash post w s (Proc.ofResult r >>= f) := by
  cases r with
  | error e => exact ⟨hcrash, herror e rfl⟩
  | ok b => exact hok b rfl

theorem failIf_bind {bad : Prop} [Decidable bad] {e : ε} {f : Unit → Proc A σ ε α}
    (hcrash : crash w) (herror : bad → post w (.error e) s)
    (hok : ¬ bad → Withstands env crash post w s (f ())) :
    Withstands env crash post w s (failIf bad e >>= f) :=
  ofResult_bind hcrash (fun e' he => by
      obtain ⟨hbad, rfl⟩ := failIf_eq_error.mp he
      exact herror hbad)
    fun _ hb => hok (failIf_eq_ok.mp hb)

theorem mapErr {ε' : Type} {f : ε → ε'} {post : W → Except ε' α → σ → Prop}
    (h : Withstands env crash (fun w' r s' => post w' (r.mapError f) s') w s x) :
    Withstands env crash post w s (mapErr f x) :=
  Program.Withstands.bind h fun _ _ hcrash hpost => ⟨hcrash, hpost⟩

end Withstands

/-! ## Sessions -/

/-- The worlds before and after a run that was cut off somewhere, or not at all. -/
def Interrupted (env : Protocol A W) (x : Proc A Unit ε α) (w w' : W) : Prop :=
  ∃ done rest r, x.Runs () (done ++ rest) r () ∧ env.Path w done w'

/-- **An interrupted run leaves the crash condition.** -/
theorem Withstands.interrupted {x : Proc A Unit ε α} {post : W → Except ε α → Unit → Prop} {w : W}
    (h : Withstands env crash post w () x) {w' : W} (hsession : Interrupted env x w w') :
    crash w' := by
  obtain ⟨done, rest, r, hrun, hpath⟩ := hsession
  exact h.cut hrun hpath

end Proc
end Interaction
