import Mathlib.Data.UInt
import TradingAggregators.Interaction.Guard

/-!
# Rust calls and integers

* `Fault`, `Result`: a call returns a value, returns an `Err` or panics.
* `Profile`: whether the build has overflow checks.  A plain `+` or `-` that leaves the
  range of its type panics with them and wraps without; results that hold for every
  profile and exclude the panic therefore exclude the overflow itself.
* `Safe`: the call returns.  A chain is safe when every step is (`Safe.bind`).
* `parseU64`: `str::parse::<u64>`.
-/

namespace Rust

open Interaction

variable {ε α : Type}

/-- How a call ends when it returns no value. -/
inductive Fault (ε : Type) where
  | err (e : ε)
  | panicked
  deriving DecidableEq

/-- The outcome of a call that can return an `Err`. -/
abbrev Result (ε α : Type) := Except (Fault ε) α

/-- Return `Err(e)`. -/
abbrev fail (e : ε) : Result ε α :=
  .error (.err e)

/-- `Option::ok_or`. -/
def okOr (o : Option α) (e : ε) : Result ε α :=
  match o with
  | some a => .ok a
  | none => fail e

@[simp] theorem okOr_eq_ok {o : Option α} {e : ε} {a : α} : okOr o e = .ok a ↔ o = some a := by
  cases o <;> simp [okOr]

/-- Indexing: out of range panics. -/
def index (xs : List α) (i : ℕ) : Result ε α :=
  match xs[i]? with
  | some a => .ok a
  | none => .error .panicked

@[simp] theorem index_eq_ok {xs : List α} {i : ℕ} {a : α} :
    (index xs i : Result ε α) = .ok a ↔ xs[i]? = some a := by
  rw [index]
  cases xs[i]? <;> simp

/-! ## Calls that cannot panic -/

/-- The call returns, with a value or with an `Err`. -/
def Safe (r : Result ε α) : Prop :=
  r ≠ .error .panicked

namespace Safe

variable {β : Type}

theorem ok (a : α) : Safe (.ok a : Result ε α) :=
  fun h => nomatch h

theorem err (e : ε) : Safe (fail e : Result ε α) :=
  fun h => nomatch Except.error.inj h

theorem okOr (o : Option α) (e : ε) : Safe (okOr o e) := by
  cases o with
  | none => exact err e
  | some a => exact ok a

theorem failIf (bad : Prop) [Decidable bad] (e : ε) : Safe (failIf bad (.err e)) := by
  by_cases h : bad
  · rw [failIf_pos h]
    exact err e
  · rw [failIf_neg h]
    exact ok ()

/-- Every step of a chain has to be safe on what the steps before it returned. -/
theorem bind {x : Result ε α} {f : α → Result ε β} (hx : Safe x)
    (hf : ∀ a, x = .ok a → Safe (f a)) : Safe (x >>= f) := by
  intro h
  rcases bind_eq_error.mp h with h | ⟨a, ha, h⟩
  · exact hx h
  · exact hf a ha h

/-- An error that is turned into an `Err`. -/
theorem mapError {ε' : Type} (x : Except ε' α) {f : ε' → Fault ε} (hf : ∀ e, f e ≠ .panicked) :
    Safe (x.mapError f) := by
  cases x with
  | error e => exact fun h => hf e (Except.error.inj h)
  | ok a => exact ok a

theorem mapM {f : α → Result ε β} (hf : ∀ a, Safe (f a)) (xs : List α) : Safe (xs.mapM f) := by
  induction xs with
  | nil =>
    rw [List.mapM_nil]
    exact ok []
  | cons x xs ih =>
    rw [List.mapM_cons]
    exact bind (hf x) fun y _ => bind ih fun ys _ => ok (y :: ys)

end Safe

/-! ## Checked arithmetic -/

/-- `u64::checked_sub`. -/
def checkedSub64 (a b : UInt64) : Option UInt64 :=
  if b ≤ a then some (a - b) else none

theorem checkedSub64_eq_some {a b c : UInt64} (h : checkedSub64 a b = some c) :
    c.toNat + b.toNat = a.toNat := by
  rw [checkedSub64] at h
  split_ifs at h with hle
  have hc : a - b = c := Option.some.inj h
  have hnat : b.toNat ≤ a.toNat := UInt64.le_iff_toNat_le.mp hle
  rw [← hc, UInt64.toNat_sub_of_le _ _ hle]
  omega

/-- `u64::saturating_sub`. -/
def saturatingSub64 (a b : UInt64) : UInt64 :=
  UInt64.ofNat (a.toNat - b.toNat)

theorem toNat_min_le {a b : UInt64} {n : ℕ} :
    (min a b).toNat ≤ n ↔ a.toNat ≤ n ∨ b.toNat ≤ n := by
  have hmin : min a b = if a ≤ b then a else b := rfl
  by_cases h : a ≤ b
  · have hnat : a.toNat ≤ b.toNat := UInt64.le_iff_toNat_le.mp h
    rw [hmin, if_pos h]
    omega
  · have hnat : b.toNat < a.toNat := UInt64.lt_iff_toNat_lt.mp (UInt64.not_le.mp h)
    rw [hmin, if_neg h]
    omega

/-! ## Plain arithmetic -/

/-- The build profile: with overflow checks plain arithmetic panics where it would wrap. -/
class Profile where
  overflowChecks : Bool

variable [Profile]

/-- The result of a plain operation on machine words: `exact` tells whether the
mathematical result fits, and `wrapped` is the word that is kept when nothing checks. -/
def plain (exact : Prop) [Decidable exact] (wrapped : α) : Result ε α :=
  if ¬ exact ∧ Profile.overflowChecks = true then .error .panicked else .ok wrapped

@[simp] theorem plain_of_exact {exact : Prop} [Decidable exact] (h : exact) (a : α) :
    (plain exact a : Result ε α) = .ok a := by
  simp [plain, h]

/-- A plain operation that returns keeps the wrapped word. -/
theorem eq_of_plain_eq_ok {exact : Prop} [Decidable exact] {a b : α}
    (h : (plain exact a : Result ε α) = .ok b) : b = a := by
  rw [plain] at h
  split_ifs at h
  exact (Except.ok.inj h).symm

/-- Without overflow checks nothing panics. -/
theorem plain_of_unchecked (h : Profile.overflowChecks = false) (exact : Prop)
    [Decidable exact] (a : α) : (plain exact a : Result ε α) = .ok a := by
  simp [plain, h]

/-- `a + b` on `u64`. -/
def add64 (a b : UInt64) : Result ε UInt64 :=
  plain (a.toNat + b.toNat < 2 ^ 64) (a + b)

/-- `a - b` on `u64`. -/
def sub64 (a b : UInt64) : Result ε UInt64 :=
  plain (b ≤ a) (a - b)

/-- `a * b` on `u64`. -/
def mul64 (a b : UInt64) : Result ε UInt64 :=
  plain (a.toNat * b.toNat < 2 ^ 64) (a * b)

theorem sub64_of_le {a b : UInt64} (h : b ≤ a) :
    ∃ c : UInt64, (sub64 a b : Result ε UInt64) = .ok c ∧ c.toNat + b.toNat = a.toNat := by
  refine ⟨a - b, plain_of_exact h _, ?_⟩
  have hle : b.toNat ≤ a.toNat := UInt64.le_iff_toNat_le.mp h
  rw [UInt64.toNat_sub_of_le _ _ h]
  omega

theorem Safe.sub64 {a b : UInt64} (h : b ≤ a) : Safe (sub64 a b : Result ε UInt64) := by
  obtain ⟨c, hc, -⟩ := sub64_of_le (ε := ε) h
  rw [hc]
  exact .ok c

/-! ## Reading integers -/

/-- The value of a character as a digit of a radix up to 16. -/
def toDigit (radix : ℕ) (c : Char) : Option ℕ :=
  let d :=
    if '0' ≤ c ∧ c ≤ '9' then some (c.toNat - '0'.toNat)
    else if 'a' ≤ c ∧ c ≤ 'f' then some (c.toNat - 'a'.toNat + 10)
    else if 'A' ≤ c ∧ c ≤ 'F' then some (c.toNat - 'A'.toNat + 10)
    else none
  d.filter (· < radix)

/-- One step of reading digits: the digit is looked at before the overflow is noticed. -/
def pushDigit (radix bound : ℕ) (n : ℕ) (c : Char) : Except String ℕ :=
  match toDigit radix c with
  | none => .error "invalid digit found in string"
  | some d =>
      if n * radix + d < bound then .ok (n * radix + d)
      else .error "number too large to fit in target type"

/-- `from_str_radix` of an unsigned type with values below `bound`. -/
def fromStrRadix (radix bound : ℕ) (cs : List Char) : Except String ℕ :=
  match cs with
  | [] => .error "cannot parse integer from empty string"
  | ['+'] | ['-'] => .error "invalid digit found in string"
  | '+' :: cs => cs.foldlM (pushDigit radix bound) 0
  | cs => cs.foldlM (pushDigit radix bound) 0

/-- `str::parse::<u64>`. -/
def parseU64 (s : String) : Except String UInt64 :=
  (fromStrRadix 10 (2 ^ 64) s.toList).map UInt64.ofNat

example : parseU64 "+18446744073709551615" = .ok 18446744073709551615 := by decide

/-! ## Text -/

/-- The bytes of a text, in UTF-8. -/
def textBytes (s : String) : List UInt8 :=
  s.toList.flatMap String.utf8EncodeChar

/-- Split a text at a byte position, if no character lies across it. -/
def splitAtByte : List Char → ℕ → Option (List Char × List Char)
  | cs, 0 => some ([], cs)
  | [], _ + 1 => none
  | c :: cs, n + 1 =>
      if c.utf8Size ≤ n + 1 then do
        let (front, back) ← splitAtByte cs (n + 1 - c.utf8Size)
        pure (c :: front, back)
      else none

/-- `&s[start..start + n]`: off a character boundary it panics. -/
def sliceText (s : String) (start n : ℕ) : Result ε (List Char) :=
  match (do
    let (_, back) ← splitAtByte s.toList start
    let (slice, _) ← splitAtByte back n
    pure slice) with
  | some slice => .ok slice
  | none => .error .panicked

end Rust
