import Mathlib.Logic.Relation
import Mathlib.Tactic.Ring

/-!
# Constant-product output, rounded down

A pool with reserves `x` and `y` that keeps their product pays `n * y / (x + n)` for `n` units
in, rounded down.  `output_add_le_iff` says when some more units in buy nothing more.

Rounding down is in the pool's favour.  `product_le`: no trade lowers the product of the reserves,
hence no run of trades does (`product_le_of_run`).  `output_back_le`: an output that is paid back
at once buys at most the input.  `output_split_le`: two inputs one after the other are paid at
most what their sum is paid at once.

`wrapped` is the output computed modulo some `m`; `wrapped_eq_output_iff` says when that is the
output.
-/

namespace ConstantProduct

variable {x y n k : ℕ}

/-- The output for `n` units into the reserve `x`, out of the reserve `y`. -/
def output (x y n : ℕ) : ℕ :=
  n * y / (x + n)

theorem output_zero (x y : ℕ) : output x y 0 = 0 := by
  rw [output, Nat.zero_mul, Nat.zero_div]

theorem output_le (x y n : ℕ) : output x y n ≤ y := by
  by_cases hn : x + n = 0
  · rw [output, hn, Nat.div_zero]
    exact Nat.zero_le y
  · rw [output]
    refine Nat.div_le_of_le_mul ?_
    rw [Nat.add_mul]
    omega

/-- A pool never pays out its whole reserve. -/
theorem output_lt (hx : 0 < x) (hy : 0 < y) (n : ℕ) : output x y n < y := by
  rw [output, Nat.div_lt_iff_lt_mul (by omega), Nat.mul_add, Nat.mul_comm n y]
  have hpos : 0 < y * x := Nat.mul_pos hy hx
  omega

/-- **When more units in buy nothing**: when their price stays within what the division for `n`
units leaves up to the next unit. -/
theorem output_add_le_iff (hx : 0 < x) (y n k : ℕ) :
    output x y (n + k) ≤ output x y n ↔
      n * y % (x + n) + k * y < x + n + k * (output x y n + 1) := by
  have hsplit := Nat.div_add_mod' (n * y) (x + n)
  have hmore : (output x y n + 1) * (x + (n + k)) =
      output x y n * (x + n) + (x + n) + k * (output x y n + 1) := by ring
  rw [← output] at hsplit
  rw [← Nat.lt_succ_iff, Nat.succ_eq_add_one, output, Nat.div_lt_iff_lt_mul (by omega), hmore,
    Nat.add_mul]
  omega

/-! ## What a trade leaves -/

theorem output_mul_le (x y n : ℕ) : output x y n * (x + n) ≤ n * y :=
  Nat.div_mul_le_self _ _

/-- **No trade lowers the product.** -/
theorem product_le (x y n : ℕ) : x * y ≤ (x + n) * (y - output x y n) := by
  have hpaid := output_mul_le x y n
  obtain ⟨rest, hrest⟩ := Nat.exists_eq_add_of_le (output_le x y n)
  have hleft : y - output x y n = rest := by omega
  rw [hleft]
  have hy : (x + n) * y = (x + n) * output x y n + (x + n) * rest := by
    rw [← Nat.mul_add, ← hrest]
  have hsplit : (x + n) * y = x * y + n * y := Nat.add_mul x n y
  have hcomm : (x + n) * output x y n = output x y n * (x + n) := Nat.mul_comm _ _
  omega

/-- **Paying an output back buys at most the input.** -/
theorem output_back_le (x y n : ℕ) :
    output (y - output x y n) (x + n) (output x y n) ≤ n := by
  have hle := output_le x y n
  have hpaid := output_mul_le x y n
  rw [output, Nat.sub_add_cancel hle]
  refine Nat.div_le_of_le_mul ?_
  rw [Nat.mul_comm y n]
  exact hpaid

/-- **Splitting an input gains nothing.** -/
theorem output_split_le (hx : 0 < x) (y n m : ℕ) :
    output x y n + output (x + n) (y - output x y n) m ≤ output x y (n + m) := by
  obtain ⟨rest, hrest⟩ := Nat.exists_eq_add_of_le (output_le x y n)
  have hleft : y - output x y n = rest := by omega
  have hfirst := output_mul_le x y n
  have hsecond := output_mul_le (x + n) rest m
  rw [hleft]
  generalize output x y n = a at *
  generalize output (x + n) rest m = b at *
  rw [output, Nat.le_div_iff_mul_le (by omega)]
  -- The first output leaves `rest`, which the second input is priced against.
  calc (a + b) * (x + (n + m)) = a * (x + n) + a * m + b * (x + n + m) := by ring
    _ ≤ n * y + a * m + m * rest := by omega
    _ = n * y + m * (a + rest) := by ring
    _ = (n + m) * y := by rw [← hrest, Nat.add_mul]

/-! ## Runs of trades -/

/-- The two reserves of a pool. -/
structure Pool where
  left : ℕ
  right : ℕ

namespace Pool

structure Positive (p : Pool) : Prop where
  left : 0 < p.left
  right : 0 < p.right

def product (p : Pool) : ℕ :=
  p.left * p.right

/-- One trade, into either reserve. -/
inductive Trades : Pool → Pool → Prop where
  | intoLeft (p : Pool) (n : ℕ) :
      Trades p ⟨p.left + n, p.right - output p.left p.right n⟩
  | intoRight (p : Pool) (n : ℕ) :
      Trades p ⟨p.left - output p.right p.left n, p.right + n⟩

variable {p q : Pool}

theorem Trades.positive (h : Trades p q) (hp : p.Positive) : q.Positive := by
  cases h with
  | intoLeft n =>
    have hlt := output_lt hp.left hp.right n
    exact ⟨Nat.add_pos_left hp.left n, Nat.sub_pos_of_lt hlt⟩
  | intoRight n =>
    have hlt := output_lt hp.right hp.left n
    exact ⟨Nat.sub_pos_of_lt hlt, Nat.add_pos_left hp.right n⟩

theorem Trades.product_le (h : Trades p q) : p.product ≤ q.product := by
  cases h with
  | intoLeft n => exact ConstantProduct.product_le p.left p.right n
  | intoRight n =>
    have hle := ConstantProduct.product_le p.right p.left n
    unfold product
    rw [Nat.mul_comm p.left, Nat.mul_comm (p.left - _)]
    exact hle

theorem positive_of_run (h : Relation.ReflTransGen Trades p q) (hp : p.Positive) :
    q.Positive := by
  induction h with
  | refl => exact hp
  | tail _ hstep ih => exact hstep.positive ih

theorem product_le_of_run (h : Relation.ReflTransGen Trades p q) : p.product ≤ q.product := by
  induction h with
  | refl => exact le_rfl
  | tail _ hstep ih => exact ih.trans hstep.product_le

/-- **No run of trades drains a pool**: it does not end with both reserves at most their start
and one of them lower. -/
theorem not_drained_of_run (h : Relation.ReflTransGen Trades p q) (hp : p.Positive) :
    ¬ (q.left ≤ p.left ∧ q.right ≤ p.right ∧ (q.left < p.left ∨ q.right < p.right)) := by
  rintro ⟨hleft, hright, hlower⟩
  have hproduct : p.left * p.right ≤ q.left * q.right := product_le_of_run h
  rcases hlower with hlt | hlt
  · have hless : q.left * q.right < p.left * p.right :=
      Nat.mul_lt_mul_of_lt_of_le hlt hright hp.right
    omega
  · have hless : q.left * q.right < p.left * p.right :=
      Nat.mul_lt_mul_of_le_of_lt hleft hlt hp.left
    omega

end Pool

/-! ## Outputs computed modulo `m` -/

/-- An output is one less than the reserve from here on. -/
theorem output_eq_pred_iff (hx : 0 < x) (hy : 0 < y) : output x y n = y - 1 ↔ x * (y - 1) ≤ n := by
  have hlt := output_lt hx hy n
  obtain ⟨k, rfl⟩ : ∃ k, y = k + 1 := ⟨y - 1, by omega⟩
  rw [Nat.add_sub_cancel]
  have hle : k ≤ output x (k + 1) n ↔ x * k ≤ n := by
    rw [output, Nat.le_div_iff_mul_le (by omega), Nat.mul_add, Nat.mul_add, Nat.mul_comm k x,
      Nat.mul_comm k n]
    omega
  rw [← hle]
  omega

/-- The output for `n` units where every step is taken modulo `m`. -/
def wrapped (m x y n : ℕ) : ℕ :=
  n % m * y % m / ((x + n % m) % m)

variable {m : ℕ}

/-- A product that wraps lowers the output. -/
theorem wrapped_lt_of_product (hx : 0 < x) (hfit : x + n % m < m) (hwraps : m ≤ n % m * y) :
    wrapped m x y n < output x y (n % m) := by
  have hmod : n % m * y % m ≤ n % m * y - m := by
    rw [Nat.mod_eq_sub_mod hwraps]
    exact Nat.mod_le _ _
  rw [wrapped, Nat.mod_eq_of_lt hfit, output, Nat.div_lt_iff_lt_mul (by omega)]
  -- The quotient times the divisor falls short of the product by less than the divisor.
  have hquotient := Nat.lt_div_mul_add (a := n % m * y) (show 0 < x + n % m by omega)
  omega

/-- A sum that wraps leaves a small divisor, and an output above the reserve. -/
theorem le_wrapped_of_sum (hm : 2 * (x * y) ≤ m) (hx : x < m) (hy : 0 < y)
    (hwraps : m ≤ x + n % m) (hne : (x + n % m) % m ≠ 0) : y ≤ wrapped m x y n := by
  have hlt : n % m < m := Nat.mod_lt n (by omega)
  obtain ⟨e, he⟩ : ∃ e, n % m + e = m := ⟨m - n % m, by omega⟩
  have hsum : (x + n % m) % m = x - e := by
    rw [Nat.mod_eq_sub_mod hwraps, Nat.mod_eq_of_lt (by omega)]
    omega
  have hey : e * y ≤ x * y := Nat.mul_le_mul_right y (by omega)
  have hpos : 0 < e * y := Nat.mul_pos (by omega) hy
  have hproduct : n % m * y % m = m - e * y := by
    obtain ⟨k, rfl⟩ : ∃ k, y = k + 1 := ⟨y - 1, by omega⟩
    have htotal : n % m * (k + 1) + e * (k + 1) = m * (k + 1) := by
      rw [← Nat.add_mul, he]
    have hsplit : n % m * (k + 1) = (m - e * (k + 1)) + m * k := by
      rw [Nat.mul_add m k 1] at htotal
      omega
    rw [hsplit, Nat.add_mul_mod_self_left, Nat.mod_eq_of_lt (by omega)]
  rw [wrapped, hproduct, hsum, Nat.le_div_iff_mul_le (by omega)]
  have hdivisor : y * (x - e) ≤ y * x := Nat.mul_le_mul_left y (Nat.sub_le x e)
  rw [Nat.mul_comm y x] at hdivisor
  omega

/-- **When an output modulo `m` is the output**: no step on the reduced input wraps, and the
reduction did not lower the output. -/
theorem wrapped_eq_output_iff (hm : 2 * (x * y) ≤ m) (hx : 0 < x) (hlt : x < m) (hy : 0 < y)
    (hne : (x + n % m) % m ≠ 0) :
    wrapped m x y n = output x y n ↔
      n % m * y < m ∧ x + n % m < m ∧ (n < m ∨ x * (y - 1) ≤ n % m) := by
  have hlarge : m ≤ n → output x y n = y - 1 := by
    intro hn
    rw [output_eq_pred_iff hx hy]
    have hle : x * (y - 1) ≤ x * y := Nat.mul_le_mul_left x (Nat.sub_le y 1)
    omega
  by_cases hsum : x + n % m < m
  · by_cases hproduct : n % m * y < m
    · have hwrapped : wrapped m x y n = output x y (n % m) := by
        rw [wrapped, Nat.mod_eq_of_lt hproduct, Nat.mod_eq_of_lt hsum, output]
      rw [hwrapped]
      by_cases hn : n < m
      · rw [Nat.mod_eq_of_lt hn] at hproduct hsum ⊢
        exact ⟨fun _ => ⟨hproduct, hsum, Or.inl hn⟩, fun _ => rfl⟩
      · rw [hlarge (by omega), output_eq_pred_iff hx hy]
        constructor
        · exact fun h => ⟨hproduct, hsum, Or.inr h⟩
        · rintro ⟨-, -, h | h⟩
          · exact absurd h hn
          · exact h
    · have hless := wrapped_lt_of_product hx hsum (not_lt.mp hproduct)
      have hreduced : output x y (n % m) ≤ output x y n := by
        by_cases hn : n < m
        · rw [Nat.mod_eq_of_lt hn]
        · have hbound := output_lt hx hy (n % m)
          rw [hlarge (by omega)]
          omega
      constructor
      · intro h
        omega
      · exact fun h => absurd h.1 hproduct
  · have hmore := le_wrapped_of_sum hm hlt hy (not_lt.mp hsum) hne
    have hless := output_lt hx hy n
    constructor
    · intro h
      omega
    · exact fun h => absurd h.2.1 hsum

end ConstantProduct
