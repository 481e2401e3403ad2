import Mathlib.Algebra.Order.Floor.Div
import Mathlib.Tactic.Ring

/-!
# Rounded shares of an amount

A share of `r` parts in `d` of an amount is rounded down (`shareDown`) or up (`shareUp`), and
`net` is what of an amount is left when a share of what is left has to be paid out of it.

* `net_add_shareDown_le`, `net_add_shareUps_le`: the net amount and the shares taken of it stay
  within the amount, whichever way the shares are rounded.
* `shareUps_le`: two shares rounded up exceed the amount by at most one.
* `net_pred`: when one unit put aside before the division lowers the net amount.
* `sub_shareDown_bounds`: what a share rounded down leaves is the rest rounded up.
* `grossShare_unique`: an amount that is the share of itself and a rest is determined up to one
  by the rest, as long as the share is at most a half.
-/

namespace Rounding

variable {d n r s t a b k : ℕ}

/-- `r` parts in `d` of `n`, rounded down. -/
def shareDown (d n r : ℕ) : ℕ :=
  n * r / d

/-- `r` parts in `d` of `n`, rounded up. -/
def shareUp (d n r : ℕ) : ℕ :=
  (n * r + (d - 1)) / d

/-- What is left of `n` when `t` parts in `d` of what is left are paid on top, rounded down. -/
def net (d n t : ℕ) : ℕ :=
  n * d / (d + t)

/-! ## One share -/

theorem shareDown_le (h : r ≤ d) : shareDown d n r ≤ n :=
  Nat.div_le_of_le_mul (by rw [Nat.mul_comm d n]; exact Nat.mul_le_mul_left n h)

theorem shareDown_lt (hn : 0 < n) (h : r < d) : shareDown d n r < n := by
  rw [shareDown, Nat.div_lt_iff_lt_mul (by omega)]
  exact Nat.mul_lt_mul_of_pos_left h hn

/-- What is added to an amount adds no more than itself to a share. -/
theorem shareDown_add_left_le (h : r ≤ d) (n k : ℕ) :
    shareDown d (n + k) r ≤ shareDown d n r + k := by
  by_cases hd : d = 0
  · simp [shareDown, hd]
  · have hle : (n + k) * r ≤ n * r + d * k := by
      rw [Nat.add_mul, Nat.mul_comm d k]
      exact Nat.add_le_add_left (Nat.mul_le_mul_left k h) _
    calc shareDown d (n + k) r ≤ (n * r + d * k) / d := Nat.div_le_div_right hle
      _ = shareDown d n r + k := Nat.add_mul_div_left _ _ (Nat.pos_of_ne_zero hd)

theorem ceilDiv_eq_shareUp (d n r : ℕ) : (n * r) ⌈/⌉ d = shareUp d n r := by
  rw [shareUp, Nat.ceilDiv_eq_add_pred_div]
  by_cases hd : d = 0
  · rw [hd, Nat.div_zero, Nat.div_zero]
  · rw [← Nat.add_sub_assoc (by omega)]

theorem shareUp_le (h : r ≤ d) : shareUp d n r ≤ n := by
  by_cases hd : d = 0
  · have hr : r = 0 := by omega
    rw [shareUp, hd, Nat.div_zero]
    exact Nat.zero_le n
  · have hmul : n * r ≤ n * d := Nat.mul_le_mul_left n h
    rw [shareUp, ← Nat.lt_succ_iff, Nat.div_lt_iff_lt_mul (by omega), Nat.succ_mul]
    omega

/-! ## Several shares of one amount -/

theorem shareDown_add_le (d n a b : ℕ) :
    shareDown d n a + shareDown d n b ≤ shareDown d n (a + b) := by
  rw [shareDown, shareDown, shareDown, Nat.mul_add]
  exact Nat.div_add_div_le_add_div

theorem shareUp_mul_lt (hd : 0 < d) : shareUp d n r * d < n * r + d := by
  have hle := Nat.div_mul_le_self (n * r + (d - 1)) d
  rw [← shareUp] at hle
  omega

/-- Two shares rounded up exceed a bound on the exact shares by less than two. -/
theorem shareUps_le (hd : 0 < d) (h : n * (a + b) ≤ k * d) :
    shareUp d n a + shareUp d n b ≤ k + 1 := by
  have ha : shareUp d n a * d < n * a + d := shareUp_mul_lt hd
  have hb : shareUp d n b * d < n * b + d := shareUp_mul_lt hd
  rw [Nat.mul_add] at h
  have hlt : (shareUp d n a + shareUp d n b) * d < (k + 2) * d := by
    rw [Nat.add_mul, Nat.add_mul]
    omega
  have := Nat.lt_of_mul_lt_mul_right hlt
  omega

/-! ## Shares paid out of the amount -/

theorem net_mul_le (d n t : ℕ) : net d n t * (d + t) ≤ n * d :=
  Nat.div_mul_le_self _ _

theorem net_le (d n t : ℕ) : net d n t ≤ n := by
  refine Nat.div_le_of_le_mul ?_
  rw [Nat.mul_comm]
  exact Nat.mul_le_mul_right n (Nat.le_add_right d t)

/-- The net amount and a share of it, rounded down, stay within the amount. -/
theorem net_add_shareDown_le (hd : 0 < d) : net d n t + shareDown d (net d n t) t ≤ n := by
  have hnet := net_mul_le d n t
  have hshare : shareDown d (net d n t) t * d ≤ net d n t * t := Nat.div_mul_le_self _ _
  refine Nat.le_of_mul_le_mul_right ?_ hd
  rw [Nat.add_mul]
  rw [Nat.mul_add] at hnet
  omega

/-- With one unit put aside, even two shares rounded up stay within the amount. -/
theorem net_add_shareUps_le (hd : 0 < d) (hn : 0 < n) :
    net d (n - 1) (a + b) + (shareUp d (net d (n - 1) (a + b)) a +
      shareUp d (net d (n - 1) (a + b)) b) ≤ n := by
  have hnet := net_mul_le d (n - 1) (a + b)
  have hle := net_le d (n - 1) (a + b)
  generalize net d (n - 1) (a + b) = q at *
  have hrest : q * (a + b) ≤ (n - 1 - q) * d := by
    rw [Nat.sub_mul]
    rw [Nat.mul_add] at hnet
    omega
  have hups := shareUps_le hd hrest
  omega

/-! ## One unit put aside before the division

`n * d % (d + t)` is what the division of `n` leaves over.  A unit put aside first is paid from
there, if that is enough, or it lowers the net amount by one. -/

/-- **One unit put aside lowers the net amount by one**, unless what the division leaves over
pays for it. -/
theorem net_pred (hd : 0 < d) (hn : 0 < n) :
    net d (n - 1) t + (if d ≤ n * d % (d + t) then 0 else 1) = net d n t := by
  have hsplit := Nat.div_add_mod' (n * d) (d + t)
  have hmod := Nat.mod_lt (n * d) (show 0 < d + t by omega)
  have hpred : (n - 1) * d + d = n * d := by
    rw [← Nat.succ_mul, Nat.succ_eq_add_one, Nat.sub_add_cancel hn]
  rw [← net] at hsplit
  generalize n * d % (d + t) = left at *
  by_cases hleft : d ≤ left
  · have hsame : (n - 1) * d = left - d + net d n t * (d + t) := by omega
    rw [if_pos hleft, Nat.add_zero, net, hsame, Nat.add_mul_div_right _ _ (by omega),
      Nat.div_eq_of_lt (by omega), Nat.zero_add]
  · have hpos : 0 < net d n t := by
      by_contra hzero
      have : net d n t * (d + t) = 0 := by rw [Nat.eq_zero_of_not_pos hzero, Nat.zero_mul]
      have : d ≤ n * d := Nat.le_mul_of_pos_left d hn
      omega
    obtain ⟨q, hq⟩ : ∃ q, net d n t = q + 1 := ⟨net d n t - 1, by omega⟩
    have hless : (n - 1) * d = left + t + q * (d + t) := by
      rw [hq, Nat.succ_mul] at hsplit
      omega
    rw [if_neg hleft, hq, net, hless, Nat.add_mul_div_right _ _ (by omega),
      Nat.div_eq_of_lt (by omega), Nat.zero_add]

/-- A smaller share takes at most the unit put aside off the net amount. -/
theorem net_le_net_pred_add (hd : 0 < d) (h : s ≤ t) (n : ℕ) :
    net d n t ≤ net d (n - 1) s + 1 := by
  by_cases hzero : net d n t = 0
  · omega
  obtain ⟨q, hq⟩ : ∃ q, net d n t = q + 1 := ⟨net d n t - 1, by omega⟩
  have hnet := net_mul_le d n t
  have hsmaller : (q + 1) * (d + s) ≤ (q + 1) * (d + t) := Nat.mul_le_mul_left _ (by omega)
  rw [hq] at hnet ⊢
  refine Nat.succ_le_succ ((Nat.le_div_iff_mul_le (by omega)).mpr ?_)
  rw [Nat.sub_mul, Nat.one_mul]
  rw [Nat.succ_mul] at hsmaller
  omega

/-- With no unit put aside, two shares rounded up exceed the amount by at most one. -/
theorem net_add_shareUps_le_succ (hd : 0 < d) (n a b : ℕ) :
    net d n (a + b) + (shareUp d (net d n (a + b)) a + shareUp d (net d n (a + b)) b) ≤
      n + 1 := by
  have hnet := net_mul_le d n (a + b)
  have hle := net_le d n (a + b)
  generalize net d n (a + b) = q at *
  have hups : shareUp d q a + shareUp d q b ≤ n - q + 1 := by
    refine shareUps_le hd ?_
    rw [Nat.sub_mul]
    rw [Nat.mul_add] at hnet
    omega
  omega

/-- They stay within the amount when what the division leaves over pays for one unit. -/
theorem net_add_shareUps_le_of_left (hd : 0 < d) (hleft : d ≤ n * d % (d + (a + b))) :
    net d n (a + b) + (shareUp d (net d n (a + b)) a + shareUp d (net d n (a + b)) b) ≤ n := by
  have hsplit := Nat.div_add_mod' (n * d) (d + (a + b))
  have hle := net_le d n (a + b)
  rw [← net] at hsplit
  generalize net d n (a + b) = q at *
  rw [Nat.mul_add] at hsplit
  have hlt : q < n := Nat.lt_of_mul_lt_mul_right (show q * d < n * d by omega)
  have hups : shareUp d q a + shareUp d q b ≤ n - q - 1 + 1 := by
    refine shareUps_le hd ?_
    rw [Nat.sub_mul, Nat.sub_mul, Nat.one_mul]
    omega
  omega

/-! ## What a share leaves -/

/-- What a share rounded down leaves is the rest rounded up: at least the rest rounded down,
and at most one more. -/
theorem sub_shareDown_bounds (hd : 0 < d) (h : s ≤ d) :
    shareDown d n (d - s) ≤ n - shareDown d n s ∧
      n - shareDown d n s ≤ shareDown d n (d - s) + 1 := by
  have hs : shareDown d n s ≤ n := shareDown_le h
  have hsum : n * s + n * (d - s) = n * d := by
    rw [← Nat.mul_add]
    congr 1
    omega
  have hdown := Nat.div_add_mod' (n * s) d
  have hrest := Nat.div_add_mod' (n * (d - s)) d
  have hmod := Nat.mod_lt (n * s) hd
  have hmod' := Nat.mod_lt (n * (d - s)) hd
  rw [← shareDown] at hdown hrest
  generalize shareDown d n s = x at *
  generalize shareDown d n (d - s) = y at *
  have htotal : (x + y) * d ≤ n * d ∧ n * d < (x + y + 2) * d := by
    rw [Nat.add_mul _ 2, Nat.add_mul]
    omega
  have hle := Nat.le_of_mul_le_mul_right htotal.1 hd
  have hlt := Nat.lt_of_mul_lt_mul_right htotal.2
  omega

theorem sub_shareDown_eq_zero_iff (h : s < d) : n - shareDown d n s = 0 ↔ n = 0 := by
  constructor
  · intro hzero
    by_contra hn
    have := shareDown_lt (Nat.pos_of_ne_zero hn) h
    omega
  · rintro rfl
    exact Nat.zero_sub _

/-! ## A share of a gross amount -/

/-- An amount that is the share of itself and a rest lies within these bounds. -/
theorem grossShare_bounds {f e : ℕ} (hd : 0 < d) (hr : r ≤ d) (h : f = shareDown d (e + f) r) :
    f * (d - r) ≤ e * r ∧ e * r < f * (d - r) + d := by
  have hsplit := Nat.div_add_mod' ((e + f) * r) d
  have hmod := Nat.mod_lt ((e + f) * r) hd
  have hmul : f * r ≤ f * d := Nat.mul_le_mul_left f hr
  rw [← shareDown, ← h, Nat.add_mul] at hsplit
  rw [Nat.add_mul] at hmod
  rw [Nat.mul_sub]
  omega

/-- **A gross share is determined up to one** by what it leaves, if it is at most a half. -/
theorem grossShare_unique {f f' e : ℕ} (hd : 0 < d) (hr : 2 * r ≤ d)
    (h : f = shareDown d (e + f) r) (h' : f' = shareDown d (e + f') r) : f' ≤ f + 1 := by
  have hf := (grossShare_bounds hd (by omega) h).2
  have hf' := (grossShare_bounds hd (by omega) h').1
  by_contra hmore
  have hstep : (f + 2) * (d - r) ≤ f' * (d - r) := Nat.mul_le_mul_right _ (by omega)
  rw [Nat.add_mul] at hstep
  omega

/-! ## Prices

An amount is charged as a price for each of `r` units, in parts of `d`: the price is rounded
down when it is set, and the charge is rounded up. -/

/-- A price that does not exceed the amount charges no more than it. -/
theorem shareUp_le_of_mul_le (hd : 0 < d) (h : n * r ≤ a * d) : shareUp d n r ≤ a := by
  have hlt := shareUp_mul_lt (n := n) (r := r) hd
  have hbound : shareUp d n r * d < (a + 1) * d := by
    rw [Nat.succ_mul]
    omega
  exact Nat.le_of_lt_succ (Nat.lt_of_mul_lt_mul_right hbound)

/-- A price rounded down charges at most one too little, for no more than `2 * d` units. -/
theorem le_shareUp_of_lt_mul (hd : 0 < d) (h : a * d < n * r + r) (hr : r ≤ 2 * d) :
    a ≤ shareUp d n r + 1 := by
  have hceil : n * r ≤ shareUp d n r * d := by
    have hsplit := Nat.div_add_mod' (n * r + (d - 1)) d
    have hmod := Nat.mod_lt (n * r + (d - 1)) hd
    rw [← shareUp] at hsplit
    omega
  have hbound : a * d < (shareUp d n r + 2) * d := by
    rw [Nat.add_mul]
    omega
  exact Nat.le_of_lt_succ (Nat.lt_of_mul_lt_mul_right hbound)

end Rounding
