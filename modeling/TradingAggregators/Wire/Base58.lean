import Mathlib.Data.List.TakeWhile
import Mathlib.Data.Nat.Digits.Defs
import Mathlib.Data.Nat.Digits.Lemmas
import TradingAggregators.Wire.Bytes

/-!
# Base 58

Base-58 text spells a byte string as one big-endian number, except that every leading zero
byte becomes one leading `1`.  Both directions are the same operation on digit lists: change
the base and keep the leading zeros (`recode`), and `recode_recode` says that changing back
recovers the digits.  `decode_encode` reads this on text.
-/

namespace Wire
namespace Base58

/-! ## Changing base with leading zeros kept -/

/-- The digits, most significant first, of the same number in base `c`, behind as many zeros
as `ds` has in front. -/
def recode (b c : ℕ) (ds : List ℕ) : List ℕ :=
  ds.takeWhile (· == 0) ++ (Nat.digits c (Nat.ofDigits b ds.reverse)).reverse

theorem takeWhile_zero_eq_replicate (ds : List ℕ) :
    ds.takeWhile (· == 0) = List.replicate (ds.takeWhile (· == 0)).length 0 := by
  refine List.eq_replicate_of_mem fun d hd => ?_
  simpa using List.mem_takeWhile_imp hd

/-- Leading zeros do not change the number. -/
theorem ofDigits_reverse_dropWhile (b : ℕ) (ds : List ℕ) :
    Nat.ofDigits b ds.reverse = Nat.ofDigits b (ds.dropWhile (· == 0)).reverse := by
  conv_lhs => rw [← List.takeWhile_append_dropWhile (p := (· == 0)) (l := ds)]
  rw [List.reverse_append, Nat.ofDigits_append, takeWhile_zero_eq_replicate,
    List.reverse_replicate, Nat.ofDigits_replicate_zero, Nat.mul_zero, Nat.add_zero]

/-- What is left behind the leading zeros does not start with one. -/
theorem getLast_reverse_dropWhile_ne_zero (ds : List ℕ)
    (h : (ds.dropWhile (· == 0)).reverse ≠ []) :
    (ds.dropWhile (· == 0)).reverse.getLast h ≠ 0 := by
  have hne : ds.dropWhile (· == 0) ≠ [] := by simpa using h
  have hhead := List.head_dropWhile_not (· == 0) hne
  rw [List.getLast_reverse]
  simpa using hhead

theorem takeWhile_zero_reverse_digits (c n : ℕ) :
    (Nat.digits c n).reverse.takeWhile (· == 0) = [] := by
  by_cases hn : n = 0
  · simp [hn]
  · have hne : Nat.digits c n ≠ [] := Nat.digits_ne_nil_iff_ne_zero.mpr hn
    have hlast := Nat.getLast_digit_ne_zero c hn
    have hsplit := List.dropLast_append_getLast hne
    rw [← hsplit, List.reverse_append, List.reverse_singleton, List.singleton_append,
      List.takeWhile_cons]
    simp [hlast]

theorem recode_recode {b c : ℕ} (hb : 1 < b) (ds : List ℕ) (hds : ∀ d ∈ ds, d < b) :
    recode c b (recode b c ds) = ds := by
  have hzeros : (recode b c ds).takeWhile (· == 0) = ds.takeWhile (· == 0) := by
    rw [recode, takeWhile_zero_eq_replicate ds, List.takeWhile_append_of_pos (by simp),
      takeWhile_zero_reverse_digits, List.append_nil]
  have hvalue : Nat.ofDigits c (recode b c ds).reverse =
      Nat.ofDigits b (ds.dropWhile (· == 0)).reverse := by
    rw [recode, List.reverse_append, List.reverse_reverse, Nat.ofDigits_append,
      takeWhile_zero_eq_replicate, List.reverse_replicate, Nat.ofDigits_replicate_zero,
      Nat.mul_zero, Nat.add_zero, Nat.ofDigits_digits, ofDigits_reverse_dropWhile]
  have hdigits : Nat.digits b (Nat.ofDigits b (ds.dropWhile (· == 0)).reverse) =
      (ds.dropWhile (· == 0)).reverse := by
    refine Nat.digits_ofDigits b hb _ (fun d hd => ?_) (getLast_reverse_dropWhile_ne_zero ds)
    exact hds d ((List.dropWhile_sublist _).mem (List.mem_reverse.mp hd))
  rw [recode, hzeros, hvalue, hdigits, List.reverse_reverse, List.takeWhile_append_dropWhile]

theorem recode_lt {b c : ℕ} (hb : 0 < c) (hc : 1 < c) (ds : List ℕ) :
    ∀ d ∈ recode b c ds, d < c := by
  intro d hd
  rcases List.mem_append.mp hd with h | h
  · have hd0 : d = 0 := by simpa using List.mem_takeWhile_imp h
    rw [hd0]
    exact hb
  · exact Nat.digits_lt_base hc (List.mem_reverse.mp h)

/-- Changing to a smaller base never takes fewer digits. -/
theorem length_le_recode {b c : ℕ} (hc : 1 < c) (hcb : c ≤ b) (ds : List ℕ)
    (hds : ∀ d ∈ ds, d < b) : ds.length ≤ (recode b c ds).length := by
  have hb : 1 < b := lt_of_lt_of_le hc hcb
  have hsplit := congrArg List.length (List.takeWhile_append_dropWhile (p := (· == 0)) (l := ds))
  have hvalue := ofDigits_reverse_dropWhile b ds
  have hdigits : Nat.digits b (Nat.ofDigits b (ds.dropWhile (· == 0)).reverse) =
      (ds.dropWhile (· == 0)).reverse := by
    refine Nat.digits_ofDigits b hb _ (fun d hd => ?_) (getLast_reverse_dropWhile_ne_zero ds)
    exact hds d ((List.dropWhile_sublist _).mem (List.mem_reverse.mp hd))
  have hlen : (ds.dropWhile (· == 0)).length ≤
      (Nat.digits c (Nat.ofDigits b ds.reverse)).length := by
    rw [hvalue]
    by_cases hzero : Nat.ofDigits b (ds.dropWhile (· == 0)).reverse = 0
    · rw [hzero, Nat.digits_zero] at hdigits
      rw [← List.length_reverse, ← hdigits]
      exact Nat.zero_le _
    · rw [← List.length_reverse, ← hdigits, Nat.length_digits b _ hb hzero,
        Nat.ofDigits_digits, Nat.length_digits c _ hc hzero]
      exact Nat.succ_le_succ (Nat.log_anti_left hc hcb)
  rw [recode, List.length_append, List.length_reverse]
  rw [List.length_append] at hsplit
  omega

/-! ## Text -/

/-- The 58 symbols, by digit. -/
def alphabet : List Char :=
  "123456789ABCDEFGHJKLMNPQRSTUVWXYZabcdefghijkmnopqrstuvwxyz".toList

/-- The symbol of a digit. -/
def symbol (d : ℕ) : Char :=
  alphabet.getD d '1'

/-- The text of a byte string. -/
def encode (bs : Bytes) : String :=
  String.ofList ((recode 256 58 (bs.map UInt8.toNat)).map symbol)

/-- The byte string of a text, if every character is a symbol. -/
def decode (s : String) : Option Bytes :=
  (s.toList.mapM fun c => alphabet.idxOf? c).map fun ds =>
    (recode 58 256 ds).map UInt8.ofNat

theorem idxOf?_symbol {d : ℕ} (hd : d < 58) : alphabet.idxOf? (symbol d) = some d := by
  revert d
  decide

theorem mapM_idxOf?_symbol (ds : List ℕ) (hds : ∀ d ∈ ds, d < 58) :
    (ds.map symbol).mapM (fun c => alphabet.idxOf? c) = some ds := by
  induction ds with
  | nil => rfl
  | cons d ds ih =>
    have hd : d < 58 := hds d List.mem_cons_self
    rw [List.map_cons, List.mapM_cons, idxOf?_symbol hd,
      ih fun d' h => hds d' (List.mem_cons_of_mem d h)]
    rfl

/-- Text produced from bytes reads back as those bytes. -/
theorem decode_encode (bs : Bytes) : decode (encode bs) = some bs := by
  have hbytes : ∀ d ∈ bs.map UInt8.toNat, d < 256 := by
    intro d hd
    obtain ⟨b, -, rfl⟩ := List.mem_map.mp hd
    exact b.toNat_lt
  have hback : (bs.map UInt8.toNat).map UInt8.ofNat = bs := by
    rw [List.map_map]
    exact List.map_id'' (fun b => UInt8.ofNat_toNat) bs
  rw [decode, encode, String.toList_ofList,
    mapM_idxOf?_symbol _ (recode_lt (by decide) (by decide) _), Option.map_some,
    recode_recode (by decide) _ hbytes, hback]

/-- A byte takes at least one symbol. -/
theorem length_le_encode (bs : Bytes) : bs.length ≤ (encode bs).toList.length := by
  have hbytes : ∀ d ∈ bs.map UInt8.toNat, d < 256 := by
    intro d hd
    obtain ⟨b, -, rfl⟩ := List.mem_map.mp hd
    exact b.toNat_lt
  have hlen := length_le_recode (c := 58) (by decide) (by decide) _ hbytes
  rw [List.length_map] at hlen
  rw [encode, String.toList_ofList, List.length_map]
  exact hlen

theorem encode_injective {bs bs' : Bytes} (h : encode bs = encode bs') : bs = bs' := by
  have hdec := congrArg decode h
  rwa [decode_encode, decode_encode, Option.some.injEq] at hdec

end Base58
end Wire
