import Mathlib.Data.List.Basic
import Mathlib.Data.List.Nodup

/-!
# The first of each key

`iter.filter(|a| seen.insert(key(a)))` keeps the first element of each key.

* `keys_firsts`, `firsts_eq_filterMap`: which elements are kept, and in which order.
* `find?_firsts`: a search by key finds what it would find without the filter.
* `firsts_append`, `firsts_firsts`: the filter goes along a concatenation, and a filter inside a
  filter can be left out.  `merge_assoc` and `merge_self` follow from these two.
-/

namespace FirstWins

variable {α κ : Type} [DecidableEq κ] {key : α → κ}

/-- Keep the elements whose key is neither in `seen` nor earlier in the list. -/
def firsts (key : α → κ) (seen : List κ) : List α → List α
  | [] => []
  | a :: l => if key a ∈ seen then firsts key seen l else a :: firsts key (key a :: seen) l

section Cons

variable {seen : List κ} {a : α} {l : List α}

theorem firsts_cons_of_mem (h : key a ∈ seen) : firsts key seen (a :: l) = firsts key seen l :=
  if_pos h

theorem firsts_cons_of_notMem (h : key a ∉ seen) :
    firsts key seen (a :: l) = a :: firsts key (key a :: seen) l :=
  if_neg h

end Cons

/-! ## What is kept -/

/-- The order in which keys were seen does not matter. -/
theorem firsts_congr {seen seen' : List κ} (h : ∀ k, k ∈ seen ↔ k ∈ seen') (l : List α) :
    firsts key seen l = firsts key seen' l := by
  induction l generalizing seen seen' with
  | nil => rfl
  | cons a l ih =>
    by_cases hseen : key a ∈ seen
    · rw [firsts_cons_of_mem hseen, firsts_cons_of_mem ((h _).mp hseen), ih h]
    · rw [firsts_cons_of_notMem hseen, firsts_cons_of_notMem fun hmem => hseen ((h _).mpr hmem)]
      refine congrArg (a :: ·) (ih fun k => ?_)
      simp only [List.mem_cons, h]

/-- The keys that are kept: each once, where it comes first. -/
theorem keys_firsts (seen : List κ) (l : List α) :
    (firsts key seen l).map key = ((l.map key).filter (· ∉ seen)).eraseDups := by
  induction l generalizing seen with
  | nil => rfl
  | cons a l ih =>
    rw [List.map_cons]
    by_cases hseen : key a ∈ seen
    · rw [firsts_cons_of_mem hseen, List.filter_cons_of_neg (by simpa using hseen), ih]
    · rw [firsts_cons_of_notMem hseen, List.filter_cons_of_pos (by simpa using hseen),
        List.eraseDups_cons, List.map_cons, ih, List.filter_filter]
      refine congrArg (fun ks => key a :: List.eraseDups ks) (List.filter_congr fun k _ => ?_)
      by_cases hk : k = key a <;> simp [hk]

theorem mem_keys_firsts {seen : List κ} {l : List α} {k : κ} :
    k ∈ (firsts key seen l).map key ↔ k ∈ l.map key ∧ k ∉ seen := by
  rw [keys_firsts, List.mem_eraseDups, List.mem_filter, decide_eq_true_iff]

theorem nodup_keys_firsts (seen : List κ) (l : List α) : ((firsts key seen l).map key).Nodup := by
  induction l generalizing seen with
  | nil => exact List.nodup_nil
  | cons a l ih =>
    by_cases hseen : key a ∈ seen
    · rw [firsts_cons_of_mem hseen]
      exact ih seen
    · rw [firsts_cons_of_notMem hseen, List.map_cons, List.nodup_cons]
      exact ⟨fun hmem => (mem_keys_firsts.mp hmem).2 List.mem_cons_self, ih _⟩

/-- A kept element is the first with its key. -/
theorem find?_of_mem_firsts {seen : List κ} {l : List α} {a : α} (h : a ∈ firsts key seen l) :
    key a ∉ seen ∧ (l.find? fun b => key b = key a) = some a := by
  induction l generalizing seen with
  | nil => exact absurd h List.not_mem_nil
  | cons b l ih =>
    by_cases hseen : key b ∈ seen
    · rw [firsts_cons_of_mem hseen] at h
      obtain ⟨hnew, hfind⟩ := ih h
      have hne : key b ≠ key a := fun heq => hnew (heq ▸ hseen)
      exact ⟨hnew, by rw [List.find?_cons_of_neg (by simpa using hne), hfind]⟩
    · rw [firsts_cons_of_notMem hseen] at h
      rcases List.mem_cons.mp h with rfl | h
      · exact ⟨hseen, List.find?_cons_of_pos (by simp)⟩
      · obtain ⟨hnew, hfind⟩ := ih h
        rw [List.mem_cons, not_or] at hnew
        have hne : key b ≠ key a := fun heq => hnew.1 heq.symm
        exact ⟨hnew.2, by rw [List.find?_cons_of_neg (by simpa using hne), hfind]⟩

/-- **For each key of a list, in order, its first element.** -/
theorem firsts_eq_filterMap (l : List α) :
    firsts key [] l = (l.map key).eraseDups.filterMap fun k => l.find? fun a => key a = k := by
  have hkeys : (l.map key).eraseDups = (firsts key [] l).map key := by
    rw [keys_firsts]
    simp
  have hfirst : ∀ a ∈ firsts key [] l, (l.find? fun b => key b = key a) = some a :=
    fun a ha => (find?_of_mem_firsts ha).2
  rw [hkeys, List.filterMap_map]
  exact (List.filterMap_some (l := firsts key [] l)).symm.trans
    (List.filterMap_congr fun a ha => (hfirst a ha).symm)

/-- A search by an unseen key is not affected. -/
theorem find?_firsts {seen : List κ} {k : κ} (h : k ∉ seen) (l : List α) :
    ((firsts key seen l).find? fun a => key a = k) = l.find? fun a => key a = k := by
  induction l generalizing seen with
  | nil => rfl
  | cons a l ih =>
    by_cases hseen : key a ∈ seen
    · have hne : key a ≠ k := fun heq => h (heq ▸ hseen)
      rw [firsts_cons_of_mem hseen, ih h, List.find?_cons_of_neg (by simpa using hne)]
    · rw [firsts_cons_of_notMem hseen]
      by_cases hk : key a = k
      · rw [List.find?_cons_of_pos (by simpa using hk), List.find?_cons_of_pos (by simpa using hk)]
      · rw [List.find?_cons_of_neg (by simpa using hk), List.find?_cons_of_neg (by simpa using hk)]
        refine ih fun hmem => ?_
        rcases List.mem_cons.mp hmem with rfl | hmem
        · exact hk rfl
        · exact h hmem

/-- A list with new and distinct keys is kept as it is. -/
theorem firsts_eq_self {seen : List κ} {l : List α} (hnodup : (l.map key).Nodup)
    (hnew : ∀ a ∈ l, key a ∉ seen) : firsts key seen l = l := by
  induction l generalizing seen with
  | nil => rfl
  | cons a l ih =>
    rw [List.map_cons, List.nodup_cons] at hnodup
    rw [firsts_cons_of_notMem (hnew a List.mem_cons_self)]
    refine congrArg (a :: ·) (ih hnodup.2 fun b hb hmem => ?_)
    rcases List.mem_cons.mp hmem with heq | hmem
    · exact hnodup.1 (heq ▸ List.mem_map_of_mem hb)
    · exact hnew b (List.mem_cons_of_mem _ hb) hmem

/-! ## Concatenations -/

theorem firsts_append (seen : List κ) (xs ys : List α) :
    firsts key seen (xs ++ ys) = firsts key seen xs ++ firsts key (xs.map key ++ seen) ys := by
  induction xs generalizing seen with
  | nil => rfl
  | cons a xs ih =>
    rw [List.cons_append, List.map_cons]
    by_cases hseen : key a ∈ seen
    · rw [firsts_cons_of_mem hseen, firsts_cons_of_mem hseen, ih]
      refine congrArg (_ ++ ·) (firsts_congr (fun k => ?_) ys)
      simp only [List.cons_append, List.mem_cons, List.mem_append]
      exact ⟨Or.inr, fun h => h.elim (fun heq => Or.inr (heq ▸ hseen)) id⟩
    · rw [firsts_cons_of_notMem hseen, firsts_cons_of_notMem hseen, ih, List.cons_append]
      refine congrArg (fun zs => a :: (_ ++ zs)) (firsts_congr (fun k => ?_) ys)
      simp only [List.cons_append, List.mem_cons, List.mem_append]
      tauto

/-- Filtering before does not matter when less had been seen then. -/
theorem firsts_firsts {seen seen' : List κ} (h : seen' ⊆ seen) (l : List α) :
    firsts key seen (firsts key seen' l) = firsts key seen l := by
  induction l generalizing seen seen' with
  | nil => rfl
  | cons a l ih =>
    by_cases hseen' : key a ∈ seen'
    · rw [firsts_cons_of_mem hseen', firsts_cons_of_mem (h hseen'), ih h]
    · rw [firsts_cons_of_notMem hseen']
      by_cases hseen : key a ∈ seen
      · rw [firsts_cons_of_mem hseen, firsts_cons_of_mem hseen]
        exact ih (List.cons_subset.mpr ⟨hseen, h⟩)
      · rw [firsts_cons_of_notMem hseen, firsts_cons_of_notMem hseen]
        exact congrArg (a :: ·) (ih (List.cons_subset_cons _ h))

/-! ## Merging -/

/-- The first element of each key of both lists. -/
def merge (key : α → κ) (xs ys : List α) : List α :=
  firsts key [] (xs ++ ys)

theorem merge_merge_right (xs ys zs : List α) :
    merge key xs (merge key ys zs) = firsts key [] (xs ++ (ys ++ zs)) := by
  rw [merge, merge, firsts_append, firsts_append [] xs, firsts_firsts (List.nil_subset _)]

theorem merge_merge_left (xs ys zs : List α) :
    merge key (merge key xs ys) zs = firsts key [] (xs ++ (ys ++ zs)) := by
  rw [merge, merge, ← List.append_assoc, firsts_append, firsts_append [] (xs ++ ys),
    firsts_firsts (List.nil_subset _)]
  refine congrArg (_ ++ ·) (firsts_congr (fun k => ?_) zs)
  rw [List.mem_append, List.mem_append, mem_keys_firsts]
  simp

/-- **Merging is associative.** -/
theorem merge_assoc (xs ys zs : List α) :
    merge key xs (merge key ys zs) = merge key (merge key xs ys) zs := by
  rw [merge_merge_right, merge_merge_left]

/-- **Merging is idempotent**: with itself, a list loses its repetitions and nothing else. -/
theorem merge_self (xs : List α) : merge key xs xs = merge key xs [] := by
  have hnone : firsts key (xs.map key ++ []) xs = [] := by
    refine List.eq_nil_iff_forall_not_mem.mpr fun a ha => ?_
    obtain ⟨hnew, hfind⟩ := find?_of_mem_firsts ha
    have hmem := List.mem_of_find?_eq_some hfind
    exact hnew (by simpa using ⟨a, hmem, rfl⟩)
  rw [merge, merge, firsts_append, hnone, List.append_nil, List.append_nil]

theorem merge_nil_of_nodup {xs : List α} (h : (xs.map key).Nodup) : merge key xs [] = xs := by
  rw [merge, List.append_nil]
  exact firsts_eq_self h (by simp)

/-- The first list comes first. -/
theorem find?_merge (xs ys : List α) (k : κ) :
    ((merge key xs ys).find? fun a => key a = k) =
      (xs.find? fun a => key a = k).or (ys.find? fun a => key a = k) := by
  rw [merge, find?_firsts List.not_mem_nil, List.find?_append]

end FirstWins
