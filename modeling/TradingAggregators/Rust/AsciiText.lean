import TradingAggregators.Rust.Result

/-!
# Text in ASCII

In UTF-8 a character of ASCII takes one byte, which is its code, and every other character has a
byte that is none.  Positions in bytes and in characters therefore agree in such a text, and a
slice of it never panics.

* `utf8EncodeChar_of_ascii`, `exists_byte_of_not_ascii`: the bytes of a character.
* `sliceText_append`: a slice that stands behind characters of ASCII.
-/

namespace Rust

variable {ε : Type} {c : Char}

theorem utf8Size_eq_one_iff : c.utf8Size = 1 ↔ c.toNat < 128 := by
  rw [Char.utf8Size_eq_one_iff, UInt32.le_iff_toNat_le]
  exact Nat.lt_succ_iff.symm

/-- The one byte of a character of ASCII. -/
theorem utf8EncodeChar_of_ascii (h : c.toNat < 128) :
    String.utf8EncodeChar c = [UInt8.ofNat c.toNat] := by
  rw [String.utf8EncodeChar_eq_singleton (utf8Size_eq_one_iff.mpr h)]
  rfl

/-- The leading byte of any other character is large. -/
theorem exists_byte_of_not_ascii (h : ¬ c.toNat < 128) :
    ∃ b ∈ String.utf8EncodeChar c, 128 ≤ b.toNat := by
  have hone : c.utf8Size ≠ 1 := fun hone => h (utf8Size_eq_one_iff.mp hone)
  have hlarge : ∀ x y : UInt8, 128 ≤ y.toNat → 128 ≤ (x ||| y).toNat := by
    intro x y hy
    rw [UInt8.toNat_or]
    exact hy.trans Nat.right_le_or
  have hsize := c.utf8Size_le_four
  have hpos := c.utf8Size_pos
  obtain htwo | hthree | hfour : c.utf8Size = 2 ∨ c.utf8Size = 3 ∨ c.utf8Size = 4 := by omega
  · rw [String.utf8EncodeChar_eq_cons_cons htwo]
    exact ⟨_, List.mem_cons_self, hlarge _ _ (by decide)⟩
  · rw [String.utf8EncodeChar_eq_cons_cons_cons hthree]
    exact ⟨_, List.mem_cons_self, hlarge _ _ (by decide)⟩
  · rw [String.utf8EncodeChar_eq_cons_cons_cons_cons hfour]
    exact ⟨_, List.mem_cons_self, hlarge _ _ (by decide)⟩

/-- The bytes of a text in ASCII are the codes of its characters. -/
theorem textBytes_of_ascii {s : String} (h : ∀ c ∈ s.toList, c.toNat < 128) :
    textBytes s = s.toList.map fun c => UInt8.ofNat c.toNat := by
  rw [textBytes, List.map_eq_flatMap]
  exact List.flatMap_congr fun c hc => utf8EncodeChar_of_ascii (h c hc)

/-- A text in ASCII has as many bytes as characters. -/
theorem length_textBytes_of_ascii {s : String} (h : ∀ c ∈ s.toList, c.toNat < 128) :
    (textBytes s).length = s.toList.length := by
  rw [textBytes_of_ascii h, List.length_map]

theorem splitAtByte_append {front : List Char} (h : ∀ c ∈ front, c.toNat < 128)
    (back : List Char) : splitAtByte (front ++ back) front.length = some (front, back) := by
  induction front with
  | nil => cases back <;> rfl
  | cons c front ih =>
    obtain ⟨hc, hfront⟩ := List.forall_mem_cons.mp h
    have hsize : c.utf8Size = 1 := utf8Size_eq_one_iff.mpr hc
    rw [List.cons_append, List.length_cons, splitAtByte, hsize, if_pos (by omega),
      Nat.add_sub_cancel, ih hfront]
    rfl

/-- A slice of characters of ASCII, behind others, is cut at character boundaries. -/
theorem sliceText_append {s : String} {front slice back : List Char}
    (hs : s.toList = front ++ (slice ++ back)) (hfront : ∀ c ∈ front, c.toNat < 128)
    (hslice : ∀ c ∈ slice, c.toNat < 128) :
    (sliceText s front.length slice.length : Result ε (List Char)) = .ok slice := by
  rw [sliceText, hs, splitAtByte_append hfront]
  simp only [Option.bind_eq_bind, Option.bind_some, splitAtByte_append hslice]
  rfl

end Rust
