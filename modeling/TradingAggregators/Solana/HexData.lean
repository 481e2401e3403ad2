import TradingAggregators.Rust.AsciiText
import TradingAggregators.Solana.Sources.Common
import TradingAggregators.Wire.Hex

/-!
# Hexadecimal instruction data

`decode_hex` walks over a text two bytes at a time, slicing it at byte positions and parsing each
slice.  On a text that passes its check no slice is off a character boundary and every parse
succeeds, and what is read are the bytes that the digits spell.

* `hexData`: what `decode_hex` does before it decodes the instruction (`decodeHex_eq`).
* `forall_isHexByte_iff`: a text whose bytes are digits consists of digits.
* `hexData_eq_ok_iff`: the loop reads the pairs of digits.
-/

namespace TradingAggregators
namespace Solana

open Aggregators Interaction Rust Wire

/-- The bytes that `decode_hex` hands to the instruction decoder. -/
def hexData (venue text : String) : TradeResult Bytes := do
  let bytes := textBytes text
  failIf (bytes.length % 2 ≠ 0 ∨ ¬ bytes.all isHexByte)
    (decodeFault venue "invalid hex instruction data")
  (List.range (bytes.length / 2)).mapM fun k => hexByte text (2 * k)

theorem decodeHex_eq (venue : String) (wallet : Pubkey) (payer : Option Pubkey)
    (ix : ApiInstruction) : decodeHex venue wallet payer ix =
      hexData venue ix.data >>= fun data => decodeInstruction venue wallet payer ix data := by
  unfold decodeHex hexData
  rw [bind_assoc]

/-! ## The check -/

/-- An even number of bytes, and nothing but hexadecimal digits. -/
def IsHexText (text : String) : Prop :=
  (textBytes text).length % 2 = 0 ∧ ∀ c ∈ text.toList, c.isHexDigit = true

theorem toNat_lt_of_isHexDigit {c : Char} (h : c.isHexDigit = true) : c.toNat < 128 := by
  obtain ⟨d, hd⟩ := isHexDigit_iff.mp h
  exact toNat_lt_of_toDigit hd

theorem isHexByte_of_ascii {c : Char} (h : c.toNat < 128) :
    isHexByte (UInt8.ofNat c.toNat) = c.isHexDigit := by
  rw [isHexByte, UInt8.toNat_ofNat', Nat.mod_eq_of_lt (by omega), Char.ofNat_toNat, isHexDigit,
    isSome_toDigit]

/-- No large byte is a digit. -/
theorem isHexByte_of_large {b : UInt8} (h : 128 ≤ b.toNat) : isHexByte b = false := by
  have hlt := b.toNat_lt
  have hvalid : b.toNat.isValidChar := Or.inl (by omega)
  have hcode : (Char.ofNat b.toNat).toNat = b.toNat := by
    rw [Char.ofNat, dif_pos hvalid]
    rfl
  rw [isHexByte, isHexDigit, isSome_toDigit, ← Bool.not_eq_true]
  intro hdigit
  have hsmall := toNat_lt_of_isHexDigit hdigit
  omega

/-- The bytes of a character are digits when it is one. -/
theorem forall_utf8EncodeChar_iff {c : Char} :
    (∀ b ∈ String.utf8EncodeChar c, isHexByte b = true) ↔ c.isHexDigit = true := by
  by_cases hascii : c.toNat < 128
  · rw [utf8EncodeChar_of_ascii hascii, List.forall_mem_singleton, isHexByte_of_ascii hascii]
  · obtain ⟨b, hb, hlarge⟩ := exists_byte_of_not_ascii hascii
    constructor
    · intro h
      exact absurd (h b hb) (by rw [isHexByte_of_large hlarge]; exact Bool.false_ne_true)
    · exact fun h => absurd (toNat_lt_of_isHexDigit h) hascii

theorem forall_isHexByte_iff {text : String} :
    (textBytes text).all isHexByte = true ↔ ∀ c ∈ text.toList, c.isHexDigit = true := by
  rw [List.all_eq_true, textBytes]
  constructor
  · intro h c hc
    exact forall_utf8EncodeChar_iff.mp fun b hb => h b (List.mem_flatMap.mpr ⟨c, hc, hb⟩)
  · intro h b hb
    obtain ⟨c, hc, hbc⟩ := List.mem_flatMap.mp hb
    exact forall_utf8EncodeChar_iff.mpr (h c hc) b hbc

theorem check_iff {text : String} :
    ¬ ((textBytes text).length % 2 ≠ 0 ∨ ¬ (textBytes text).all isHexByte = true) ↔
      IsHexText text := by
  rw [not_or, not_not, not_not, forall_isHexByte_iff, IsHexText]

theorem isHexText_iff {text : String} :
    IsHexText text ↔ ∃ data, hexPairs text.toList = some data := by
  rw [exists_hexPairs_iff, IsHexText]
  refine and_congr_left fun h => ?_
  rw [length_textBytes_of_ascii fun c hc => toNat_lt_of_isHexDigit (h c hc)]

/-! ## The loop -/

/-- A pair of digits is in ASCII. -/
theorem toNat_lt_of_mem_pair {a b : Char} {high low : ℕ} (ha : toDigit 16 a = some high)
    (hb : toDigit 16 b = some low) : ∀ c ∈ [a, b], c.toNat < 128 := by
  intro c hc
  rcases List.mem_pair.mp hc with rfl | rfl
  · exact toNat_lt_of_toDigit ha
  · exact toNat_lt_of_toDigit hb

/-- One round: the slice behind an even number of digits is the next pair. -/
theorem hexByte_eq_ok {text : String} {front back : List Char} {a b : Char} {high low : ℕ}
    (htext : text.toList = front ++ (a :: b :: back)) (hfront : ∀ c ∈ front, c.toNat < 128)
    (ha : toDigit 16 a = some high) (hb : toDigit 16 b = some low) :
    hexByte text front.length = .ok (UInt8.ofNat (high * 16 + low)) := by
  have hdigits : (sliceText text front.length 2 : TradeResult (List Char)) = .ok [a, b] :=
    sliceText_append htext hfront (toNat_lt_of_mem_pair ha hb)
  unfold hexByte
  rw [hdigits, ok_bind, fromStrRadix_pair ha hb]
  rfl

/-- The rounds read what is left of the pairs. -/
theorem hexBytes_of_hexPairs {text : String} :
    ∀ {cs front : List Char} {data : Bytes}, text.toList = front ++ cs →
      (∀ c ∈ front, c.toNat < 128) → hexPairs cs = some data →
      List.Forall₂ (fun k b => hexByte text (front.length + 2 * k) = .ok b)
        (List.range (cs.length / 2)) data
  | [], _, _, _, _, h => by
    obtain rfl := Option.some.inj h
    exact .nil
  | [_], _, _, _, _, h => nomatch h
  | a :: b :: cs, front, data, htext, hfront, h => by
    rw [hexPairs] at h
    obtain ⟨high, ha, h₁⟩ := Option.bind_eq_some_iff.mp h
    obtain ⟨low, hb, h₂⟩ := Option.bind_eq_some_iff.mp h₁
    obtain ⟨rest, hrest, h₃⟩ := Option.bind_eq_some_iff.mp h₂
    obtain rfl := Option.some.inj h₃
    have hnext : ∀ c ∈ front ++ [a, b], c.toNat < 128 :=
      List.forall_mem_append.mpr ⟨hfront, toNat_lt_of_mem_pair ha hb⟩
    have hsplit : text.toList = (front ++ [a, b]) ++ cs := by
      rw [htext, List.append_assoc]
      rfl
    have ih := hexBytes_of_hexPairs hsplit hnext hrest
    have hlength : (a :: b :: cs).length / 2 = cs.length / 2 + 1 := by
      rw [List.length_cons, List.length_cons]
      omega
    rw [hlength, List.range_succ_eq_map]
    refine .cons (hexByte_eq_ok htext hfront ha hb) (List.forall₂_map_left_iff.mpr ?_)
    refine ih.imp fun k c hc => ?_
    rw [← hc, List.length_append]
    congr 1
    simp only [List.length_cons, List.length_nil]
    omega

theorem hexData_of_hexPairs {venue text : String} {data : Bytes}
    (h : hexPairs text.toList = some data) : hexData venue text = .ok data := by
  have htext : IsHexText text := isHexText_iff.mpr ⟨data, h⟩
  have hascii : ∀ c ∈ text.toList, c.toNat < 128 := fun c hc =>
    toNat_lt_of_isHexDigit (htext.2 c hc)
  have hnone : ∀ c ∈ ([] : List Char), c.toNat < 128 := fun _ hc => nomatch hc
  have hloop := hexBytes_of_hexPairs (List.nil_append text.toList).symm hnone h
  rw [← length_textBytes_of_ascii hascii] at hloop
  refine bind_eq_ok.mpr ⟨(), failIf_neg (check_iff.mpr htext) _, mapM_eq_ok.mpr ?_⟩
  exact hloop.imp fun k b hb => by rwa [List.length_nil, Nat.zero_add] at hb

theorem hexData_of_not_isHexText {venue text : String} (h : ¬ IsHexText text) :
    hexData venue text = .error (decodeFault venue "invalid hex instruction data") := by
  rw [← check_iff, not_not] at h
  exact bind_eq_error.mpr (Or.inl (failIf_pos h _))

/-- **The loop reads the pairs of digits.** -/
theorem hexData_eq_ok_iff {venue text : String} {data : Bytes} :
    hexData venue text = .ok data ↔ hexPairs text.toList = some data := by
  refine ⟨fun h => ?_, hexData_of_hexPairs⟩
  by_cases htext : IsHexText text
  · obtain ⟨data', hpairs⟩ := isHexText_iff.mp htext
    rw [hexData_of_hexPairs hpairs] at h
    rw [hpairs, Except.ok.inj h]
  · rw [hexData_of_not_isHexText htext] at h
    exact nomatch h

/-! ## The decoder -/

theorem safe_hexData (venue text : String) : Safe (hexData venue text) := by
  by_cases htext : IsHexText text
  · obtain ⟨data, hpairs⟩ := isHexText_iff.mp htext
    rw [hexData_of_hexPairs hpairs]
    exact Safe.ok data
  · rw [hexData_of_not_isHexText htext]
    exact Safe.err _

theorem safe_parsedKey (venue text : String) :
    Safe ((parseKey 32 text).mapError (decodeFault venue)) :=
  Safe.mapError _ fun _ h => nomatch h

theorem safe_decodeInstruction (venue : String) (wallet : Pubkey) (payer : Option Pubkey)
    (ix : ApiInstruction) (data : Bytes) : Safe (decodeInstruction venue wallet payer ix data) := by
  have hmeta : ∀ account, Safe (decodeAccountMeta venue wallet payer account) := fun account =>
    Safe.bind (safe_parsedKey venue account.pubkey) fun _ _ =>
      Safe.bind (Safe.failIf _ _) fun _ _ => Safe.ok _
  exact Safe.bind (Safe.mapM hmeta ix.accounts) fun _ _ =>
    Safe.bind (safe_parsedKey venue ix.programId) fun _ _ => Safe.ok _

/-- **Hexadecimal instruction data is decoded exactly**: the instruction decoder gets the bytes
that the text spells, from every text that spells any, and nothing panics. -/
theorem hex_data_exact (venue : String) (wallet : Pubkey) (payer : Option Pubkey)
    (ix : ApiInstruction) :
    decodeHex venue wallet payer ix =
        hexData venue ix.data >>= (fun data => decodeInstruction venue wallet payer ix data) ∧
    ((∃ data, hexData venue ix.data = .ok data) ↔ IsHexText ix.data) ∧
    (¬ IsHexText ix.data → decodeHex venue wallet payer ix =
      .error (decodeFault venue "invalid hex instruction data")) ∧
    Safe (decodeHex venue wallet payer ix) ∧
    (∀ data, hexData venue ix.data = .ok data →
      ∀ data', lowerHex data' = ix.data.toLower ↔ data' = data) ∧
    ∀ data, (ix.data = lowerHex data ∨ ix.data = upperHex data) →
      hexData venue ix.data = .ok data := by
  refine ⟨decodeHex_eq venue wallet payer ix, ?_, fun h => ?_, ?_, fun data h data' => ?_,
    fun data h => ?_⟩
  · simp only [hexData_eq_ok_iff, isHexText_iff]
  · rw [decodeHex_eq, hexData_of_not_isHexText h]
    rfl
  · rw [decodeHex_eq]
    exact Safe.bind (safe_hexData venue ix.data) fun data _ =>
      safe_decodeInstruction venue wallet payer ix data
  · rw [← hexPairs_eq_some_iff (hexData_eq_ok_iff.mp h), ← String.toList_inj, lowerHex,
      toList_toLower, String.toList_ofList]
  · rcases h with h | h
    · exact hexData_of_hexPairs (h ▸ hexPairs_lower data)
    · exact hexData_of_hexPairs (h ▸ hexPairs_upper data)

theorem hex_data_exact_sample :
    let ix : ApiInstruction := ⟨keyText (.zero 32), [], "0aFf"⟩
    hexData "relay" ix.data = .ok [10, 255] ∧
      (∀ data, lowerHex data = "0aff" ↔ data = [10, 255]) ∧
      decodeHex "relay" (.zero 32) none { ix with data := "0aé" } =
        .error (decodeFault "relay" "invalid hex instruction data") := by
  intro ix
  have hdata : hexData "relay" ix.data = .ok [10, 255] := by decide
  have hlower : ix.data.toLower = "0aff" := by
    rw [← String.toList_inj, toList_toLower]
    decide
  refine ⟨hdata, fun data => ?_, ?_⟩
  · rw [← hlower]
    exact (hex_data_exact "relay" (.zero 32) none ix).2.2.2.2.1 _ hdata data
  · refine (hex_data_exact "relay" (.zero 32) none { ix with data := "0aé" }).2.2.1 fun h => ?_
    exact absurd (h.2 'é' (by decide)) (by decide)

end Solana
end TradingAggregators
