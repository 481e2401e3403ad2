import TradingAggregators.Interaction.Guard
import TradingAggregators.Wire.Bytes

/-!
# Borsh

A `Codec` writes a value as bytes and reads a value from the front of a byte string,
returning what follows.  Its one law, that an encoding reads back whatever follows it, is
part of the structure, so each combinator proves it once and a record codec assembled from
combinators has it by construction.
-/

namespace Wire

open Interaction

/-- A writer and a reader from the front, the reader inverting the writer. -/
structure Codec (α : Type) where
  encode : α → Bytes
  decode : Bytes → Except String (α × Bytes)
  decode_encode : ∀ a rest, decode (encode a ++ rest) = .ok (a, rest)

namespace Codec

variable {α β : Type}

/-- `ERROR_UNEXPECTED_LENGTH_OF_INPUT`. -/
def unexpectedLength : String := "Unexpected length of input"

/-- Take `n` bytes. -/
def takeBytes (n : ℕ) (bs : Bytes) : Except String (FixedBytes n × Bytes) :=
  if h : (bs.take n).length = n then .ok (⟨bs.take n, h⟩, bs.drop n)
  else .error unexpectedLength

theorem takeBytes_append {n : ℕ} (key : FixedBytes n) (rest : Bytes) :
    takeBytes n (key.bytes ++ rest) = .ok (key, rest) := by
  have htake : (key.bytes ++ rest).take n = key.bytes := List.take_left' key.size
  have hdrop : (key.bytes ++ rest).drop n = rest := List.drop_left' key.size
  have hlen : ((key.bytes ++ rest).take n).length = n := by rw [htake, key.size]
  rw [takeBytes, dif_pos hlen, hdrop]
  exact congrArg (fun k => Except.ok (k, rest)) (FixedBytes.ext htake)

/-- A byte array of fixed length. -/
def fixed (n : ℕ) : Codec (FixedBytes n) where
  encode key := key.bytes
  decode := takeBytes n
  decode_encode := takeBytes_append

/-- Read through a bijection. -/
def iso (c : Codec α) (f : α → β) (inv : β → α) (f_inv : ∀ b, f (inv b) = b) : Codec β where
  encode b := c.encode (inv b)
  decode bs := do
    let (a, rest) ← c.decode bs
    pure (f a, rest)
  decode_encode b rest := by
    rw [c.decode_encode, ok_bind]
    show Except.ok (f (inv b), rest) = _
    rw [f_inv]

/-- A little-endian unsigned integer of `w` bytes, kept as the bytes' value. -/
def uint (w : ℕ) : Codec (Fin (256 ^ w)) where
  encode n := leBytes w n
  decode bs := do
    let (key, rest) ← takeBytes w bs
    pure (⟨ofLeBytes key.bytes, by simpa only [key.size] using ofLeBytes_lt key.bytes⟩, rest)
  decode_encode n rest := by
    rw [takeBytes_append ⟨leBytes w n, length_leBytes w n⟩ rest, ok_bind, pure_eq_ok]
    exact congrArg (fun k => (k, rest)) (Fin.ext (ofLeBytes_leBytes n.isLt))

def u8 : Codec UInt8 :=
  (uint 1).iso (fun n => UInt8.ofNat n) (fun x => ⟨x.toNat, x.toNat_lt⟩) fun x => by simp

def u16 : Codec UInt16 :=
  (uint 2).iso (fun n => UInt16.ofNat n) (fun x => ⟨x.toNat, x.toNat_lt⟩) fun x => by simp

def u64 : Codec UInt64 :=
  (uint 8).iso (fun n => UInt64.ofNat n) (fun x => ⟨x.toNat, x.toNat_lt⟩) fun x => by simp

/-- A signed 128-bit integer in two's complement. -/
def i128 : Codec (BitVec 128) :=
  (uint 16).iso (fun n => BitVec.ofNat 128 n) (fun x => ⟨x.toNat, x.isLt⟩) fun x => by simp

/-- A byte that has to be 0 or 1. -/
def bool : Codec Bool where
  encode b := [if b then 1 else 0]
  decode bs := do
    let (b, rest) ← u8.decode bs
    if b = 0 then pure (false, rest)
    else if b = 1 then pure (true, rest)
    else .error ("Invalid bool representation: " ++ toString b.toNat)
  decode_encode b rest := by
    have hbyte : ∀ x : UInt8, u8.decode (x :: rest) = .ok (x, rest) := by
      intro x
      have hx := u8.decode_encode x rest
      have henc : u8.encode x = [x] := by
        show [UInt8.ofNat x.toNat] = [x]
        rw [UInt8.ofNat_toNat]
      rwa [henc] at hx
    cases b <;> simp [hbyte]

/-- One value after another. -/
def seq (c : Codec α) (d : Codec β) : Codec (α × β) where
  encode p := c.encode p.1 ++ d.encode p.2
  decode bs := do
    let (a, rest) ← c.decode bs
    let (b, rest) ← d.decode rest
    pure ((a, b), rest)
  decode_encode p rest := by
    have hd := d.decode_encode p.2 rest
    rw [List.append_assoc, c.decode_encode, ok_bind]
    show (d.decode _ >>= fun q => _) = _
    rw [hd, ok_bind]
    rfl

/-- Read `k` values in a row. -/
def decodeTimes (c : Codec α) : (k : ℕ) → Bytes → Except String (Vector α k × Bytes)
  | 0, bs => .ok (#v[], bs)
  | k + 1, bs => do
      let (xs, rest) ← decodeTimes c k bs
      let (x, rest) ← c.decode rest
      pure (xs.push x, rest)

theorem decodeTimes_encode (c : Codec α) {k : ℕ} (xs : Vector α k) (rest : Bytes) :
    decodeTimes c k ((xs.toList.map c.encode).flatten ++ rest) = .ok (xs, rest) := by
  induction k generalizing rest with
  | zero =>
    have hnil : xs = #v[] := Vector.eq_empty
    rw [hnil]
    rfl
  | succ k ih =>
    obtain ⟨ys, y, rfl⟩ : ∃ (ys : Vector α k) (y : α), xs = ys.push y :=
      ⟨xs.pop, xs.back, (Vector.push_pop_back xs).symm⟩
    have hlist : (ys.push y).toList = ys.toList ++ [y] := Vector.toList_push
    have hlast : (List.map c.encode [y]).flatten = c.encode y := by simp
    rw [hlist, List.map_append, List.flatten_append, List.append_assoc, hlast, decodeTimes, ih,
      ok_bind]
    show (c.decode _ >>= fun q => _) = _
    rw [c.decode_encode, ok_bind]
    rfl

/-- An array of fixed length. -/
def array (c : Codec α) (k : ℕ) : Codec (Vector α k) where
  encode xs := (xs.toList.map c.encode).flatten
  decode := decodeTimes c k
  decode_encode := decodeTimes_encode c

end Codec
end Wire
