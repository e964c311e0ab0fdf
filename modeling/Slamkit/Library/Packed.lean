import Mathlib.Data.Fin.Tuple.Basic
import Mathlib.Logic.Equiv.Defs
import Slamkit.Library.Bytes

/-!
# Packed structures

A packed structure occupies consecutive bytes without padding, so its layout
is a sequence of field layouts. A `Packed` value carries the layout together
with the two round-trip laws, and the combinators build the layout of a
structure from those of its fields.
-/

namespace Slamkit.Library

/-- A fixed-size byte layout of a type. Decoding reads the first `size` bytes of
a string and is total; both round trips hold. -/
structure Packed (α : Type) where
  /-- The number of bytes a value occupies. -/
  size : ℕ
  /-- The bytes of a value. -/
  encode : α → List Byte
  /-- The value at the start of a byte string. -/
  decode : List Byte → α
  encode_length : ∀ a, (encode a).length = size
  decode_encode : ∀ a rest, decode (encode a ++ rest) = a
  encode_decode : ∀ bytes, size ≤ bytes.length → encode (decode bytes) = bytes.take size

attribute [simp] Packed.encode_length Packed.decode_encode

namespace Packed

variable {α β : Type}

/-- Decoding looks at the first `size` bytes only. -/
theorem decode_append (p : Packed α) {bytes : List Byte} (rest : List Byte)
    (hsize : p.size ≤ bytes.length) : p.decode (bytes ++ rest) = p.decode bytes := by
  have h := p.encode_decode bytes hsize
  have hdecode := p.decode_encode (p.decode bytes) (bytes.drop p.size ++ rest)
  rwa [h, ← List.append_assoc, List.take_append_drop] at hdecode

/-- An unsigned word of `n` bytes, least significant byte first. -/
def word (n : ℕ) : Packed (BitVec (8 * n)) where
  size := n
  encode x := littleEndian n x.toNat
  decode bytes := BitVec.ofNat (8 * n) (fromLittleEndian (bytes.take n))
  encode_length x := littleEndian_length n x.toNat
  decode_encode x rest := by
    have hx : x.toNat < 256 ^ n := by
      have := x.isLt
      rwa [pow_mul] at this
    rw [List.take_left' (littleEndian_length n x.toNat), fromLittleEndian_littleEndian,
      Nat.mod_eq_of_lt hx, BitVec.ofNat_toNat, BitVec.setWidth_eq]
  encode_decode bytes hsize := by
    have hlength : (bytes.take n).length = n := by simpa using hsize
    have hlt := fromLittleEndian_lt (bytes.take n)
    have hpow : 2 ^ (8 * n) = 256 ^ n := by rw [pow_mul]; rfl
    rw [hlength] at hlt
    have hback := littleEndian_fromLittleEndian (bytes.take n)
    rw [hlength] at hback
    rw [BitVec.toNat_ofNat, hpow, Nat.mod_eq_of_lt hlt, hback]

/-- Two fields, the second directly after the first. -/
def pair (p : Packed α) (q : Packed β) : Packed (α × β) where
  size := p.size + q.size
  encode x := p.encode x.1 ++ q.encode x.2
  decode bytes := (p.decode bytes, q.decode (bytes.drop p.size))
  encode_length x := by simp
  decode_encode x rest := by
    rw [List.append_assoc, p.decode_encode, List.drop_left' (p.encode_length x.1),
      q.decode_encode]
  encode_decode bytes hsize := by
    have hrest : q.size ≤ (bytes.drop p.size).length := by
      rw [List.length_drop]
      omega
    rw [p.encode_decode bytes (by omega), q.encode_decode _ hrest, ← List.take_add]

/-- The layout of a type given by an equivalent one. -/
def map (p : Packed α) (e : α ≃ β) : Packed β where
  size := p.size
  encode b := p.encode (e.symm b)
  decode bytes := e (p.decode bytes)
  encode_length b := p.encode_length _
  decode_encode b rest := by rw [p.decode_encode, Equiv.apply_symm_apply]
  encode_decode bytes hsize := by rw [Equiv.symm_apply_apply, p.encode_decode bytes hsize]

/-- An array without elements occupies no bytes. -/
def empty : Packed (Fin 0 → α) where
  size := 0
  encode _ := []
  decode _ := Fin.elim0
  encode_length _ := rfl
  decode_encode _ _ := Subsingleton.elim _ _
  encode_decode _ _ := rfl

/-- An array of `n` elements, one directly after the other. -/
def array (p : Packed α) : (n : ℕ) → Packed (Fin n → α)
  | 0 => empty
  | n + 1 => (p.pair (p.array n)).map (Fin.consEquiv fun _ => α)

end Packed

end Slamkit.Library
