import Mathlib.Data.List.Basic
import Mathlib.Tactic.Ring

/-!
# Little-endian words of any width

`leBytes width value` is the `width`-byte little-endian image of `value`, and
`leNat` reads one back.  Each is the inverse of the other up to the width.
-/

set_option autoImplicit false

namespace Lib.LittleEndian

def leBytes : Nat → Nat → List UInt8
  | 0, _ => []
  | width + 1, value => UInt8.ofNat value :: leBytes width (value / 256)

def leNat : List UInt8 → Nat
  | [] => 0
  | byte :: rest => byte.toNat + 256 * leNat rest

@[simp] theorem leBytes_length (width value : Nat) :
    (leBytes width value).length = width := by
  induction width generalizing value with
  | zero => rfl
  | succ width ih => simp [leBytes, ih]

theorem leNat_lt (bytes : List UInt8) : leNat bytes < 256 ^ bytes.length := by
  induction bytes with
  | nil => simp [leNat]
  | cons byte rest ih =>
      have byteBound : byte.toNat < 256 := byte.toNat_lt
      simp only [leNat, List.length_cons, pow_succ]
      omega

theorem leNat_lt_width (bytes : List UInt8) (width : Nat) (short : bytes.length ≤ width) :
    leNat bytes < 256 ^ width :=
  (leNat_lt bytes).trans_le (Nat.pow_le_pow_right (by omega) short)

theorem leNat_leBytes (width value : Nat) :
    leNat (leBytes width value) = value % 256 ^ width := by
  induction width generalizing value with
  | zero => simp [leBytes, leNat, Nat.mod_one]
  | succ width ih =>
      have split : value % (256 * 256 ^ width) =
          value % 256 + 256 * (value / 256 % 256 ^ width) := Nat.mod_mul
      rw [pow_succ, Nat.mul_comm (256 ^ width) 256, split]
      simp only [leBytes, leNat, ih, UInt8.toNat_ofNat']

theorem leBytes_leNat (bytes : List UInt8) :
    leBytes bytes.length (leNat bytes) = bytes := by
  induction bytes with
  | nil => rfl
  | cons byte rest ih =>
      have byteBound : byte.toNat < 256 := byte.toNat_lt
      have quotient : (byte.toNat + 256 * leNat rest) / 256 = leNat rest := by
        omega
      have head : UInt8.ofNat (byte.toNat + 256 * leNat rest) = byte := by
        apply UInt8.toNat_inj.mp
        rw [UInt8.toNat_ofNat']
        omega
      simp only [List.length_cons, leNat, leBytes, quotient, ih, head]

theorem leNat_eq_iff (bytes : List UInt8) (width value : Nat)
    (lengthExact : bytes.length = width) (valueBound : value < 256 ^ width) :
    leNat bytes = value ↔ bytes = leBytes width value := by
  constructor
  · intro read
    rw [← read, ← lengthExact, leBytes_leNat]
  · intro image
    rw [image, leNat_leBytes, Nat.mod_eq_of_lt valueBound]

end Lib.LittleEndian
