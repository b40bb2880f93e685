import Mathlib.Data.List.Basic
import Emserver.Lib.LittleEndian

/-!
# CRC-32

The reflected bitwise computation: polynomial `0x04C11DB7`, initial register
and final exclusive or `0xFFFFFFFF`.

Shifting the register loses nothing, and up to four bytes fed to it are a word
added to it.  So two messages that differ in a window of four bytes leave it in
different states.
-/

set_option autoImplicit false

namespace Lib.Crc32

open Lib.LittleEndian

/-- `0x04C11DB7` with its bits reversed. -/
def polynomial : BitVec 32 := 0xEDB88320#32

def shiftBit (register : BitVec 32) : BitVec 32 :=
  if register.getLsbD 0 then (register >>> 1) ^^^ polynomial else register >>> 1

def shiftBits : Nat → BitVec 32 → BitVec 32
  | 0, register => register
  | count + 1, register => shiftBits count (shiftBit register)

def feedByte (register : BitVec 32) (byte : UInt8) : BitVec 32 :=
  shiftBits 8 (register ^^^ byte.toBitVec.setWidth 32)

def feed : BitVec 32 → List UInt8 → BitVec 32
  | register, [] => register
  | register, byte :: rest => feed (feedByte register byte) rest

def crc32 (bytes : List UInt8) : UInt32 :=
  UInt32.ofBitVec (feed 0xFFFFFFFF#32 bytes ^^^ 0xFFFFFFFF#32)

/-- The check value of the standard: the ASCII digits `1` to `9`. -/
example : crc32 [0x31, 0x32, 0x33, 0x34, 0x35, 0x36, 0x37, 0x38, 0x39] = 0xCBF43926 := by
  decide +kernel

/-! ## The register -/

/-- The polynomial has its top bit set, so the bit shifted out can be read there. -/
theorem shiftBit_top (register : BitVec 32) :
    (shiftBit register).getLsbD 31 = register.getLsbD 0 := by
  unfold shiftBit polynomial
  cases low : register.getLsbD 0 with
  | false => simp
  | true => simp

theorem shiftBit_injective (first second : BitVec 32)
    (same : shiftBit first = shiftBit second) : first = second := by
  have low : first.getLsbD 0 = second.getLsbD 0 := by
    rw [← shiftBit_top, ← shiftBit_top, same]
  have rest : first >>> 1 = second >>> 1 := by
    unfold shiftBit at same
    rw [low] at same
    split at same
    · exact (BitVec.xor_left_inj polynomial).mp same
    · exact same
  apply BitVec.eq_of_getLsbD_eq
  intro i inside
  cases i with
  | zero => exact low
  | succ i =>
      have bit := congrArg (fun bits => bits.getLsbD i) rest
      simpa [BitVec.getLsbD_ushiftRight, Nat.add_comm] using bit

theorem shiftBits_injective (count : Nat) (first second : BitVec 32)
    (same : shiftBits count first = shiftBits count second) : first = second := by
  induction count generalizing first second with
  | zero => exact same
  | succ count ih => exact shiftBit_injective first second (ih _ _ same)

theorem shiftBits_add (count more : Nat) (register : BitVec 32) :
    shiftBits (count + more) register = shiftBits more (shiftBits count register) := by
  induction count generalizing register with
  | zero => rw [Nat.zero_add, shiftBits]
  | succ count ih => rw [Nat.succ_add, shiftBits, shiftBits, ih]

theorem feed_injective (bytes : List UInt8) (first second : BitVec 32)
    (same : feed first bytes = feed second bytes) : first = second := by
  induction bytes generalizing first second with
  | nil => exact same
  | cons byte rest ih =>
      have fed := shiftBits_injective 8 _ _ (ih _ _ same)
      exact (BitVec.xor_left_inj _).mp fed

theorem feed_append (register : BitVec 32) (bytes more : List UInt8) :
    feed register (bytes ++ more) = feed (feed register bytes) more := by
  induction bytes generalizing register with
  | nil => rfl
  | cons byte rest ih => exact ih (feedByte register byte)

/-! ## Up to four bytes -/

/-- What is added to the register above the bits shifted out moves down with it. -/
theorem shiftBit_xor_shiftLeft (register high : BitVec 32) (room : high.toNat < 2147483648) :
    shiftBit (register ^^^ (high <<< 1)) = shiftBit register ^^^ high := by
  have low : (register ^^^ (high <<< 1)).getLsbD 0 = register.getLsbD 0 := by simp
  have back : (high <<< 1) >>> 1 = high := by
    apply BitVec.eq_of_toNat_eq
    simp only [BitVec.toNat_ushiftRight, BitVec.toNat_shiftLeft, Nat.shiftLeft_eq,
      Nat.shiftRight_eq_div_pow]
    omega
  unfold shiftBit
  rw [low, BitVec.ushiftRight_xor_distrib, back]
  split
  · ac_rfl
  · rfl

theorem shiftBits_xor_shiftLeft (count : Nat) (register high : BitVec 32)
    (room : high.toNat * 2 ^ count < 4294967296) :
    shiftBits count (register ^^^ (high <<< count)) = shiftBits count register ^^^ high := by
  induction count generalizing register with
  | zero => simp [shiftBits]
  | succ count ih =>
      have power : high.toNat * 2 ^ (count + 1) = high.toNat * 2 ^ count * 2 := by
        rw [pow_succ, Nat.mul_assoc]
      have lower : (high <<< count).toNat < 2147483648 := by
        rw [BitVec.toNat_shiftLeft, Nat.shiftLeft_eq]
        exact Nat.lt_of_le_of_lt (Nat.mod_le _ _) (by omega)
      rw [shiftBits, shiftBits, BitVec.shiftLeft_add, shiftBit_xor_shiftLeft _ _ lower,
        ih _ (by omega)]

/-- The bytes as a word of the register, low byte first. -/
def word (bytes : List UInt8) : BitVec 32 := BitVec.ofNat 32 (leNat bytes)

theorem word_toNat (bytes : List UInt8) (short : bytes.length ≤ 4) :
    (word bytes).toNat = leNat bytes := by
  have bound : leNat bytes < 2 ^ 32 := leNat_lt_width bytes 4 short
  rw [word, BitVec.toNat_ofNat, Nat.mod_eq_of_lt bound]

theorem word_injective (first second : List UInt8) (short : first.length ≤ 4)
    (sizes : first.length = second.length) (same : word first = word second) :
    first = second := by
  have numbers : leNat first = leNat second := by
    rw [← word_toNat first short, ← word_toNat second (by omega), same]
  rw [← leBytes_leNat first, ← leBytes_leNat second, sizes, numbers]

theorem word_cons (byte : UInt8) (rest : List UInt8) (short : rest.length ≤ 3) :
    word (byte :: rest) = byte.toBitVec.setWidth 32 ^^^ (word rest <<< 8) := by
  have byteBound : byte.toNat < 2 ^ 8 := byte.toNat_lt
  have restBound : leNat rest * 2 ^ 8 < 2 ^ 32 := by
    have bound := leNat_lt_width rest 3 short
    omega
  have consShort : (byte :: rest).length ≤ 4 := by
    rw [List.length_cons]
    omega
  apply BitVec.eq_of_toNat_eq
  rw [word_toNat _ consShort, BitVec.toNat_xor, BitVec.toNat_shiftLeft,
    word_toNat rest (by omega), BitVec.toNat_setWidth, Nat.shiftLeft_eq,
    Nat.mod_eq_of_lt restBound, Nat.mod_eq_of_lt (by simpa using byteBound.trans (by decide))]
  have low : byte.toBitVec.toNat = byte.toNat := rfl
  apply Nat.eq_of_testBit_eq
  intro i
  rw [low, leNat, Nat.testBit_xor, Nat.mul_comm (leNat rest), Nat.testBit_two_pow_mul,
    Nat.add_comm]
  have split := Nat.testBit_two_pow_mul_add (leNat rest) byteBound i
  rw [show (256 : Nat) = 2 ^ 8 from rfl, split]
  by_cases small : i < 8
  · simp [small, show ¬ 8 ≤ i by omega]
  · have high : byte.toNat.testBit i = false :=
      Nat.testBit_lt_two_pow (byteBound.trans_le (Nat.pow_le_pow_right (by omega) (by omega)))
    simp [small, high, show 8 ≤ i by omega]

/-- Feeding up to four bytes adds their word and shifts it through. -/
theorem feed_short (register : BitVec 32) (bytes : List UInt8) (short : bytes.length ≤ 4) :
    feed register bytes = shiftBits (8 * bytes.length) (register ^^^ word bytes) := by
  induction bytes generalizing register with
  | nil => simp [feed, shiftBits, word, leNat]
  | cons byte rest ih =>
      have restShort : rest.length ≤ 3 := by
        rw [List.length_cons] at short
        omega
      have room : (word rest).toNat * 2 ^ 8 < 4294967296 := by
        have bound := leNat_lt_width rest 3 restShort
        rw [word_toNat rest (by omega)]
        omega
      have count : 8 * (byte :: rest).length = 8 + 8 * rest.length := by
        rw [List.length_cons]
        omega
      rw [feed, ih _ (by omega), feedByte, ← shiftBits_xor_shiftLeft 8 _ _ room, count,
        shiftBits_add, word_cons byte rest restShort, BitVec.xor_assoc]

/-! ## Checking -/

/-- What the register holds behind a message and its checksum. -/
def residue : BitVec 32 := shiftBits 32 0xFFFFFFFF#32

/-- The stored word is the checksum exactly when the register ends in the residue. -/
theorem checksum_iff (message stored : List UInt8) (four : stored.length = 4) :
    (crc32 message).toNat = leNat stored ↔
      feed 0xFFFFFFFF#32 (message ++ stored) = residue := by
  have through : feed 0xFFFFFFFF#32 (message ++ stored) =
      shiftBits 32 (feed 0xFFFFFFFF#32 message ^^^ word stored) := by
    rw [feed_append, feed_short _ stored (by omega), four]
  have checksum : (crc32 message).toNat = (feed 0xFFFFFFFF#32 message ^^^ 0xFFFFFFFF#32).toNat :=
    rfl
  rw [through, checksum, ← word_toNat stored (by omega), ← BitVec.toNat_eq, residue]
  constructor
  · intro same
    rw [← same, ← BitVec.xor_assoc, BitVec.xor_self, BitVec.zero_xor]
  · intro same
    have cancelled : feed 0xFFFFFFFF#32 message ^^^ word stored = 0xFFFFFFFF#32 :=
      shiftBits_injective 32 _ _ same
    calc feed 0xFFFFFFFF#32 message ^^^ 0xFFFFFFFF#32
        = feed 0xFFFFFFFF#32 message ^^^ (feed 0xFFFFFFFF#32 message ^^^ word stored) := by
          rw [cancelled]
      _ = word stored := by
          rw [← BitVec.xor_assoc, BitVec.xor_self, BitVec.zero_xor]

/-- Two sequences that differ in a window of four bytes only leave the register
in different states. -/
theorem burst_detected (front first second back : List UInt8) (short : first.length ≤ 4)
    (sizes : first.length = second.length) (register : BitVec 32)
    (same : feed register (front ++ first ++ back) = feed register (front ++ second ++ back)) :
    first = second := by
  rw [feed_append, feed_append, feed_append _ (front ++ second), feed_append _ front second]
    at same
  have window := feed_injective back _ _ same
  rw [feed_short _ first short, feed_short _ second (by omega), sizes] at window
  have words := shiftBits_injective _ _ _ window
  exact word_injective first second short sizes ((BitVec.xor_right_inj _).mp words)

end Lib.Crc32
