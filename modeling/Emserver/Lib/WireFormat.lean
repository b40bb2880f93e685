import Mathlib.Data.List.Basic

/-!
# Tag-length-value wire format

A message is a sequence of fields: a varint tag holding the field number and
the wire type, then a varint (wire type 0) or a length-delimited byte string
(wire type 2).  Fixed-width fields (wire types 1 and 5) are skipped, any other
wire type is an error.  `decodeFields` returns the fields read before the first
error and whether there was none.
-/

set_option autoImplicit false

namespace Lib.WireFormat

/-! ## Varints -/

/-- Seven bits a byte, low group first; the fuel is the value itself. -/
def putVarintWithin : Nat → Nat → List UInt8
  | 0, value => [UInt8.ofNat value]
  | fuel + 1, value =>
      if value < 128 then [UInt8.ofNat value]
      else UInt8.ofNat (value % 128 + 128) :: putVarintWithin fuel (value / 128)

def putVarint (value : Nat) : List UInt8 := putVarintWithin value value

def getVarint : List UInt8 → Option (Nat × List UInt8)
  | [] => none
  | byte :: rest =>
      if byte.toNat < 128 then some (byte.toNat, rest)
      else
        match getVarint rest with
        | none => none
        | some (value, left) => some (byte.toNat - 128 + 128 * value, left)

theorem getVarint_putVarintWithin (fuel value : Nat) (rest : List UInt8)
    (enough : value ≤ fuel) :
    getVarint (putVarintWithin fuel value ++ rest) = some (value, rest) := by
  induction fuel generalizing value with
  | zero =>
      have zero : value = 0 := by omega
      subst zero
      rfl
  | succ fuel ih =>
      by_cases small : value < 128
      · have byte : (UInt8.ofNat value).toNat = value := by
          rw [UInt8.toNat_ofNat']
          omega
        simp [putVarintWithin, small, getVarint, byte]
      · have byte : (UInt8.ofNat (value % 128 + 128)).toNat = value % 128 + 128 := by
          rw [UInt8.toNat_ofNat']
          omega
        have tail := ih (value / 128) (by omega)
        simp only [putVarintWithin, if_neg small, List.cons_append, getVarint, byte, tail]
        rw [if_neg (by omega)]
        congr 2
        omega

theorem getVarint_putVarint (value : Nat) (rest : List UInt8) :
    getVarint (putVarint value ++ rest) = some (value, rest) :=
  getVarint_putVarintWithin value value rest (Nat.le_refl value)

/-! ## Fields -/

inductive Value where
  | varint (value : UInt64)
  | bytes (value : List UInt8)
  deriving DecidableEq, Repr

structure Field where
  number : Nat
  value : Value
  deriving DecidableEq, Repr

def encodeField (field : Field) : List UInt8 :=
  match field.value with
  | .varint value => putVarint (field.number * 8) ++ putVarint value.toNat
  | .bytes value =>
      putVarint (field.number * 8 + 2) ++ (putVarint value.length ++ value)

def encodeFields (fields : List Field) : List UInt8 :=
  (fields.map encodeField).flatten

/-- What follows a tag: the field it introduces, or `none` for one skipped. -/
def decodeValue (number wireType : Nat) (data : List UInt8) :
    Option (Option Field × List UInt8) :=
  match wireType with
  | 0 =>
      match getVarint data with
      | none => none
      | some (value, rest) => some (some ⟨number, .varint (UInt64.ofNat value)⟩, rest)
  | 1 => if 8 ≤ data.length then some (none, data.drop 8) else none
  | 2 =>
      match getVarint data with
      | none => none
      | some (size, rest) =>
          if size ≤ rest.length then
            some (some ⟨number, .bytes (rest.take size)⟩, rest.drop size)
          else none
  | 5 => if 4 ≤ data.length then some (none, data.drop 4) else none
  | _ => none

/-- One fuel unit a field; the length of the data is enough. -/
def decodeFieldsWithin : Nat → List UInt8 → List Field × Bool
  | _, [] => ([], true)
  | 0, _ :: _ => ([], false)
  | fuel + 1, first :: others =>
      match getVarint (first :: others) with
      | none => ([], false)
      | some (tag, rest) =>
          if tag / 8 = 0 then ([], false)
          else
            match decodeValue (tag / 8) (tag % 8) rest with
            | none => ([], false)
            | some (field, left) =>
                let tail := decodeFieldsWithin fuel left
                (field.toList ++ tail.1, tail.2)

def decodeFields (data : List UInt8) : List Field × Bool :=
  decodeFieldsWithin data.length data

theorem encodeField_ne_nil (field : Field) : encodeField field ≠ [] := by
  have tagged : ∀ tag rest, putVarint tag ++ rest ≠ [] := by
    intro tag rest
    cases tag with
    | zero => simp [putVarint, putVarintWithin]
    | succ tag =>
        rw [putVarint, putVarintWithin]
        split <;> simp
  unfold encodeField
  split <;> exact tagged _ _

theorem decodeValue_encode (field : Field) (rest : List UInt8) :
    ∃ tag data, encodeField field ++ rest = putVarint tag ++ data ∧
      tag / 8 = field.number ∧
      decodeValue (tag / 8) (tag % 8) data = some (some field, rest) := by
  obtain ⟨number, value⟩ := field
  cases value with
  | varint value =>
      have tagNumber : number * 8 / 8 = number := by omega
      refine ⟨number * 8, putVarint value.toNat ++ rest, ?_, tagNumber, ?_⟩
      · simp [encodeField]
      · have wireType : number * 8 % 8 = 0 := by omega
        simp [wireType, tagNumber, decodeValue, getVarint_putVarint]
  | bytes value =>
      have tagNumber : (number * 8 + 2) / 8 = number := by omega
      refine ⟨number * 8 + 2, putVarint value.length ++ (value ++ rest), ?_, tagNumber, ?_⟩
      · simp [encodeField]
      · have wireType : (number * 8 + 2) % 8 = 2 := by omega
        simp [wireType, tagNumber, decodeValue, getVarint_putVarint]

theorem decodeFieldsWithin_encode (fields : List Field)
    (numbered : ∀ field ∈ fields, 0 < field.number) (fuel : Nat)
    (enough : (encodeFields fields).length ≤ fuel) :
    decodeFieldsWithin fuel (encodeFields fields) = (fields, true) := by
  induction fields generalizing fuel with
  | nil => cases fuel <;> rfl
  | cons field rest ih =>
      have positive : 0 < (encodeField field).length :=
        List.length_pos_iff.mpr (encodeField_ne_nil field)
      have split : encodeFields (field :: rest) = encodeField field ++ encodeFields rest := by
        simp [encodeFields]
      rw [split] at enough ⊢
      obtain ⟨tag, data, image, number, decoded⟩ :=
        decodeValue_encode field (encodeFields rest)
      have fieldNumber := numbered field (by simp)
      cases fuel with
      | zero =>
          simp only [List.length_append] at enough
          omega
      | succ fuel =>
          have tail := ih (fun other member => numbered other (by simp [member])) fuel (by
            simp only [List.length_append] at enough
            omega)
          rw [image]
          have read := getVarint_putVarint tag data
          cases shape : putVarint tag ++ data with
          | nil =>
              rw [shape] at image
              simp [encodeField_ne_nil] at image
          | cons first others =>
              rw [shape] at read
              simp only [decodeFieldsWithin, read, decoded, tail]
              rw [if_neg (by omega)]
              rfl

/-- Well-numbered fields survive the round trip. -/
theorem decodeFields_encodeFields (fields : List Field)
    (numbered : ∀ field ∈ fields, 0 < field.number) :
    decodeFields (encodeFields fields) = (fields, true) :=
  decodeFieldsWithin_encode fields numbered _ (Nat.le_refl _)

end Lib.WireFormat
