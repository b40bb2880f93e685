import Mathlib.Data.List.Basic
import Mathlib.Tactic.Ring
import Emserver.Lib.LittleEndian

/-!
# The frame format

A frame is the magic byte `$`, a 32-bit little-endian payload length, the
payload and a 32-bit checksum of everything before it.  The functions here are
those of `common/src/baseprotocol.cpp`, with its integer widths: sizes are
natural numbers and each conversion of the source is an explicit `uint32`,
`int32` or `sizeT`.

A pointer and the number of bytes behind it are one list, and every access
goes through `readAt`, which faults outside the list.  The machine is
little-endian with a 64-bit `size_t`.  The checksum is a parameter; the
program's own is `Lib.Crc32.crc32`.
-/

set_option autoImplicit false

namespace Emserver.BaseProtocol

open Lib.LittleEndian

/-! ## Machine integers -/

def uint32 (value : Nat) : Nat := value % 4294967296

/-- Conversion to `int32_t`. -/
def int32 (value : Nat) : Int :=
  if value % 4294967296 < 2147483648 then (value % 4294967296 : Nat)
  else (value % 4294967296 : Nat) - 4294967296

/-- Conversion to a 64-bit `size_t`; negative values wrap. -/
def sizeT (value : Int) : Nat := (value % 18446744073709551616).toNat

/-- The displacement a `size_t` index denotes: pointer arithmetic wraps too. -/
def displacement (index : Nat) : Int :=
  if index < 9223372036854775808 then index else index - 18446744073709551616

/-- `std::vector<uint8_t>::max_size()`. -/
def maxSize : Nat := 9223372036854775807

/-! ## Memory -/

/-- What stops the program: an access outside the bytes it was given, or
`std::length_error` from a `resize`. -/
inductive Fault where
  | outOfBounds (offset : Int) (size : Nat)
  | lengthError (size : Nat)
  deriving DecidableEq, Repr

def readAt (pData : List UInt8) (offset : Int) (size : Nat) :
    Except Fault (List UInt8) :=
  if 0 ≤ offset ∧ offset + size ≤ pData.length then
    .ok ((pData.drop offset.toNat).take size)
  else .error (.outOfBounds offset size)

/-- `memcpy` of `bytes` over what stands at `offset`. -/
def writeAt (target : List UInt8) (offset : Nat) (bytes : List UInt8) : List UInt8 :=
  target.take offset ++ bytes ++ target.drop (offset + bytes.length)

/-! ## `BaseProtocol` -/

def magic : UInt8 := 0x24

inductive ExtractionFailure where
  | none
  | needMoreData
  | invalidFirstByte
  | invalidChecksum
  deriving DecidableEq, Repr

/-- The class: it holds `m_payload` only. -/
structure Message where
  payload : List UInt8
  deriving DecidableEq, Repr

/-- What `extractFromRawData` returns, with its out-parameter `reason`. -/
structure Extraction where
  reason : ExtractionFailure
  message : Option Message
  deriving DecidableEq, Repr

def create (payload : List UInt8) : Message := ⟨payload⟩

def Message.fullSize (message : Message) : Nat :=
  uint32 (message.payload.length + 1 + 4 * 2)

/-- The private constructor from a range: `resize`, then `memcpy`. -/
def fromRange (pData : List UInt8) (offset : Int) (dataSize : Nat) :
    Except Fault Message :=
  if maxSize < dataSize then .error (.lengthError dataSize)
  else do
    let payload ← readAt pData offset dataSize
    .ok ⟨payload⟩

section Checksum
variable (crc : List UInt8 → UInt32)

def calculateChecksum (pData : List UInt8) (dataSize : Nat) : Except Fault Nat := do
  let bytes ← readAt pData 0 dataSize
  .ok (crc bytes).toNat

def Message.makeProtocolMessage (message : Message) : List UInt8 :=
  let payload_size := uint32 message.payload.length
  let ret := magic :: leBytes 4 payload_size ++ message.payload
  let chPos := uint32 (1 + 4 + payload_size)
  let chSum := (crc ret).toNat
  writeAt (ret ++ List.replicate 4 0) chPos (leBytes 4 chSum)

/-- `none` is the null pointer. -/
def extractFromRawData : Option (List UInt8) → Except Fault Extraction
  | none => .ok ⟨.invalidFirstByte, none⟩
  | some pData => do
    let first ← readAt pData 0 1
    if first ≠ [magic] then .ok ⟨.invalidFirstByte, none⟩
    else
      let totalMessageSize := uint32 (4 + 1)
      if pData.length ≤ totalMessageSize then .ok ⟨.needMoreData, none⟩
      else do
        let msize := leNat (← readAt pData 1 4)
        let totalMessageSize := uint32 (totalMessageSize + (msize + 4))
        if pData.length < totalMessageSize then .ok ⟨.needMoreData, none⟩
        else do
          -- 64-bit, so it wraps when the 32-bit total is below four
          let checked := sizeT (totalMessageSize - 4)
          let chSum := leNat (← readAt pData (displacement checked) 4)
          let calcSum ← calculateChecksum crc pData checked
          if calcSum = chSum then do
            let payloadSz := int32 (sizeT (totalMessageSize - 4 * 2 - 1))
            -- the signed size is passed as a `size_t`
            let message ← fromRange pData (1 + 4) (sizeT payloadSz)
            .ok ⟨.none, some message⟩
          else .ok ⟨.invalidChecksum, none⟩

end Checksum

end Emserver.BaseProtocol
