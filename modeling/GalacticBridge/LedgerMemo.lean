import Mathlib.Algebra.Group.Nat.Basic
import Mathlib.Logic.Basic

/-! Ledger memos. `From<LedgerMemo> for Memo` serializes the id with serde_cbor: the newtype is
written as the `u64` it wraps, a CBOR unsigned integer (major type 0) in its shortest head. The
writer below follows serde_cbor's `write_u8` … `write_u64`; reading the head back recovers the
id, so distinct ids give distinct memos, and no memo is longer than nine bytes. -/

namespace GalacticBridge

@[simp]
theorem Nat.toUInt8_toNat (value : Nat) : value.toUInt8.toNat = value % 2 ^ 8 := by
  simp [Nat.toUInt8, UInt8.toNat, UInt8.ofNat]

@[simp]
theorem Nat.toUInt16_toNat (value : Nat) : value.toUInt16.toNat = value % 2 ^ 16 := by
  simp [Nat.toUInt16, UInt16.toNat, UInt16.ofNat]

@[simp]
theorem Nat.toUInt32_toNat (value : Nat) : value.toUInt32.toNat = value % 2 ^ 32 := by
  simp [Nat.toUInt32, UInt32.toNat, UInt32.ofNat]

@[simp]
theorem UInt8.toNat_ofNat' (value : Nat) : (UInt8.ofNat value).toNat = value % 256 := by
  simp [UInt8.toNat, UInt8.ofNat]

def initialByte (major info : Nat) : UInt8 := UInt8.ofNat (major * 32 + info)

def toBeBytes : Nat → Nat → List UInt8
  | 0, _ => []
  | width + 1, value => toBeBytes width (value / 256) ++ [UInt8.ofNat value]

def writeU8 (major : Nat) (value : UInt8) : List UInt8 :=
  if value.toNat ≤ 0x17 then [initialByte major value.toNat]
  else [initialByte major 24, value]

def writeWide (narrower : Nat → List UInt8) (bound major info width value : Nat) : List UInt8 :=
  if value ≤ bound then narrower value else initialByte major info :: toBeBytes width value

def writeU16 (major : Nat) (value : UInt16) : List UInt8 :=
  writeWide (fun narrow => writeU8 major narrow.toUInt8) 0xff major 25 2 value.toNat

def writeU32 (major : Nat) (value : UInt32) : List UInt8 :=
  writeWide (fun narrow => writeU16 major narrow.toUInt16) 0xffff major 26 4 value.toNat

def writeU64 (major : Nat) (value : UInt64) : List UInt8 :=
  writeWide (fun narrow => writeU32 major narrow.toUInt32) 0xffffffff major 27 8 value.toNat

structure LedgerMemo where
  id : UInt64
deriving DecidableEq, Repr

/-- The ICRC-1 memo, a byte buffer. -/
structure Memo where
  bytes : List UInt8
deriving DecidableEq, Repr

def LedgerMemo.toVec (memo : LedgerMemo) : List UInt8 := writeU64 0 memo.id

def Memo.ofLedgerMemo (memo : LedgerMemo) : Memo := ⟨memo.toVec⟩

def fromBeBytes (bytes : List UInt8) : Nat :=
  bytes.foldl (fun acc byte => acc * 256 + byte.toNat) 0

def readArgument (width : Nat) (bytes : List UInt8) : Option (Nat × List UInt8) :=
  if width ≤ bytes.length then some (fromBeBytes (bytes.take width), bytes.drop width) else none

def readUnsigned : List UInt8 → Option (Nat × List UInt8)
  | [] => none
  | head :: rest =>
    if head.toNat < 24 then some (head.toNat, rest)
    else if head.toNat = 24 then readArgument 1 rest
    else if head.toNat = 25 then readArgument 2 rest
    else if head.toNat = 26 then readArgument 4 rest
    else if head.toNat = 27 then readArgument 8 rest
    else none

@[simp]
theorem toBeBytes_length (width value : Nat) : (toBeBytes width value).length = width := by
  induction width generalizing value with
  | zero => rfl
  | succ width ih => simp [toBeBytes, ih]

theorem fromBeBytes_toBeBytes (width value : Nat) :
    fromBeBytes (toBeBytes width value) = value % 256 ^ width := by
  induction width generalizing value with
  | zero => simp [toBeBytes, fromBeBytes, Nat.mod_one]
  | succ width ih =>
    have step := ih (value / 256)
    simp only [fromBeBytes, toBeBytes, List.foldl_append, List.foldl_cons, List.foldl_nil]
      at step ⊢
    rw [step, UInt8.toNat_ofNat', Nat.pow_succ, Nat.mul_comm (256 ^ width), Nat.mod_mul]
    omega

@[simp]
theorem readArgument_toBeBytes (width value : Nat) (rest : List UInt8) :
    readArgument width (toBeBytes width value ++ rest) = some (value % 256 ^ width, rest) := by
  simp [readArgument, List.take_left', List.drop_left', fromBeBytes_toBeBytes]

theorem readArgument_one (byte : UInt8) (rest : List UInt8) :
    readArgument 1 (byte :: rest) = some (byte.toNat, rest) := by
  simp [readArgument, fromBeBytes]

theorem initialByte_toNat {info : Nat} (small : info < 32) : (initialByte 0 info).toNat = info := by
  simp only [initialByte, UInt8.toNat_ofNat']
  omega

theorem readUnsigned_writeU8 (value : UInt8) (rest : List UInt8) :
    readUnsigned (writeU8 0 value ++ rest) = some (value.toNat, rest) := by
  unfold writeU8
  split
  next small =>
    simp [readUnsigned, initialByte_toNat (show value.toNat < 32 by omega),
      show value.toNat < 24 by omega]
  next => simp [readUnsigned, initialByte_toNat (show 24 < 32 by decide), readArgument_one]

theorem readUnsigned_writeWide {narrower : Nat → List UInt8} {bound info width value : Nat}
    (narrow : ∀ small ≤ bound, ∀ rest, readUnsigned (narrower small ++ rest) = some (small, rest))
    (head : ∀ bytes, readUnsigned (initialByte 0 info :: bytes) = readArgument width bytes)
    (fits : value < 256 ^ width) (rest : List UInt8) :
    readUnsigned (writeWide narrower bound 0 info width value ++ rest) = some (value, rest) := by
  unfold writeWide
  split
  next small => exact narrow value small rest
  next => rw [List.cons_append, head, readArgument_toBeBytes, Nat.mod_eq_of_lt fits]

theorem length_writeWide_le {narrower : Nat → List UInt8} {bound major info width : Nat}
    (narrow : ∀ small ≤ bound, (narrower small).length ≤ width + 1) (value : Nat) :
    (writeWide narrower bound major info width value).length ≤ width + 1 := by
  unfold writeWide
  split
  next small => exact narrow value small
  next => simp

theorem readUnsigned_writeU16 (value : UInt16) (rest : List UInt8) :
    readUnsigned (writeU16 0 value ++ rest) = some (value.toNat, rest) := by
  unfold writeU16
  exact readUnsigned_writeWide (fun small bounded rest => by
      rw [readUnsigned_writeU8, Nat.toUInt8_toNat, Nat.mod_eq_of_lt (by omega)])
    (fun _ => by rfl) value.toNat_lt_size rest

theorem readUnsigned_writeU32 (value : UInt32) (rest : List UInt8) :
    readUnsigned (writeU32 0 value ++ rest) = some (value.toNat, rest) := by
  unfold writeU32
  exact readUnsigned_writeWide (fun small bounded rest => by
      rw [readUnsigned_writeU16, Nat.toUInt16_toNat, Nat.mod_eq_of_lt (by omega)])
    (fun _ => by rfl) value.toNat_lt_size rest

theorem readUnsigned_writeU64 (value : UInt64) (rest : List UInt8) :
    readUnsigned (writeU64 0 value ++ rest) = some (value.toNat, rest) := by
  unfold writeU64
  exact readUnsigned_writeWide (fun small bounded rest => by
      rw [readUnsigned_writeU32, Nat.toUInt32_toNat, Nat.mod_eq_of_lt (by omega)])
    (fun _ => by rfl) value.toNat_lt_size rest

theorem length_writeU8_le (value : UInt8) : (writeU8 0 value).length ≤ 2 := by
  unfold writeU8
  split <;> simp

theorem length_writeU16_le (value : UInt16) : (writeU16 0 value).length ≤ 3 := by
  unfold writeU16
  exact length_writeWide_le (fun _ _ => Nat.le_succ_of_le (length_writeU8_le _)) _

theorem length_writeU32_le (value : UInt32) : (writeU32 0 value).length ≤ 5 := by
  unfold writeU32
  exact length_writeWide_le (fun _ _ => Nat.le_trans (length_writeU16_le _) (by decide)) _

theorem length_writeU64_le (value : UInt64) : (writeU64 0 value).length ≤ 9 := by
  unfold writeU64
  exact length_writeWide_le (fun _ _ => Nat.le_trans (length_writeU32_le _) (by decide)) _

example : writeU64 0 500 = [0x19, 0x01, 0xf4] := by decide

theorem writeU64_injective {first second : UInt64} (same : writeU64 0 first = writeU64 0 second) :
    first = second := by
  have read := congrArg (fun bytes => readUnsigned (bytes ++ [])) same
  simp only [readUnsigned_writeU64, Option.some.injEq, Prod.mk.injEq, and_true] at read
  exact UInt64.toNat.inj read

/-- Distinct ids give distinct memos. Each memo is one complete CBOR unsigned integer that reads
back as its id, at most nine bytes long, within the 32 bytes an ICRC-1 memo may have. -/
theorem ledger_memos_are_distinct_and_short (first second : UInt64) :
    (first ≠ second → Memo.ofLedgerMemo ⟨first⟩ ≠ Memo.ofLedgerMemo ⟨second⟩) ∧
    readUnsigned (Memo.ofLedgerMemo ⟨first⟩).bytes = some (first.toNat, []) ∧
    (Memo.ofLedgerMemo ⟨first⟩).bytes.length ≤ 9 :=
  ⟨fun distinct same => distinct (writeU64_injective (congrArg Memo.bytes same)),
    by simpa using readUnsigned_writeU64 first [], length_writeU64_le first⟩

end GalacticBridge
