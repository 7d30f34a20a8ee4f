import GalacticBridge.StateCore

/-! The minter's address: `get_address` (lib.rs) returns the stored public key in hex, compressed
(`State::compressed_public_key`) and uncompressed (`State::uncompressed_public_key`), with the
proxy key. Both encodings go through `hex::encode`, two lowercase digits per byte, and read back
with `hex::decode` as the bytes they came from. -/

namespace GalacticBridge

def hexCharsLower : List Char := "0123456789abcdef".toList

def hexChars (byte : UInt8) : List Char :=
  [hexCharsLower.getD ((byte.toNat &&& 0xf0) >>> 4) '0',
    hexCharsLower.getD (byte.toNat &&& 0x0f) '0']

def hexEncode (data : List UInt8) : String := ⟨data.flatMap hexChars⟩

def hexVal (c : Char) : Option Nat :=
  if '0' ≤ c ∧ c ≤ '9' then some (c.toNat - '0'.toNat)
  else if 'a' ≤ c ∧ c ≤ 'f' then some (c.toNat - 'a'.toNat + 10)
  else if 'A' ≤ c ∧ c ≤ 'F' then some (c.toNat - 'A'.toNat + 10)
  else none

def hexDecode : List Char → Option (List UInt8)
  | [] => some []
  | [_] => none
  | high :: low :: rest => do
    let high ← hexVal high
    let low ← hexVal low
    let rest ← hexDecode rest
    return (high * 16 + low).toUInt8 :: rest

namespace State

def compressedPublicKey (s : State) : Except String String :=
  match s.ecdsaPublicKey with
  | some response => .ok (hexEncode response.publicKey)
  | none => .error "Public key is not initialized"

def uncompressedPublicKey (decompress : List UInt8 → Option (List UInt8)) (s : State) :
    Except String String :=
  match s.ecdsaPublicKey with
  | some response =>
    match decompress response.publicKey with
    | some point => .ok (hexEncode point)
    | none => .error "Failed to deserialize sec1 encoding into public key"
  | none => .error "Public key is not initialized"

end State

def getAddress (decompress : List UInt8 → Option (List UInt8)) (s : State) :
    Except String (String × String × String) := do
  let compressed ← s.compressedPublicKey
  let uncompressed ← s.uncompressedPublicKey decompress
  return (compressed, uncompressed, s.ecdsaProxyPublicKey.getD "")

/-! ### Reading the encoding back -/

set_option maxRecDepth 4000 in
theorem byte_halves : ∀ n < 256, (n &&& 0xf0) >>> 4 = n / 16 ∧ n &&& 0x0f = n % 16 := by
  decide

theorem hexCharsLower_digit :
    ∀ value < 16, hexCharsLower.getD value '0' ∈ hexCharsLower ∧
      hexVal (hexCharsLower.getD value '0') = some value := by
  decide

theorem hexChars_eq (byte : UInt8) :
    hexChars byte =
      [hexCharsLower.getD (byte.toNat / 16) '0', hexCharsLower.getD (byte.toNat % 16) '0'] := by
  obtain ⟨high, low⟩ := byte_halves byte.toNat byte.toNat_lt_size
  rw [hexChars, high, low]

theorem hexDecode_flatMap_hexChars (data : List UInt8) :
    hexDecode (data.flatMap hexChars) = some data := by
  induction data with
  | nil => rfl
  | cons byte rest ih =>
    have below : byte.toNat < 256 := byte.toNat_lt_size
    have halves : byte.toNat / 16 * 16 + byte.toNat % 16 = byte.toNat := by omega
    rw [List.flatMap_cons, hexChars_eq]
    simp only [List.cons_append, List.append_eq, List.nil_append, hexDecode,
      (hexCharsLower_digit _ (by omega : byte.toNat / 16 < 16)).2,
      (hexCharsLower_digit _ (by omega : byte.toNat % 16 < 16)).2, ih, halves,
      Option.bind_eq_bind, Option.some_bind, Option.pure_def]
    exact congrArg (some <| · :: rest)
      (UInt8.eq_of_val_eq (Fin.ext (UInt8.toNat_ofNat_of_lt below)))

theorem hexChars_mem (byte : UInt8) : ∀ c ∈ hexChars byte, c ∈ hexCharsLower := by
  have below : byte.toNat < 256 := byte.toNat_lt_size
  rw [hexChars_eq]
  simp only [List.mem_cons, List.not_mem_nil, or_false, forall_eq_or_imp, forall_eq]
  exact ⟨(hexCharsLower_digit _ (by omega)).1, (hexCharsLower_digit _ (by omega)).1⟩

theorem length_flatMap_hexChars (data : List UInt8) :
    (data.flatMap hexChars).length = 2 * data.length := by
  induction data with
  | nil => rfl
  | cons byte rest ih =>
    simp only [List.flatMap_cons, List.length_append, ih, hexChars, List.length_cons,
      List.length_nil]
    omega

theorem hexEncode_spec (data : List UInt8) :
    hexDecode (hexEncode data).data = some data ∧ (hexEncode data).length = 2 * data.length ∧
      ∀ c ∈ (hexEncode data).data, c ∈ hexCharsLower := by
  refine ⟨hexDecode_flatMap_hexChars data, ?_, fun c listed => ?_⟩
  · exact length_flatMap_hexChars data
  · obtain ⟨byte, -, within⟩ := List.mem_flatMap.mp listed
    exact hexChars_mem byte c within

theorem getAddress_of_none {decompress : List UInt8 → Option (List UInt8)} {s : State}
    (absent : s.ecdsaPublicKey = none) :
    getAddress decompress s = .error "Public key is not initialized" := by
  simp [getAddress, State.compressedPublicKey, absent, bind, Except.bind]

/-- What `get_address` returns reads back: its first component is the stored public key and its
second the point `libsecp256k1` decompresses it to, each written as two lowercase hex digits per
byte that `hex::decode` turns back into those bytes; its third is the proxy key, or the empty
string before one is stored. -/
theorem get_address_reads_back (decompress : List UInt8 → Option (List UInt8)) (s : State)
    (compressed uncompressed proxy : String)
    (returned : getAddress decompress s = .ok (compressed, uncompressed, proxy)) :
    ∃ response point, s.ecdsaPublicKey = some response ∧
      decompress response.publicKey = some point ∧
      hexDecode compressed.data = some response.publicKey ∧
      compressed.length = 2 * response.publicKey.length ∧
      (∀ c ∈ compressed.data, c ∈ hexCharsLower) ∧
      hexDecode uncompressed.data = some point ∧ uncompressed.length = 2 * point.length ∧
      (∀ c ∈ uncompressed.data, c ∈ hexCharsLower) ∧
      proxy = s.ecdsaProxyPublicKey.getD "" := by
  cases stored : s.ecdsaPublicKey with
  | none => simp [getAddress_of_none stored] at returned
  | some response =>
    cases decompressed : decompress response.publicKey with
    | none =>
      simp [getAddress, State.compressedPublicKey, State.uncompressedPublicKey, stored,
        decompressed, bind, Except.bind] at returned
    | some point =>
      simp only [getAddress, State.compressedPublicKey, State.uncompressedPublicKey, stored,
        decompressed, bind, Except.bind, pure, Except.pure, Except.ok.injEq, Prod.mk.injEq]
        at returned
      obtain ⟨rfl, rfl, rfl⟩ := returned
      exact ⟨response, point, rfl, decompressed, (hexEncode_spec response.publicKey).1,
        (hexEncode_spec _).2.1, (hexEncode_spec _).2.2, (hexEncode_spec point).1,
        (hexEncode_spec _).2.1, (hexEncode_spec _).2.2, rfl⟩

theorem get_address_of_stored_key_reads_back :
    getAddress (fun key => some (4 :: key ++ key))
        { State.ofInitArg sampleInitArg with
          ecdsaPublicKey := some ⟨[0x02, 0xab], []⟩ } = .ok ("02ab", "0402ab02ab", "") ∧
    ∃ response point,
      some (⟨[0x02, 0xab], []⟩ : EcdsaPublicKeyResponse) = some response ∧
      some (4 :: response.publicKey ++ response.publicKey) = some point ∧
      hexDecode "02ab".data = some response.publicKey ∧
      "02ab".length = 2 * response.publicKey.length ∧
      (∀ c ∈ "02ab".data, c ∈ hexCharsLower) ∧
      hexDecode "0402ab02ab".data = some point ∧ "0402ab02ab".length = 2 * point.length ∧
      (∀ c ∈ "0402ab02ab".data, c ∈ hexCharsLower) ∧ "" = (none : Option String).getD "" :=
  ⟨rfl, get_address_reads_back (fun key => some (4 :: key ++ key))
    { State.ofInitArg sampleInitArg with
      ecdsaPublicKey := some ⟨[0x02, 0xab], []⟩ } "02ab" "0402ab02ab" "" rfl⟩

end GalacticBridge
