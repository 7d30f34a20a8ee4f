import GalacticBridge.Events

/-! The minter `State` of state.rs and its transformations, one definition per method. A trap
(`panic!`, a failed `assert!`) is an `Except.error` carrying its message; the runtime then
discards every change the call made. -/

namespace GalacticBridge

inductive InvalidStateError
  | invalidEcdsaKeyName (message : String)
  | invalidLedgerId (message : String)
  | invalidSolanaContractAddress (message : String)
  | invalidMinimumWithdrawalAmount (message : String)
  | invalidSolanaInitialSignature (message : String)
deriving DecidableEq, Repr

structure State where
  solanaRpcUrl : SolanaRpcUrl
  solanaContractAddress : String
  solanaInitialSignature : String
  ecdsaKeyName : String
  ecdsaPublicKey : Option EcdsaPublicKeyResponse
  ecdsaProxyPublicKey : Option String
  minimumWithdrawalAmount : Nat
  solanaLastKnownSignature : Option String
  solanaSignatureRanges : Table String SolanaSignatureRange
  solanaSignatures : Table String SolanaSignature
  invalidEvents : Table String SolanaSignature
  acceptedEvents : Table String DepositEvent
  mintedEvents : Table String DepositEvent
  withdrawalBurnedEvents : Table UInt64 WithdrawalEvent
  withdrawalRedeemedEvents : Table UInt64 WithdrawalEvent
  withdrawingPrincipals : Table Principal Unit
  depositIdCounter : UInt64
  burnIdCounter : UInt64
  httpRequestCounter : UInt64
  activeTasks : Table TaskType Unit

def isWhitespace (c : Char) : Bool :=
  let n := c.toNat
  n = 0x20 || (0x09 ≤ n && n ≤ 0x0d) || n = 0x85 || n = 0xa0 || n = 0x1680 ||
    (0x2000 ≤ n && n ≤ 0x200a) || n = 0x2028 || n = 0x2029 || n = 0x202f || n = 0x205f ||
    n = 0x3000

def trim (text : String) : String :=
  ⟨((text.data.dropWhile isWhitespace).reverse.dropWhile isWhitespace).reverse⟩

def rangeKey (start finish : String) : String := start ++ "-" ++ finish

theorem eq_of_append_cons_of_not_mem {α : Type} {separator : α} {left left' right right' : List α}
    (absent : separator ∉ left) (absent' : separator ∉ left')
    (same : left ++ separator :: right = left' ++ separator :: right') :
    left = left' ∧ right = right' := by
  simp only [List.append_eq_append_iff, List.cons_eq_append_iff, List.cons.injEq] at same
  rcases same with ⟨_, rfl, ⟨rfl, -, rfl⟩ | ⟨_, rfl, -⟩⟩ | ⟨_, rfl, ⟨rfl, -, rfl⟩ | ⟨_, rfl, -⟩⟩ <;>
    simp_all

def sampleInitArg : InitArg := ⟨⟨"http://localhost:8899"⟩, "contract", "S0", "key", ⟨1⟩⟩

namespace State

/-- Modelled from the spec: the state `init` builds from its argument (`State::try_from`,
lifecycle module, not under src/): the given configuration, every table, set and counter empty. -/
def ofInitArg (arg : InitArg) : State where
  solanaRpcUrl := arg.solanaRpcUrl
  solanaContractAddress := arg.solanaContractAddress
  solanaInitialSignature := arg.solanaInitialSignature
  ecdsaKeyName := arg.ecdsaKeyName
  ecdsaPublicKey := none
  ecdsaProxyPublicKey := none
  minimumWithdrawalAmount := arg.minimumWithdrawalAmount.val
  solanaLastKnownSignature := none
  solanaSignatureRanges := .empty
  solanaSignatures := .empty
  invalidEvents := .empty
  acceptedEvents := .empty
  mintedEvents := .empty
  withdrawalBurnedEvents := .empty
  withdrawalRedeemedEvents := .empty
  withdrawingPrincipals := .empty
  depositIdCounter := 0
  burnIdCounter := 0
  httpRequestCounter := 0
  activeTasks := .empty

def validateConfig (s : State) : Except InvalidStateError Unit :=
  if (trim s.ecdsaKeyName).data.isEmpty then
    .error (.invalidEcdsaKeyName "ecdsa_key_name cannot be blank")
  else if (trim s.solanaContractAddress).data.isEmpty then
    .error (.invalidSolanaContractAddress "solana_contract_address cannot be empty")
  else if (trim s.solanaInitialSignature).data.isEmpty then
    .error (.invalidSolanaInitialSignature "solana_initial_signature cannot be empty")
  else if s.minimumWithdrawalAmount = 0 then
    .error (.invalidMinimumWithdrawalAmount "minimum_withdrawal_amount must be positive")
  else .ok ()

/-- `upgrade(&mut self, ..)` writes each given field, then validates: the returned state is the
receiver after the call, whatever the result. -/
def upgrade (s : State) (upgradeArgs : UpgradeArg) : Except InvalidStateError Unit × State :=
  let s := { s with
    solanaRpcUrl := upgradeArgs.solanaRpcUrl.getD s.solanaRpcUrl
    solanaContractAddress := upgradeArgs.solanaContractAddress.getD s.solanaContractAddress
    solanaInitialSignature := upgradeArgs.solanaInitialSignature.getD s.solanaInitialSignature
    ecdsaKeyName := upgradeArgs.ecdsaKeyName.getD s.ecdsaKeyName }
  match upgradeArgs.minimumWithdrawalAmount with
  | none => (s.validateConfig, s)
  | some amount =>
    match toBiguint amount.val with
    | none =>
      (.error (.invalidMinimumWithdrawalAmount
        "ERROR: minimum_withdrawal_amount is not a valid u256"), s)
    | some amount =>
      let s := { s with minimumWithdrawalAmount := amount }
      (s.validateConfig, s)

def recordSolanaLastKnownSignature (s : State) (sig : String) : State :=
  { s with solanaLastKnownSignature := some sig }

def getSolanaLastKnownSignature (s : State) : String :=
  s.solanaLastKnownSignature.getD s.solanaInitialSignature

def recordSolanaSignatureRange (s : State) (range : SolanaSignatureRange) :
    Except String State :=
  let key := rangeKey range.beforeSolSig range.untilSolSig
  if s.solanaSignatureRanges.containsKey key then
    .error ("Attempted to record existing range: " ++ key ++ " .")
  else
    .ok { s with solanaSignatureRanges := s.solanaSignatureRanges.insert key range }

def retrySolanaSignatureRange (s : State) (oldRange : SolanaSignatureRange)
    (newRange : Option SolanaSignatureRange) : Except String State :=
  let oldKey := rangeKey oldRange.beforeSolSig oldRange.untilSolSig
  match s.solanaSignatureRanges.get oldKey with
  | some stored =>
    let s := { s with solanaSignatureRanges := s.solanaSignatureRanges.erase oldKey }
    match newRange with
    | some newRange => s.recordSolanaSignatureRange newRange
    | none =>
      let stored := { stored with retry := stored.retry.incrementRetries }
      .ok { s with solanaSignatureRanges := s.solanaSignatureRanges.insert oldKey stored }
  | none => .error ("Attempted to re-record NON existing range: " ++ oldKey ++ " .")

def removeSolanaSignatureRange (s : State) (range : SolanaSignatureRange) :
    Except String State :=
  let key := rangeKey range.beforeSolSig range.untilSolSig
  match s.solanaSignatureRanges.get key with
  | some _ => .ok { s with solanaSignatureRanges := s.solanaSignatureRanges.erase key }
  | none => .error ("Attempted to remove NON existing range: " ++ key ++ " .")

def recordOrRetrySolanaSignature (s : State) (sig : SolanaSignature) : State :=
  match s.solanaSignatures.get sig.solSig with
  | some existing =>
    let existing := { existing with retry := existing.retry.incrementRetries }
    { s with solanaSignatures := (s.solanaSignatures.erase sig.solSig).insert sig.solSig existing }
  | none => { s with solanaSignatures := s.solanaSignatures.insert sig.solSig sig }

def recordInvalidEvent (s : State) (sig : SolanaSignature) : Except String State :=
  let key := sig.solSig
  match s.solanaSignatures.get key with
  | none => .error ("Attempted to remove NON existing solana signature " ++ key ++ " .")
  | some _ =>
    let s := { s with solanaSignatures := s.solanaSignatures.erase key }
    if s.invalidEvents.containsKey key then
      .error ("Attempted to record existing invalid event: " ++ key ++ " .")
    else
      let sig := { sig with retry := sig.retry.resetRetries }
      .ok { s with invalidEvents := s.invalidEvents.insert key sig }

def recordOrRetryAcceptedEvent (s : State) (deposit : DepositEvent) : Except String State :=
  let key := deposit.solSig
  match s.acceptedEvents.get key with
  | none =>
    match s.solanaSignatures.get key with
    | some _ =>
      .ok { s with
        solanaSignatures := s.solanaSignatures.erase key
        acceptedEvents := s.acceptedEvents.insert key deposit }
    | none => .error ("Attempted to remove NON existing solana signature " ++ key ++ " .")
  | some existing =>
    let existing := { existing with retry := existing.retry.incrementRetries }
    .ok { s with acceptedEvents := (s.acceptedEvents.erase key).insert key existing }

def recordMintedEvent (s : State) (deposit : DepositEvent) : Except String State :=
  let key := deposit.solSig
  match s.acceptedEvents.get key with
  | none => .error ("Attempted to remove NON existing accepted event: " ++ key ++ " .")
  | some _ =>
    let s := { s with acceptedEvents := s.acceptedEvents.erase key }
    if s.mintedEvents.containsKey key then
      .error ("Attempted to record existing minted event: " ++ key ++ ".")
    else
      let deposit := { deposit with retry := deposit.retry.resetRetries }
      .ok { s with mintedEvents := s.mintedEvents.insert key deposit }

def recordOrRetryWithdrawalBurnedEvent (s : State) (withdrawal : WithdrawalEvent) : State :=
  let key := withdrawal.getBurnId
  match s.withdrawalBurnedEvents.get key with
  | none => { s with withdrawalBurnedEvents := s.withdrawalBurnedEvents.insert key withdrawal }
  | some event =>
    let event := { event with retry := event.retry.incrementRetries }
    { s with withdrawalBurnedEvents := (s.withdrawalBurnedEvents.erase key).insert key event }

def recordWithdrawalRedeemedEvent (s : State) (withdrawal : WithdrawalEvent) :
    Except String State :=
  let key := withdrawal.getBurnId
  match s.withdrawalBurnedEvents.get key with
  | some _ =>
    let withdrawal := { withdrawal with retry := withdrawal.retry.resetRetries }
    .ok { s with
      withdrawalBurnedEvents := s.withdrawalBurnedEvents.erase key
      withdrawalRedeemedEvents := s.withdrawalRedeemedEvents.insert key withdrawal }
  | none => .error "Attempted to remove NON existing withdrawal burned event."

def nextRequestId (s : State) : UInt64 × State :=
  (s.httpRequestCounter, { s with httpRequestCounter := s.httpRequestCounter + 1 })

def nextDepositId (s : State) : UInt64 × State :=
  (s.depositIdCounter, { s with depositIdCounter := s.depositIdCounter + 1 })

def nextBurnId (s : State) : UInt64 × State :=
  (s.burnIdCounter, { s with burnIdCounter := s.burnIdCounter + 1 })

def setDepositIdCounter (s : State) (id : UInt64) : State := { s with depositIdCounter := id }

def setBurnIdCounter (s : State) (id : UInt64) : State := { s with burnIdCounter := id }

/-! What each method does when it returns without a trap. -/

variable {s next : State}

theorem upgrade_snd (upgradeArgs : UpgradeArg) :
    (s.upgrade upgradeArgs).2 = { s with
      solanaRpcUrl := upgradeArgs.solanaRpcUrl.getD s.solanaRpcUrl
      solanaContractAddress := upgradeArgs.solanaContractAddress.getD s.solanaContractAddress
      solanaInitialSignature := upgradeArgs.solanaInitialSignature.getD s.solanaInitialSignature
      ecdsaKeyName := upgradeArgs.ecdsaKeyName.getD s.ecdsaKeyName
      minimumWithdrawalAmount := (upgradeArgs.minimumWithdrawalAmount.map CandidNat.val).getD
        s.minimumWithdrawalAmount } := by
  unfold upgrade
  split <;> simp_all [toBiguint]

theorem recordSolanaSignatureRange_eq_ok {range : SolanaSignatureRange} :
    s.recordSolanaSignatureRange range = .ok next ↔
      s.solanaSignatureRanges.get (rangeKey range.beforeSolSig range.untilSolSig) = none ∧
        next = { s with
          solanaSignatureRanges := s.solanaSignatureRanges.insert
            (rangeKey range.beforeSolSig range.untilSolSig) range } := by
  dsimp only [recordSolanaSignatureRange]
  split <;> simp_all [Option.isSome_iff_ne_none]
  exact eq_comm

theorem retrySolanaSignatureRange_none_eq_ok {oldRange : SolanaSignatureRange} :
    s.retrySolanaSignatureRange oldRange none = .ok next ↔
      ∃ stored, s.solanaSignatureRanges.get (rangeKey oldRange.beforeSolSig oldRange.untilSolSig) =
          some stored ∧
        next = { s with
          solanaSignatureRanges := s.solanaSignatureRanges.insert
            (rangeKey oldRange.beforeSolSig oldRange.untilSolSig)
            { stored with retry := stored.retry.incrementRetries } } := by
  dsimp only [retrySolanaSignatureRange]
  split <;> simp_all [Option.isSome_iff_ne_none]
  exact eq_comm

theorem retrySolanaSignatureRange_some_eq_ok {oldRange newRange : SolanaSignatureRange} :
    s.retrySolanaSignatureRange oldRange (some newRange) = .ok next ↔
      (s.solanaSignatureRanges.get (rangeKey oldRange.beforeSolSig oldRange.untilSolSig)).isSome ∧
        recordSolanaSignatureRange { s with
          solanaSignatureRanges := s.solanaSignatureRanges.erase
            (rangeKey oldRange.beforeSolSig oldRange.untilSolSig) } newRange = .ok next := by
  dsimp only [retrySolanaSignatureRange]
  split <;> simp_all

theorem removeSolanaSignatureRange_eq_ok {range : SolanaSignatureRange} :
    s.removeSolanaSignatureRange range = .ok next ↔
      (s.solanaSignatureRanges.get (rangeKey range.beforeSolSig range.untilSolSig)).isSome ∧
        next = { s with
          solanaSignatureRanges := s.solanaSignatureRanges.erase
            (rangeKey range.beforeSolSig range.untilSolSig) } := by
  dsimp only [removeSolanaSignatureRange]
  split <;> simp_all [Option.isSome_iff_ne_none]
  exact eq_comm

theorem recordOrRetrySolanaSignature_of_get_some {sig existing : SolanaSignature}
    (present : s.solanaSignatures.get sig.solSig = some existing) :
    s.recordOrRetrySolanaSignature sig = { s with
      solanaSignatures := s.solanaSignatures.insert sig.solSig
        { existing with retry := existing.retry.incrementRetries } } := by
  simp [recordOrRetrySolanaSignature, present]

theorem recordOrRetrySolanaSignature_of_get_none {sig : SolanaSignature}
    (absent : s.solanaSignatures.get sig.solSig = none) :
    s.recordOrRetrySolanaSignature sig =
      { s with solanaSignatures := s.solanaSignatures.insert sig.solSig sig } := by
  simp [recordOrRetrySolanaSignature, absent]

theorem recordInvalidEvent_eq_ok {sig : SolanaSignature} :
    s.recordInvalidEvent sig = .ok next ↔
      (s.solanaSignatures.get sig.solSig).isSome ∧ s.invalidEvents.get sig.solSig = none ∧
        next = { s with
          solanaSignatures := s.solanaSignatures.erase sig.solSig
          invalidEvents := s.invalidEvents.insert sig.solSig
            { sig with retry := sig.retry.resetRetries } } := by
  dsimp only [recordInvalidEvent]
  split <;> (try split) <;> simp_all [Option.isSome_iff_ne_none]
  exact eq_comm

theorem recordOrRetryAcceptedEvent_eq_ok {deposit : DepositEvent} :
    s.recordOrRetryAcceptedEvent deposit = .ok next ↔
      (s.acceptedEvents.get deposit.solSig = none ∧ (s.solanaSignatures.get deposit.solSig).isSome ∧
        next = { s with
          solanaSignatures := s.solanaSignatures.erase deposit.solSig
          acceptedEvents := s.acceptedEvents.insert deposit.solSig deposit }) ∨
      ∃ existing, s.acceptedEvents.get deposit.solSig = some existing ∧
        next = { s with
          acceptedEvents := s.acceptedEvents.insert deposit.solSig
            { existing with retry := existing.retry.incrementRetries } } := by
  dsimp only [recordOrRetryAcceptedEvent]
  split <;> (try split) <;> simp_all [Option.isSome_iff_ne_none] <;> exact eq_comm

theorem recordMintedEvent_eq_ok {deposit : DepositEvent} :
    s.recordMintedEvent deposit = .ok next ↔
      (s.acceptedEvents.get deposit.solSig).isSome ∧ s.mintedEvents.get deposit.solSig = none ∧
        next = { s with
          acceptedEvents := s.acceptedEvents.erase deposit.solSig
          mintedEvents := s.mintedEvents.insert deposit.solSig
            { deposit with retry := deposit.retry.resetRetries } } := by
  dsimp only [recordMintedEvent]
  split <;> (try split) <;> simp_all [Option.isSome_iff_ne_none]
  exact eq_comm

theorem recordOrRetryWithdrawalBurnedEvent_of_get_some {withdrawal event : WithdrawalEvent}
    (present : s.withdrawalBurnedEvents.get withdrawal.burnId = some event) :
    s.recordOrRetryWithdrawalBurnedEvent withdrawal = { s with
      withdrawalBurnedEvents := s.withdrawalBurnedEvents.insert withdrawal.burnId
        { event with retry := event.retry.incrementRetries } } := by
  simp [recordOrRetryWithdrawalBurnedEvent, WithdrawalEvent.getBurnId, present]

theorem recordOrRetryWithdrawalBurnedEvent_of_get_none {withdrawal : WithdrawalEvent}
    (absent : s.withdrawalBurnedEvents.get withdrawal.burnId = none) :
    s.recordOrRetryWithdrawalBurnedEvent withdrawal = { s with
      withdrawalBurnedEvents := s.withdrawalBurnedEvents.insert withdrawal.burnId withdrawal } := by
  simp [recordOrRetryWithdrawalBurnedEvent, WithdrawalEvent.getBurnId, absent]

theorem recordWithdrawalRedeemedEvent_eq_ok {withdrawal : WithdrawalEvent} :
    s.recordWithdrawalRedeemedEvent withdrawal = .ok next ↔
      (s.withdrawalBurnedEvents.get withdrawal.burnId).isSome ∧
        next = { s with
          withdrawalBurnedEvents := s.withdrawalBurnedEvents.erase withdrawal.burnId
          withdrawalRedeemedEvents := s.withdrawalRedeemedEvents.insert withdrawal.burnId
            { withdrawal with retry := withdrawal.retry.resetRetries } } := by
  dsimp only [recordWithdrawalRedeemedEvent, WithdrawalEvent.getBurnId]
  split <;> simp_all [Option.isSome_iff_ne_none]
  exact eq_comm

end State

end GalacticBridge
