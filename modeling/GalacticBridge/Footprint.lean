import GalacticBridge.StateRun

/-! Where a call acts. A state is determined by what it holds at each location: a configuration
field, a counter, or one key of one table. Each call writes only the locations its arguments
name (`Op.touches`), and what it writes there depends only on what it reads there. -/

namespace GalacticBridge

inductive Location
  | solanaRpcUrl
  | solanaContractAddress
  | solanaInitialSignature
  | ecdsaKeyName
  | ecdsaPublicKey
  | ecdsaProxyPublicKey
  | minimumWithdrawalAmount
  | solanaLastKnownSignature
  | solanaSignatureRange (key : String)
  | solanaSignature (key : String)
  | invalidEvent (key : String)
  | acceptedEvent (key : String)
  | mintedEvent (key : String)
  | withdrawalBurnedEvent (key : UInt64)
  | withdrawalRedeemedEvent (key : UInt64)
  | withdrawingPrincipal (principal : Principal)
  | depositIdCounter
  | burnIdCounter
  | httpRequestCounter
  | activeTask (task : TaskType)
deriving DecidableEq, Repr

def Location.Value : Location → Type
  | .solanaRpcUrl => SolanaRpcUrl
  | .solanaContractAddress | .solanaInitialSignature | .ecdsaKeyName => String
  | .ecdsaPublicKey => Option EcdsaPublicKeyResponse
  | .ecdsaProxyPublicKey | .solanaLastKnownSignature => Option String
  | .minimumWithdrawalAmount => Nat
  | .solanaSignatureRange _ => Option SolanaSignatureRange
  | .solanaSignature _ | .invalidEvent _ => Option SolanaSignature
  | .acceptedEvent _ | .mintedEvent _ => Option DepositEvent
  | .withdrawalBurnedEvent _ | .withdrawalRedeemedEvent _ => Option WithdrawalEvent
  | .withdrawingPrincipal _ | .activeTask _ => Option Unit
  | .depositIdCounter | .burnIdCounter | .httpRequestCounter => UInt64

def State.read (s : State) : (location : Location) → location.Value
  | .solanaRpcUrl => s.solanaRpcUrl
  | .solanaContractAddress => s.solanaContractAddress
  | .solanaInitialSignature => s.solanaInitialSignature
  | .ecdsaKeyName => s.ecdsaKeyName
  | .ecdsaPublicKey => s.ecdsaPublicKey
  | .ecdsaProxyPublicKey => s.ecdsaProxyPublicKey
  | .minimumWithdrawalAmount => s.minimumWithdrawalAmount
  | .solanaLastKnownSignature => s.solanaLastKnownSignature
  | .solanaSignatureRange key => s.solanaSignatureRanges.get key
  | .solanaSignature key => s.solanaSignatures.get key
  | .invalidEvent key => s.invalidEvents.get key
  | .acceptedEvent key => s.acceptedEvents.get key
  | .mintedEvent key => s.mintedEvents.get key
  | .withdrawalBurnedEvent key => s.withdrawalBurnedEvents.get key
  | .withdrawalRedeemedEvent key => s.withdrawalRedeemedEvents.get key
  | .withdrawingPrincipal principal => s.withdrawingPrincipals.get principal
  | .depositIdCounter => s.depositIdCounter
  | .burnIdCounter => s.burnIdCounter
  | .httpRequestCounter => s.httpRequestCounter
  | .activeTask task => s.activeTasks.get task

theorem State.ext_read {s t : State} (same : ∀ location, s.read location = t.read location) :
    s = t := by
  cases s
  cases t
  simp only [State.mk.injEq]
  exact ⟨same .solanaRpcUrl, same .solanaContractAddress, same .solanaInitialSignature,
    same .ecdsaKeyName, same .ecdsaPublicKey, same .ecdsaProxyPublicKey,
    same .minimumWithdrawalAmount, same .solanaLastKnownSignature,
    Table.ext (funext fun key => same (.solanaSignatureRange key)),
    Table.ext (funext fun key => same (.solanaSignature key)),
    Table.ext (funext fun key => same (.invalidEvent key)),
    Table.ext (funext fun key => same (.acceptedEvent key)),
    Table.ext (funext fun key => same (.mintedEvent key)),
    Table.ext (funext fun key => same (.withdrawalBurnedEvent key)),
    Table.ext (funext fun key => same (.withdrawalRedeemedEvent key)),
    Table.ext (funext fun principal => same (.withdrawingPrincipal principal)),
    same .depositIdCounter, same .burnIdCounter, same .httpRequestCounter,
    Table.ext (funext fun task => same (.activeTask task))⟩

def SolanaSignatureRange.location (range : SolanaSignatureRange) : Location :=
  .solanaSignatureRange (rangeKey range.beforeSolSig range.untilSolSig)

/-- The locations a call writes: the table entries at the keys of its arguments, and the
counters, watermark and configuration fields it assigns. -/
def Op.touches : Op → List Location
  | .recordSolanaLastKnownSignature _ => [.solanaLastKnownSignature]
  | .recordSolanaSignatureRange range => [range.location]
  | .retrySolanaSignatureRange oldRange newRange =>
    oldRange.location :: (newRange.map SolanaSignatureRange.location).toList
  | .removeSolanaSignatureRange range => [range.location]
  | .recordOrRetrySolanaSignature sig => [.solanaSignature sig.solSig]
  | .recordInvalidEvent sig => [.solanaSignature sig.solSig, .invalidEvent sig.solSig]
  | .recordOrRetryAcceptedEvent deposit =>
    [.solanaSignature deposit.solSig, .acceptedEvent deposit.solSig]
  | .recordMintedEvent deposit => [.acceptedEvent deposit.solSig, .mintedEvent deposit.solSig]
  | .recordOrRetryWithdrawalBurnedEvent withdrawal => [.withdrawalBurnedEvent withdrawal.burnId]
  | .recordWithdrawalRedeemedEvent withdrawal =>
    [.withdrawalBurnedEvent withdrawal.burnId, .withdrawalRedeemedEvent withdrawal.burnId]
  | .nextRequestId => [.httpRequestCounter]
  | .nextDepositId | .setDepositIdCounter _ => [.depositIdCounter]
  | .nextBurnId | .setBurnIdCounter _ => [.burnIdCounter]
  | .upgrade upgradeArgs =>
    (if upgradeArgs.solanaRpcUrl.isSome then [.solanaRpcUrl] else []) ++
      (if upgradeArgs.solanaContractAddress.isSome then [.solanaContractAddress] else []) ++
      (if upgradeArgs.solanaInitialSignature.isSome then [.solanaInitialSignature] else []) ++
      (if upgradeArgs.ecdsaKeyName.isSome then [.ecdsaKeyName] else []) ++
      (if upgradeArgs.minimumWithdrawalAmount.isSome then [.minimumWithdrawalAmount] else [])
  | .setEcdsaPublicKey _ => [.ecdsaPublicKey]
  | .setEcdsaProxyPublicKey _ => [.ecdsaProxyPublicKey]
  | .insertActiveTask task | .removeActiveTask task => [.activeTask task]
  | .insertWithdrawingPrincipal principal | .removeWithdrawingPrincipal principal =>
    [.withdrawingPrincipal principal]

/-! ### Which calls write an entry of a lifecycle table -/

section Writers

variable {op : Op}

theorem Op.mem_touches_solanaSignature {key : String}
    (touched : Location.solanaSignature key ∈ op.touches) :
    (∃ sig, op = .recordOrRetrySolanaSignature sig ∧ sig.solSig = key) ∨
      (∃ sig, op = .recordInvalidEvent sig ∧ sig.solSig = key) ∨
      ∃ deposit, op = .recordOrRetryAcceptedEvent deposit ∧ deposit.solSig = key := by
  cases op <;> simp [Op.touches, SolanaSignatureRange.location] at touched <;> subst touched <;>
    simp

theorem Op.mem_touches_invalidEvent {key : String}
    (touched : Location.invalidEvent key ∈ op.touches) :
    ∃ sig, op = .recordInvalidEvent sig ∧ sig.solSig = key := by
  cases op <;> simp [Op.touches, SolanaSignatureRange.location] at touched
  subst touched
  simp

theorem Op.mem_touches_acceptedEvent {key : String}
    (touched : Location.acceptedEvent key ∈ op.touches) :
    (∃ deposit, op = .recordOrRetryAcceptedEvent deposit ∧ deposit.solSig = key) ∨
      ∃ deposit, op = .recordMintedEvent deposit ∧ deposit.solSig = key := by
  cases op <;> simp [Op.touches, SolanaSignatureRange.location] at touched <;> subst touched <;>
    simp

theorem Op.mem_touches_mintedEvent {key : String}
    (touched : Location.mintedEvent key ∈ op.touches) :
    ∃ deposit, op = .recordMintedEvent deposit ∧ deposit.solSig = key := by
  cases op <;> simp [Op.touches, SolanaSignatureRange.location] at touched
  subst touched
  simp

theorem Op.mem_touches_withdrawalBurnedEvent {burnId : UInt64}
    (touched : Location.withdrawalBurnedEvent burnId ∈ op.touches) :
    (∃ withdrawal, op = .recordOrRetryWithdrawalBurnedEvent withdrawal ∧
        withdrawal.burnId = burnId) ∨
      ∃ withdrawal, op = .recordWithdrawalRedeemedEvent withdrawal ∧
        withdrawal.burnId = burnId := by
  cases op <;> simp [Op.touches, SolanaSignatureRange.location] at touched <;> subst touched <;>
    simp

theorem Op.mem_touches_withdrawalRedeemedEvent {burnId : UInt64}
    (touched : Location.withdrawalRedeemedEvent burnId ∈ op.touches) :
    ∃ withdrawal, op = .recordWithdrawalRedeemedEvent withdrawal ∧ withdrawal.burnId = burnId := by
  cases op <;> simp [Op.touches, SolanaSignatureRange.location] at touched
  subst touched
  simp

end Writers

/-- A call leaves every location outside its footprint as it was. -/
theorem Op.read_run_of_not_mem {op : Op} {s next : State} (step : op.run s = .ok next)
    {location : Location} (untouched : location ∉ op.touches) :
    next.read location = s.read location := by
  cases op with
  | recordSolanaSignatureRange range =>
    obtain ⟨-, rfl⟩ := State.recordSolanaSignatureRange_eq_ok.mp step
    cases location <;>
      first | rfl | simp_all [State.read, Op.touches, SolanaSignatureRange.location]
  | retrySolanaSignatureRange oldRange newRange =>
    cases newRange with
    | none =>
      obtain ⟨stored, -, rfl⟩ := State.retrySolanaSignatureRange_none_eq_ok.mp step
      cases location <;>
        first | rfl | simp_all [State.read, Op.touches, SolanaSignatureRange.location]
    | some newRange =>
      obtain ⟨-, recorded⟩ := State.retrySolanaSignatureRange_some_eq_ok.mp step
      obtain ⟨-, rfl⟩ := State.recordSolanaSignatureRange_eq_ok.mp recorded
      cases location <;>
        first | rfl | simp_all [State.read, Op.touches, SolanaSignatureRange.location]
  | removeSolanaSignatureRange range =>
    obtain ⟨-, rfl⟩ := State.removeSolanaSignatureRange_eq_ok.mp step
    cases location <;>
      first | rfl | simp_all [State.read, Op.touches, SolanaSignatureRange.location]
  | recordOrRetrySolanaSignature sig =>
    simp only [Op.run, Except.ok.injEq] at step
    subst step
    unfold State.recordOrRetrySolanaSignature
    split <;> cases location <;> first | rfl | simp_all [State.read, Op.touches]
  | recordInvalidEvent sig =>
    obtain ⟨-, -, rfl⟩ := State.recordInvalidEvent_eq_ok.mp step
    cases location <;> first | rfl | simp_all [State.read, Op.touches]
  | recordOrRetryAcceptedEvent deposit =>
    rcases State.recordOrRetryAcceptedEvent_eq_ok.mp step with ⟨-, -, rfl⟩ | ⟨_, -, rfl⟩ <;>
      cases location <;> first | rfl | simp_all [State.read, Op.touches]
  | recordMintedEvent deposit =>
    obtain ⟨-, -, rfl⟩ := State.recordMintedEvent_eq_ok.mp step
    cases location <;> first | rfl | simp_all [State.read, Op.touches]
  | recordOrRetryWithdrawalBurnedEvent withdrawal =>
    simp only [Op.run, Except.ok.injEq] at step
    subst step
    dsimp only [State.recordOrRetryWithdrawalBurnedEvent]
    split <;> cases location <;> first | rfl | simp_all [State.read, Op.touches,
      WithdrawalEvent.getBurnId]
  | recordWithdrawalRedeemedEvent withdrawal =>
    obtain ⟨-, rfl⟩ := State.recordWithdrawalRedeemedEvent_eq_ok.mp step
    cases location <;> first | rfl | simp_all [State.read, Op.touches]
  | upgrade upgradeArgs =>
    simp only [Op.run, Except.ok.injEq, State.upgrade_snd] at step
    subst step
    cases location <;>
      first | rfl | simp_all [State.read, Op.touches, Option.not_isSome_iff_eq_none]
  | _ =>
    simp only [Op.run, Except.ok.injEq] at step
    subst step
    cases location <;> first | rfl | simp_all [State.read, Op.touches]

end GalacticBridge
