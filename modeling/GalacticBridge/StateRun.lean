import GalacticBridge.StateCore

/-! Runs of the state store: every mutation a task or an endpoint applies through
`mutate_state`, one after another. The spec lemmas say once what each transformation does when it
returns without a trap; the theorems about runs use them instead of the definitions. -/

namespace GalacticBridge

/-- One call that mutates the state: a `State` method, or a field write of
`lazy_call_ecdsa_public_key`. The locks that timer tasks take in `active_tasks` and withdrawals in
`withdrawing_principals` (guard module, not under src/) are modelled from the spec. -/
inductive Op
  | recordSolanaLastKnownSignature (sig : String)
  | recordSolanaSignatureRange (range : SolanaSignatureRange)
  | retrySolanaSignatureRange (oldRange : SolanaSignatureRange)
      (newRange : Option SolanaSignatureRange)
  | removeSolanaSignatureRange (range : SolanaSignatureRange)
  | recordOrRetrySolanaSignature (sig : SolanaSignature)
  | recordInvalidEvent (sig : SolanaSignature)
  | recordOrRetryAcceptedEvent (deposit : DepositEvent)
  | recordMintedEvent (deposit : DepositEvent)
  | recordOrRetryWithdrawalBurnedEvent (withdrawal : WithdrawalEvent)
  | recordWithdrawalRedeemedEvent (withdrawal : WithdrawalEvent)
  | nextRequestId
  | nextDepositId
  | nextBurnId
  | setDepositIdCounter (id : UInt64)
  | setBurnIdCounter (id : UInt64)
  | upgrade (upgradeArgs : UpgradeArg)
  | setEcdsaPublicKey (response : EcdsaPublicKeyResponse)
  | setEcdsaProxyPublicKey (key : String)
  | insertActiveTask (task : TaskType)
  | removeActiveTask (task : TaskType)
  | insertWithdrawingPrincipal (principal : Principal)
  | removeWithdrawingPrincipal (principal : Principal)
deriving DecidableEq, Repr

def Op.run : Op → State → Except String State
  | .recordSolanaLastKnownSignature sig, s => .ok (s.recordSolanaLastKnownSignature sig)
  | .recordSolanaSignatureRange range, s => s.recordSolanaSignatureRange range
  | .retrySolanaSignatureRange oldRange newRange, s =>
    s.retrySolanaSignatureRange oldRange newRange
  | .removeSolanaSignatureRange range, s => s.removeSolanaSignatureRange range
  | .recordOrRetrySolanaSignature sig, s => .ok (s.recordOrRetrySolanaSignature sig)
  | .recordInvalidEvent sig, s => s.recordInvalidEvent sig
  | .recordOrRetryAcceptedEvent deposit, s => s.recordOrRetryAcceptedEvent deposit
  | .recordMintedEvent deposit, s => s.recordMintedEvent deposit
  | .recordOrRetryWithdrawalBurnedEvent withdrawal, s =>
    .ok (s.recordOrRetryWithdrawalBurnedEvent withdrawal)
  | .recordWithdrawalRedeemedEvent withdrawal, s => s.recordWithdrawalRedeemedEvent withdrawal
  | .nextRequestId, s => .ok s.nextRequestId.2
  | .nextDepositId, s => .ok s.nextDepositId.2
  | .nextBurnId, s => .ok s.nextBurnId.2
  | .setDepositIdCounter id, s => .ok (s.setDepositIdCounter id)
  | .setBurnIdCounter id, s => .ok (s.setBurnIdCounter id)
  | .upgrade upgradeArgs, s => .ok (s.upgrade upgradeArgs).2
  | .setEcdsaPublicKey response, s => .ok { s with ecdsaPublicKey := some response }
  | .setEcdsaProxyPublicKey key, s => .ok { s with ecdsaProxyPublicKey := some key }
  | .insertActiveTask task, s => .ok { s with activeTasks := s.activeTasks.insert task () }
  | .removeActiveTask task, s => .ok { s with activeTasks := s.activeTasks.erase task }
  | .insertWithdrawingPrincipal principal, s =>
    .ok { s with withdrawingPrincipals := s.withdrawingPrincipals.insert principal () }
  | .removeWithdrawingPrincipal principal, s =>
    .ok { s with withdrawingPrincipals := s.withdrawingPrincipals.erase principal }

def run : State → List Op → Except String State
  | s, [] => .ok s
  | s, op :: ops =>
    match op.run s with
    | .ok next => run next ops
    | .error message => .error message

def RunEnds (property : State → Prop) : Except String State → Prop
  | .ok s => property s
  | .error _ => True

def runAll (check : Op → State → Bool) : State → List Op → Bool
  | _, [] => true
  | s, op :: ops =>
    check op s &&
      match op.run s with
      | .ok next => runAll check next ops
      | .error _ => true

@[simp] theorem run_nil (s : State) : run s [] = .ok s := rfl

theorem run_cons_of_ok {s next : State} {op : Op} (ops : List Op) (step : op.run s = .ok next) :
    run s (op :: ops) = run next ops := by
  simp [run, step]

theorem run_cons_eq_ok {s final : State} {op : Op} {ops : List Op} :
    run s (op :: ops) = .ok final ↔ ∃ next, op.run s = .ok next ∧ run next ops = .ok final := by
  simp only [run]
  split <;> simp_all

theorem runAll_cons_of_ok {check : Op → State → Bool} {s next : State} {op : Op}
    (ops : List Op) (step : op.run s = .ok next) :
    runAll check s (op :: ops) = (check op s && runAll check next ops) := by
  simp [runAll, step]

/-- An invariant of every successful call holds at the end of every run. -/
theorem run_preserves (invariant : State → Prop)
    (step : ∀ (op : Op) (s next : State), invariant s → op.run s = .ok next → invariant next) :
    ∀ ops s, invariant s → RunEnds invariant (run s ops) := by
  intro ops
  induction ops with
  | nil => intro s holds; exact holds
  | cons op ops ih =>
      intro s holds
      simp only [run]
      split
      next next found => exact ih next (step op s next holds found)
      next => trivial

theorem run_preserves_of_runAll (invariant : State → Prop) (guard : Op → State → Bool)
    (step : ∀ (op : Op) (s next : State),
      invariant s → guard op s = true → op.run s = .ok next → invariant next) :
    ∀ ops s, invariant s → runAll guard s ops = true → RunEnds invariant (run s ops) := by
  intro ops
  induction ops with
  | nil => intro s holds _; exact holds
  | cons op ops ih =>
      intro s holds allowed
      simp only [run]
      split
      next next found =>
        rw [runAll_cons_of_ok ops found, Bool.and_eq_true] at allowed
        exact ih next (step op s next holds allowed.1 found) allowed.2
      next => trivial

theorem RunEnds.mono {property property' : State → Prop} {result : Except String State}
    (holds : RunEnds property result) (implies : ∀ s, property s → property' s) :
    RunEnds property' result := by
  cases result with
  | ok s => exact implies s holds
  | error => trivial

end GalacticBridge
