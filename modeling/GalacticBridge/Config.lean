import GalacticBridge.Footprint

/-! The configuration. `State::upgrade` writes every field its argument gives, then returns
`validate_config` of the written state; a rejected upgrade is therefore not undone by `upgrade`
itself. A configuration that validates has a positive minimum withdrawal, so the checks of the
`withdraw` endpoint (`validate_caller_not_anonymous`, `is_over_limit`) refuse a zero amount. -/

namespace GalacticBridge

def isOverLimit (s : State) (withdrawAmount : Nat) : Except String Unit :=
  match compare s.minimumWithdrawalAmount withdrawAmount with
  | .gt => .error "withdraw amount is less than minimum withdrawal amount"
  | _ => .ok ()

namespace State

theorem validateConfig_eq_ok {s : State} :
    s.validateConfig = .ok () ↔
      (trim s.ecdsaKeyName).data ≠ [] ∧ (trim s.solanaContractAddress).data ≠ [] ∧
        (trim s.solanaInitialSignature).data ≠ [] ∧ 0 < s.minimumWithdrawalAmount := by
  unfold validateConfig
  split
  · simp_all
  · split
    · simp_all
    · split
      · simp_all
      · split <;> simp_all [Nat.pos_iff_ne_zero]

theorem upgrade_fst (s : State) (upgradeArgs : UpgradeArg) :
    (s.upgrade upgradeArgs).1 = (s.upgrade upgradeArgs).2.validateConfig := by
  unfold upgrade
  split <;> simp [toBiguint]

end State

theorem isOverLimit_zero {s : State} (valid : s.validateConfig = .ok ()) :
    isOverLimit s 0 = .error "withdraw amount is less than minimum withdrawal amount" := by
  have positive := (State.validateConfig_eq_ok.mp valid).2.2.2
  rw [isOverLimit, Nat.compare_eq_gt.mpr positive]

def Principal.anonymous : Principal := ⟨[0x04]⟩

def validateCallerNotAnonymous (caller : Principal) : Except String Principal :=
  if caller = Principal.anonymous then .error "anonymous principal is not allowed" else .ok caller

def isController (controls : Principal → Bool) (caller : Principal) : Except String Principal :=
  if controls caller then .ok caller else .error "only controller can call this method"

inductive MinterArg
  | init (initArg : InitArg)
  | upgrade (upgradeArg : UpgradeArg)
deriving DecidableEq, Repr

inductive EventType
  | init (initArg : InitArg)
  | lastKnownSolanaSignature (sig : String)
  | lastDepositIdCounter (counter : UInt64)
  | lastBurnIdCounter (counter : UInt64)
deriving DecidableEq, Repr

def init (tryFrom : InitArg → Except String State) :
    MinterArg → Except String (List EventType × State)
  | .init initArg =>
    match tryFrom initArg with
    | .ok s => .ok ([.init initArg], s)
    | .error error => .error ("failed to initialize minter: " ++ error)
  | .upgrade _ => .error "cannot init canister state with upgrade args"

def preUpgrade (s : State) : List EventType :=
  [.lastKnownSolanaSignature s.getSolanaLastKnownSignature,
    .lastDepositIdCounter s.depositIdCounter, .lastBurnIdCounter s.burnIdCounter]

def postUpgrade (lifecyclePostUpgrade : Option UpgradeArg → Except String State) :
    Option MinterArg → Except String State
  | some (.init _) => .error "cannot upgrade canister state with init args"
  | some (.upgrade upgradeArgs) => lifecyclePostUpgrade (some upgradeArgs)
  | none => lifecyclePostUpgrade none

def withdrawChecks (s : State) (caller : Principal) (withdrawAmount : Nat) :
    Except String Principal := do
  let caller ← validateCallerNotAnonymous caller
  isOverLimit s withdrawAmount
  return caller

theorem isOverLimit_eq_ok {s : State} {withdrawAmount : Nat} :
    isOverLimit s withdrawAmount = .ok () ↔ s.minimumWithdrawalAmount ≤ withdrawAmount := by
  unfold isOverLimit
  split
  next above => simpa using Nat.compare_eq_gt.mp above
  next notAbove => simpa using fun below => notAbove (Nat.compare_eq_gt.mpr below)

theorem withdrawChecks_eq_ok {s : State} {caller : Principal} {withdrawAmount : Nat} :
    withdrawChecks s caller withdrawAmount = .ok caller ↔
      caller ≠ Principal.anonymous ∧ s.minimumWithdrawalAmount ≤ withdrawAmount := by
  rw [← isOverLimit_eq_ok]
  by_cases anonymous : caller = Principal.anonymous <;>
    cases checked : isOverLimit s withdrawAmount <;>
    simp [withdrawChecks, validateCallerNotAnonymous, anonymous, checked, bind, Except.bind, pure,
      Except.pure]

theorem withdrawChecks_zero {s : State} (valid : s.validateConfig = .ok ()) (caller : Principal) :
    withdrawChecks s caller 0 ≠ .ok caller := fun accepted =>
  absurd (withdrawChecks_eq_ok.mp accepted).2
    (Nat.not_le.mpr (State.validateConfig_eq_ok.mp valid).2.2.2)

/-- `upgrade` writes each field its argument gives and nothing else, and its result is the
validation of the written state: when it is `Ok`, that state validates and `is_over_limit` traps
on a zero withdrawal; when it is an error, the written fields stay written. -/
theorem upgrade_writes_then_validates (s : State) (upgradeArgs : UpgradeArg) :
    (s.upgrade upgradeArgs).2 = { s with
      solanaRpcUrl := upgradeArgs.solanaRpcUrl.getD s.solanaRpcUrl
      solanaContractAddress := upgradeArgs.solanaContractAddress.getD s.solanaContractAddress
      solanaInitialSignature := upgradeArgs.solanaInitialSignature.getD s.solanaInitialSignature
      ecdsaKeyName := upgradeArgs.ecdsaKeyName.getD s.ecdsaKeyName
      minimumWithdrawalAmount :=
        (upgradeArgs.minimumWithdrawalAmount.map CandidNat.val).getD s.minimumWithdrawalAmount } ∧
    (s.upgrade upgradeArgs).1 = (s.upgrade upgradeArgs).2.validateConfig ∧
    ((s.upgrade upgradeArgs).1 = .ok () →
      (trim (s.upgrade upgradeArgs).2.ecdsaKeyName).data ≠ [] ∧
      (trim (s.upgrade upgradeArgs).2.solanaContractAddress).data ≠ [] ∧
      (trim (s.upgrade upgradeArgs).2.solanaInitialSignature).data ≠ [] ∧
      0 < (s.upgrade upgradeArgs).2.minimumWithdrawalAmount ∧
      isOverLimit (s.upgrade upgradeArgs).2 0 =
        .error "withdraw amount is less than minimum withdrawal amount") := by
  refine ⟨State.upgrade_snd upgradeArgs, State.upgrade_fst s upgradeArgs, fun accepted => ?_⟩
  rw [State.upgrade_fst] at accepted
  obtain ⟨key, address, signature, positive⟩ := State.validateConfig_eq_ok.mp accepted
  exact ⟨key, address, signature, positive, isOverLimit_zero accepted⟩

def Op.rejectedUpgrade : Op → State → Bool
  | .upgrade upgradeArgs, s => !(s.upgrade upgradeArgs).1.isOk
  | _, _ => false

section Run

variable {op : Op} {s next : State}

def Location.isConfig : Location → Bool
  | .ecdsaKeyName | .solanaContractAddress | .solanaInitialSignature | .minimumWithdrawalAmount =>
    true
  | _ => false

theorem Op.touches_not_config (notUpgrade : ∀ upgradeArgs, op ≠ .upgrade upgradeArgs) :
    op.touches.all (fun location => !location.isConfig) = true := by
  cases op
  case upgrade upgradeArgs => exact absurd rfl (notUpgrade upgradeArgs)
  case retrySolanaSignatureRange newRange => cases newRange <;> rfl
  all_goals rfl

theorem validateConfig_of_not_upgrade (step : op.run s = .ok next)
    (notUpgrade : ∀ upgradeArgs, op ≠ .upgrade upgradeArgs) :
    next.validateConfig = s.validateConfig := by
  have read (location : Location) (config : location.isConfig = true) :=
    Op.read_run_of_not_mem step fun touched => by
      simpa [config] using List.all_eq_true.mp (Op.touches_not_config notUpgrade) location touched
  have key := read .ecdsaKeyName rfl
  have address := read .solanaContractAddress rfl
  have signature := read .solanaInitialSignature rfl
  have amount := read .minimumWithdrawalAmount rfl
  simp only [State.read] at key address signature amount
  simp only [State.validateConfig, key, address, signature, amount]

theorem validateConfig_step (step : op.run s = .ok next) (valid : s.validateConfig = .ok ())
    (accepted : op.rejectedUpgrade s = false) : next.validateConfig = .ok () := by
  cases op
  case upgrade upgradeArgs =>
    simp only [Op.run, Except.ok.injEq] at step
    subst step
    simp only [Op.rejectedUpgrade, Bool.not_eq_false', State.upgrade_fst] at accepted
    revert accepted
    cases (s.upgrade upgradeArgs).2.validateConfig <;> simp [Except.isOk, Except.toBool]
  all_goals exact (validateConfig_of_not_upgrade step (by simp)).trans valid

end Run

/-- Along every run from a state whose configuration validates, in which no upgrade is rejected,
the configuration keeps validating: in every state reached the minimum withdrawal is positive,
`is_over_limit` traps on a zero amount, and the `withdraw` endpoint refuses it. -/
theorem accepted_upgrades_keep_zero_withdrawals_refused (s : State) (ops : List Op)
    (valid : s.validateConfig = .ok ())
    (noRejectedUpgrade : runAll (fun op t => !op.rejectedUpgrade t) s ops = true) :
    RunEnds (fun final => final.validateConfig = .ok () ∧ 0 < final.minimumWithdrawalAmount ∧
      isOverLimit final 0 = .error "withdraw amount is less than minimum withdrawal amount" ∧
      ∀ caller, withdrawChecks final caller 0 ≠ .ok caller) (run s ops) :=
  (run_preserves_of_runAll (fun t => t.validateConfig = .ok ()) _
    (fun _ _ _ valid allowed step => validateConfig_step step valid (by simpa using allowed))
    ops s valid noRejectedUpgrade).mono
    fun _ valid => ⟨valid, (State.validateConfig_eq_ok.mp valid).2.2.2, isOverLimit_zero valid,
      withdrawChecks_zero valid⟩

theorem accepted_upgrade_keeps_zero_withdrawals_refused :
    (State.ofInitArg sampleInitArg).validateConfig = .ok () ∧
    runAll (fun op t => !op.rejectedUpgrade t) (State.ofInitArg sampleInitArg)
      [.recordOrRetrySolanaSignature ⟨"S1", ⟨0⟩⟩,
        .upgrade ⟨none, none, none, some "key2", some ⟨5⟩⟩, .nextBurnId] = true ∧
    RunEnds (fun final => final.validateConfig = .ok () ∧ 0 < final.minimumWithdrawalAmount ∧
      isOverLimit final 0 = .error "withdraw amount is less than minimum withdrawal amount" ∧
      ∀ caller, withdrawChecks final caller 0 ≠ .ok caller)
      (run (State.ofInitArg sampleInitArg)
        [.recordOrRetrySolanaSignature ⟨"S1", ⟨0⟩⟩,
          .upgrade ⟨none, none, none, some "key2", some ⟨5⟩⟩, .nextBurnId]) :=
  ⟨rfl, rfl, accepted_upgrades_keep_zero_withdrawals_refused _ _ rfl rfl⟩

/-- A rejected upgrade leaves its blank key name written into a state that validated before. -/
theorem rejected_upgrade_keeps_written_field :
    (State.ofInitArg sampleInitArg).validateConfig = .ok () ∧
    ((State.ofInitArg sampleInitArg).upgrade ⟨none, none, none, some "", none⟩).1 =
      .error (.invalidEcdsaKeyName "ecdsa_key_name cannot be blank") ∧
    ((State.ofInitArg sampleInitArg).upgrade ⟨none, none, none, some "", none⟩).2 ≠
      State.ofInitArg sampleInitArg :=
  ⟨rfl, rfl, fun same => absurd (congrArg State.ecdsaKeyName same) (by decide)⟩

end GalacticBridge
