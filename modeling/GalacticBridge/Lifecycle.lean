import GalacticBridge.Footprint

/-! The deposit lifecycle `discovered → accepted → minted` (or `→ invalid`) and the withdrawal
lifecycle `burned → redeemed` over whole runs. The store moves an entry from one table to the
next and never drops one; a key enters the lifecycle only through `record_or_retry_*`, which do
not look at the later tables. -/

namespace GalacticBridge

def depositPlaces (s : State) (key : String) : Nat :=
  (s.solanaSignatures.get key).isSome.toNat + (s.invalidEvents.get key).isSome.toNat +
    (s.acceptedEvents.get key).isSome.toNat + (s.mintedEvents.get key).isSome.toNat

def withdrawalPlaces (s : State) (burnId : UInt64) : Nat :=
  (s.withdrawalBurnedEvents.get burnId).isSome.toNat +
    (s.withdrawalRedeemedEvents.get burnId).isSome.toNat

def DepositKeysDisjoint (s : State) : Prop := ∀ key, depositPlaces s key ≤ 1

def WithdrawalKeysDisjoint (s : State) : Prop := ∀ burnId, withdrawalPlaces s burnId ≤ 1

def depositLocations (key : String) : List Location :=
  [.solanaSignature key, .invalidEvent key, .acceptedEvent key, .mintedEvent key]

def withdrawalLocations (burnId : UInt64) : List Location :=
  [.withdrawalBurnedEvent burnId, .withdrawalRedeemedEvent burnId]

def Op.rediscovers : Op → State → Bool
  | .recordOrRetrySolanaSignature sig, s =>
    s.invalidEvents.containsKey sig.solSig || s.acceptedEvents.containsKey sig.solSig ||
      s.mintedEvents.containsKey sig.solSig
  | _, _ => false

def Op.reburns : Op → State → Bool
  | .recordOrRetryWithdrawalBurnedEvent withdrawal, s =>
    s.withdrawalRedeemedEvents.containsKey withdrawal.burnId
  | _, _ => false

section Frame

variable {op : Op} {s next : State}

theorem depositPlaces_of_untouched (step : op.run s = .ok next) {key : String}
    (untouched : ∀ location ∈ depositLocations key, location ∉ op.touches) :
    depositPlaces next key = depositPlaces s key := by
  have read location (listed : location ∈ depositLocations key) :=
    Op.read_run_of_not_mem step (untouched location listed)
  have signature := read (.solanaSignature key) (by simp [depositLocations])
  have invalid := read (.invalidEvent key) (by simp [depositLocations])
  have accepted := read (.acceptedEvent key) (by simp [depositLocations])
  have minted := read (.mintedEvent key) (by simp [depositLocations])
  simp only [State.read] at signature invalid accepted minted
  simp only [depositPlaces, signature, invalid, accepted, minted]

theorem withdrawalPlaces_of_untouched (step : op.run s = .ok next) {burnId : UInt64}
    (untouched : ∀ location ∈ withdrawalLocations burnId, location ∉ op.touches) :
    withdrawalPlaces next burnId = withdrawalPlaces s burnId := by
  have burned := Op.read_run_of_not_mem step
    (untouched (.withdrawalBurnedEvent burnId) (by simp [withdrawalLocations]))
  have redeemed := Op.read_run_of_not_mem step
    (untouched (.withdrawalRedeemedEvent burnId) (by simp [withdrawalLocations]))
  simp only [State.read] at burned redeemed
  simp only [withdrawalPlaces, burned, redeemed]

end Frame

theorem Op.writes_deposit_key {op : Op} {key : String} {location : Location}
    (listed : location ∈ depositLocations key) (touched : location ∈ op.touches) :
    (∃ sig, op = .recordOrRetrySolanaSignature sig ∧ sig.solSig = key) ∨
      (∃ sig, op = .recordInvalidEvent sig ∧ sig.solSig = key) ∨
      (∃ deposit, op = .recordOrRetryAcceptedEvent deposit ∧ deposit.solSig = key) ∨
      ∃ deposit, op = .recordMintedEvent deposit ∧ deposit.solSig = key := by
  simp only [depositLocations, List.mem_cons, List.not_mem_nil, or_false] at listed
  rcases listed with rfl | rfl | rfl | rfl
  · exact (Op.mem_touches_solanaSignature touched).imp_right (.imp_right .inl)
  · exact .inr (.inl (Op.mem_touches_invalidEvent touched))
  · exact .inr (.inr (Op.mem_touches_acceptedEvent touched))
  · exact .inr (.inr (.inr (Op.mem_touches_mintedEvent touched)))

theorem Op.writes_withdrawal_key {op : Op} {burnId : UInt64} {location : Location}
    (listed : location ∈ withdrawalLocations burnId) (touched : location ∈ op.touches) :
    (∃ withdrawal, op = .recordOrRetryWithdrawalBurnedEvent withdrawal ∧
        withdrawal.burnId = burnId) ∨
      ∃ withdrawal, op = .recordWithdrawalRedeemedEvent withdrawal ∧
        withdrawal.burnId = burnId := by
  simp only [withdrawalLocations, List.mem_cons, List.not_mem_nil, or_false] at listed
  rcases listed with rfl | rfl
  · exact Op.mem_touches_withdrawalBurnedEvent touched
  · exact .inr (Op.mem_touches_withdrawalRedeemedEvent touched)

theorem depositPlaces_step {op : Op} {s next : State} (step : op.run s = .ok next)
    (key : String) :
    depositPlaces next key = depositPlaces s key ∨
      (∃ sig, op = .recordOrRetrySolanaSignature sig ∧ sig.solSig = key ∧
        s.solanaSignatures.get key = none ∧ depositPlaces next key = depositPlaces s key + 1) := by
  by_cases untouched : ∀ location ∈ depositLocations key, location ∉ op.touches
  · exact .inl (depositPlaces_of_untouched step untouched)
  simp only [not_forall, not_not] at untouched
  obtain ⟨location, listed, touched⟩ := untouched
  rcases Op.writes_deposit_key listed touched with
    ⟨sig, rfl, rfl⟩ | ⟨sig, rfl, rfl⟩ | ⟨deposit, rfl, rfl⟩ | ⟨deposit, rfl, rfl⟩
  · simp only [Op.run, Except.ok.injEq] at step
    subst step
    cases found : s.solanaSignatures.get sig.solSig with
    | none =>
      refine .inr ⟨sig, rfl, rfl, rfl, ?_⟩
      simp [State.recordOrRetrySolanaSignature_of_get_none found, depositPlaces, found]
      omega
    | some existing =>
      left
      simp [State.recordOrRetrySolanaSignature_of_get_some found, depositPlaces, found]
  · obtain ⟨signature, invalid, rfl⟩ := State.recordInvalidEvent_eq_ok.mp step
    left
    simp [depositPlaces, invalid, signature]
  · left
    rcases State.recordOrRetryAcceptedEvent_eq_ok.mp step with
      ⟨accepted, signature, rfl⟩ | ⟨existing, accepted, rfl⟩
    · simp [depositPlaces, accepted, signature]
      omega
    · simp [depositPlaces, accepted]
  · obtain ⟨accepted, minted, rfl⟩ := State.recordMintedEvent_eq_ok.mp step
    left
    simp [depositPlaces, accepted, minted]

theorem withdrawalPlaces_step {op : Op} {s next : State} (step : op.run s = .ok next)
    (burnId : UInt64) :
    withdrawalPlaces next burnId = withdrawalPlaces s burnId ∨
      (∃ withdrawal, op = .recordOrRetryWithdrawalBurnedEvent withdrawal ∧
        withdrawal.burnId = burnId ∧ s.withdrawalBurnedEvents.get burnId = none ∧
        withdrawalPlaces next burnId = withdrawalPlaces s burnId + 1) ∨
      ((s.withdrawalBurnedEvents.get burnId).isSome ∧ withdrawalPlaces next burnId = 1) := by
  by_cases untouched : ∀ location ∈ withdrawalLocations burnId, location ∉ op.touches
  · exact .inl (withdrawalPlaces_of_untouched step untouched)
  simp only [not_forall, not_not] at untouched
  obtain ⟨location, listed, touched⟩ := untouched
  rcases Op.writes_withdrawal_key listed touched with
    ⟨withdrawal, rfl, rfl⟩ | ⟨withdrawal, rfl, rfl⟩
  · simp only [Op.run, Except.ok.injEq] at step
    subst step
    cases found : s.withdrawalBurnedEvents.get withdrawal.burnId with
    | none =>
      refine .inr (.inl ⟨withdrawal, rfl, rfl, rfl, ?_⟩)
      simp [State.recordOrRetryWithdrawalBurnedEvent_of_get_none found, withdrawalPlaces, found]
      omega
    | some event =>
      left
      simp [State.recordOrRetryWithdrawalBurnedEvent_of_get_some found, withdrawalPlaces, found]
  · obtain ⟨burned, rfl⟩ := State.recordWithdrawalRedeemedEvent_eq_ok.mp step
    exact .inr (.inr ⟨burned, by simp [withdrawalPlaces]⟩)

theorem mintedEvents_get_step {op : Op} {s next : State} (step : op.run s = .ok next)
    {key : String} {deposit : DepositEvent} (minted : s.mintedEvents.get key = some deposit) :
    next.mintedEvents.get key = some deposit := by
  by_cases touched : Location.mintedEvent key ∈ op.touches
  · obtain ⟨deposit, rfl, rfl⟩ := Op.mem_touches_mintedEvent touched
    obtain ⟨-, absent, -⟩ := State.recordMintedEvent_eq_ok.mp step
    simp [absent] at minted
  · exact (Op.read_run_of_not_mem step touched).trans minted

theorem invalidEvents_get_step {op : Op} {s next : State} (step : op.run s = .ok next)
    {key : String} {sig : SolanaSignature} (invalid : s.invalidEvents.get key = some sig) :
    next.invalidEvents.get key = some sig := by
  by_cases touched : Location.invalidEvent key ∈ op.touches
  · obtain ⟨sig, rfl, rfl⟩ := Op.mem_touches_invalidEvent touched
    obtain ⟨-, absent, -⟩ := State.recordInvalidEvent_eq_ok.mp step
    simp [absent] at invalid
  · exact (Op.read_run_of_not_mem step touched).trans invalid

theorem withdrawalRedeemedEvents_get_step {op : Op} {s next : State} (step : op.run s = .ok next)
    (disjoint : WithdrawalKeysDisjoint s) {burnId : UInt64} {withdrawal : WithdrawalEvent}
    (redeemed : s.withdrawalRedeemedEvents.get burnId = some withdrawal) :
    next.withdrawalRedeemedEvents.get burnId = some withdrawal := by
  by_cases touched : Location.withdrawalRedeemedEvent burnId ∈ op.touches
  · have atMostOne := disjoint burnId
    obtain ⟨redeeming, rfl, rfl⟩ := Op.mem_touches_withdrawalRedeemedEvent touched
    obtain ⟨burned, -⟩ := State.recordWithdrawalRedeemedEvent_eq_ok.mp step
    simp [withdrawalPlaces, burned, redeemed] at atMostOne
  · exact (Op.read_run_of_not_mem step touched).trans redeemed

theorem depositPlaces_pos_step {op : Op} {s next : State} (step : op.run s = .ok next)
    {key : String} (held : 0 < depositPlaces s key) : 0 < depositPlaces next key := by
  rcases depositPlaces_step step key with same | ⟨-, -, -, -, added⟩ <;> omega

theorem withdrawalPlaces_pos_step {op : Op} {s next : State} (step : op.run s = .ok next)
    {burnId : UInt64} (held : 0 < withdrawalPlaces s burnId) :
    0 < withdrawalPlaces next burnId := by
  rcases withdrawalPlaces_step step burnId with same | ⟨-, -, -, -, added⟩ | ⟨-, one⟩ <;> omega

/-- Nothing is dropped: along every run, a key held by some deposit table (a burn id held by
some withdrawal table) stays held by one, and a minted or invalid entry stays as stored. -/
theorem run_keeps_every_event (s : State) (ops : List Op) :
    RunEnds (fun final =>
      (∀ key, 0 < depositPlaces s key → 0 < depositPlaces final key) ∧
      (∀ burnId, 0 < withdrawalPlaces s burnId → 0 < withdrawalPlaces final burnId) ∧
      (∀ key deposit, s.mintedEvents.get key = some deposit →
        final.mintedEvents.get key = some deposit) ∧
      (∀ key sig, s.invalidEvents.get key = some sig → final.invalidEvents.get key = some sig))
      (run s ops) := by
  refine run_preserves _ (fun op t next ⟨deposits, withdrawals, minted, invalid⟩ step => ?_) ops s
    ⟨fun _ held => held, fun _ held => held, fun _ _ found => found, fun _ _ found => found⟩
  exact ⟨fun key held => depositPlaces_pos_step step (deposits key held),
    fun burnId held => withdrawalPlaces_pos_step step (withdrawals burnId held),
    fun key deposit found => mintedEvents_get_step step (minted key deposit found),
    fun key sig found => invalidEvents_get_step step (invalid key sig found)⟩

theorem depositKeysDisjoint_ofInitArg (arg : InitArg) :
    DepositKeysDisjoint (State.ofInitArg arg) := by
  simp [DepositKeysDisjoint, depositPlaces, State.ofInitArg]

theorem withdrawalKeysDisjoint_ofInitArg (arg : InitArg) :
    WithdrawalKeysDisjoint (State.ofInitArg arg) := by
  simp [WithdrawalKeysDisjoint, withdrawalPlaces, State.ofInitArg]

theorem depositKeysDisjoint_step {op : Op} {s next : State} (step : op.run s = .ok next)
    (disjoint : DepositKeysDisjoint s) (fresh : op.rediscovers s = false) :
    DepositKeysDisjoint next := by
  intro key
  rcases depositPlaces_step step key with same | ⟨sig, rfl, rfl, absent, added⟩
  · exact same ▸ disjoint key
  · simp only [Op.rediscovers, Table.containsKey_eq, Bool.or_eq_false_iff, Option.not_isSome,
      Option.isNone_iff_eq_none] at fresh
    rw [added]
    simp [depositPlaces, absent, fresh]

theorem earlier_tables_none_of_classified {s : State} {key : String}
    (atMostOne : depositPlaces s key ≤ 1)
    (classified : (s.mintedEvents.get key).isSome ∨ (s.invalidEvents.get key).isSome) :
    s.solanaSignatures.get key = none ∧ s.acceptedEvents.get key = none := by
  unfold depositPlaces at atMostOne
  cases signature : s.solanaSignatures.get key <;> cases accepted : s.acceptedEvents.get key <;>
    rcases classified with held | held <;> simp_all <;> omega

/-- Over a run that never discovers again a signature already invalid, accepted or minted, the
four deposit tables stay pairwise disjoint, and a signature that was minted or invalid is never
back in `solana_signatures` or `accepted_events`. -/
theorem run_keeps_deposit_keys_disjoint (s : State) (ops : List Op)
    (disjoint : DepositKeysDisjoint s)
    (noRediscovery : runAll (fun op t => !op.rediscovers t) s ops = true) :
    RunEnds (fun final => DepositKeysDisjoint final ∧
      ∀ key, (s.mintedEvents.get key).isSome ∨ (s.invalidEvents.get key).isSome →
        final.solanaSignatures.get key = none ∧ final.acceptedEvents.get key = none)
      (run s ops) := by
  have kept := run_preserves_of_runAll
    (fun t => DepositKeysDisjoint t ∧ ∀ key, (s.mintedEvents.get key).isSome ∨
      (s.invalidEvents.get key).isSome →
        (t.mintedEvents.get key).isSome ∨ (t.invalidEvents.get key).isSome)
    _ (fun op t next ⟨disjointNow, classified⟩ allowed step => ⟨depositKeysDisjoint_step step
      disjointNow (by simpa using allowed), fun key was => ?_⟩) ops s ⟨disjoint, fun _ was => was⟩
    noRediscovery
  · revert kept
    cases run s ops with
    | error _ => simp [RunEnds]
    | ok final =>
      rintro ⟨disjointFinal, classified⟩
      exact ⟨disjointFinal, fun key was =>
        earlier_tables_none_of_classified (disjointFinal key) (classified key was)⟩
  · rcases classified key was with held | held
    · obtain ⟨deposit, found⟩ := Option.isSome_iff_exists.mp held
      exact .inl (by simp [mintedEvents_get_step step found])
    · obtain ⟨sig, found⟩ := Option.isSome_iff_exists.mp held
      exact .inr (by simp [invalidEvents_get_step step found])

theorem deposit_keys_disjoint_after_discover_and_reject :
    DepositKeysDisjoint { State.ofInitArg sampleInitArg with
      mintedEvents := Table.empty.insert "M" ⟨"M", 0, ⟨0⟩⟩ } ∧
    runAll (fun op t => !op.rediscovers t) { State.ofInitArg sampleInitArg with
        mintedEvents := Table.empty.insert "M" ⟨"M", 0, ⟨0⟩⟩ }
      [.recordOrRetrySolanaSignature ⟨"S1", ⟨0⟩⟩, .recordInvalidEvent ⟨"S1", ⟨2⟩⟩] = true ∧
    ∃ final, run { State.ofInitArg sampleInitArg with
        mintedEvents := Table.empty.insert "M" ⟨"M", 0, ⟨0⟩⟩ }
      [.recordOrRetrySolanaSignature ⟨"S1", ⟨0⟩⟩, .recordInvalidEvent ⟨"S1", ⟨2⟩⟩] = .ok final ∧
    DepositKeysDisjoint final ∧
      ∀ key, ((Table.empty.insert "M" ⟨"M", 0, ⟨0⟩⟩ : Table String DepositEvent).get key).isSome ∨
        ((State.ofInitArg sampleInitArg).invalidEvents.get key).isSome →
        final.solanaSignatures.get key = none ∧ final.acceptedEvents.get key = none :=
  have disjoint : DepositKeysDisjoint { State.ofInitArg sampleInitArg with
      mintedEvents := Table.empty.insert "M" ⟨"M", 0, ⟨0⟩⟩ } := fun key => by
    by_cases same : key = "M" <;> simp [depositPlaces, State.ofInitArg, same]
  have fresh : runAll (fun op t => !op.rediscovers t) { State.ofInitArg sampleInitArg with
        mintedEvents := Table.empty.insert "M" ⟨"M", 0, ⟨0⟩⟩ }
      [.recordOrRetrySolanaSignature ⟨"S1", ⟨0⟩⟩, .recordInvalidEvent ⟨"S1", ⟨2⟩⟩] = true := by
    decide
  ⟨disjoint, fresh, _, rfl, run_keeps_deposit_keys_disjoint _ _ disjoint fresh⟩

/-- Discovering a signature that is already minted puts it in two deposit tables. -/
theorem rediscovery_breaks_deposit_disjointness :
    DepositKeysDisjoint { State.ofInitArg default with
      mintedEvents := Table.empty.insert "S1" ⟨"S1", 0, ⟨0⟩⟩ } ∧
    ¬ RunEnds DepositKeysDisjoint (run { State.ofInitArg default with
      mintedEvents := Table.empty.insert "S1" ⟨"S1", 0, ⟨0⟩⟩ }
      [.recordOrRetrySolanaSignature ⟨"S1", ⟨0⟩⟩]) := by
  refine ⟨fun key => ?_, fun disjoint => absurd (disjoint "S1") (by decide)⟩
  by_cases same : key = "S1" <;> simp [depositPlaces, State.ofInitArg, same]

theorem withdrawalKeysDisjoint_step {op : Op} {s next : State} (step : op.run s = .ok next)
    (disjoint : WithdrawalKeysDisjoint s) (fresh : op.reburns s = false) :
    WithdrawalKeysDisjoint next := by
  intro burnId
  rcases withdrawalPlaces_step step burnId with
    same | ⟨withdrawal, rfl, rfl, absent, added⟩ | ⟨-, one⟩
  · exact same ▸ disjoint burnId
  · simp only [Op.reburns, Table.containsKey_eq, Option.not_isSome,
      Option.isNone_iff_eq_none] at fresh
    rw [added]
    simp [withdrawalPlaces, absent, fresh]
  · exact Nat.le_of_eq one

/-- Over a run that never records as burned a burn id already redeemed, no burn id is both burned
and redeemed, and a redeemed withdrawal, its coupon included, is never replaced. -/
theorem run_keeps_withdrawal_keys_disjoint (s : State) (ops : List Op)
    (disjoint : WithdrawalKeysDisjoint s)
    (noReburn : runAll (fun op t => !op.reburns t) s ops = true) :
    RunEnds (fun final => WithdrawalKeysDisjoint final ∧
      ∀ burnId withdrawal, s.withdrawalRedeemedEvents.get burnId = some withdrawal →
        final.withdrawalRedeemedEvents.get burnId = some withdrawal) (run s ops) :=
  run_preserves_of_runAll _ _ (fun op t next ⟨disjointNow, redeemed⟩ allowed step =>
    ⟨withdrawalKeysDisjoint_step step disjointNow (by simpa using allowed),
      fun burnId withdrawal found =>
        withdrawalRedeemedEvents_get_step step disjointNow (redeemed burnId withdrawal found)⟩)
    ops s ⟨disjoint, fun _ _ found => found⟩ noReburn

theorem withdrawal_keys_disjoint_after_burn_and_redeem :
    WithdrawalKeysDisjoint { State.ofInitArg sampleInitArg with
      withdrawalRedeemedEvents := Table.empty.insert 9 ⟨9, none, ⟨0⟩⟩ } ∧
    runAll (fun op t => !op.reburns t) { State.ofInitArg sampleInitArg with
        withdrawalRedeemedEvents := Table.empty.insert 9 ⟨9, none, ⟨0⟩⟩ }
      [.recordOrRetryWithdrawalBurnedEvent ⟨7, none, ⟨0⟩⟩,
        .recordWithdrawalRedeemedEvent ⟨7, none, ⟨0⟩⟩] = true ∧
    ∃ final, run { State.ofInitArg sampleInitArg with
        withdrawalRedeemedEvents := Table.empty.insert 9 ⟨9, none, ⟨0⟩⟩ }
      [.recordOrRetryWithdrawalBurnedEvent ⟨7, none, ⟨0⟩⟩,
        .recordWithdrawalRedeemedEvent ⟨7, none, ⟨0⟩⟩] = .ok final ∧
    WithdrawalKeysDisjoint final ∧
      ∀ burnId withdrawal,
        (Table.empty.insert 9 ⟨9, none, ⟨0⟩⟩ : Table UInt64 WithdrawalEvent).get burnId =
          some withdrawal →
        final.withdrawalRedeemedEvents.get burnId = some withdrawal :=
  have disjoint : WithdrawalKeysDisjoint { State.ofInitArg sampleInitArg with
      withdrawalRedeemedEvents := Table.empty.insert 9 ⟨9, none, ⟨0⟩⟩ } := fun burnId => by
    by_cases same : burnId = 9 <;> simp [withdrawalPlaces, State.ofInitArg, same]
  have fresh : runAll (fun op t => !op.reburns t) { State.ofInitArg sampleInitArg with
        withdrawalRedeemedEvents := Table.empty.insert 9 ⟨9, none, ⟨0⟩⟩ }
      [.recordOrRetryWithdrawalBurnedEvent ⟨7, none, ⟨0⟩⟩,
        .recordWithdrawalRedeemedEvent ⟨7, none, ⟨0⟩⟩] = true := by
    decide
  ⟨disjoint, fresh, _, rfl, run_keeps_withdrawal_keys_disjoint _ _ disjoint fresh⟩

/-- Recording a burn under a redeemed burn id puts it in both withdrawal tables. -/
theorem reburn_breaks_withdrawal_disjointness :
    WithdrawalKeysDisjoint { State.ofInitArg default with
      withdrawalRedeemedEvents := Table.empty.insert 7 ⟨7, none, ⟨0⟩⟩ } ∧
    ¬ RunEnds WithdrawalKeysDisjoint (run { State.ofInitArg default with
      withdrawalRedeemedEvents := Table.empty.insert 7 ⟨7, none, ⟨0⟩⟩ }
      [.recordOrRetryWithdrawalBurnedEvent ⟨7, none, ⟨0⟩⟩]) := by
  refine ⟨fun burnId => ?_, fun disjoint => absurd (disjoint 7) (by decide)⟩
  by_cases same : burnId = 7 <;> simp [withdrawalPlaces, State.ofInitArg, same]

end GalacticBridge
