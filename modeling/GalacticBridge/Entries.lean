import GalacticBridge.Lifecycle
import GalacticBridge.RangeKeys

/-! What a stored entry says about the key it is stored under. Every mutator stores a record
under the key the record names (`range_key` of a range's pair, a signature's or deposit's
`sol_sig`, a withdrawal's burn id), and resets the retries of an entry it moves to a terminal
table. With the disjointness of the lifecycle tables this keeps the traps of the next lifecycle
step away from every stored entry: a task that passes a stored entry back advances it. -/

namespace GalacticBridge

/-- What the store keeps: an entry sits under the key its record names, and an entry of a
terminal table (`invalid_events`, `minted_events`, `withdrawal_redeemed_events`) has its retries
reset. -/
structure EntriesKeyed (s : State) : Prop where
  ranges : ∀ key range, s.solanaSignatureRanges.get key = some range →
    rangeKey range.beforeSolSig range.untilSolSig = key
  signatures : ∀ key sig, s.solanaSignatures.get key = some sig → sig.solSig = key
  invalid : ∀ key sig, s.invalidEvents.get key = some sig → sig.solSig = key ∧ sig.retry.retries = 0
  accepted : ∀ key deposit, s.acceptedEvents.get key = some deposit → deposit.solSig = key
  minted : ∀ key deposit, s.mintedEvents.get key = some deposit →
    deposit.solSig = key ∧ deposit.retry.retries = 0
  burned : ∀ burnId withdrawal, s.withdrawalBurnedEvents.get burnId = some withdrawal →
    withdrawal.burnId = burnId
  redeemed : ∀ burnId withdrawal, s.withdrawalRedeemedEvents.get burnId = some withdrawal →
    withdrawal.burnId = burnId ∧ withdrawal.retry.retries = 0

theorem entriesKeyed_ofInitArg (arg : InitArg) : EntriesKeyed (State.ofInitArg arg) := by
  constructor <;> simp [State.ofInitArg]

section Step

variable {op : Op} {s next : State}

theorem Op.touches_or_read_eq (step : op.run s = .ok next) (location : Location) :
    location ∈ op.touches ∨ next.read location = s.read location := by
  by_cases touched : location ∈ op.touches
  · exact .inl touched
  · exact .inr (Op.read_run_of_not_mem step touched)

theorem ranges_keyed_step (step : op.run s = .ok next) (keyed : EntriesKeyed s) {key : String}
    {range : SolanaSignatureRange} (found : next.solanaSignatureRanges.get key = some range) :
    rangeKey range.beforeSolSig range.untilSolSig = key := by
  rcases ranges_step step found with kept | ⟨-, rfl⟩ | ⟨stored, present, rfl⟩
  · exact keyed.ranges key range kept
  · rfl
  · exact keyed.ranges key stored present

theorem signatures_keyed_step (step : op.run s = .ok next) (keyed : EntriesKeyed s) {key : String}
    {sig : SolanaSignature} (found : next.solanaSignatures.get key = some sig) :
    sig.solSig = key := by
  rcases Op.touches_or_read_eq step (.solanaSignature key) with touched | same
  · rcases Op.mem_touches_solanaSignature touched with
      ⟨recorded, rfl, rfl⟩ | ⟨invalid, rfl, rfl⟩ | ⟨deposit, rfl, rfl⟩
    · simp only [Op.run, Except.ok.injEq] at step
      subst step
      cases present : s.solanaSignatures.get recorded.solSig <;>
        simp only [State.recordOrRetrySolanaSignature, present, Table.get_insert, if_pos,
          Option.some.injEq] at found <;> subst found
      · rfl
      · exact (keyed.signatures _ _ present :)
    · obtain ⟨-, -, rfl⟩ := State.recordInvalidEvent_eq_ok.mp step
      simp at found
    · rcases State.recordOrRetryAcceptedEvent_eq_ok.mp step with ⟨-, -, rfl⟩ | ⟨_, -, rfl⟩
      · simp at found
      · exact keyed.signatures _ sig found
  · simp only [State.read] at same
    exact keyed.signatures key sig (same ▸ found)

theorem invalid_keyed_step (step : op.run s = .ok next) (keyed : EntriesKeyed s) {key : String}
    {sig : SolanaSignature} (found : next.invalidEvents.get key = some sig) :
    sig.solSig = key ∧ sig.retry.retries = 0 := by
  rcases Op.touches_or_read_eq step (.invalidEvent key) with touched | same
  · obtain ⟨invalid, rfl, rfl⟩ := Op.mem_touches_invalidEvent touched
    obtain ⟨-, -, rfl⟩ := State.recordInvalidEvent_eq_ok.mp step
    simp only [Table.get_insert, if_pos, Option.some.injEq] at found
    exact found ▸ ⟨rfl, rfl⟩
  · simp only [State.read] at same
    exact keyed.invalid key sig (same ▸ found)

theorem accepted_keyed_step (step : op.run s = .ok next) (keyed : EntriesKeyed s) {key : String}
    {deposit : DepositEvent} (found : next.acceptedEvents.get key = some deposit) :
    deposit.solSig = key := by
  rcases Op.touches_or_read_eq step (.acceptedEvent key) with touched | same
  · rcases Op.mem_touches_acceptedEvent touched with ⟨recorded, rfl, rfl⟩ | ⟨minted, rfl, rfl⟩
    · rcases State.recordOrRetryAcceptedEvent_eq_ok.mp step with
        ⟨-, -, rfl⟩ | ⟨existing, present, rfl⟩ <;>
        simp only [Table.get_insert, if_pos, Option.some.injEq] at found <;> subst found
      · rfl
      · exact keyed.accepted _ existing present
    · obtain ⟨-, -, rfl⟩ := State.recordMintedEvent_eq_ok.mp step
      simp at found
  · simp only [State.read] at same
    exact keyed.accepted key deposit (same ▸ found)

theorem minted_keyed_step (step : op.run s = .ok next) (keyed : EntriesKeyed s) {key : String}
    {deposit : DepositEvent} (found : next.mintedEvents.get key = some deposit) :
    deposit.solSig = key ∧ deposit.retry.retries = 0 := by
  rcases Op.touches_or_read_eq step (.mintedEvent key) with touched | same
  · obtain ⟨minted, rfl, rfl⟩ := Op.mem_touches_mintedEvent touched
    obtain ⟨-, -, rfl⟩ := State.recordMintedEvent_eq_ok.mp step
    simp only [Table.get_insert, if_pos, Option.some.injEq] at found
    exact found ▸ ⟨rfl, rfl⟩
  · simp only [State.read] at same
    exact keyed.minted key deposit (same ▸ found)

theorem burned_keyed_step (step : op.run s = .ok next) (keyed : EntriesKeyed s)
    {burnId : UInt64} {withdrawal : WithdrawalEvent}
    (found : next.withdrawalBurnedEvents.get burnId = some withdrawal) :
    withdrawal.burnId = burnId := by
  rcases Op.touches_or_read_eq step (.withdrawalBurnedEvent burnId) with touched | same
  · rcases Op.mem_touches_withdrawalBurnedEvent touched with
      ⟨burned, rfl, rfl⟩ | ⟨redeemed, rfl, rfl⟩
    · simp only [Op.run, Except.ok.injEq] at step
      subst step
      cases present : s.withdrawalBurnedEvents.get burned.burnId <;>
        simp only [State.recordOrRetryWithdrawalBurnedEvent, WithdrawalEvent.getBurnId, present,
          Table.get_insert, if_pos, Option.some.injEq] at found <;> subst found
      · rfl
      · exact (keyed.burned _ _ present :)
    · obtain ⟨-, rfl⟩ := State.recordWithdrawalRedeemedEvent_eq_ok.mp step
      simp at found
  · simp only [State.read] at same
    exact keyed.burned burnId withdrawal (same ▸ found)

theorem redeemed_keyed_step (step : op.run s = .ok next) (keyed : EntriesKeyed s)
    {burnId : UInt64} {withdrawal : WithdrawalEvent}
    (found : next.withdrawalRedeemedEvents.get burnId = some withdrawal) :
    withdrawal.burnId = burnId ∧ withdrawal.retry.retries = 0 := by
  rcases Op.touches_or_read_eq step (.withdrawalRedeemedEvent burnId) with touched | same
  · obtain ⟨redeemed, rfl, rfl⟩ := Op.mem_touches_withdrawalRedeemedEvent touched
    obtain ⟨-, rfl⟩ := State.recordWithdrawalRedeemedEvent_eq_ok.mp step
    simp only [Table.get_insert, if_pos, Option.some.injEq] at found
    exact found ▸ ⟨rfl, rfl⟩
  · simp only [State.read] at same
    exact keyed.redeemed burnId withdrawal (same ▸ found)

theorem entriesKeyed_step (step : op.run s = .ok next) (keyed : EntriesKeyed s) :
    EntriesKeyed next :=
  ⟨fun _ _ => ranges_keyed_step step keyed, fun _ _ => signatures_keyed_step step keyed,
    fun _ _ => invalid_keyed_step step keyed, fun _ _ => accepted_keyed_step step keyed,
    fun _ _ => minted_keyed_step step keyed, fun _ _ => burned_keyed_step step keyed,
    fun _ _ => redeemed_keyed_step step keyed⟩

end Step

/-- Along every run from a state whose entries sit under their own keys (the state `init` builds
is one), every entry stays under the key its record names, and every invalid, minted or redeemed
entry keeps its retries reset. -/
theorem run_keeps_entries_under_their_keys (s : State) (ops : List Op) (keyed : EntriesKeyed s) :
    RunEnds EntriesKeyed (run s ops) :=
  run_preserves _ (fun _ _ _ keyed step => entriesKeyed_step step keyed) ops s keyed

theorem lifecycle_run_keeps_entries_under_their_keys :
    EntriesKeyed (State.ofInitArg default) ∧
    RunEnds EntriesKeyed (run (State.ofInitArg default)
      [.recordSolanaSignatureRange ⟨"S9", "S0", ⟨0⟩⟩, .recordOrRetrySolanaSignature ⟨"S1", ⟨0⟩⟩,
        .recordOrRetrySolanaSignature ⟨"S1", ⟨0⟩⟩, .recordOrRetryAcceptedEvent ⟨"S1", 0, ⟨2⟩⟩,
        .recordMintedEvent ⟨"S1", 0, ⟨3⟩⟩, .recordOrRetryWithdrawalBurnedEvent ⟨7, none, ⟨1⟩⟩,
        .recordWithdrawalRedeemedEvent ⟨7, none, ⟨1⟩⟩]) :=
  ⟨entriesKeyed_ofInitArg default,
    run_keeps_entries_under_their_keys _ _ (entriesKeyed_ofInitArg default)⟩

section Advance

variable {s : State}

theorem DepositKeysDisjoint.invalid_none (disjoint : DepositKeysDisjoint s) {key : String}
    (discovered : (s.solanaSignatures.get key).isSome) : s.invalidEvents.get key = none := by
  have atMostOne := disjoint key
  simp only [depositPlaces, discovered, Bool.toNat_true] at atMostOne
  cases invalid : s.invalidEvents.get key
  · rfl
  · simp only [invalid, Option.isSome_some, Bool.toNat_true] at atMostOne
    omega

theorem DepositKeysDisjoint.minted_none (disjoint : DepositKeysDisjoint s) {key : String}
    (accepted : (s.acceptedEvents.get key).isSome) : s.mintedEvents.get key = none := by
  have atMostOne := disjoint key
  simp only [depositPlaces, accepted, Bool.toNat_true] at atMostOne
  cases minted : s.mintedEvents.get key
  · rfl
  · simp only [minted, Option.isSome_some, Bool.toNat_true] at atMostOne
    omega

theorem stored_entries_advance (keyed : EntriesKeyed s) (deposits : DepositKeysDisjoint s) :
    (∀ key sig, s.solanaSignatures.get key = some sig →
      ∃ next, s.recordInvalidEvent sig = .ok next) ∧
    (∀ key deposit, s.acceptedEvents.get key = some deposit →
      ∃ next, s.recordMintedEvent deposit = .ok next) ∧
    (∀ burnId withdrawal, s.withdrawalBurnedEvents.get burnId = some withdrawal →
      ∃ next, s.recordWithdrawalRedeemedEvent withdrawal = .ok next) ∧
    (∀ key range, s.solanaSignatureRanges.get key = some range →
      (∃ next, s.removeSolanaSignatureRange range = .ok next) ∧
        ∃ next, s.retrySolanaSignatureRange range none = .ok next) := by
  refine ⟨fun key sig found => ?_, fun key deposit found => ?_, fun burnId withdrawal found => ?_,
    fun key range found => ?_⟩
  · obtain rfl := keyed.signatures key sig found
    exact ⟨_, State.recordInvalidEvent_eq_ok.mpr
      ⟨by simp [found], deposits.invalid_none (by simp [found]), rfl⟩⟩
  · obtain rfl := keyed.accepted key deposit found
    exact ⟨_, State.recordMintedEvent_eq_ok.mpr
      ⟨by simp [found], deposits.minted_none (by simp [found]), rfl⟩⟩
  · obtain rfl := keyed.burned burnId withdrawal found
    exact ⟨_, State.recordWithdrawalRedeemedEvent_eq_ok.mpr ⟨by simp [found], rfl⟩⟩
  · obtain rfl := keyed.ranges key range found
    exact ⟨⟨_, State.removeSolanaSignatureRange_eq_ok.mpr ⟨by simp [found], rfl⟩⟩,
      _, State.retrySolanaSignatureRange_none_eq_ok.mpr ⟨range, found, rfl⟩⟩

end Advance

/-- Along every run from `init` that never discovers again a classified signature and never burns
again a redeemed burn id, the state reached lets every stored entry take its next lifecycle step
without a trap: a discovered signature can be recorded invalid, an accepted deposit minted, a
burned withdrawal redeemed, and a stored range removed or retried, each by passing back the entry
as stored. -/
theorem stored_entries_advance_without_trap (arg : InitArg) (ops : List Op)
    (fresh : runAll (fun op t => !op.rediscovers t && !op.reburns t) (State.ofInitArg arg) ops =
      true) :
    RunEnds (fun s =>
      (∀ key sig, s.solanaSignatures.get key = some sig →
        ∃ next, s.recordInvalidEvent sig = .ok next) ∧
      (∀ key deposit, s.acceptedEvents.get key = some deposit →
        ∃ next, s.recordMintedEvent deposit = .ok next) ∧
      (∀ burnId withdrawal, s.withdrawalBurnedEvents.get burnId = some withdrawal →
        ∃ next, s.recordWithdrawalRedeemedEvent withdrawal = .ok next) ∧
      (∀ key range, s.solanaSignatureRanges.get key = some range →
        (∃ next, s.removeSolanaSignatureRange range = .ok next) ∧
          ∃ next, s.retrySolanaSignatureRange range none = .ok next))
      (run (State.ofInitArg arg) ops) :=
  (run_preserves_of_runAll (fun t => EntriesKeyed t ∧ DepositKeysDisjoint t ∧
      WithdrawalKeysDisjoint t) _
    (fun _ _ _ ⟨keyed, deposits, withdrawals⟩ allowed step => by
      simp only [Bool.and_eq_true, Bool.not_eq_true'] at allowed
      exact ⟨entriesKeyed_step step keyed, depositKeysDisjoint_step step deposits allowed.1,
        withdrawalKeysDisjoint_step step withdrawals allowed.2⟩)
    ops _ ⟨entriesKeyed_ofInitArg arg, depositKeysDisjoint_ofInitArg arg,
      withdrawalKeysDisjoint_ofInitArg arg⟩ fresh).mono
    fun _ ⟨keyed, deposits, _⟩ => stored_entries_advance keyed deposits

theorem lifecycle_run_leaves_entries_advanceable :
    runAll (fun op t => !op.rediscovers t && !op.reburns t) (State.ofInitArg default)
      [.recordSolanaSignatureRange ⟨"S9", "S0", ⟨0⟩⟩, .recordOrRetrySolanaSignature ⟨"S1", ⟨0⟩⟩,
        .recordOrRetrySolanaSignature ⟨"S2", ⟨0⟩⟩, .recordOrRetryAcceptedEvent ⟨"S1", 0, ⟨0⟩⟩,
        .recordOrRetryWithdrawalBurnedEvent ⟨7, none, ⟨0⟩⟩] = true ∧
    RunEnds (fun s =>
      (∀ key sig, s.solanaSignatures.get key = some sig →
        ∃ next, s.recordInvalidEvent sig = .ok next) ∧
      (∀ key deposit, s.acceptedEvents.get key = some deposit →
        ∃ next, s.recordMintedEvent deposit = .ok next) ∧
      (∀ burnId withdrawal, s.withdrawalBurnedEvents.get burnId = some withdrawal →
        ∃ next, s.recordWithdrawalRedeemedEvent withdrawal = .ok next) ∧
      (∀ key range, s.solanaSignatureRanges.get key = some range →
        (∃ next, s.removeSolanaSignatureRange range = .ok next) ∧
          ∃ next, s.retrySolanaSignatureRange range none = .ok next))
      (run (State.ofInitArg default)
        [.recordSolanaSignatureRange ⟨"S9", "S0", ⟨0⟩⟩, .recordOrRetrySolanaSignature ⟨"S1", ⟨0⟩⟩,
          .recordOrRetrySolanaSignature ⟨"S2", ⟨0⟩⟩, .recordOrRetryAcceptedEvent ⟨"S1", 0, ⟨0⟩⟩,
          .recordOrRetryWithdrawalBurnedEvent ⟨7, none, ⟨0⟩⟩]) :=
  ⟨by decide, stored_entries_advance_without_trap default _ (by decide)⟩

end GalacticBridge
