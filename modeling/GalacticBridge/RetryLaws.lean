import GalacticBridge.Footprint
import Mathlib.Logic.Function.Iterate

/-! Retries. On a key already stored, `record_or_retry_solana_signature`,
`record_or_retry_accepted_event`, `record_or_retry_withdrawal_burned_event` and
`retry_solana_signature_range(_, None)` increment the stored entry's retry counter and do nothing
else. So repeated calls are one call and increments, and while a key stays in its table its entry
keeps every field but the counter. -/

namespace GalacticBridge

/-- A table of the state whose entries carry a retry counter: how a call reads the table and
writes it back, and how it reaches an entry's counter. -/
structure RetryTable (κ α : Type) where
  table : State → Table κ α
  setTable : State → Table κ α → State
  retry : α → Retry
  withRetry : α → Retry → α
  table_setTable : ∀ s entries, table (setTable s entries) = entries

namespace RetryTable

variable {κ α : Type} [DecidableEq κ] (entries : RetryTable κ α)

def increment (s : State) (key : κ) : State :=
  entries.setTable s ((entries.table s).modify key
    fun entry => entries.withRetry entry (entries.retry entry).incrementRetries)

theorem increment_of_get_some {s : State} {key : κ} {existing : α}
    (found : (entries.table s).get key = some existing) :
    entries.increment s key = entries.setTable s ((entries.table s).insert key
      (entries.withRetry existing (entries.retry existing).incrementRetries)) := by
  rw [increment, Table.modify_of_get_some _ found]

theorem increment_present {s : State} {key : κ} (present : ((entries.table s).get key).isSome) :
    ((entries.table (entries.increment s key)).get key).isSome := by
  simpa [increment, entries.table_setTable] using present

end RetryTable

def signatureRetries : RetryTable String SolanaSignature :=
  ⟨(·.solanaSignatures), fun s table => { s with solanaSignatures := table }, (·.retry),
    fun sig retry => { sig with retry := retry }, fun _ _ => rfl⟩

def acceptedRetries : RetryTable String DepositEvent :=
  ⟨(·.acceptedEvents), fun s table => { s with acceptedEvents := table }, (·.retry),
    fun deposit retry => { deposit with retry := retry }, fun _ _ => rfl⟩

def burnedRetries : RetryTable UInt64 WithdrawalEvent :=
  ⟨(·.withdrawalBurnedEvents), fun s table => { s with withdrawalBurnedEvents := table },
    (·.retry), fun withdrawal retry => { withdrawal with retry := retry }, fun _ _ => rfl⟩

def rangeRetries : RetryTable String SolanaSignatureRange :=
  ⟨(·.solanaSignatureRanges), fun s table => { s with solanaSignatureRanges := table },
    (·.retry), fun range retry => { range with retry := retry }, fun _ _ => rfl⟩

namespace State

def incrementSignatureRetries (s : State) (key : String) : State :=
  signatureRetries.increment s key

def incrementAcceptedRetries (s : State) (key : String) : State :=
  acceptedRetries.increment s key

def incrementBurnedRetries (s : State) (burnId : UInt64) : State :=
  burnedRetries.increment s burnId

def incrementRangeRetries (s : State) (key : String) : State :=
  rangeRetries.increment s key

variable {s : State}

theorem recordOrRetrySolanaSignature_of_present {sig : SolanaSignature}
    (present : (s.solanaSignatures.get sig.solSig).isSome) :
    s.recordOrRetrySolanaSignature sig = s.incrementSignatureRetries sig.solSig := by
  obtain ⟨existing, found⟩ := Option.isSome_iff_exists.mp present
  rw [recordOrRetrySolanaSignature_of_get_some found, incrementSignatureRetries,
    signatureRetries.increment_of_get_some found]
  rfl

theorem recordOrRetryAcceptedEvent_of_present {deposit : DepositEvent}
    (present : (s.acceptedEvents.get deposit.solSig).isSome) :
    s.recordOrRetryAcceptedEvent deposit = .ok (s.incrementAcceptedRetries deposit.solSig) := by
  obtain ⟨existing, found⟩ := Option.isSome_iff_exists.mp present
  rw [incrementAcceptedRetries, acceptedRetries.increment_of_get_some found]
  exact recordOrRetryAcceptedEvent_eq_ok.mpr (.inr ⟨existing, found, rfl⟩)

theorem recordOrRetryWithdrawalBurnedEvent_of_present {withdrawal : WithdrawalEvent}
    (present : (s.withdrawalBurnedEvents.get withdrawal.burnId).isSome) :
    s.recordOrRetryWithdrawalBurnedEvent withdrawal =
      s.incrementBurnedRetries withdrawal.burnId := by
  obtain ⟨existing, found⟩ := Option.isSome_iff_exists.mp present
  rw [recordOrRetryWithdrawalBurnedEvent_of_get_some found, incrementBurnedRetries,
    burnedRetries.increment_of_get_some found]
  rfl

theorem retrySolanaSignatureRange_none_of_present {range : SolanaSignatureRange}
    (present :
      (s.solanaSignatureRanges.get (rangeKey range.beforeSolSig range.untilSolSig)).isSome) :
    s.retrySolanaSignatureRange range none =
      .ok (s.incrementRangeRetries (rangeKey range.beforeSolSig range.untilSolSig)) := by
  obtain ⟨existing, found⟩ := Option.isSome_iff_exists.mp present
  rw [incrementRangeRetries, rangeRetries.increment_of_get_some found]
  exact retrySolanaSignatureRange_none_eq_ok.mpr ⟨existing, found, rfl⟩

end State

theorem run_of_retries {present : State → Prop} {bump : State → State}
    (stays : ∀ t, present t → present (bump t)) :
    ∀ (ops : List Op), (∀ op ∈ ops, ∀ t, present t → op.run t = .ok (bump t)) →
      ∀ t, present t → run t ops = .ok (bump^[ops.length] t) := by
  intro ops
  induction ops with
  | nil => intro _ t _; rfl
  | cons op ops ih =>
      intro retries t held
      rw [run_cons_of_ok ops (retries op (.head ops) t held),
        ih (fun other listed => retries other (.tail op listed)) (bump t) (stays t held)]
      rfl

theorem run_first_then_retries {present : State → Prop} {bump : State → State}
    (stays : ∀ t, present t → present (bump t)) {first : Op} {rest : List Op} {s : State}
    (afterFirst : ∀ t, first.run s = .ok t → present t)
    (retries : ∀ op ∈ rest, ∀ t, present t → op.run t = .ok (bump t)) :
    run s (first :: rest) = (bump^[rest.length]) <$> first.run s := by
  cases found : first.run s with
  | error message =>
    simp only [run, found]
    rfl
  | ok t =>
    rw [run_cons_of_ok rest found, run_of_retries stays rest retries t (afterFirst t found)]
    rfl

theorem run_recordOrRetrySolanaSignature_repeated (s : State) (sig : SolanaSignature)
    (others : List SolanaSignature) (sameKey : ∀ other ∈ others, other.solSig = sig.solSig) :
    run s ((sig :: others).map .recordOrRetrySolanaSignature) =
      .ok ((·.incrementSignatureRetries sig.solSig)^[others.length]
        (s.recordOrRetrySolanaSignature sig)) := by
  rw [List.map_cons, run_first_then_retries
    (fun t (present : (t.solanaSignatures.get sig.solSig).isSome) =>
      signatureRetries.increment_present present)]
  · simp only [List.length_map]
    rfl
  · rintro t ⟨⟩
    unfold State.recordOrRetrySolanaSignature
    split <;> simp
  · simp only [List.mem_map]
    rintro _ ⟨other, listed, rfl⟩ t present
    rw [← sameKey other listed] at present ⊢
    exact congrArg Except.ok (State.recordOrRetrySolanaSignature_of_present present)

theorem run_recordOrRetryAcceptedEvent_repeated (s : State) (deposit : DepositEvent)
    (others : List DepositEvent) (sameKey : ∀ other ∈ others, other.solSig = deposit.solSig) :
    run s ((deposit :: others).map .recordOrRetryAcceptedEvent) =
      (·.incrementAcceptedRetries deposit.solSig)^[others.length] <$>
        s.recordOrRetryAcceptedEvent deposit := by
  rw [List.map_cons, run_first_then_retries
    (fun t (present : (t.acceptedEvents.get deposit.solSig).isSome) =>
      acceptedRetries.increment_present present)]
  · simp only [List.length_map]
    rfl
  · intro t recorded
    rcases State.recordOrRetryAcceptedEvent_eq_ok.mp recorded with ⟨-, -, rfl⟩ | ⟨_, -, rfl⟩ <;>
      simp
  · simp only [List.mem_map]
    rintro _ ⟨other, listed, rfl⟩ t present
    rw [← sameKey other listed] at present ⊢
    exact State.recordOrRetryAcceptedEvent_of_present present

theorem run_recordOrRetryWithdrawalBurnedEvent_repeated (s : State) (withdrawal : WithdrawalEvent)
    (others : List WithdrawalEvent) (sameKey : ∀ other ∈ others, other.burnId = withdrawal.burnId) :
    run s ((withdrawal :: others).map .recordOrRetryWithdrawalBurnedEvent) =
      .ok ((·.incrementBurnedRetries withdrawal.burnId)^[others.length]
        (s.recordOrRetryWithdrawalBurnedEvent withdrawal)) := by
  rw [List.map_cons, run_first_then_retries
    (fun t (present : (t.withdrawalBurnedEvents.get withdrawal.burnId).isSome) =>
      burnedRetries.increment_present present)]
  · simp only [List.length_map]
    rfl
  · rintro t ⟨⟩
    dsimp only [State.recordOrRetryWithdrawalBurnedEvent, WithdrawalEvent.getBurnId]
    split <;> simp
  · simp only [List.mem_map]
    rintro _ ⟨other, listed, rfl⟩ t present
    rw [← sameKey other listed] at present ⊢
    exact congrArg Except.ok (State.recordOrRetryWithdrawalBurnedEvent_of_present present)

theorem run_retrySolanaSignatureRange_repeated (s : State) (range : SolanaSignatureRange)
    (others : List SolanaSignatureRange)
    (sameKey : ∀ other ∈ others, rangeKey other.beforeSolSig other.untilSolSig =
      rangeKey range.beforeSolSig range.untilSolSig) :
    run s ((range :: others).map fun range => .retrySolanaSignatureRange range none) =
      (·.incrementRangeRetries (rangeKey range.beforeSolSig range.untilSolSig))^[others.length] <$>
        s.retrySolanaSignatureRange range none := by
  rw [List.map_cons, run_first_then_retries
    (fun t (present : (t.solanaSignatureRanges.get
      (rangeKey range.beforeSolSig range.untilSolSig)).isSome) =>
      rangeRetries.increment_present present)]
  · simp only [List.length_map]
    rfl
  · intro t retried
    obtain ⟨stored, -, rfl⟩ := State.retrySolanaSignatureRange_none_eq_ok.mp retried
    simp
  · simp only [List.mem_map]
    rintro _ ⟨other, listed, rfl⟩ t present
    rw [← sameKey other listed] at present ⊢
    exact State.retrySolanaSignatureRange_none_of_present present

section Continuity

variable {V : Type} (view : State → Option V) (same : V → V → Prop)

theorem run_keeps_entry (refl : ∀ a, same a a) (trans : ∀ a b c, same a b → same b c → same a c)
    (step : ∀ (op : Op) (t next : State) (a b : V),
      view t = some a → op.run t = .ok next → view next = some b → same a b)
    (s : State) (ops : List Op) (first : V) (stored : view s = some first)
    (continuous : runAll (fun _ t => (view t).isSome) s ops = true) :
    RunEnds (fun final => ∀ b, view final = some b → same first b) (run s ops) := by
  refine run_preserves_of_runAll (fun t => ∀ b, view t = some b → same first b) _
    (fun op t next kept held step' b found => ?_) ops s
    (fun b found => Option.some.inj (stored.symm.trans found) ▸ refl first) continuous
  obtain ⟨a, atT⟩ := Option.isSome_iff_exists.mp held
  exact trans _ _ _ (kept a atT) (step op t next a b atT step' found)

end Continuity

theorem solanaSignatures_step {op : Op} {t next : State} {key : String}
    {first current : SolanaSignature} (stored : t.solanaSignatures.get key = some first)
    (step : op.run t = .ok next) (kept : next.solanaSignatures.get key = some current) :
    ∃ retry, current = { first with retry := retry } := by
  by_cases touched : Location.solanaSignature key ∈ op.touches
  · rcases Op.mem_touches_solanaSignature touched with
      ⟨sig, rfl, rfl⟩ | ⟨sig, rfl, rfl⟩ | ⟨deposit, rfl, rfl⟩
    · simp only [Op.run, Except.ok.injEq, State.recordOrRetrySolanaSignature_of_get_some stored]
        at step
      subst step
      simp only [Table.get_insert, if_pos, Option.some.injEq] at kept
      exact ⟨_, kept.symm⟩
    · obtain ⟨-, -, rfl⟩ := State.recordInvalidEvent_eq_ok.mp step
      simp at kept
    · rcases State.recordOrRetryAcceptedEvent_eq_ok.mp step with ⟨-, -, rfl⟩ | ⟨_, -, rfl⟩
      · simp at kept
      · exact ⟨first.retry, (Option.some.inj (stored.symm.trans kept)).symm⟩
  · have unchanged := Op.read_run_of_not_mem step touched
    simp only [State.read] at unchanged
    exact ⟨first.retry, (Option.some.inj (stored.symm.trans (unchanged.symm.trans kept))).symm⟩

theorem acceptedEvents_step {op : Op} {t next : State} {key : String}
    {first current : DepositEvent} (stored : t.acceptedEvents.get key = some first)
    (step : op.run t = .ok next) (kept : next.acceptedEvents.get key = some current) :
    ∃ retry, current = { first with retry := retry } := by
  by_cases touched : Location.acceptedEvent key ∈ op.touches
  · rcases Op.mem_touches_acceptedEvent touched with ⟨deposit, rfl, rfl⟩ | ⟨deposit, rfl, rfl⟩
    · rcases State.recordOrRetryAcceptedEvent_eq_ok.mp step with ⟨absent, -, rfl⟩ | ⟨_, found, rfl⟩
      · simp [absent] at stored
      · cases stored.symm.trans found
        simp only [Table.get_insert, if_pos, Option.some.injEq] at kept
        exact ⟨_, kept.symm⟩
    · obtain ⟨-, -, rfl⟩ := State.recordMintedEvent_eq_ok.mp step
      simp at kept
  · have unchanged := Op.read_run_of_not_mem step touched
    simp only [State.read] at unchanged
    exact ⟨first.retry, (Option.some.inj (stored.symm.trans (unchanged.symm.trans kept))).symm⟩

theorem withdrawalBurnedEvents_step {op : Op} {t next : State} {burnId : UInt64}
    {first current : WithdrawalEvent} (stored : t.withdrawalBurnedEvents.get burnId = some first)
    (step : op.run t = .ok next) (kept : next.withdrawalBurnedEvents.get burnId = some current) :
    ∃ retry, current = { first with retry := retry } := by
  by_cases touched : Location.withdrawalBurnedEvent burnId ∈ op.touches
  · rcases Op.mem_touches_withdrawalBurnedEvent touched with
      ⟨withdrawal, rfl, rfl⟩ | ⟨withdrawal, rfl, rfl⟩
    · simp only [Op.run, Except.ok.injEq,
        State.recordOrRetryWithdrawalBurnedEvent_of_get_some stored] at step
      subst step
      simp only [Table.get_insert, if_pos, Option.some.injEq] at kept
      exact ⟨_, kept.symm⟩
    · obtain ⟨-, rfl⟩ := State.recordWithdrawalRedeemedEvent_eq_ok.mp step
      simp at kept
  · have unchanged := Op.read_run_of_not_mem step touched
    simp only [State.read] at unchanged
    exact ⟨first.retry, (Option.some.inj (stored.symm.trans (unchanged.symm.trans kept))).symm⟩

/-- On a key already stored, each retrying call increments that entry's retry counter and
changes nothing else; calls repeated on one key are the first call then one increment each; and
while a key stays in `solana_signatures`, `accepted_events` or `withdrawal_burned_events`, its
entry differs from the one first stored only in the counter (a deposit keeps its `depositId`). -/
theorem retry_only_increments_the_counter :
    ((∀ (s : State) (sig : SolanaSignature), (s.solanaSignatures.get sig.solSig).isSome →
        s.recordOrRetrySolanaSignature sig = s.incrementSignatureRetries sig.solSig) ∧
      (∀ (s : State) (deposit : DepositEvent), (s.acceptedEvents.get deposit.solSig).isSome →
        s.recordOrRetryAcceptedEvent deposit = .ok (s.incrementAcceptedRetries deposit.solSig)) ∧
      (∀ (s : State) (withdrawal : WithdrawalEvent),
        (s.withdrawalBurnedEvents.get withdrawal.burnId).isSome →
        s.recordOrRetryWithdrawalBurnedEvent withdrawal =
          s.incrementBurnedRetries withdrawal.burnId) ∧
      (∀ (s : State) (range : SolanaSignatureRange),
        (s.solanaSignatureRanges.get (rangeKey range.beforeSolSig range.untilSolSig)).isSome →
        s.retrySolanaSignatureRange range none =
          .ok (s.incrementRangeRetries (rangeKey range.beforeSolSig range.untilSolSig)))) ∧
    ((∀ (s : State) (sig : SolanaSignature) (others : List SolanaSignature),
        (∀ other ∈ others, other.solSig = sig.solSig) →
        run s ((sig :: others).map .recordOrRetrySolanaSignature) =
          .ok ((·.incrementSignatureRetries sig.solSig)^[others.length]
            (s.recordOrRetrySolanaSignature sig))) ∧
      (∀ (s : State) (deposit : DepositEvent) (others : List DepositEvent),
        (∀ other ∈ others, other.solSig = deposit.solSig) →
        run s ((deposit :: others).map .recordOrRetryAcceptedEvent) =
          (·.incrementAcceptedRetries deposit.solSig)^[others.length] <$>
            s.recordOrRetryAcceptedEvent deposit) ∧
      (∀ (s : State) (withdrawal : WithdrawalEvent) (others : List WithdrawalEvent),
        (∀ other ∈ others, other.burnId = withdrawal.burnId) →
        run s ((withdrawal :: others).map .recordOrRetryWithdrawalBurnedEvent) =
          .ok ((·.incrementBurnedRetries withdrawal.burnId)^[others.length]
            (s.recordOrRetryWithdrawalBurnedEvent withdrawal))) ∧
      (∀ (s : State) (range : SolanaSignatureRange) (others : List SolanaSignatureRange),
        (∀ other ∈ others, rangeKey other.beforeSolSig other.untilSolSig =
          rangeKey range.beforeSolSig range.untilSolSig) →
        run s ((range :: others).map fun range => .retrySolanaSignatureRange range none) =
          (·.incrementRangeRetries (rangeKey range.beforeSolSig range.untilSolSig))^[others.length]
            <$> s.retrySolanaSignatureRange range none)) ∧
    ((∀ (s : State) (ops : List Op) (key : String) (first : SolanaSignature),
        s.solanaSignatures.get key = some first →
        runAll (fun _ t => (t.solanaSignatures.get key).isSome) s ops = true →
        RunEnds (fun final => ∀ current, final.solanaSignatures.get key = some current →
          ∃ retry, current = { first with retry := retry }) (run s ops)) ∧
      (∀ (s : State) (ops : List Op) (key : String) (first : DepositEvent),
        s.acceptedEvents.get key = some first →
        runAll (fun _ t => (t.acceptedEvents.get key).isSome) s ops = true →
        RunEnds (fun final => ∀ current, final.acceptedEvents.get key = some current →
          ∃ retry, current = { first with retry := retry }) (run s ops)) ∧
      (∀ (s : State) (ops : List Op) (burnId : UInt64) (first : WithdrawalEvent),
        s.withdrawalBurnedEvents.get burnId = some first →
        runAll (fun _ t => (t.withdrawalBurnedEvents.get burnId).isSome) s ops = true →
        RunEnds (fun final => ∀ current, final.withdrawalBurnedEvents.get burnId = some current →
          ∃ retry, current = { first with retry := retry }) (run s ops))) :=
  ⟨⟨fun _ _ => State.recordOrRetrySolanaSignature_of_present,
      fun _ _ => State.recordOrRetryAcceptedEvent_of_present,
      fun _ _ => State.recordOrRetryWithdrawalBurnedEvent_of_present,
      fun _ _ => State.retrySolanaSignatureRange_none_of_present⟩,
    ⟨run_recordOrRetrySolanaSignature_repeated, run_recordOrRetryAcceptedEvent_repeated,
      run_recordOrRetryWithdrawalBurnedEvent_repeated, run_retrySolanaSignatureRange_repeated⟩,
    ⟨fun s ops key first => run_keeps_entry (·.solanaSignatures.get key) _ (fun a => ⟨a.retry, rfl⟩)
        (by rintro a _ _ ⟨_, rfl⟩ ⟨retry, rfl⟩; exact ⟨retry, rfl⟩)
        (fun _ _ _ _ _ stored step kept => solanaSignatures_step stored step kept) s ops first,
      fun s ops key first => run_keeps_entry (·.acceptedEvents.get key) _ (fun a => ⟨a.retry, rfl⟩)
        (by rintro a _ _ ⟨_, rfl⟩ ⟨retry, rfl⟩; exact ⟨retry, rfl⟩)
        (fun _ _ _ _ _ stored step kept => acceptedEvents_step stored step kept) s ops first,
      fun s ops burnId first => run_keeps_entry (·.withdrawalBurnedEvents.get burnId) _
        (fun a => ⟨a.retry, rfl⟩) (by rintro a _ _ ⟨_, rfl⟩ ⟨retry, rfl⟩; exact ⟨retry, rfl⟩)
        (fun _ _ _ _ _ stored step kept => withdrawalBurnedEvents_step stored step kept) s ops
        first⟩⟩

theorem rediscovered_signature_counts_its_retries :
    (∀ other ∈ [(⟨"S1", ⟨0⟩⟩ : SolanaSignature), ⟨"S1", ⟨0⟩⟩], other.solSig = "S1") ∧
    run (State.ofInitArg sampleInitArg)
        ([⟨"S1", ⟨0⟩⟩, ⟨"S1", ⟨0⟩⟩, ⟨"S1", ⟨0⟩⟩].map .recordOrRetrySolanaSignature) =
      .ok ((·.incrementSignatureRetries "S1")^[2]
        ((State.ofInitArg sampleInitArg).recordOrRetrySolanaSignature ⟨"S1", ⟨0⟩⟩)) ∧
    (State.solanaSignatures ((State.incrementSignatureRetries · "S1")^[2]
        ((State.ofInitArg sampleInitArg).recordOrRetrySolanaSignature ⟨"S1", ⟨0⟩⟩))).get "S1" =
      some ⟨"S1", ⟨2⟩⟩ :=
  have sameKey : ∀ other ∈ [(⟨"S1", ⟨0⟩⟩ : SolanaSignature), ⟨"S1", ⟨0⟩⟩],
      other.solSig = "S1" := by decide
  ⟨sameKey, retry_only_increments_the_counter.2.1.1 _ ⟨"S1", ⟨0⟩⟩ _ sameKey, rfl⟩

end GalacticBridge
