import GalacticBridge.Footprint

/-! Independent calls commute. What a call does inside its footprint depends only on what the
state holds there (`Op.run_of_agree`), and it leaves every other location alone
(`Op.read_run_of_not_mem`). So two calls with disjoint footprints reach the same state in either
order, and trap in one order exactly when they trap in the other. -/

namespace GalacticBridge

/-- The two states hold the same values at `locations`. -/
def Agree (locations : List Location) (s t : State) : Prop :=
  ∀ location ∈ locations, s.read location = t.read location

theorem Op.run_of_agree {op : Op} {s t next : State} (agree : Agree op.touches s t)
    (step : op.run s = .ok next) :
    ∃ after, op.run t = .ok after ∧ Agree op.touches next after := by
  cases op with
  | recordSolanaSignatureRange range =>
    obtain ⟨absent, rfl⟩ := State.recordSolanaSignatureRange_eq_ok.mp step
    have same := agree range.location (List.mem_singleton_self _)
    simp only [State.read, SolanaSignatureRange.location] at same
    refine ⟨_, State.recordSolanaSignatureRange_eq_ok.mpr ⟨same ▸ absent, rfl⟩, ?_⟩
    simp [Agree, Op.touches, SolanaSignatureRange.location, State.read]
  | retrySolanaSignatureRange oldRange newRange =>
    have old := agree oldRange.location (List.mem_cons_self _ _)
    simp only [State.read, SolanaSignatureRange.location] at old
    cases newRange with
    | none =>
      obtain ⟨stored, present, rfl⟩ := State.retrySolanaSignatureRange_none_eq_ok.mp step
      refine ⟨_, State.retrySolanaSignatureRange_none_eq_ok.mpr ⟨stored, old ▸ present, rfl⟩, ?_⟩
      simp [Agree, Op.touches, SolanaSignatureRange.location, State.read]
    | some newRange =>
      have new := agree newRange.location (by simp [Op.touches])
      simp only [State.read, SolanaSignatureRange.location] at new
      obtain ⟨present, recorded⟩ := State.retrySolanaSignatureRange_some_eq_ok.mp step
      obtain ⟨absent, rfl⟩ := State.recordSolanaSignatureRange_eq_ok.mp recorded
      refine ⟨_, State.retrySolanaSignatureRange_some_eq_ok.mpr ⟨old ▸ present,
        State.recordSolanaSignatureRange_eq_ok.mpr ⟨?_, rfl⟩⟩, ?_⟩
      · simpa [new, old] using absent
      · simp [Agree, Op.touches, SolanaSignatureRange.location, State.read]
  | removeSolanaSignatureRange range =>
    obtain ⟨present, rfl⟩ := State.removeSolanaSignatureRange_eq_ok.mp step
    have same := agree range.location (List.mem_singleton_self _)
    simp only [State.read, SolanaSignatureRange.location] at same
    refine ⟨_, State.removeSolanaSignatureRange_eq_ok.mpr ⟨same ▸ present, rfl⟩, ?_⟩
    simp [Agree, Op.touches, SolanaSignatureRange.location, State.read]
  | recordOrRetrySolanaSignature sig =>
    have same := agree (.solanaSignature sig.solSig) (List.mem_singleton_self _)
    simp only [State.read, Op.run, Except.ok.injEq] at same step
    subst step
    refine ⟨_, rfl, ?_⟩
    cases found : t.solanaSignatures.get sig.solSig <;>
      simp [Agree, Op.touches, State.read, State.recordOrRetrySolanaSignature, same, found]
  | recordInvalidEvent sig =>
    obtain ⟨present, absent, rfl⟩ := State.recordInvalidEvent_eq_ok.mp step
    have pending := agree (.solanaSignature sig.solSig) (by simp [Op.touches])
    have invalid := agree (.invalidEvent sig.solSig) (by simp [Op.touches])
    simp only [State.read] at pending invalid
    refine ⟨_, State.recordInvalidEvent_eq_ok.mpr ⟨pending ▸ present, invalid ▸ absent, rfl⟩, ?_⟩
    simp [Agree, Op.touches, State.read]
  | recordOrRetryAcceptedEvent deposit =>
    have pending := agree (.solanaSignature deposit.solSig) (by simp [Op.touches])
    have accepted := agree (.acceptedEvent deposit.solSig) (by simp [Op.touches])
    simp only [State.read] at pending accepted
    rcases State.recordOrRetryAcceptedEvent_eq_ok.mp step with
      ⟨absent, present, rfl⟩ | ⟨existing, present, rfl⟩
    · refine ⟨_, State.recordOrRetryAcceptedEvent_eq_ok.mpr
        (.inl ⟨accepted ▸ absent, pending ▸ present, rfl⟩), ?_⟩
      simp [Agree, Op.touches, State.read]
    · refine ⟨_, State.recordOrRetryAcceptedEvent_eq_ok.mpr
        (.inr ⟨existing, accepted ▸ present, rfl⟩), ?_⟩
      simp [Agree, Op.touches, State.read, pending]
  | recordMintedEvent deposit =>
    obtain ⟨present, absent, rfl⟩ := State.recordMintedEvent_eq_ok.mp step
    have accepted := agree (.acceptedEvent deposit.solSig) (by simp [Op.touches])
    have minted := agree (.mintedEvent deposit.solSig) (by simp [Op.touches])
    simp only [State.read] at accepted minted
    refine ⟨_, State.recordMintedEvent_eq_ok.mpr ⟨accepted ▸ present, minted ▸ absent, rfl⟩, ?_⟩
    simp [Agree, Op.touches, State.read]
  | recordOrRetryWithdrawalBurnedEvent withdrawal =>
    have same := agree (.withdrawalBurnedEvent withdrawal.burnId) (List.mem_singleton_self _)
    simp only [State.read, Op.run, Except.ok.injEq] at same step
    subst step
    refine ⟨_, rfl, ?_⟩
    cases found : t.withdrawalBurnedEvents.get withdrawal.burnId <;>
      simp [Agree, Op.touches, State.read, State.recordOrRetryWithdrawalBurnedEvent,
        WithdrawalEvent.getBurnId, same, found]
  | recordWithdrawalRedeemedEvent withdrawal =>
    obtain ⟨present, rfl⟩ := State.recordWithdrawalRedeemedEvent_eq_ok.mp step
    have burned := agree (.withdrawalBurnedEvent withdrawal.burnId) (by simp [Op.touches])
    simp only [State.read] at burned
    refine ⟨_, State.recordWithdrawalRedeemedEvent_eq_ok.mpr ⟨burned ▸ present, rfl⟩, ?_⟩
    simp [Agree, Op.touches, State.read]
  | upgrade upgradeArgs =>
    simp only [Op.run, Except.ok.injEq, State.upgrade_snd] at step
    subst step
    refine ⟨_, rfl, fun location listed => ?_⟩
    cases location <;> simp only [Op.touches, List.mem_append, List.mem_ite_nil_right,
      List.mem_singleton, reduceCtorEq, and_false, or_false, false_or, and_true] at listed <;>
      obtain ⟨value, given⟩ := Option.isSome_iff_exists.mp listed <;>
      simp [State.read, State.upgrade_snd, given]
  | _ =>
    simp only [Op.run, Except.ok.injEq] at step
    subst step
    refine ⟨_, rfl, fun location listed => ?_⟩
    have same := agree location listed
    simp only [Op.touches, List.mem_singleton] at listed
    subst listed
    simp_all [State.read, State.nextRequestId, State.nextDepositId, State.nextBurnId,
      State.recordSolanaLastKnownSignature, State.setDepositIdCounter, State.setBurnIdCounter]

theorem Agree.symm {locations : List Location} {s t : State} (agree : Agree locations s t) :
    Agree locations t s :=
  fun location listed => (agree location listed).symm

theorem agree_run_of_disjoint {op : Op} {s next : State} (step : op.run s = .ok next)
    {locations : List Location} (disjoint : ∀ location ∈ locations, location ∉ op.touches) :
    Agree locations next s :=
  fun location listed => Op.read_run_of_not_mem step (disjoint location listed)

theorem run_swap_of_disjoint {first second : Op} {s middle final : State}
    (disjoint : ∀ location ∈ first.touches, location ∉ second.touches)
    (ranFirst : first.run s = .ok middle) (ranSecond : second.run middle = .ok final) :
    ∃ other, second.run s = .ok other ∧ first.run other = .ok final := by
  have secondOutside : ∀ location ∈ second.touches, location ∉ first.touches :=
    fun location listed mem => disjoint location mem listed
  obtain ⟨other, ranSecond', secondWrites⟩ :=
    Op.run_of_agree (agree_run_of_disjoint ranFirst secondOutside) ranSecond
  obtain ⟨final', ranFirst', firstWrites⟩ :=
    Op.run_of_agree (agree_run_of_disjoint ranSecond' disjoint).symm ranFirst
  refine ⟨other, ranSecond', ranFirst'.trans (congrArg _ (State.ext_read fun location => ?_))⟩
  by_cases inFirst : location ∈ first.touches
  · calc final'.read location = middle.read location := (firstWrites location inFirst).symm
      _ = final.read location := (Op.read_run_of_not_mem ranSecond (disjoint location inFirst)).symm
  · by_cases inSecond : location ∈ second.touches
    · calc final'.read location = other.read location := Op.read_run_of_not_mem ranFirst' inFirst
        _ = final.read location := (secondWrites location inSecond).symm
    · calc final'.read location = s.read location := by
            rw [Op.read_run_of_not_mem ranFirst' inFirst,
              Op.read_run_of_not_mem ranSecond' inSecond]
        _ = final.read location := by
            rw [Op.read_run_of_not_mem ranSecond inSecond, Op.read_run_of_not_mem ranFirst inFirst]

theorem run_pair_eq_ok {first second : Op} {s final : State} :
    run s [first, second] = .ok final ↔
      ∃ middle, first.run s = .ok middle ∧ second.run middle = .ok final := by
  simp only [run_cons_eq_ok, run_nil, Except.ok.injEq, exists_eq_right]

/-- Two calls whose footprints are disjoint commute: from every state, both orders end in the
same state, and one order traps exactly when the other does. -/
theorem independent_calls_commute (first second : Op)
    (disjoint : ∀ location ∈ first.touches, location ∉ second.touches) (s : State) :
    (run s [first, second]).toOption = (run s [second, first]).toOption := by
  have swapped : ∀ location ∈ second.touches, location ∉ first.touches :=
    fun location listed mem => disjoint location mem listed
  cases forward : run s [first, second] with
  | ok final =>
    obtain ⟨middle, ranFirst, ranSecond⟩ := run_pair_eq_ok.mp forward
    obtain ⟨other, ranSecond', ranFirst'⟩ := run_swap_of_disjoint disjoint ranFirst ranSecond
    rw [run_pair_eq_ok.mpr ⟨other, ranSecond', ranFirst'⟩]
  | error message =>
    cases backward : run s [second, first] with
    | ok final =>
      obtain ⟨middle, ranSecond, ranFirst⟩ := run_pair_eq_ok.mp backward
      obtain ⟨other, ranFirst', ranSecond'⟩ := run_swap_of_disjoint swapped ranSecond ranFirst
      rw [run_pair_eq_ok.mpr ⟨other, ranFirst', ranSecond'⟩] at forward
      cases forward
    | error _ => rfl

theorem discovery_commutes_with_other_rejection :
    (∀ location ∈ (Op.recordOrRetrySolanaSignature ⟨"S1", ⟨0⟩⟩).touches,
      location ∉ (Op.recordInvalidEvent ⟨"S2", ⟨0⟩⟩).touches) ∧
    (run { State.ofInitArg sampleInitArg with
        solanaSignatures := Table.empty.insert "S2" ⟨"S2", ⟨0⟩⟩ }
        [.recordOrRetrySolanaSignature ⟨"S1", ⟨0⟩⟩, .recordInvalidEvent ⟨"S2", ⟨0⟩⟩]).isOk ∧
    (run { State.ofInitArg sampleInitArg with
        solanaSignatures := Table.empty.insert "S2" ⟨"S2", ⟨0⟩⟩ }
        [.recordOrRetrySolanaSignature ⟨"S1", ⟨0⟩⟩, .recordInvalidEvent ⟨"S2", ⟨0⟩⟩]).toOption =
      (run { State.ofInitArg sampleInitArg with
        solanaSignatures := Table.empty.insert "S2" ⟨"S2", ⟨0⟩⟩ }
        [.recordInvalidEvent ⟨"S2", ⟨0⟩⟩, .recordOrRetrySolanaSignature ⟨"S1", ⟨0⟩⟩]).toOption :=
  have disjoint : ∀ location ∈ (Op.recordOrRetrySolanaSignature ⟨"S1", ⟨0⟩⟩).touches,
      location ∉ (Op.recordInvalidEvent ⟨"S2", ⟨0⟩⟩).touches := by decide
  ⟨disjoint, rfl, independent_calls_commute _ _ disjoint _⟩

end GalacticBridge
