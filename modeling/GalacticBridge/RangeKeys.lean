import GalacticBridge.Footprint

/-! Range keys. `range_key(start, end)` joins the two signatures with `-`. The join is not
injective on arbitrary strings, but it is on pairs whose first signature has no `-` (base58 has
none). Every call stores a range under the key of its own pair, so along a run that records only
such ranges, a range mutator acts on the entry of its own pair and on no other. -/

namespace GalacticBridge

theorem rangeKey_inj {start finish start' finish' : String} (undashed : '-' ∉ start.data)
    (undashed' : '-' ∉ start'.data) (same : rangeKey start finish = rangeKey start' finish') :
    start = start' ∧ finish = finish' := by
  have joined : start.data ++ '-' :: finish.data = start'.data ++ '-' :: finish'.data := by
    simpa [rangeKey] using congrArg String.data same
  obtain ⟨left, right⟩ := eq_of_append_cons_of_not_mem undashed undashed' joined
  exact ⟨String.ext left, String.ext right⟩

/-- A `-` inside the first signature makes two pairs share a key: recording the second range
then panics on the first one. -/
theorem dashed_signatures_share_a_range_key :
    rangeKey "a-b" "c" = rangeKey "a" "b-c" ∧
    run (State.ofInitArg sampleInitArg)
        [.recordSolanaSignatureRange ⟨"a-b", "c", ⟨0⟩⟩,
          .recordSolanaSignatureRange ⟨"a", "b-c", ⟨0⟩⟩] =
      .error "Attempted to record existing range: a-b-c ." :=
  ⟨rfl, rfl⟩

def Op.rangeArgs : Op → List SolanaSignatureRange
  | .recordSolanaSignatureRange range | .removeSolanaSignatureRange range => [range]
  | .retrySolanaSignatureRange oldRange newRange => oldRange :: newRange.toList
  | _ => []

def Op.rangesUndashed (op : Op) : Bool :=
  op.rangeArgs.all fun range => decide ('-' ∉ range.beforeSolSig.data)

/-- Each stored range sits under the key of its own pair, and its first signature has no `-`. -/
def RangesKeyed (s : State) : Prop :=
  ∀ key range, s.solanaSignatureRanges.get key = some range →
    key = rangeKey range.beforeSolSig range.untilSolSig ∧ '-' ∉ range.beforeSolSig.data

theorem ofInitArg_rangesKeyed (initArgs : InitArg) : RangesKeyed (State.ofInitArg initArgs) := by
  intro key range found
  simp [State.ofInitArg] at found

theorem Op.mem_touches_range {op : Op} {key : String}
    (touched : Location.solanaSignatureRange key ∈ op.touches) :
    ∃ range ∈ op.rangeArgs, key = rangeKey range.beforeSolSig range.untilSolSig := by
  cases op <;> simp [Op.touches, Op.rangeArgs, SolanaSignatureRange.location] at touched ⊢
  case retrySolanaSignatureRange oldRange newRange =>
    cases newRange <;> simp_all [SolanaSignatureRange.location]
    exact touched.imp_right Eq.symm
  all_goals exact touched

theorem ranges_step {op : Op} {s next : State} (step : op.run s = .ok next) {key : String}
    {range : SolanaSignatureRange} (found : next.solanaSignatureRanges.get key = some range) :
    s.solanaSignatureRanges.get key = some range ∨
      (range ∈ op.rangeArgs ∧ key = rangeKey range.beforeSolSig range.untilSolSig) ∨
      ∃ stored, s.solanaSignatureRanges.get key = some stored ∧
        range = { stored with retry := stored.retry.incrementRetries } := by
  by_cases touched : Location.solanaSignatureRange key ∈ op.touches
  · cases op <;> simp [Op.touches, SolanaSignatureRange.location] at touched
    next recorded =>
      obtain ⟨-, rfl⟩ := State.recordSolanaSignatureRange_eq_ok.mp step
      by_cases here : key = rangeKey recorded.beforeSolSig recorded.untilSolSig <;>
        simp_all [Op.rangeArgs]
    next oldRange newRange =>
      cases newRange with
      | none =>
        obtain ⟨stored, present, rfl⟩ := State.retrySolanaSignatureRange_none_eq_ok.mp step
        by_cases here : key = rangeKey oldRange.beforeSolSig oldRange.untilSolSig <;> simp_all
      | some newRange =>
        obtain ⟨-, recorded⟩ := State.retrySolanaSignatureRange_some_eq_ok.mp step
        obtain ⟨-, rfl⟩ := State.recordSolanaSignatureRange_eq_ok.mp recorded
        by_cases here : key = rangeKey newRange.beforeSolSig newRange.untilSolSig <;>
          simp_all [Op.rangeArgs]
    next removed =>
      obtain ⟨-, rfl⟩ := State.removeSolanaSignatureRange_eq_ok.mp step
      by_cases here : key = rangeKey removed.beforeSolSig removed.untilSolSig <;> simp_all
  · have kept := Op.read_run_of_not_mem step touched
    simp only [State.read] at kept
    exact .inl (kept ▸ found)

theorem rangesKeyed_step {op : Op} {s next : State} (keyed : RangesKeyed s)
    (undashed : op.rangesUndashed = true) (step : op.run s = .ok next) : RangesKeyed next := by
  intro key range found
  rcases ranges_step step found with kept | ⟨applied, rfl⟩ | ⟨stored, present, rfl⟩
  · exact keyed key range kept
  · simp only [Op.rangesUndashed, List.all_eq_true, decide_eq_true_eq] at undashed
    exact ⟨rfl, undashed range applied⟩
  · exact keyed key stored present

theorem rangesKeyed_get {s : State} (keyed : RangesKeyed s) {range stored : SolanaSignatureRange}
    (undashed : '-' ∉ range.beforeSolSig.data)
    (found : s.solanaSignatureRanges.get (rangeKey range.beforeSolSig range.untilSolSig) =
      some stored) :
    stored.beforeSolSig = range.beforeSolSig ∧ stored.untilSolSig = range.untilSolSig := by
  obtain ⟨sameKey, storedUndashed⟩ := keyed _ stored found
  obtain ⟨before, after⟩ := rangeKey_inj undashed storedUndashed sameKey
  exact ⟨before.symm, after.symm⟩

theorem ranges_keep_other_pairs {op : Op} {s next : State} (keyed : RangesKeyed s)
    (undashed : op.rangesUndashed = true) (step : op.run s = .ok next) {key : String}
    {stored : SolanaSignatureRange} (present : s.solanaSignatureRanges.get key = some stored)
    (other : ∀ range ∈ op.rangeArgs,
      stored.beforeSolSig ≠ range.beforeSolSig ∨ stored.untilSolSig ≠ range.untilSolSig) :
    next.solanaSignatureRanges.get key = some stored := by
  have untouched : Location.solanaSignatureRange key ∉ op.touches := by
    intro touched
    obtain ⟨range, applied, rfl⟩ := Op.mem_touches_range touched
    simp only [Op.rangesUndashed, List.all_eq_true, decide_eq_true_eq] at undashed
    obtain ⟨before, after⟩ := rangesKeyed_get keyed (undashed range applied) present
    rcases other range applied with differs | differs <;> contradiction
  have kept := Op.read_run_of_not_mem step untouched
  simp only [State.read] at kept
  exact kept ▸ present

/-- `range_key` is injective on pairs whose first signature has no `-`; every call stores a
range only under the key of its own pair; so, along a run that applies the range mutators only to
such ranges, the entry under a range's key, if any, has that range's pair, and a call never
replaces or removes a stored range whose pair differs from those of its arguments. -/
theorem range_ops_act_on_their_own_pair :
    (∀ start finish start' finish' : String, '-' ∉ start.data → '-' ∉ start'.data →
      rangeKey start finish = rangeKey start' finish' → start = start' ∧ finish = finish') ∧
    (∀ s ops, RangesKeyed s → runAll (fun op _ => op.rangesUndashed) s ops = true →
      RunEnds RangesKeyed (run s ops)) ∧
    (∀ (s : State) (range stored : SolanaSignatureRange), RangesKeyed s →
      '-' ∉ range.beforeSolSig.data →
      s.solanaSignatureRanges.get (rangeKey range.beforeSolSig range.untilSolSig) = some stored →
      stored.beforeSolSig = range.beforeSolSig ∧ stored.untilSolSig = range.untilSolSig) ∧
    (∀ (op : Op) (s next : State) key stored, RangesKeyed s → op.rangesUndashed = true →
      op.run s = .ok next → s.solanaSignatureRanges.get key = some stored →
      (∀ range ∈ op.rangeArgs,
        stored.beforeSolSig ≠ range.beforeSolSig ∨ stored.untilSolSig ≠ range.untilSolSig) →
      next.solanaSignatureRanges.get key = some stored) :=
  ⟨fun _ _ _ _ => rangeKey_inj,
    fun s ops => run_preserves_of_runAll RangesKeyed _
      (fun _ _ _ keyed undashed step => rangesKeyed_step keyed undashed step) ops s,
    fun _ _ _ keyed undashed found => rangesKeyed_get keyed undashed found,
    fun _ _ _ _ _ keyed undashed step present other =>
      ranges_keep_other_pairs keyed undashed step present other⟩

theorem range_run_keeps_the_other_pair :
    runAll (fun op _ => op.rangesUndashed) (State.ofInitArg sampleInitArg)
        [.recordSolanaSignatureRange ⟨"S5", "S2", ⟨0⟩⟩,
          .recordSolanaSignatureRange ⟨"S9", "S5", ⟨0⟩⟩,
          .retrySolanaSignatureRange ⟨"S5", "S2", ⟨0⟩⟩ none] = true ∧
    ∃ final next, run (State.ofInitArg sampleInitArg)
        [.recordSolanaSignatureRange ⟨"S5", "S2", ⟨0⟩⟩,
          .recordSolanaSignatureRange ⟨"S9", "S5", ⟨0⟩⟩,
          .retrySolanaSignatureRange ⟨"S5", "S2", ⟨0⟩⟩ none] = .ok final ∧
      RangesKeyed final ∧ (Op.removeSolanaSignatureRange ⟨"S5", "S2", ⟨1⟩⟩).run final = .ok next ∧
      next.solanaSignatureRanges.get (rangeKey "S9" "S5") = some ⟨"S9", "S5", ⟨0⟩⟩ :=
  have undashed : runAll (fun op _ => op.rangesUndashed) (State.ofInitArg sampleInitArg)
      [.recordSolanaSignatureRange ⟨"S5", "S2", ⟨0⟩⟩,
        .recordSolanaSignatureRange ⟨"S9", "S5", ⟨0⟩⟩,
        .retrySolanaSignatureRange ⟨"S5", "S2", ⟨0⟩⟩ none] = true := by decide
  have keyed := range_ops_act_on_their_own_pair.2.1 _ _ (ofInitArg_rangesKeyed sampleInitArg)
    undashed
  ⟨undashed, _, _, rfl, keyed, rfl, range_ops_act_on_their_own_pair.2.2.2
    (.removeSolanaSignatureRange ⟨"S5", "S2", ⟨1⟩⟩) _ _ _ _ keyed rfl rfl rfl (by decide)⟩

end GalacticBridge
