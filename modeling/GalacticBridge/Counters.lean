import GalacticBridge.Footprint
import Mathlib.Data.List.Nodup

/-! The id counters. `next_deposit_id` and `next_burn_id` return their counter and advance it with
`wrapping_add(1)`; every other call, except the setters used during upgrade, leaves the counter
alone. So the ids issued along a run are consecutive modulo `2^64`. -/

namespace GalacticBridge

theorem UInt64.toNat_add_ofNat (c : UInt64) (i : Nat) :
    (c + UInt64.ofNat i).toNat = (c.toNat + i) % 2 ^ 64 := by
  simp [UInt64.toNat, UInt64.add_def, UInt64.ofNat, BitVec.toNat_add, BitVec.toNat_ofNat]

theorem UInt64.toNat_add_one (c : UInt64) : (c + 1).toNat = (c.toNat + 1) % 2 ^ 64 := by
  simp [UInt64.toNat, UInt64.add_def, BitVec.toNat_add]

theorem UInt64.add_ofNat_succ (c : UInt64) (i : Nat) :
    c + UInt64.ofNat (i + 1) = c + 1 + UInt64.ofNat i := by
  apply UInt64.toNat.inj
  rw [UInt64.toNat_add_ofNat, UInt64.toNat_add_ofNat, UInt64.toNat_add_one]
  omega

/-- The ids a run obtains from the call `draw`, which returns `result` of the state it is applied
to, in order, up to the run's first trap. -/
def idsIssued (draw : Op) (result : State → UInt64) : State → List Op → List UInt64
  | _, [] => []
  | s, op :: ops =>
    match op.run s with
    | .ok next => (if op = draw then [result s] else []) ++ idsIssued draw result next ops
    | .error _ => []

def depositIdsIssued : State → List Op → List UInt64 :=
  idsIssued .nextDepositId fun s => s.nextDepositId.1

def burnIdsIssued : State → List Op → List UInt64 :=
  idsIssued .nextBurnId fun s => s.nextBurnId.1

def counterValues (start : UInt64) (count : Nat) : List UInt64 :=
  (List.range count).map fun i => start + UInt64.ofNat i

theorem counterValues_succ (start : UInt64) (count : Nat) :
    counterValues start (count + 1) = start :: counterValues (start + 1) count := by
  simp only [counterValues, List.range_succ_eq_map, List.map_cons, List.map_map]
  congr 1
  · apply UInt64.toNat.inj
    have bound := start.toNat_lt_size
    rw [UInt64.toNat_add_ofNat]
    simp only [UInt64.size] at bound
    omega
  · exact List.map_congr_left fun i _ => UInt64.add_ofNat_succ start i

theorem counterValues_distinct {ids : List UInt64} {start : UInt64} {count : Nat}
    (values : ids = counterValues start count) {i j : Nat} (first : i < ids.length)
    (second : j < ids.length) (before : i < j) (near : j < i + 2 ^ 64) : ids[i] ≠ ids[j] := by
  subst values
  intro same
  have values := congrArg UInt64.toNat same
  simp only [counterValues, List.getElem_map, List.getElem_range, UInt64.toNat_add_ofNat] at values
  omega

theorem idsIssued_eq_counterValues {draw : Op} {counter : State → UInt64}
    (drawn : ∀ s next, draw.run s = .ok next → counter next = counter s + 1) :
    ∀ (ops : List Op), (∀ op ∈ ops, op ≠ draw → ∀ s next, op.run s = .ok next →
      counter next = counter s) →
      ∀ s, idsIssued draw counter s ops =
        counterValues (counter s) (idsIssued draw counter s ops).length := by
  intro ops
  induction ops with
  | nil => intro _ s; rfl
  | cons op ops ih =>
      intro kept s
      have rest := ih (fun other listed => kept other (.tail op listed))
      simp only [idsIssued]
      split
      next next step =>
        by_cases isDraw : op = draw
        · subst isDraw
          rw [if_pos rfl, List.singleton_append, List.length_cons, counterValues_succ,
            ← drawn s next step, ← rest next]
        · rw [if_neg isDraw, List.nil_append, ← kept op (.head ops) isDraw s next step]
          exact rest next
      next => rfl

theorem depositIdCounter_untouched {op : Op} (notDraw : op ≠ .nextDepositId)
    (notSet : ∀ id, op ≠ .setDepositIdCounter id) {s next : State} (step : op.run s = .ok next) :
    next.depositIdCounter = s.depositIdCounter :=
  Op.read_run_of_not_mem step (show Location.depositIdCounter ∉ op.touches by
    cases op <;> simp_all [Op.touches, SolanaSignatureRange.location])

theorem burnIdCounter_untouched {op : Op} (notDraw : op ≠ .nextBurnId)
    (notSet : ∀ id, op ≠ .setBurnIdCounter id) {s next : State} (step : op.run s = .ok next) :
    next.burnIdCounter = s.burnIdCounter :=
  Op.read_run_of_not_mem step (show Location.burnIdCounter ∉ op.touches by
    cases op <;> simp_all [Op.touches, SolanaSignatureRange.location])

theorem depositIdsIssued_eq_counterValues (s : State) (ops : List Op)
    (noReset : ∀ id, Op.setDepositIdCounter id ∉ ops) :
    depositIdsIssued s ops = counterValues s.depositIdCounter (depositIdsIssued s ops).length :=
  idsIssued_eq_counterValues (by rintro s _ ⟨⟩; rfl) ops
    (fun op listed notDraw _ _ => depositIdCounter_untouched notDraw
      (fun id same => noReset id (same ▸ listed))) s

theorem burnIdsIssued_eq_counterValues (s : State) (ops : List Op)
    (noReset : ∀ id, Op.setBurnIdCounter id ∉ ops) :
    burnIdsIssued s ops = counterValues s.burnIdCounter (burnIdsIssued s ops).length :=
  idsIssued_eq_counterValues (by rintro s _ ⟨⟩; rfl) ops
    (fun op listed notDraw _ _ => burnIdCounter_untouched notDraw
      (fun id same => noReset id (same ▸ listed))) s

/-- In a run that never calls `set_deposit_id_counter`, the results of `next_deposit_id` are
`c, c + 1, …` modulo `2^64` for the counter `c` the run starts from, so any `2^64` successive
results are pairwise distinct; likewise `next_burn_id` in a run without `set_burn_id_counter`. -/
theorem issued_ids_are_consecutive (s : State) (ops : List Op) :
    ((∀ id, Op.setDepositIdCounter id ∉ ops) →
      depositIdsIssued s ops =
        counterValues s.depositIdCounter (depositIdsIssued s ops).length ∧
      ∀ i j (first : i < (depositIdsIssued s ops).length)
        (second : j < (depositIdsIssued s ops).length),
        i < j → j < i + 2 ^ 64 → (depositIdsIssued s ops)[i] ≠ (depositIdsIssued s ops)[j]) ∧
    ((∀ id, Op.setBurnIdCounter id ∉ ops) →
      burnIdsIssued s ops = counterValues s.burnIdCounter (burnIdsIssued s ops).length ∧
      ∀ i j (first : i < (burnIdsIssued s ops).length) (second : j < (burnIdsIssued s ops).length),
        i < j → j < i + 2 ^ 64 → (burnIdsIssued s ops)[i] ≠ (burnIdsIssued s ops)[j]) :=
  ⟨fun noReset => ⟨depositIdsIssued_eq_counterValues s ops noReset, fun _ _ =>
      counterValues_distinct (depositIdsIssued_eq_counterValues s ops noReset)⟩,
    fun noReset => ⟨burnIdsIssued_eq_counterValues s ops noReset, fun _ _ =>
      counterValues_distinct (burnIdsIssued_eq_counterValues s ops noReset)⟩⟩

end GalacticBridge
