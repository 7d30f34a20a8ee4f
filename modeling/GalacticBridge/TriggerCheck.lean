import GalacticBridge.Events
import Mathlib.Data.List.Chain

/-! The `trigger_check` endpoint (lib.rs) and `LAST_CHECKED`. A caller the guard admits starts the
scraping pipeline, through a zero-delay timer, only when more than `LAST_CHECK_MIN` has passed
since `LAST_CHECKED`, and then sets `LAST_CHECKED` to the time of the call; every other call
answers an error and changes nothing. Over calls at non-decreasing times, `LAST_CHECKED` never
passes the time of the next call, so the `u64` subtraction of the check is exact, and the calls
that start the pipeline are pairwise more than the threshold apart. -/

namespace GalacticBridge

def btownCanisterLocal : Principal := ⟨[128, 0, 0, 0, 0, 16, 0, 12, 1, 1]⟩

def btownCanisterStaging : Principal := ⟨[0, 0, 0, 0, 0, 224, 134, 65, 1, 1]⟩

def getBtownNftCanister (dfxNetwork : Option String) : Principal :=
  if dfxNetwork.getD "local" = "ic" then btownCanisterStaging else btownCanisterLocal

def isAllowedCanister (dfxNetwork : Option String) (isController : Principal → Bool)
    (caller : Principal) : Except String Unit :=
  if caller = getBtownNftCanister dfxNetwork ∨ isController caller then .ok ()
  else .error "caller is not a valid canister"

structure TriggerOutcome where
  reply : Except String Unit
  timerSet : Bool
  lastChecked : UInt64

/-- The body of `trigger_check` at canister time `time` (nanoseconds), from
`LAST_CHECKED = lastChecked`. `ic_cdk::api::time()` is fixed during one message and the body does
not await, so both of its reads give `time`. The `u64` subtraction wraps, as in a release build,
and `LAST_CHECK_MIN.as_nanos() as u64` keeps the low 64 bits of `lastCheckMin`. -/
def triggerCheck (lastCheckMin : Nat) (lastChecked time : UInt64) : TriggerOutcome :=
  if time - lastChecked > lastCheckMin.toUInt64 then ⟨.ok (), true, time⟩
  else ⟨.error "last check was too recent", false, lastChecked⟩

def triggerCheckCall (lastCheckMin : Nat) (guard : Except String Unit)
    (lastChecked time : UInt64) : TriggerOutcome :=
  match guard with
  | .ok () => triggerCheck lastCheckMin lastChecked time
  | .error message => ⟨.error message, false, lastChecked⟩

structure TriggerCheckStep where
  caller : Principal
  time : UInt64
  lastChecked : UInt64
  outcome : TriggerOutcome

def triggerCheckRun (lastCheckMin : Nat) (guard : Principal → Except String Unit) :
    UInt64 → List (Principal × UInt64) → List TriggerCheckStep
  | _, [] => []
  | lastChecked, (caller, time) :: calls =>
    let outcome := triggerCheckCall lastCheckMin (guard caller) lastChecked time
    ⟨caller, time, lastChecked, outcome⟩ ::
      triggerCheckRun lastCheckMin guard outcome.lastChecked calls

def pipelineStarts (run : List TriggerCheckStep) : List UInt64 :=
  (run.filter fun step => step.outcome.timerSet).map fun step => step.time

/-- What the rate limit promises of a run. -/
structure RateLimited (lastCheckMin : Nat) (run : List TriggerCheckStep) : Prop where
  noUnderflow : ∀ step ∈ run, step.lastChecked ≤ step.time ∧
    (step.time - step.lastChecked).toNat = step.time.toNat - step.lastChecked.toNat
  failedCallsChangeNothing : ∀ step ∈ run, ∀ message, step.outcome.reply = .error message →
    step.outcome.lastChecked = step.lastChecked ∧ step.outcome.timerSet = false
  okIffTimerSet : ∀ step ∈ run, step.outcome.reply = .ok () ↔ step.outcome.timerSet = true
  startsSpaced : (pipelineStarts run).Pairwise fun earlier later =>
    earlier.toNat + lastCheckMin % 2 ^ 64 < later.toNat
  startsSpacedByLastCheckMin : lastCheckMin < 2 ^ 64 →
    (pipelineStarts run).Pairwise fun earlier later => earlier.toNat + lastCheckMin < later.toNat

theorem UInt64.le_iff_toNat_le (a b : UInt64) : a ≤ b ↔ a.toNat ≤ b.toNat := Iff.rfl

section Call

variable {lastCheckMin : Nat} {guard : Except String Unit} {lastChecked time : UInt64}

theorem triggerCheckCall_cases {outcome : TriggerOutcome}
    (called : triggerCheckCall lastCheckMin guard lastChecked time = outcome) :
    (outcome.reply = .ok () ∧ outcome.timerSet = true ∧ outcome.lastChecked = time ∧
      lastCheckMin.toUInt64 < time - lastChecked) ∨
    (∃ message, outcome.reply = .error message ∧ outcome.timerSet = false ∧
      outcome.lastChecked = lastChecked) := by
  subst called
  rcases guard with message | ⟨⟩
  · exact .inr ⟨message, rfl, rfl, rfl⟩
  · dsimp only [triggerCheckCall, triggerCheck]
    by_cases fresh : time - lastChecked > lastCheckMin.toUInt64
    · rw [if_pos fresh]
      exact .inl ⟨rfl, rfl, rfl, fresh⟩
    · rw [if_neg fresh]
      exact .inr ⟨_, rfl, rfl, rfl⟩

theorem gap_of_fresh (before : lastChecked ≤ time)
    (fresh : lastCheckMin.toUInt64 < time - lastChecked) :
    lastChecked.toNat + lastCheckMin % 2 ^ 64 < time.toNat := by
  have exact := UInt64.toNat_sub_of_le _ _ before
  change lastCheckMin % 2 ^ 64 < (time - lastChecked).toNat at fresh
  rw [UInt64.le_iff_toNat_le] at before
  omega

theorem triggerCheckCall_lastChecked_between (before : lastChecked ≤ time) :
    lastChecked ≤ (triggerCheckCall lastCheckMin guard lastChecked time).lastChecked ∧
      (triggerCheckCall lastCheckMin guard lastChecked time).lastChecked ≤ time := by
  rcases triggerCheckCall_cases rfl with ⟨-, -, set, -⟩ | ⟨_, -, -, kept⟩
  · rw [set]
    exact ⟨before, UInt64.le_refl time⟩
  · rw [kept]
    exact ⟨UInt64.le_refl lastChecked, before⟩

theorem triggerCheckCall_of_error {outcome : TriggerOutcome} {message : String}
    (called : triggerCheckCall lastCheckMin guard lastChecked time = outcome)
    (failed : outcome.reply = .error message) :
    outcome.lastChecked = lastChecked ∧ outcome.timerSet = false := by
  rcases triggerCheckCall_cases called with ⟨ok, -⟩ | ⟨_, -, unset, kept⟩
  · simp [ok] at failed
  · exact ⟨kept, unset⟩

theorem triggerCheckCall_ok_iff {outcome : TriggerOutcome}
    (called : triggerCheckCall lastCheckMin guard lastChecked time = outcome) :
    outcome.reply = .ok () ↔ outcome.timerSet = true := by
  rcases triggerCheckCall_cases called with ⟨ok, set, -⟩ | ⟨_, failed, unset, -⟩
  · exact iff_of_true ok set
  · simp [failed, unset]

end Call

@[simp]
theorem pipelineStarts_cons (step : TriggerCheckStep) (run : List TriggerCheckStep) :
    pipelineStarts (step :: run) =
      if step.outcome.timerSet then step.time :: pipelineStarts run else pipelineStarts run := by
  cases set : step.outcome.timerSet <;> simp [pipelineStarts, List.filter_cons, set]

def CallsFrom (lastChecked : UInt64) (calls : List (Principal × UInt64)) : Prop :=
  (∀ call ∈ calls, lastChecked ≤ call.2) ∧ calls.Pairwise fun earlier later => earlier.2 ≤ later.2

section Run

variable (lastCheckMin : Nat) (guard : Principal → Except String Unit)

theorem CallsFrom.first {lastChecked time : UInt64} {caller : Principal}
    {calls : List (Principal × UInt64)}
    (ordered : CallsFrom lastChecked ((caller, time) :: calls)) : lastChecked ≤ time :=
  ordered.1 _ (.head _)

theorem CallsFrom.next {lastChecked time : UInt64} {caller : Principal}
    {calls : List (Principal × UInt64)}
    (ordered : CallsFrom lastChecked ((caller, time) :: calls)) :
    CallsFrom (triggerCheckCall lastCheckMin (guard caller) lastChecked time).lastChecked
      calls := by
  obtain ⟨later, sorted⟩ := List.pairwise_cons.mp ordered.2
  have between :=
    @triggerCheckCall_lastChecked_between lastCheckMin (guard caller) _ _ ordered.first
  exact ⟨fun call listed => UInt64.le_trans between.2 (later call listed), sorted⟩

theorem triggerCheckRun_outcome : ∀ (calls : List (Principal × UInt64)) (lastChecked : UInt64),
    ∀ step ∈ triggerCheckRun lastCheckMin guard lastChecked calls,
      triggerCheckCall lastCheckMin (guard step.caller) step.lastChecked step.time = step.outcome
  | [], _ => by simp [triggerCheckRun]
  | (caller, time) :: calls, lastChecked => by
    simp only [triggerCheckRun, List.mem_cons, forall_eq_or_imp, true_and]
    exact triggerCheckRun_outcome calls _

theorem triggerCheckRun_lastChecked_le :
    ∀ (calls : List (Principal × UInt64)) (lastChecked : UInt64), CallsFrom lastChecked calls →
      ∀ step ∈ triggerCheckRun lastCheckMin guard lastChecked calls, step.lastChecked ≤ step.time
  | [], _, _ => by simp [triggerCheckRun]
  | (caller, time) :: calls, lastChecked, ordered => by
    simp only [triggerCheckRun, List.mem_cons, forall_eq_or_imp]
    exact ⟨ordered.first, triggerCheckRun_lastChecked_le calls _ (ordered.next lastCheckMin guard)⟩

theorem pipelineStarts_after :
    ∀ (calls : List (Principal × UInt64)) (lastChecked : UInt64), CallsFrom lastChecked calls →
      ∀ start ∈ pipelineStarts (triggerCheckRun lastCheckMin guard lastChecked calls),
        lastChecked.toNat + lastCheckMin % 2 ^ 64 < start.toNat
  | [], _, _ => by simp [triggerCheckRun, pipelineStarts]
  | (caller, time) :: calls, lastChecked, ordered => by
    have rest := pipelineStarts_after calls _ (ordered.next lastCheckMin guard)
    have grown := (@triggerCheckCall_lastChecked_between lastCheckMin (guard caller) _ _
      ordered.first).1
    rw [UInt64.le_iff_toNat_le] at grown
    intro start started
    simp only [triggerCheckRun, pipelineStarts_cons] at started
    split at started
    next set =>
      rcases List.mem_cons.mp started with first | started
      · rcases @triggerCheckCall_cases lastCheckMin (guard caller) lastChecked time _ rfl with
          ⟨-, -, -, fresh⟩ | ⟨_, -, unset, -⟩
        · rw [first]
          exact gap_of_fresh ordered.first fresh
        · simp [set] at unset
      · have := rest start started
        omega
    next => have := rest start started; omega

theorem pipelineStarts_pairwise :
    ∀ (calls : List (Principal × UInt64)) (lastChecked : UInt64), CallsFrom lastChecked calls →
      (pipelineStarts (triggerCheckRun lastCheckMin guard lastChecked calls)).Pairwise
        fun earlier later => earlier.toNat + lastCheckMin % 2 ^ 64 < later.toNat
  | [], _, _ => by simp [triggerCheckRun, pipelineStarts]
  | (caller, time) :: calls, lastChecked, ordered => by
    have rest := pipelineStarts_pairwise calls _ (ordered.next lastCheckMin guard)
    simp only [triggerCheckRun, pipelineStarts_cons]
    split
    next set =>
      refine List.pairwise_cons.mpr ⟨fun start started => ?_, rest⟩
      have after := pipelineStarts_after lastCheckMin guard calls _
        (ordered.next lastCheckMin guard) start started
      rcases @triggerCheckCall_cases lastCheckMin (guard caller) lastChecked time _ rfl with
        ⟨-, -, sets, -⟩ | ⟨_, -, unset, -⟩
      · rwa [sets] at after
      · simp [set] at unset
    next => exact rest

end Run

/-- Over calls of `trigger_check` at non-decreasing times from `LAST_CHECKED = 0`, whatever the
callers, the network the canister was built for and its controllers, the rate limit holds: the
check never subtracts past zero, a failed call changes nothing, and the pipeline starts are more
than the threshold apart, which is `LAST_CHECK_MIN` for any duration below `2^64` nanoseconds. -/
theorem trigger_check_is_rate_limited (lastCheckMin : Nat) (dfxNetwork : Option String)
    (isController : Principal → Bool) (calls : List (Principal × UInt64))
    (nondecreasing : (calls.map Prod.snd).Chain' (· ≤ ·)) :
    RateLimited lastCheckMin
      (triggerCheckRun lastCheckMin (isAllowedCanister dfxNetwork isController) 0 calls) := by
  have ordered : CallsFrom 0 calls := ⟨fun call _ => Nat.zero_le call.2.toNat,
    List.pairwise_map.mp ((@List.chain'_iff_pairwise UInt64 (· ≤ ·)
      ⟨fun _ _ _ => UInt64.le_trans⟩ _).mp nondecreasing)⟩
  have spaced := pipelineStarts_pairwise lastCheckMin (isAllowedCanister dfxNetwork isController)
    calls 0 ordered
  have called := triggerCheckRun_outcome lastCheckMin (isAllowedCanister dfxNetwork isController)
    calls 0
  refine ⟨fun step stepped => ?_, fun step stepped _ failed =>
    triggerCheckCall_of_error (called step stepped) failed,
    fun step stepped => triggerCheckCall_ok_iff (called step stepped), spaced, fun fits => ?_⟩
  · have le := triggerCheckRun_lastChecked_le lastCheckMin _ calls 0 ordered step stepped
    exact ⟨le, UInt64.toNat_sub_of_le _ _ le⟩
  · rwa [Nat.mod_eq_of_lt fits] at spaced

theorem trigger_check_three_calls_rate_limited :
    (([(btownCanisterLocal, 100), (btownCanisterLocal, 130), (btownCanisterLocal, 200)] :
        List (Principal × UInt64)).map Prod.snd).Chain' (· ≤ ·) ∧
    RateLimited 60 (triggerCheckRun 60 (isAllowedCanister none fun _ => false) 0
      [(btownCanisterLocal, 100), (btownCanisterLocal, 130), (btownCanisterLocal, 200)]) :=
  have nondecreasing : (([(btownCanisterLocal, 100), (btownCanisterLocal, 130),
      (btownCanisterLocal, 200)] : List (Principal × UInt64)).map Prod.snd).Chain' (· ≤ ·) := by
    simp only [List.map_cons, List.map_nil, List.chain'_cons, List.chain'_singleton, and_true]
    decide
  ⟨nondecreasing, trigger_check_is_rate_limited 60 none (fun _ => false) _ nondecreasing⟩

example : pipelineStarts (triggerCheckRun 60 (isAllowedCanister none fun _ => false) 0
    [(btownCanisterLocal, 100), (btownCanisterLocal, 130), (btownCanisterLocal, 200)]) =
      [100, 200] := by
  decide

end GalacticBridge
