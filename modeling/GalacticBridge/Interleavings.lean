import GalacticBridge.Footprint
import GalacticBridge.SolRpcClient

/-! Interleaved calls of the two functions that fill a cache across an `await`.
`get_agent_token` reads `AGENT_TOKEN_N_EXPIRY` and, when the token has expired, awaits
`sign_proxy_token(key, expire_at + 120, AGENT_NAME)` (the parameter `sign`) and caches the signed
token when it arrives; `lazy_call_ecdsa_public_key` reads the stored public key, and when there is
none awaits the management canister and then the proxy key, writing each as it arrives. Between
those awaits other tasks run, so calls interleave with each other and with every other state
mutation. A schedule is a list of events, run by one step function per cache. Whatever the
schedule, every token returned is the one signed for its expiry plus 120 s, an expiry not before
the call, and the stored public key is only ever the management canister's key for the configured
name. When no two `get_agent_token` calls overlap, the interleaved model returns the tokens of
`agentTokenRun`. -/

namespace GalacticBridge

def runEvents {σ ε ρ : Type} (step : σ → ε → Option (σ × Option ρ)) :
    σ → List ε → Option (σ × List ρ)
  | state, [] => some (state, [])
  | state, event :: events =>
    (step state event).bind fun (next, returned) =>
      (runEvents step next events).map fun (final, returns) => (final, returned.toList ++ returns)

theorem runEvents_invariant {σ ε ρ : Type} {step : σ → ε → Option (σ × Option ρ)}
    (invariant : σ → Prop) (promise : ρ → Prop) (allowed : ε → Prop)
    (stepKeeps : ∀ state event next returned, invariant state → allowed event →
      step state event = some (next, returned) →
      invariant next ∧ ∀ value ∈ returned.toList, promise value) :
    ∀ (events : List ε) (state final : σ) (returns : List ρ), invariant state →
      (∀ event ∈ events, allowed event) → runEvents step state events = some (final, returns) →
      invariant final ∧ ∀ value ∈ returns, promise value
  | [], state, final, returns, holds, _, ran => by
    obtain ⟨rfl, rfl⟩ := Prod.mk.inj (Option.some.inj ran).symm
    exact ⟨holds, by simp⟩
  | event :: events, state, final, returns, holds, allowedAll, ran => by
    obtain ⟨⟨next, returned⟩, stepped, rest⟩ := Option.bind_eq_some.mp ran
    obtain ⟨⟨final', returns'⟩, ranRest, same⟩ := Option.map_eq_some'.mp rest
    obtain ⟨rfl, rfl⟩ := Prod.mk.inj same.symm
    obtain ⟨holdsNext, promisedNow⟩ :=
      stepKeeps state event next returned holds (allowedAll event (.head _)) stepped
    obtain ⟨holdsFinal, promisedLater⟩ :=
      runEvents_invariant invariant promise allowed stepKeeps events next final returns'
        holdsNext (fun later listed => allowedAll later (.tail _ listed)) ranRest
    refine ⟨holdsFinal, fun value listed => ?_⟩
    rcases List.mem_append.mp listed with now | later
    · exact promisedNow value now
    · exact promisedLater value later

/-! ### `get_agent_token` -/

structure PendingSigning where
  task : Nat
  time : Nat
  expireAt : Nat
deriving DecidableEq, Repr

structure TokenTasks where
  cache : AgentToken
  pending : List PendingSigning
deriving DecidableEq, Repr

inductive TokenEvent
  | call (task : Nat) (time : Nat)
  | signed (task : Nat)
  | signFailed (task : Nat)
deriving DecidableEq, Repr

structure TokenReturn where
  task : Nat
  time : Nat
  token : String
  expireAt : Nat
  signedHere : Bool
deriving DecidableEq, Repr

def AgentToken.initial : AgentToken := ⟨"", 0⟩

/-- One event. A call returns the cached token unless it has expired; then it computes its
`expire_at` and waits for `sign_proxy_token(key, expire_at + 120, AGENT_NAME)`, here `sign`. When
the signature arrives it is cached with that `expire_at` and returned; when the signing fails the
`unwrap` traps. An event that cannot happen (a reply to a task that waits for none) is `none`. -/
def tokenStep (sign : Nat → String) (tasks : TokenTasks) :
    TokenEvent → Option (TokenTasks × Option TokenReturn)
  | .call task time =>
    if tasks.cache.expireAt < time / seconds then
      some (⟨tasks.cache,
        tasks.pending ++ [⟨task, time, time / seconds + refreshProxyTokenInterval⟩]⟩, none)
    else some (tasks, some ⟨task, time, tasks.cache.token, tasks.cache.expireAt, false⟩)
  | .signed task =>
    (tasks.pending.find? (·.task = task)).map fun waiting =>
      let token := sign (waiting.expireAt + 120)
      (⟨⟨token, waiting.expireAt⟩, tasks.pending.erase waiting⟩,
        some ⟨task, waiting.time, token, waiting.expireAt, true⟩)
  | .signFailed task =>
    (tasks.pending.find? (·.task = task)).map fun waiting =>
      (⟨tasks.cache, tasks.pending.erase waiting⟩, none)

def runTokens (sign : Nat → String) :
    TokenTasks → List TokenEvent → Option (TokenTasks × List TokenReturn) :=
  runEvents (tokenStep sign)

structure TokenTasks.Good (sign : Nat → String) (tasks : TokenTasks) : Prop where
  pendingExpiry : ∀ waiting ∈ tasks.pending,
    waiting.expireAt = waiting.time / seconds + refreshProxyTokenInterval
  cacheSigned : CacheSigned sign tasks.cache

section Token

variable {sign : Nat → String}

theorem tokenStep_good {tasks next : TokenTasks} {event : TokenEvent}
    {returned : Option TokenReturn} (good : tasks.Good sign)
    (started : ∀ task time, event = .call task time → seconds ≤ time)
    (step : tokenStep sign tasks event = some (next, returned)) :
    next.Good sign ∧ ∀ call ∈ returned.toList,
      call.token = sign (call.expireAt + 120) ∧ call.time / seconds ≤ call.expireAt := by
  cases event with
  | call task time =>
    have running : 0 < time / seconds := Nat.div_pos (started task time rfl) (by decide)
    simp only [tokenStep] at step
    split at step
    next expired =>
      obtain ⟨rfl, rfl⟩ := Prod.mk.inj (Option.some.inj step).symm
      refine ⟨⟨fun waiting listed => ?_, good.cacheSigned⟩, by simp⟩
      rcases List.mem_append.mp listed with old | new
      · exact good.pendingExpiry waiting old
      · rw [List.mem_singleton.mp new]
    next unexpired =>
      obtain ⟨rfl, rfl⟩ := Prod.mk.inj (Option.some.inj step)
      have signed : tasks.cache.token = sign (tasks.cache.expireAt + 120) :=
        good.cacheSigned.resolve_left (by omega)
      exact ⟨good, by simpa using ⟨signed, Nat.le_of_not_lt unexpired⟩⟩
  | signed task =>
    obtain ⟨waiting, found, same⟩ := Option.map_eq_some'.mp step
    obtain ⟨rfl, rfl⟩ := Prod.mk.inj same.symm
    have expiry := good.pendingExpiry waiting (List.mem_of_find?_eq_some found)
    refine ⟨⟨fun other kept => good.pendingExpiry other (List.mem_of_mem_erase kept), .inr rfl⟩,
      ?_⟩
    simp only [Option.toList_some, List.mem_singleton, forall_eq, true_and]
    omega
  | signFailed task =>
    obtain ⟨waiting, -, same⟩ := Option.map_eq_some'.mp step
    obtain ⟨rfl, rfl⟩ := Prod.mk.inj same.symm
    exact ⟨⟨fun other kept => good.pendingExpiry other (List.mem_of_mem_erase kept),
      good.cacheSigned⟩, by simp⟩

end Token

/-- Under any interleaving of `get_agent_token` calls from the first second on, with signatures
arriving in any order or failing, every call returns the token signed for the `expire_at` it
reports plus 120 s, and that `expire_at` is not before the second of the call; the cache holds
the default or a token so signed. -/
theorem concurrent_agent_tokens_fresh (sign : Nat → String) (events : List TokenEvent)
    (final : TokenTasks) (returns : List TokenReturn)
    (started : ∀ task time, .call task time ∈ events → seconds ≤ time)
    (ran : runTokens sign ⟨AgentToken.initial, []⟩ events = some (final, returns)) :
    (∀ call ∈ returns,
      call.token = sign (call.expireAt + 120) ∧ call.time / seconds ≤ call.expireAt) ∧
    CacheSigned sign final.cache := by
  obtain ⟨good, fresh⟩ := runEvents_invariant (TokenTasks.Good sign)
    (fun call => call.token = sign (call.expireAt + 120) ∧ call.time / seconds ≤ call.expireAt)
    (fun event => ∀ task time, event = .call task time → seconds ≤ time)
    (fun _ _ _ _ good started step => tokenStep_good good started step)
    events _ final returns ⟨fun _ listed => by simp at listed, .inl rfl⟩
    (fun _ listed task time called => started task time (called ▸ listed)) ran
  exact ⟨fresh, good.cacheSigned⟩

theorem overlapping_agent_token_calls_fresh :
    (∀ task time, TokenEvent.call task time ∈ [.call 1 2000000000, .call 2 3000000000,
      .signed 2, .signed 1, .call 3 4000000000] → seconds ≤ time) ∧
    ∃ final returns, runTokens toString ⟨AgentToken.initial, []⟩ [.call 1 2000000000,
      .call 2 3000000000, .signed 2, .signed 1, .call 3 4000000000] = some (final, returns) ∧
      (∀ call ∈ returns,
        call.token = toString (call.expireAt + 120) ∧ call.time / seconds ≤ call.expireAt) ∧
      CacheSigned toString final.cache :=
  have started : ∀ task time, TokenEvent.call task time ∈ [.call 1 2000000000,
      .call 2 3000000000, .signed 2, .signed 1, .call 3 4000000000] → seconds ≤ time := by
    intro task time listed
    simp only [List.mem_cons, TokenEvent.call.injEq, reduceCtorEq, List.mem_nil_iff, false_or,
      or_false] at listed
    rcases listed with ⟨-, rfl⟩ | ⟨-, rfl⟩ | ⟨-, rfl⟩ <;> decide
  ⟨started, _, _, rfl, concurrent_agent_tokens_fresh toString _ _ _ started rfl⟩

def sequentialSchedule : Nat → List Nat → List TokenEvent
  | _, [] => []
  | expireAt, time :: times =>
    if expireAt < time / seconds then
      .call 0 time :: .signed 0 ::
        sequentialSchedule (time / seconds + refreshProxyTokenInterval) times
    else .call 0 time :: sequentialSchedule expireAt times

theorem runTokens_sequentialSchedule (sign : Nat → String) :
    ∀ (times : List Nat) (cache : AgentToken),
    (runTokens sign ⟨cache, []⟩ (sequentialSchedule cache.expireAt times)).map
        (fun result => (result.2.map (·.token),
          (result.2.filter (·.signedHere)).map fun call => call.time / seconds)) =
      some (agentTokenRun sign cache times)
  | [], _ => rfl
  | time :: times, cache => by
    obtain ⟨⟨final, returns⟩, ran, same⟩ := Option.map_eq_some'.mp
      (runTokens_sequentialSchedule sign times (getAgentToken sign cache time).2)
    by_cases expired : cache.expireAt < time / seconds <;>
      simp only [getAgentToken, expired, if_true, if_false, runTokens] at ran same <;>
      simp [sequentialSchedule, runTokens, runEvents, tokenStep, agentTokenRun, getAgentToken,
        expired, ran, ← same]

/-- When no two calls overlap, the interleaved calls return exactly the tokens of the sequential
model `agentTokenRun` and sign at the seconds it signs at: every token is signed for at least
120 s past its call, and a new token is signed only more than `REFRESH_PROXY_TOKEN_INTERVAL`
after the previous signing. -/
theorem non_overlapping_agent_token_calls (sign : Nat → String) (times : List Nat)
    (started : ∀ time ∈ times, seconds ≤ time) :
    ∃ final returns,
      runTokens sign ⟨AgentToken.initial, []⟩
          (sequentialSchedule AgentToken.initial.expireAt times) = some (final, returns) ∧
      returns.map (·.token) = (agentTokenRun sign AgentToken.initial times).1 ∧
      (returns.filter (·.signedHere)).map (fun call => call.time / seconds) =
        (agentTokenRun sign AgentToken.initial times).2 ∧
      List.Forall₂ (fun call time => ∃ expiry, call.token = sign expiry ∧
        time / seconds + 120 ≤ expiry) returns times ∧
      ((returns.filter (·.signedHere)).map fun call => call.time / seconds).Chain'
        (fun earlier later => earlier + refreshProxyTokenInterval < later) := by
  obtain ⟨⟨final, returns⟩, ran, same⟩ := Option.map_eq_some'.mp
    (runTokens_sequentialSchedule sign times AgentToken.initial)
  obtain ⟨fresh, spaced⟩ := agent_tokens_fresh_and_rate_limited sign times AgentToken.initial
    (.inl rfl) started
  obtain ⟨tokens, signings⟩ := Prod.mk.inj same
  refine ⟨final, returns, ran, tokens, signings, ?_, signings ▸ spaced⟩
  rw [← tokens, List.forall₂_map_left_iff] at fresh
  exact fresh

theorem three_non_overlapping_agent_token_calls :
    (∀ time ∈ [2000000000, 3000000000, 3700000000000], seconds ≤ time) ∧
    ∃ final returns, runTokens toString ⟨AgentToken.initial, []⟩
        (sequentialSchedule AgentToken.initial.expireAt
          [2000000000, 3000000000, 3700000000000]) = some (final, returns) ∧
      returns.map (·.token) =
        (agentTokenRun toString AgentToken.initial [2000000000, 3000000000, 3700000000000]).1 ∧
      (returns.filter (·.signedHere)).map (fun call => call.time / seconds) =
        (agentTokenRun toString AgentToken.initial [2000000000, 3000000000, 3700000000000]).2 ∧
      List.Forall₂ (fun call time => ∃ expiry, call.token = toString expiry ∧
        time / seconds + 120 ≤ expiry) returns [2000000000, 3000000000, 3700000000000] ∧
      ((returns.filter (·.signedHere)).map fun call => call.time / seconds).Chain'
        (fun earlier later => earlier + refreshProxyTokenInterval < later) :=
  have started : ∀ time ∈ [2000000000, 3000000000, 3700000000000], seconds ≤ time := by decide
  ⟨started, non_overlapping_agent_token_calls toString _ started⟩

/-! ### `lazy_call_ecdsa_public_key` -/

inductive KeyWait
  | publicKey (keyName : String)
  | proxyKey (keyName : String) (response : EcdsaPublicKeyResponse)
deriving DecidableEq, Repr

structure KeyTasks where
  state : State
  pending : List (Nat × KeyWait)

inductive KeyEvent
  | call (task : Nat)
  | publicKeyReplied (task : Nat)
  | proxyKeyReplied (task : Nat)
  | replyFailed (task : Nat)
  | mutate (op : Op)
deriving DecidableEq, Repr

def keyLocations : List Location := [.ecdsaKeyName, .ecdsaPublicKey, .ecdsaProxyPublicKey]

def keyStep (publicKeyOf : String → EcdsaPublicKeyResponse) (proxyKeyOf : String → String)
    (tasks : KeyTasks) : KeyEvent → Option (KeyTasks × Option (Nat × EcdsaPublicKeyResponse))
  | .call task =>
    match tasks.state.ecdsaPublicKey with
    | some response => some (tasks, some (task, response))
    | none =>
      some (⟨tasks.state, tasks.pending ++ [(task, .publicKey tasks.state.ecdsaKeyName)]⟩, none)
  | .publicKeyReplied task =>
    match tasks.pending.find? (·.1 = task) with
    | some (_, .publicKey keyName) =>
      some (⟨{ tasks.state with ecdsaPublicKey := some (publicKeyOf keyName) },
        tasks.pending.erase (task, .publicKey keyName) ++
          [(task, .proxyKey keyName (publicKeyOf keyName))]⟩, none)
    | _ => none
  | .proxyKeyReplied task =>
    match tasks.pending.find? (·.1 = task) with
    | some (_, .proxyKey keyName response) =>
      some (⟨{ tasks.state with ecdsaProxyPublicKey := some (proxyKeyOf keyName) },
        tasks.pending.erase (task, .proxyKey keyName response)⟩, some (task, response))
    | _ => none
  | .replyFailed task =>
    (tasks.pending.find? (·.1 = task)).map fun waiting =>
      (⟨tasks.state, tasks.pending.erase waiting⟩, none)
  | .mutate op =>
    if keyLocations.all fun location => location ∉ op.touches then
      match op.run tasks.state with
      | .ok next => some (⟨next, tasks.pending⟩, none)
      | .error _ => some (tasks, none)
    else none

structure KeyTasks.Good (publicKeyOf : String → EcdsaPublicKeyResponse)
    (proxyKeyOf : String → String) (keyName : String) (tasks : KeyTasks) : Prop where
  keyNameKept : tasks.state.ecdsaKeyName = keyName
  publicKeyStored : tasks.state.ecdsaPublicKey = none ∨
    tasks.state.ecdsaPublicKey = some (publicKeyOf keyName)
  proxyKeyStored : tasks.state.ecdsaProxyPublicKey = none ∨
    tasks.state.ecdsaProxyPublicKey = some (proxyKeyOf keyName)
  waitingFor : ∀ waiting ∈ tasks.pending, waiting.2 = .publicKey keyName ∨
    waiting.2 = .proxyKey keyName (publicKeyOf keyName)

section Key

variable {publicKeyOf : String → EcdsaPublicKeyResponse} {proxyKeyOf : String → String}
  {keyName : String}

theorem KeyTasks.Good.waiting_of_find? {tasks : KeyTasks}
    (good : tasks.Good publicKeyOf proxyKeyOf keyName) {task : Nat} {waiting : Nat × KeyWait}
    (found : tasks.pending.find? (·.1 = task) = some waiting) :
    waiting.2 = .publicKey keyName ∨ waiting.2 = .proxyKey keyName (publicKeyOf keyName) :=
  good.waitingFor waiting (List.mem_of_find?_eq_some found)

theorem keyStep_good {tasks next : KeyTasks} {event : KeyEvent}
    {returned : Option (Nat × EcdsaPublicKeyResponse)}
    (good : tasks.Good publicKeyOf proxyKeyOf keyName)
    (step : keyStep publicKeyOf proxyKeyOf tasks event = some (next, returned)) :
    next.Good publicKeyOf proxyKeyOf keyName ∧
      (∀ call ∈ returned.toList, call.2 = publicKeyOf keyName) ∧
      (next.state.ecdsaPublicKey = tasks.state.ecdsaPublicKey ∨
        next.state.ecdsaPublicKey = some (publicKeyOf keyName)) := by
  cases event with
  | call task =>
    simp only [keyStep] at step
    split at step
    next response stored =>
      obtain ⟨rfl, rfl⟩ := Prod.mk.inj (Option.some.inj step).symm
      refine ⟨good, ?_, .inl rfl⟩
      rcases good.publicKeyStored with absent | present
      · simp [stored] at absent
      · simpa [stored] using present
    next absent =>
      obtain ⟨rfl, rfl⟩ := Prod.mk.inj (Option.some.inj step).symm
      refine ⟨⟨good.keyNameKept, good.publicKeyStored, good.proxyKeyStored, ?_⟩, by simp,
        .inl rfl⟩
      intro waiting listed
      rcases List.mem_append.mp listed with old | new
      · exact good.waitingFor waiting old
      · simp [List.mem_singleton.mp new, good.keyNameKept]
  | publicKeyReplied task =>
    simp only [keyStep] at step
    split at step
    next name found =>
      obtain ⟨rfl, rfl⟩ := Prod.mk.inj (Option.some.inj step).symm
      obtain rfl : name = keyName := by simpa using good.waiting_of_find? found
      refine ⟨⟨good.keyNameKept, .inr rfl, good.proxyKeyStored, ?_⟩, by simp, .inr rfl⟩
      intro waiting listed
      rcases List.mem_append.mp listed with old | new
      · exact good.waitingFor waiting (List.mem_of_mem_erase old)
      · simp [List.mem_singleton.mp new]
    next => cases step
  | proxyKeyReplied task =>
    simp only [keyStep] at step
    split at step
    next name response found =>
      obtain ⟨rfl, rfl⟩ := Prod.mk.inj (Option.some.inj step).symm
      obtain ⟨rfl, rfl⟩ : name = keyName ∧ response = publicKeyOf keyName := by
        simpa using good.waiting_of_find? found
      exact ⟨⟨good.keyNameKept, good.publicKeyStored, .inr rfl,
        fun waiting listed => good.waitingFor waiting (List.mem_of_mem_erase listed)⟩, by simp,
        .inl rfl⟩
    next => cases step
  | replyFailed task =>
    obtain ⟨waiting, -, same⟩ := Option.map_eq_some'.mp step
    obtain ⟨rfl, rfl⟩ := Prod.mk.inj same.symm
    exact ⟨⟨good.keyNameKept, good.publicKeyStored, good.proxyKeyStored,
      fun other listed => good.waitingFor other (List.mem_of_mem_erase listed)⟩, by simp, .inl rfl⟩
  | mutate op =>
    simp only [keyStep] at step
    split at step
    next leaves =>
      simp only [keyLocations, List.all_cons, List.all_nil, Bool.and_true, Bool.and_eq_true,
        decide_eq_true_eq] at leaves
      split at step
      next after ran =>
        obtain ⟨rfl, rfl⟩ := Prod.mk.inj (Option.some.inj step).symm
        have name := Op.read_run_of_not_mem ran leaves.1
        have publicKey := Op.read_run_of_not_mem ran leaves.2.1
        have proxyKey := Op.read_run_of_not_mem ran leaves.2.2
        simp only [State.read] at name publicKey proxyKey
        exact ⟨⟨name ▸ good.keyNameKept, publicKey ▸ good.publicKeyStored,
          proxyKey ▸ good.proxyKeyStored, good.waitingFor⟩, by simp, .inl publicKey⟩
      next =>
        obtain ⟨rfl, rfl⟩ := Prod.mk.inj (Option.some.inj step).symm
        exact ⟨good, by simp, .inl rfl⟩
    next => cases step

end Key

def runKeys (publicKeyOf : String → EcdsaPublicKeyResponse) (proxyKeyOf : String → String) :
    KeyTasks → List KeyEvent → Option (KeyTasks × List (Nat × EcdsaPublicKeyResponse)) :=
  runEvents (keyStep publicKeyOf proxyKeyOf)

/-- Across any interleaving of `lazy_call_ecdsa_public_key` calls with each other and with every
state mutation that leaves the key fields alone, from a state whose stored keys are absent or the
canisters' answers for its key name: the stored keys stay absent or those answers, a public key
stored at the start is still stored at the end, and every call returns the management canister's
key for the configured name, however many calls fetched it. -/
theorem concurrent_public_key_calls_agree (publicKeyOf : String → EcdsaPublicKeyResponse)
    (proxyKeyOf : String → String) (s : State) (events : List KeyEvent) (final : KeyTasks)
    (returns : List (Nat × EcdsaPublicKeyResponse))
    (publicKeyStored : s.ecdsaPublicKey = none ∨
      s.ecdsaPublicKey = some (publicKeyOf s.ecdsaKeyName))
    (proxyKeyStored : s.ecdsaProxyPublicKey = none ∨
      s.ecdsaProxyPublicKey = some (proxyKeyOf s.ecdsaKeyName))
    (ran : runKeys publicKeyOf proxyKeyOf ⟨s, []⟩ events = some (final, returns)) :
    final.state.ecdsaKeyName = s.ecdsaKeyName ∧
    (final.state.ecdsaPublicKey = none ∨
      final.state.ecdsaPublicKey = some (publicKeyOf s.ecdsaKeyName)) ∧
    (final.state.ecdsaProxyPublicKey = none ∨
      final.state.ecdsaProxyPublicKey = some (proxyKeyOf s.ecdsaKeyName)) ∧
    (s.ecdsaPublicKey.isSome → final.state.ecdsaPublicKey = some (publicKeyOf s.ecdsaKeyName)) ∧
    ∀ call ∈ returns, call.2 = publicKeyOf s.ecdsaKeyName := by
  obtain ⟨⟨good, kept⟩, returned⟩ := @runEvents_invariant _ _ _ (keyStep publicKeyOf proxyKeyOf)
    (fun tasks => tasks.Good publicKeyOf proxyKeyOf s.ecdsaKeyName ∧
      (s.ecdsaPublicKey.isSome → tasks.state.ecdsaPublicKey = some (publicKeyOf s.ecdsaKeyName)))
    (fun call => call.2 = publicKeyOf s.ecdsaKeyName) (fun _ => True)
    (fun _ _ _ _ ⟨good, kept⟩ _ step => by
      obtain ⟨goodNext, returned, stored⟩ := keyStep_good good step
      refine ⟨⟨goodNext, fun present => ?_⟩, returned⟩
      rcases stored with same | set
      · exact same ▸ kept present
      · exact set)
    events _ final returns
    ⟨⟨rfl, publicKeyStored, proxyKeyStored, fun _ listed => by simp at listed⟩,
      fun present => by rcases publicKeyStored with absent | stored <;> simp_all⟩
    (fun _ _ => trivial) ran
  exact ⟨good.keyNameKept, good.publicKeyStored, good.proxyKeyStored, kept, returned⟩

theorem overlapping_public_key_calls_agree :
    (State.ofInitArg sampleInitArg).ecdsaPublicKey = none ∧
    (State.ofInitArg sampleInitArg).ecdsaProxyPublicKey = none ∧
    ∃ final returns, runKeys (fun name => ⟨name.toList.map (·.toNat.toUInt8), [7]⟩) (· ++ "-proxy")
      ⟨State.ofInitArg sampleInitArg, []⟩
      [.call 1, .call 2, .publicKeyReplied 2, .publicKeyReplied 1, .proxyKeyReplied 2,
        .call 3, .proxyKeyReplied 1] = some (final, returns) ∧
      final.state.ecdsaKeyName = "key" ∧
      (final.state.ecdsaPublicKey = none ∨
        final.state.ecdsaPublicKey = some ⟨"key".toList.map (·.toNat.toUInt8), [7]⟩) ∧
      (final.state.ecdsaProxyPublicKey = none ∨
        final.state.ecdsaProxyPublicKey = some "key-proxy") ∧
      ((none : Option EcdsaPublicKeyResponse).isSome → final.state.ecdsaPublicKey =
        some ⟨"key".toList.map (·.toNat.toUInt8), [7]⟩) ∧
      ∀ call ∈ returns, call.2 = ⟨"key".toList.map (·.toNat.toUInt8), [7]⟩ :=
  ⟨rfl, rfl, _, _, rfl, concurrent_public_key_calls_agree
    (fun name => ⟨name.toList.map (·.toNat.toUInt8), [7]⟩) (· ++ "-proxy")
    (State.ofInitArg sampleInitArg)
    [.call 1, .call 2, .publicKeyReplied 2, .publicKeyReplied 1, .proxyKeyReplied 2, .call 3,
      .proxyKeyReplied 1] _ _ (.inl rfl) (.inl rfl) rfl⟩

end GalacticBridge
