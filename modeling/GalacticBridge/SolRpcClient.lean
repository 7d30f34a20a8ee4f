import GalacticBridge.Table
import Mathlib.Data.List.Chain
import Mathlib.Data.List.Forall2

/-! The batch `getTransaction` call. `get_transactions` sends request `i` with JSON-RPC id `i + 1`,
but decodes the reply list by position: the reply at position `i` is recorded under
`signatures[i]`, whatever its id, and a reply list longer than the request list indexes past
its end and traps. -/

namespace GalacticBridge

inductive RejectionCode
  | noError
  | sysFatal
  | sysTransient
  | destinationInvalid
  | canisterReject
  | canisterError
  | unknown
deriving DecidableEq, Repr

inductive SolRpcError
  | requestFailed (code : RejectionCode) (msg : String)
  | jsonRpcFailed (code : Int) (msg : String)
  | fromUtf8Failed (error : String)
  | fromStringOfJsonFailed (error : String)
  | toStringOfJsonFailed (error : String)
deriving DecidableEq, Repr

structure JsonRpcRequest where
  id : Nat
  method : String
  signature : String
  commitment : String
deriving DecidableEq, Repr

structure JsonRpcError where
  code : Int
  message : String
deriving DecidableEq, Repr

structure JsonRpcResponse (τ : Type) where
  id : Nat
  result : Option τ
  error : Option JsonRpcError
deriving DecidableEq, Repr

variable {τ : Type}

def transactionRequests (signatures : List String) : List JsonRpcRequest :=
  signatures.enum.map fun (position, signature) =>
    ⟨position + 1, "getTransaction", signature, "confirmed"⟩

def responseResult (response : JsonRpcResponse τ) : Except SolRpcError (Option τ) :=
  match response.error with
  | some error => .error (.jsonRpcFailed error.code error.message)
  | none => .ok response.result

def insertResponses (signatures : List String) :
    Nat → Table String (Except SolRpcError (Option τ)) → List (JsonRpcResponse τ) →
      Except String (Table String (Except SolRpcError (Option τ)))
  | _, map, [] => .ok map
  | index, map, response :: responses =>
    match signatures[index]? with
    | some signature =>
      insertResponses signatures (index + 1) (map.insert signature (responseResult response))
        responses
    | none =>
      .error ("index out of bounds: the len is " ++ toString signatures.length ++
        " but the index is " ++ toString index)

def getTransactions (signatures : List String)
    (reply : Except SolRpcError (Except String (List (JsonRpcResponse τ)))) :
    Except String
      (Except SolRpcError (Table String (Except SolRpcError (Option τ)))) :=
  match reply with
  | .error error => .ok (.error error)
  | .ok (.error parseError) => .ok (.error (.fromStringOfJsonFailed parseError))
  | .ok (.ok responses) => (insertResponses signatures 0 Table.empty responses).map .ok

theorem insertResponses_eq_ok (signatures : List String) :
    ∀ (responses : List (JsonRpcResponse τ)) (index : Nat) map final,
      index ≤ signatures.length →
      (insertResponses signatures index map responses = .ok final ↔
        index + responses.length ≤ signatures.length ∧
          final = map.insertAll ((signatures.drop index).zip (responses.map responseResult))) := by
  intro responses
  induction responses with
  | nil => intro index map final within; simp [insertResponses, Table.insertAll, within, eq_comm]
  | cons response responses ih =>
    intro index map final within
    simp only [insertResponses]
    split
    next signature found =>
      obtain ⟨inside, rfl⟩ := List.getElem?_eq_some_iff.mp found
      rw [ih (index + 1) _ final inside, List.drop_eq_getElem_cons inside]
      simp only [List.length_cons, List.map_cons, List.zip_cons_cons, Table.insertAll,
        List.foldl_cons]
      rw [Nat.add_right_comm, Nat.add_assoc]
    next missing =>
      have past := List.getElem?_eq_none_iff.mp missing
      simp only [List.length_cons, reduceCtorEq, false_iff, not_and]
      omega

theorem insertResponses_traps (signatures : List String) (responses : List (JsonRpcResponse τ)) :
    (∃ message, insertResponses signatures 0 Table.empty responses = .error message) ↔
      signatures.length < responses.length := by
  have decoded := insertResponses_eq_ok signatures responses 0 Table.empty
  cases result : insertResponses signatures 0 Table.empty responses with
  | error message =>
    refine iff_of_true ⟨message, rfl⟩ (Nat.lt_of_not_le fun fits => ?_)
    have := (decoded _ (Nat.zero_le _)).mpr ⟨by omega, rfl⟩
    rw [result] at this
    cases this
  | ok final =>
    have fits := ((decoded final (Nat.zero_le _)).mp result).1
    exact iff_of_false (by rintro ⟨_, ⟨⟩⟩) (by omega)

theorem nodup_map_fst_zip {α β : Type} {keys : List α} (values : List β) (distinct : keys.Nodup) :
    ((keys.zip values).map Prod.fst).Nodup := by
  rw [List.zip_eq_zip_take_min, List.map_fst_zip _ _ (by simp only [List.length_take]; omega)]
  exact distinct.sublist (List.take_sublist _ _)

theorem mem_zip_getElem {α β : Type} {keys : List α} {values : List β} {position : Nat}
    (named : position < keys.length) (bound : position < values.length) :
    (keys[position], values[position]) ∈ keys.zip values :=
  List.mem_iff_getElem?.mpr ⟨position, List.getElem?_zip_eq_some.mpr
    ⟨List.getElem?_eq_getElem named, List.getElem?_eq_getElem bound⟩⟩

theorem transactionRequests_ids (signatures : List String) :
    (transactionRequests signatures).map JsonRpcRequest.id =
      (List.range signatures.length).map (· + 1) := by
  simp [transactionRequests, ← List.enum_map_fst, Function.comp_def]

theorem transactionRequests_signatures (signatures : List String) :
    (transactionRequests signatures).map JsonRpcRequest.signature = signatures := by
  simp [transactionRequests, Function.comp_def]

theorem get_insertAll_zip {signatures : List String} {responses : List (JsonRpcResponse τ)}
    (distinct : signatures.Nodup) (position : Nat) (named : position < signatures.length)
    (bound : position < responses.length) :
    (Table.empty.insertAll (signatures.zip (responses.map responseResult))).get
      signatures[position] = some (responseResult responses[position]) := by
  have listed := @mem_zip_getElem _ _ signatures (responses.map responseResult) position named
    (by simpa only [List.length_map] using bound)
  exact Table.get_insertAll_of_mem (nodup_map_fst_zip _ distinct)
    (by simpa only [List.getElem_map] using listed)

/-- `get_transactions` gives request `i` the id `i + 1`, but attributes the replies by position:
it traps exactly when the replies outnumber the signatures; otherwise its map holds the replies'
outcomes inserted under `signatures[0]`, `signatures[1]`, … in order. So for distinct signatures
the entry of `signatures[i]` is the outcome of the reply at position `i`, and that is the reply
with id `i + 1` when the replies come in request order. -/
theorem get_transactions_attributes_replies_by_position (signatures : List String)
    (responses : List (JsonRpcResponse τ)) :
    (transactionRequests signatures).map JsonRpcRequest.id =
        (List.range signatures.length).map (· + 1) ∧
      (transactionRequests signatures).map JsonRpcRequest.signature = signatures ∧
    ((∃ message, getTransactions signatures (.ok (.ok responses)) = .error message) ↔
      signatures.length < responses.length) ∧
    ∀ map, getTransactions signatures (.ok (.ok responses)) = .ok (.ok map) →
      map = Table.empty.insertAll (signatures.zip (responses.map responseResult)) ∧
      (signatures.Nodup → ∀ (position : Nat) (named : position < signatures.length)
        (bound : position < responses.length),
        map.get signatures[position] = some (responseResult responses[position])) ∧
      (signatures.Nodup →
        (∀ (position : Nat) (bound : position < responses.length),
          responses[position].id = position + 1) →
        ∀ (position : Nat) (named : position < signatures.length) response,
          response ∈ responses → response.id = position + 1 →
          map.get signatures[position] = some (responseResult response)) := by
  have unwrapped : getTransactions signatures (.ok (.ok responses)) =
      (insertResponses signatures 0 Table.empty responses).map .ok := rfl
  refine ⟨transactionRequests_ids signatures, transactionRequests_signatures signatures, ?_, ?_⟩
  · rw [unwrapped, ← insertResponses_traps]
    cases insertResponses signatures 0 Table.empty responses <;> simp [Except.map]
  · intro map decoded
    have inserted : insertResponses signatures 0 Table.empty responses = .ok map := by
      rw [unwrapped] at decoded
      cases found : insertResponses signatures 0 Table.empty responses <;>
        simp_all [Except.map]
    obtain ⟨-, rfl⟩ := (insertResponses_eq_ok signatures responses 0 Table.empty map
      (Nat.zero_le _)).mp inserted
    refine ⟨rfl, get_insertAll_zip,
      fun distinct inOrder position named response listed answers => ?_⟩
    obtain ⟨index, bound, rfl⟩ := List.getElem_of_mem listed
    obtain rfl : index = position := by have := inOrder index bound; omega
    exact get_insertAll_zip distinct index named bound

/-- Replies in the other order are recorded under the wrong signatures, and one reply more than
there were requests traps. -/
theorem reordered_replies_are_misattributed :
    (∃ map, getTransactions ["A", "B"]
        (.ok (.ok [⟨2, some "transaction B", none⟩, ⟨1, some "transaction A", none⟩])) =
          .ok (.ok map) ∧ map.get "A" = some (.ok (some "transaction B"))) ∧
    getTransactions ["A"]
        (.ok (.ok ([⟨1, some "transaction A", none⟩, ⟨2, none, none⟩] :
          List (JsonRpcResponse String)))) =
      .error "index out of bounds: the len is 1 but the index is 1" :=
  ⟨⟨_, rfl, rfl⟩, rfl⟩

def getSignaturesForAddress {σ : Type}
    (reply : Except SolRpcError (Except String (JsonRpcResponse (List σ)))) :
    Except String (Except SolRpcError (List σ)) :=
  match reply with
  | .error error => .ok (.error error)
  | .ok (.error parseError) => .ok (.error (.fromStringOfJsonFailed parseError))
  | .ok (.ok response) =>
    match response.error with
    | some error => .ok (.error (.jsonRpcFailed error.code error.message))
    | none =>
      match response.result with
      | some result => .ok (.ok result)
      | none => .error "called `Option::unwrap()` on a `None` value"

theorem getSignaturesForAddress_traps {σ : Type}
    (reply : Except SolRpcError (Except String (JsonRpcResponse (List σ)))) :
    (∃ message, getSignaturesForAddress reply = .error message) ↔
      ∃ response, reply = .ok (.ok response) ∧ response.error = none ∧ response.result = none := by
  rcases reply with error | parseError | ⟨id, result, error⟩
  · simp [getSignaturesForAddress]
  · simp [getSignaturesForAddress]
  · cases error <;> cases result <;> simp [getSignaturesForAddress]

structure AgentToken where
  token : String
  expireAt : Nat
deriving DecidableEq, Repr

def seconds : Nat := 1000000000

def refreshProxyTokenInterval : Nat := 60 * 60

/-- `get_agent_token` at canister time `time` (nanoseconds): the cached token until it expires,
then a new one, `sign_proxy_token(key, expire_at + 120, AGENT_NAME)` (here `sign`, which the
code unwraps), cached until the end of the next interval. -/
def getAgentToken (sign : Nat → String) (cache : AgentToken) (time : Nat) :
    String × AgentToken :=
  if cache.expireAt < time / seconds then
    let expireAt := time / seconds + refreshProxyTokenInterval
    let token := sign (expireAt + 120)
    (token, ⟨token, expireAt⟩)
  else (cache.token, cache)

def agentTokenRun (sign : Nat → String) : AgentToken → List Nat → List String × List Nat
  | _, [] => ([], [])
  | cache, time :: times =>
    let rest := agentTokenRun sign (getAgentToken sign cache time).2 times
    ((getAgentToken sign cache time).1 :: rest.1,
      if cache.expireAt < time / seconds then time / seconds :: rest.2 else rest.2)

def CacheSigned (sign : Nat → String) (cache : AgentToken) : Prop :=
  cache.expireAt = 0 ∨ cache.token = sign (cache.expireAt + 120)

section AgentToken

variable {sign : Nat → String} {cache : AgentToken} {time : Nat}

theorem cacheSigned_getAgentToken (signed : CacheSigned sign cache) :
    CacheSigned sign (getAgentToken sign cache time).2 := by
  unfold getAgentToken
  split
  next => exact .inr rfl
  next => exact signed

theorem getAgentToken_fresh (signed : CacheSigned sign cache) (started : seconds ≤ time) :
    ∃ expiry, (getAgentToken sign cache time).1 = sign expiry ∧ time / seconds + 120 ≤ expiry := by
  have running : 0 < time / seconds := Nat.div_pos started (by decide)
  unfold getAgentToken
  split
  next => exact ⟨_, rfl, by omega⟩
  next unexpired =>
    rcases signed with never | cached
    · omega
    · exact ⟨_, cached, by omega⟩

theorem getAgentToken_of_expired (expired : cache.expireAt < time / seconds) :
    (getAgentToken sign cache time).2.expireAt = time / seconds + refreshProxyTokenInterval := by
  simp [getAgentToken, expired]

theorem getAgentToken_of_unexpired (unexpired : ¬cache.expireAt < time / seconds) :
    getAgentToken sign cache time = (cache.token, cache) := by
  simp [getAgentToken, unexpired]

end AgentToken

theorem agentTokenRun_signings (sign : Nat → String) :
    ∀ (times : List Nat) (cache : AgentToken),
      (∀ first ∈ (agentTokenRun sign cache times).2.head?, cache.expireAt < first) ∧
      (agentTokenRun sign cache times).2.Chain'
        (fun earlier later => earlier + refreshProxyTokenInterval < later) := by
  intro times
  induction times with
  | nil => intro cache; simp [agentTokenRun]
  | cons time times ih =>
    intro cache
    simp only [agentTokenRun]
    by_cases expired : cache.expireAt < time / seconds
    · obtain ⟨after, spaced⟩ := ih (getAgentToken sign cache time).2
      rw [getAgentToken_of_expired expired] at after
      rw [if_pos expired]
      exact ⟨by simpa using expired, List.chain'_cons'.mpr ⟨after, spaced⟩⟩
    · rw [if_neg expired, getAgentToken_of_unexpired expired]
      exact ih cache

theorem agentTokenRun_fresh (sign : Nat → String) :
    ∀ (times : List Nat) (cache : AgentToken), CacheSigned sign cache →
      (∀ time ∈ times, seconds ≤ time) →
      List.Forall₂ (fun token time => ∃ expiry, token = sign expiry ∧ time / seconds + 120 ≤ expiry)
        (agentTokenRun sign cache times).1 times := by
  intro times
  induction times with
  | nil => intro cache _ _; exact .nil
  | cons time times ih =>
    intro cache signed started
    exact .cons (getAgentToken_fresh signed (started time (.head _)))
      (ih _ (cacheSigned_getAgentToken signed) fun later listed => started later (.tail _ listed))

theorem agent_tokens_fresh_and_rate_limited (sign : Nat → String) (times : List Nat)
    (cache : AgentToken) (signed : CacheSigned sign cache)
    (started : ∀ time ∈ times, seconds ≤ time) :
    List.Forall₂ (fun token time => ∃ expiry, token = sign expiry ∧ time / seconds + 120 ≤ expiry)
        (agentTokenRun sign cache times).1 times ∧
      (agentTokenRun sign cache times).2.Chain'
        (fun earlier later => earlier + refreshProxyTokenInterval < later) :=
  ⟨agentTokenRun_fresh sign times cache signed started,
    (agentTokenRun_signings sign times cache).2⟩

/-! ### The outcall -/

structure HttpResponse where
  status : Nat
  headers : List (String × String)
  body : List UInt8
deriving DecidableEq, Repr

def cleanupResponse (response : HttpResponse) : HttpResponse := { response with headers := [] }

theorem cleanupResponse_eq_iff {response other : HttpResponse} :
    cleanupResponse response = cleanupResponse other ↔
      response.status = other.status ∧ response.body = other.body := by
  cases response
  cases other
  simp [cleanupResponse]

def wrap128 (value : Nat) : Nat := value % 2 ^ 128

def rpcCallCycles (effectiveSizeEstimate : UInt64) : Nat :=
  let baseCycles :=
    wrap128 (400000000 + wrap128 (100000 * wrap128 (2 * effectiveSizeEstimate.toNat)))
  wrap128 (baseCycles * 34) / 13

theorem wrap128_of_lt {value : Nat} (small : value < 2 ^ 128) : wrap128 value = value :=
  Nat.mod_eq_of_lt small

/-- No step of the cycle computation wraps: for every `u64` size estimate the outcall carries
`(400_000_000 + 200_000 · estimate) · 34 / 13` cycles, so a larger estimate never buys fewer. -/
theorem rpc_call_cycles_never_wrap (effectiveSizeEstimate : UInt64) :
    rpcCallCycles effectiveSizeEstimate =
      (400000000 + 200000 * effectiveSizeEstimate.toNat) * 34 / 13 ∧
    ∀ larger : UInt64, effectiveSizeEstimate ≤ larger →
      rpcCallCycles effectiveSizeEstimate ≤ rpcCallCycles larger := by
  have exact : ∀ estimate : UInt64,
      rpcCallCycles estimate = (400000000 + 200000 * estimate.toNat) * 34 / 13 := by
    intro estimate
    have below : estimate.toNat < 2 ^ 64 := estimate.toNat_lt_size
    simp (disch := omega) only [rpcCallCycles, wrap128_of_lt]
    omega
  refine ⟨exact effectiveSizeEstimate, fun larger le => ?_⟩
  rw [exact, exact]
  exact Nat.div_le_div_right (by have : effectiveSizeEstimate.toNat ≤ larger.toNat := le; omega)

end GalacticBridge
