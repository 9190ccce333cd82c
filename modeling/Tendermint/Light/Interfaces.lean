import Tendermint.Types

/-! The collaborators of the verifying RPC facade and of the state-sync
provider, as interfaces over the state `σ` of the world they run in.

`Light.Client` is the light client: its operations are whatever a light
client of this chain does, including verifying, storing and failing.
`Light.Rpc.RpcClient` is the untrusted full node behind the facade: every
answer is arbitrary. Statements about the facade quantify over both.
-/

set_option autoImplicit false

namespace Tendermint.Light

/-- `light.Client`, through the methods the facade and the state provider call.
`TrustedHeader` and `TrustedValidatorSet` read the trusted store; `Primary`
reads the current primary. -/
structure Client (σ : Type) where
  chainID : GoString
  verifyHeaderAtHeight : Int64 → EStateM GoError σ SignedHeader
  trustedHeader : Int64 → σ → Except GoError SignedHeader
  trustedValidatorSet : Int64 → σ → Except GoError (ValidatorSet × Int64)
  primary : σ → Provider

namespace Rpc

/-- The methods of `rpcclient.Client` that the facade forwards and then verifies. -/
structure RpcClient (σ : Type) where
  status : EStateM GoError σ ResultStatus
  abciQueryWithOptions : GoString → Bytes → ABCIQueryOptions → EStateM GoError σ ResultABCIQuery
  consensusParams : Option Int64 → EStateM GoError σ ResultConsensusParams
  blockchainInfo : Int64 → Int64 → EStateM GoError σ ResultBlockchainInfo
  block : Option Int64 → EStateM GoError σ ResultBlock
  blockByHash : Bytes → EStateM GoError σ ResultBlock
  blockResults : Option Int64 → EStateM GoError σ ResultBlockResults
  commit : Option Int64 → EStateM GoError σ ResultCommit
  tx : Bytes → Bool → EStateM GoError σ ResultTx
  validators : Option Int64 → Option Int64 → Option Int64 → EStateM GoError σ ResultValidators

/-- `merkle.ProofRuntime` with whatever op decoders have been registered in it:
`VerifyValue(proof, root, keypath, value)` and `VerifyAbsence(proof, root, keypath)`,
the proof passed as the pointer it is in Go. -/
structure ProofRuntime where
  verifyValue : Option ProofOps → Bytes → GoString → Bytes → Option GoError
  verifyAbsence : Option ProofOps → Bytes → GoString → Option GoError

/-- The verifying facade of light/rpc: the untrusted client, the light client
and the proof runtime. -/
structure Client (σ : Type) where
  next : RpcClient σ
  lc : Light.Client σ
  prt : ProofRuntime

end Rpc

end Tendermint.Light
