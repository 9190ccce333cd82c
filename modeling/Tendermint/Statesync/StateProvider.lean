import Tendermint.Light.Rpc.Soundness

/-! The light-client state provider of state sync (statesync/stateprovider.go).

`State(height)` builds the state a node bootstraps from: the last block from
the header verified at `height`, the app and results hashes from the one at
`height + 1`, the validator sets from the trusted store at `height`,
`height + 1` and `height + 2`, and the consensus parameters from the primary
through the verifying facade. Heights are `uint64`s passed as `int64(...)`;
when the light client verifies positive heights only, a successful call has
converted every height exactly. The consensus parameters are checked against
the header at the height the primary's answer names, which need not be
`height + 1`.

`NewLightClientStateProvider` keys each provider to the server it was made
from; `State` dials the server keyed to the light client's current primary.
-/

set_option autoImplicit false

namespace Tendermint.Statesync

open Light.Rpc

/-- The fields of `sm.State` that `State` sets; the others keep their zero values. -/
structure State where
  chainID : GoString
  version : Version
  initialHeight : Int64
  lastBlockHeight : Int64
  lastBlockID : BlockID
  lastBlockTime : Time
  nextValidators : ValidatorSet
  validators : ValidatorSet
  lastValidators : ValidatorSet
  lastHeightValidatorsChanged : Int64
  consensusParams : ConsensusParams
  lastResultsHash : Bytes
  appHash : Bytes
  deriving DecidableEq

/-- `lightClientStateProvider`: `providers` gives the RPC address each light-client
provider was made from. -/
structure LightClientStateProvider (σ : Type) where
  lc : Light.Client σ
  version : Version
  initialHeight : Int64
  providers : List (Provider × GoString)

def errNoPrimaryAddress : GoError :=
  GoError.new "could not find address for primary light client provider"

variable {σ : Type}

/-- `rpcClient(server)`, `rpchttp.New` being `rpchttpNew`. -/
def rpcClient (rpchttpNew : GoString → GoString → Except GoError (RpcClient σ)) (server : GoString) :
    Except GoError (RpcClient σ) :=
  let server := if !Strings.contains server (lit "://") then lit "http://" ++ server else server
  rpchttpNew server (lit "/websocket")

/-- One turn of the loop of `NewLightClientStateProvider`: the provider made
over the RPC client of `server`, keyed to `server`. -/
def providerRemote (rpchttpNew : GoString → GoString → Except GoError (RpcClient σ))
    (newWithClient : GoString → RpcClient σ → Provider) (chainID server : GoString) :
    Except GoError (Provider × GoString) := do
  let client ← (rpcClient rpchttpNew server).mapError (GoError.wrap "failed to set up RPC client")
  pure (newWithClient chainID client, server)

/-- `NewLightClientStateProvider`, with `lighthttp.NewWithClient` as
`newWithClient` and `light.NewClient` as `newClient`, given the chain, the trust
options, the primary and the witnesses. Indexing an empty slice panics with the
message of the last branch, which the length check makes unreachable. -/
def newLightClientStateProvider {TrustOptions : Type}
    (rpchttpNew : GoString → GoString → Except GoError (RpcClient σ))
    (newWithClient : GoString → RpcClient σ → Provider)
    (newClient : GoString → TrustOptions → Provider → List Provider → Except GoError (Light.Client σ))
    (chainID : GoString) (version : Version) (initialHeight : Int64) (servers : List GoString)
    (trustOptions : TrustOptions) : Except GoError (LightClientStateProvider σ) := do
  if servers.length < 2 then
    throw (GoError.new ("at least 2 RPC servers are required, got " ++ toString servers.length))
  let providerRemotes ← servers.mapM (providerRemote rpchttpNew newWithClient chainID)
  match providerRemotes.map Prod.fst with
  | primary :: witnesses =>
    let lc ← newClient chainID trustOptions primary witnesses
    pure ⟨lc, version, initialHeight, providerRemotes⟩
  | [] => throw (GoError.new "runtime error: index out of range [0] with length 0")

/-- `TrustedValidatorSet(height)`, keeping the set. -/
def trustedValidatorSet (lc : Light.Client σ) (height : Int64) : EStateM GoError σ ValidatorSet := do
  let s ← get
  let res ← liftExcept (lc.trustedValidatorSet height s)
  return res.1

namespace LightClientStateProvider

variable (p : LightClientStateProvider σ)

def appHash (height : UInt64) : EStateM GoError σ Bytes := do
  -- We have to fetch the next height, which contains the app hash for the previous height.
  let header ← p.lc.verifyHeaderAtHeight (Int64.ofUInt64 (height + 1))
  return header.header.appHash

def commit (height : UInt64) : EStateM GoError σ Commit := do
  let header ← p.lc.verifyHeaderAtHeight (Int64.ofUInt64 height)
  return header.commit

/-- `s.providers[s.lc.Primary()]`, refused when missing or empty. -/
def primaryURL : EStateM GoError σ GoString := do
  let s ← get
  let url := p.providers.lookup (p.lc.primary s)
  ensure (url.isSome ∧ url.getD [] ≠ []) errNoPrimaryAddress
  return url.getD []

section State

variable (lib : Library) (defaultProofRuntime : ProofRuntime)
  (rpchttpNew : GoString → GoString → Except GoError (RpcClient σ))

def state (height : UInt64) : EStateM GoError σ State := do
  let initialHeight := if p.initialHeight = 0 then 1 else p.initialHeight
  -- We need to verify up until h+2, to get the validator set. This also prefetches the headers
  -- for h and h+1 in the typical case where the trusted header is after the snapshot height.
  discard (p.lc.verifyHeaderAtHeight (Int64.ofUInt64 (height + 2)))
  let header ← p.lc.verifyHeaderAtHeight (Int64.ofUInt64 height)
  let nextHeader ← p.lc.verifyHeaderAtHeight (Int64.ofUInt64 (height + 1))
  let lastValidators ← trustedValidatorSet p.lc (Int64.ofUInt64 height)
  let validators ← trustedValidatorSet p.lc (Int64.ofUInt64 (height + 1))
  let nextValidators ← trustedValidatorSet p.lc (Int64.ofUInt64 (height + 2))
  -- We'll also need to fetch consensus params via RPC, using light client verification.
  let primaryURL ← p.primaryURL
  let primaryRPC ← liftExcept
    ((rpcClient rpchttpNew primaryURL).mapError (GoError.wrap "unable to create RPC client"))
  let rpcclient : Client σ := ⟨primaryRPC, p.lc, defaultProofRuntime⟩
  let result ← EStateM.adaptExcept
    (GoError.wrap ("unable to fetch consensus parameters for height " ++ toString nextHeader.header.height))
    (rpcclient.consensusParams lib (some nextHeader.header.height))
  return {
    chainID := p.lc.chainID
    version := p.version
    initialHeight
    lastBlockHeight := header.header.height
    lastBlockID := header.commit.blockID
    lastBlockTime := header.header.time
    nextValidators
    validators
    lastValidators
    lastHeightValidatorsChanged := Int64.ofUInt64 height
    consensusParams := result.consensusParams
    lastResultsHash := nextHeader.header.lastResultsHash
    appHash := nextHeader.header.appHash }

end State

end LightClientStateProvider

end Tendermint.Statesync
