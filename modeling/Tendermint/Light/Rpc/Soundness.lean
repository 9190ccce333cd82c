import Tendermint.Light.Rpc.AbciQuery

/-! What the verifying facade guarantees about the answers it returns.

An answer is *committed* by a header when its commitment (a hash, a Merkle
root, a proof) equals the field of the header that commits it. Every verifying
method returns an answer only together with a header the light client verified
that commits it. No method compares its answer with its request, and
`BlockResults` checks its results against the header after the height it asked
for, whatever height the answer names.
-/

set_option autoImplicit false

namespace Tendermint.Light.Rpc

variable {σ : Type} (lib : Library)

/-! ## What a header commits -/

/-- The block's ID is its hash, and `h` has that hash. -/
def BlockCommitted (r : ResultBlock) (h : SignedHeader) : Prop :=
  r.blockID.hash = lib.blockHash r.block ∧ lib.blockHash r.block = lib.headerHash h.header

def CommitCommitted (r : ResultCommit) (h : SignedHeader) : Prop :=
  lib.headerHash r.signedHeader.header = lib.headerHash h.header

def ParamsCommitted (r : ResultConsensusParams) (h : SignedHeader) : Prop :=
  lib.hashConsensusParams r.consensusParams = h.header.consensusHash

def TxCommitted (r : ResultTx) (h : SignedHeader) : Prop :=
  lib.txProofValidate r.proof h.header.dataHash = none

/-- The Merkle root of the encoded events and results is `h`'s last-results hash. -/
def ResultsCommitted (r : ResultBlockResults) (h : SignedHeader) : Prop :=
  ∃ bbe ebe, lib.marshalBeginBlockEvents r.beginBlockEvents = .ok bbe ∧
    lib.marshalEndBlockEvents r.endBlockEvents = .ok ebe ∧
    lib.hashFromByteSlices [bbe, lib.resultsHash r.txsResults, ebe] = h.header.lastResultsHash

def MetaCommitted (meta : BlockMeta) (h : SignedHeader) : Prop :=
  lib.headerHash meta.header = lib.headerHash h.header

/-- `h` is the header before the answer's, or the first header, and commits the set. -/
def ValidatorsCommitted (r : ResultValidators) (h : SignedHeader) : Prop :=
  lib.validatorSetHash r.validators =
    if r.blockHeight = 1 then h.header.validatorsHash else h.header.nextValidatorsHash

/-! ## Accepted answers are committed -/

section Accepted

variable {lib} {lc : Light.Client σ} {s s' : σ}

theorem BlockAccepted.committed {r : ResultBlock} (accepted : BlockAccepted lib lc r s s') :
    ∃ h, lc.verifyHeaderAtHeight r.block.header.height s = .ok h s' ∧ BlockCommitted lib r h :=
  let ⟨_, _, linked, h, verified, committed⟩ := accepted
  ⟨h, verified, linked, committed⟩

theorem CommitAccepted.committed {r : ResultCommit} (accepted : CommitAccepted lib lc r s s') :
    ∃ h, lc.verifyHeaderAtHeight r.signedHeader.header.height s = .ok h s' ∧ CommitCommitted lib r h :=
  accepted.2.2

theorem ConsensusParamsAccepted.committed {r : ResultConsensusParams}
    (accepted : ConsensusParamsAccepted lib lc r s s') :
    ∃ h, lc.verifyHeaderAtHeight r.blockHeight s = .ok h s' ∧ ParamsCommitted lib r h :=
  accepted.2.2

theorem TxAccepted.committed {r : ResultTx} (accepted : TxAccepted lib lc true r s s') :
    ∃ h, lc.verifyHeaderAtHeight r.height s = .ok h s' ∧ TxCommitted lib r h := by
  rcases accepted with ⟨unproved, -⟩ | ⟨-, -, proved⟩
  · cases unproved
  · exact proved

theorem BlockResultsAccepted.committed {h : Int64} {r : ResultBlockResults}
    (accepted : BlockResultsAccepted lib lc h r s s') :
    ∃ th, lc.verifyHeaderAtHeight (h + 1) s = .ok th s' ∧ ResultsCommitted lib r th :=
  let ⟨_, th, verified, bbe, begin, ebe, finish, committed⟩ := accepted
  ⟨th, verified, bbe, ebe, begin, finish, committed⟩

theorem BlockchainInfoAccepted.committed {r : ResultBlockchainInfo}
    (accepted : BlockchainInfoAccepted lib lc r s s') :
    ∀ meta ∈ r.blockMetas, ∃ m, meta = some m ∧
      ∃ h, lc.trustedHeader m.header.height s' = .ok h ∧ MetaCommitted lib m h := by
  obtain ⟨metas, same, -, -, trusted⟩ := accepted
  intro meta member
  rw [same, List.mem_map] at member
  obtain ⟨m, present, rfl⟩ := member
  exact ⟨m, rfl, trusted m present⟩

end Accepted

/-- Once the untrusted client's answer is fixed, the call succeeds when the answer is accepted. -/
theorem exists_answer_iff {β : Type} {x : EStateM GoError σ β} {r : β} {s s1 : σ}
    {accepted : σ → Prop} (answered : x s = .ok r s1) :
    (∃ s2, x s = .ok r s2 ∧ accepted s2) ↔ accepted s1 := by
  simp [answered]

/-! ## A chain of tagged headers

A concrete world to run the facade in: one state, a header at every positive
height `k` whose hashes are all the one-byte tag of `k`, a library that hashes
to tags and concatenations, and nodes that answer every request with the
objects of one height. -/

section Tagged

/-- The one-byte tag of a height. -/
def tag (k : Int64) : Bytes := [k.toBitVec.toNat.toUInt8]

def taggedHeader (k : Int64) : SignedHeader :=
  ⟨⟨k, ⟨[]⟩, tag k, tag k, tag k, tag k, tag k, tag k⟩, ⟨⟨[], ⟨0, []⟩⟩⟩⟩

/-- Headers and blocks hash to their height's tag, a validator set to its size. -/
def taggedLibrary : Library where
  headerHash header := tag header.height
  blockHash block := tag block.header.height
  blockIDValidateBasic _ := none
  blockValidateBasic _ := none
  signedHeaderValidateBasic _ _ := none
  blockMetaValidateBasic _ := none
  validateConsensusParams _ := none
  hashConsensusParams params := params.encoded
  validatorSetHash vals := [vals.length.toUInt8]
  txProofValidate proof dataHash :=
    if proof.rootHash = dataHash then none else some (GoError.new "invalid root hash")
  marshalBeginBlockEvents events := .ok (events.flatMap Event.encoded)
  marshalEndBlockEvents events := .ok (events.flatMap Event.encoded)
  resultsHash txs := txs.flatMap ResponseDeliverTx.encoded
  hashFromByteSlices := List.flatten
  responseQueryIsErr resp := resp.code != 0
  defaultABCIQueryOptions := ⟨0, false⟩

/-- A light client that verifies every positive height and refuses the others. -/
def taggedLightClient : Light.Client Unit where
  chainID := lit "tagged"
  verifyHeaderAtHeight k := if 0 < k then pure (taggedHeader k) else throw errNegOrZeroHeight
  trustedHeader k _ := if 0 < k then .ok (taggedHeader k) else .error errNegOrZeroHeight
  trustedValidatorSet k _ := if 0 < k then .ok (⟨[]⟩, k) else .error errNegOrZeroHeight
  primary _ := ⟨lit "tagged", lit "tcp://127.0.0.1:26657"⟩

/-- A node that answers every request with the objects the tagged chain commits at `k`. -/
def nodeAt (k : Int64) : RpcClient Unit where
  status := pure ⟨⟨k + 1⟩⟩
  abciQueryWithOptions _ _ _ := pure ⟨⟨0, lit "/k", none, some ⟨[]⟩, k⟩⟩
  consensusParams _ := pure ⟨k, ⟨tag k⟩⟩
  blockchainInfo _ _ := pure ⟨[some ⟨(taggedHeader k).header⟩]⟩
  block _ := pure ⟨⟨tag k, ⟨0, []⟩⟩, ⟨(taggedHeader k).header⟩⟩
  blockByHash _ := pure ⟨⟨tag k, ⟨0, []⟩⟩, ⟨(taggedHeader k).header⟩⟩
  blockResults _ := pure ⟨k, [], [⟨tag (k + 1)⟩], []⟩
  commit _ := pure ⟨taggedHeader k⟩
  tx _ _ := pure ⟨k, [], ⟨tag k, [1], ⟨[]⟩⟩⟩
  validators _ _ _ := pure ⟨k, [⟨⟨lit "ed25519", []⟩, 1⟩], 1, 1⟩

/-- Refuses a key path without a leading slash, as `merkle.KeyPathToKeys` does, then any but `keyPath`. -/
def checkKeyPath (keyPath kp : GoString) : Option GoError :=
  if kp.head? ≠ some '/'.toUInt8 then some (GoError.new "key path string must start with a forward slash \x27/\x27")
  else if kp = keyPath then none else some (GoError.new "key mismatch")

def keyRuntime (keyPath : GoString) : ProofRuntime where
  verifyValue _ _ kp _ := checkKeyPath keyPath kp
  verifyAbsence _ _ kp := checkKeyPath keyPath kp

def taggedFacade (node : RpcClient Unit) (keyPath : GoString) : Client Unit :=
  ⟨node, taggedLightClient, keyRuntime keyPath⟩

end Tagged

/-! ## The facade's guarantees -/

/-- Answers `BlockResults` with the results the header at 2 commits, under height 5. -/
def relabellingNode : RpcClient Unit :=
  { nodeAt 1 with blockResults := fun _ => pure ⟨5, [], [⟨tag 2⟩], []⟩ }

theorem blockResults_committed_below_named_height :
    ∃ r, (taggedFacade relabellingNode []).blockResults taggedLibrary (some 1) () = .ok r () ∧
      r.height = 5 ∧
      ¬∃ th, taggedLightClient.verifyHeaderAtHeight (r.height + 1) () = .ok th () ∧
        ResultsCommitted taggedLibrary r th :=
  ⟨_, rfl, rfl, fun ⟨_, verified, _, _, begin, finish, committed⟩ => by
    cases verified; cases begin; cases finish; cases committed⟩

/-- Answers `Validators` at height 2 with no validators, counting one of a total of none. -/
def overcountingNode : RpcClient Unit :=
  { nodeAt 2 with validators := fun _ _ _ => pure ⟨2, [], 1, 0⟩ }

theorem validators_overcounted_uncommitted :
    ∃ r, (taggedFacade overcountingNode []).validators taggedLibrary none none none () = .ok r () ∧
      r.total < r.count ∧ ∃ h, taggedLightClient.verifyHeaderAtHeight (r.blockHeight - 1) () = .ok h () ∧
        ¬ValidatorsCommitted taggedLibrary r h :=
  ⟨_, rfl, by decide, _, rfl, by unfold ValidatorsCommitted; decide⟩

/-! ## Verified ABCI queries -/

/-- A present value is returned only if its proof verifies under the store's key path. -/
theorem abciQuery_value_proved_under_store_path {c : Client σ} {path : GoString} {data : Bytes}
    {opts : ABCIQueryOptions} {s s' : σ} {r : ResultABCIQuery} {value : Bytes}
    (ok : c.abciQueryWithOptions lib path data opts s = .ok r s') (present : r.response.value = some value) :
    ∃ storeName, path = storePath storeName ∧ '/'.toUInt8 ∉ storeName ∧
      ∃ s1, c.next.abciQueryWithOptions path data opts s = .ok r s1 ∧
        ∃ h, c.lc.verifyHeaderAtHeight (r.response.height + 1) s1 = .ok h s' ∧
          c.prt.verifyValue r.response.proofOps h.header.appHash (storeKeyPath storeName r.response.key)
            value = none := by
  obtain ⟨s1, fetched, -, -, -, -, h, verified, proved⟩ := (Client.abciQueryWithOptions_eq_ok lib).mp ok
  simp only [QueryProved, present] at proved
  obtain ⟨storeName, parsed, accepted⟩ := proved
  obtain ⟨grammar, slashFree⟩ := parseQueryStorePath_eq_ok_iff.mp parsed
  exact ⟨storeName, grammar, slashFree, s1, fetched, h, verified, accepted⟩

def valueNode : RpcClient Unit :=
  { nodeAt 1 with abciQueryWithOptions := fun _ _ _ => pure ⟨⟨0, lit "k", some (lit "v"), some ⟨[]⟩, 1⟩⟩ }

theorem abciQuery_value_proved_at_acc :
    ∃ r, (taggedFacade valueNode (lit "/acc/k")).abciQueryWithOptions taggedLibrary (lit "/store/acc/key") []
        ⟨0, true⟩ () = .ok r () ∧ r.response.value = some (lit "v") ∧
      ∃ storeName, lit "/store/acc/key" = storePath storeName ∧ '/'.toUInt8 ∉ storeName ∧
        ∃ s1, valueNode.abciQueryWithOptions (lit "/store/acc/key") [] ⟨0, true⟩ () = .ok r s1 ∧
          ∃ h, taggedLightClient.verifyHeaderAtHeight (r.response.height + 1) s1 = .ok h () ∧
            (keyRuntime (lit "/acc/k")).verifyValue r.response.proofOps h.header.appHash
              (storeKeyPath storeName r.response.key) (lit "v") = none :=
  ⟨_, rfl, rfl, @abciQuery_value_proved_under_store_path _ taggedLibrary (taggedFacade valueNode (lit "/acc/k"))
    (lit "/store/acc/key") [] ⟨0, true⟩ () () _ _ rfl rfl⟩

/-- An answer without a value is checked without reading the path. -/
theorem abciQuery_absence_ignores_path {c : Client σ} {path₁ path₂ : GoString} {data : Bytes}
    {opts : ABCIQueryOptions} {s s1 s' : σ} {r : ResultABCIQuery}
    (first : c.next.abciQueryWithOptions path₁ data opts s = .ok r s1)
    (second : c.next.abciQueryWithOptions path₂ data opts s = .ok r s1) (absent : r.response.value = none) :
    c.abciQueryWithOptions lib path₁ data opts s = .ok r s' ↔
      c.abciQueryWithOptions lib path₂ data opts s = .ok r s' := by
  rw [Client.abciQueryWithOptions_eq_ok, Client.abciQueryWithOptions_eq_ok, exists_answer_iff first,
    exists_answer_iff second]
  simp only [QueryAccepted, QueryProved, absent]

theorem abciQuery_absence_at_store_and_root :
    (taggedFacade (nodeAt 1) (lit "/k")).abciQueryWithOptions taggedLibrary (lit "/store/acc/key") [] ⟨0, true⟩ () =
        .ok ⟨⟨0, lit "/k", none, some ⟨[]⟩, 1⟩⟩ () ↔
      (taggedFacade (nodeAt 1) (lit "/k")).abciQueryWithOptions taggedLibrary (lit "/") [] ⟨0, true⟩ () =
        .ok ⟨⟨0, lit "/k", none, some ⟨[]⟩, 1⟩⟩ () :=
  abciQuery_absence_ignores_path taggedLibrary rfl rfl rfl

theorem abciQuery_absence_unproved_under_store_path :
    ∃ r, (taggedFacade (nodeAt 1) (lit "/k")).abciQueryWithOptions taggedLibrary (lit "/store/acc/key") []
        ⟨0, true⟩ () = .ok r () ∧ r.response.value = none ∧
      parseQueryStorePath (lit "/store/acc/key") = .ok (lit "acc") ∧
      ∃ h, taggedLightClient.verifyHeaderAtHeight (r.response.height + 1) () = .ok h () ∧
        (keyRuntime (lit "/k")).verifyAbsence r.response.proofOps h.header.appHash
          (storeKeyPath (lit "acc") r.response.key) ≠ none :=
  ⟨_, rfl, rfl, rfl, _, rfl, by decide⟩

end Tendermint.Light.Rpc
