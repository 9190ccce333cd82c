import Tendermint.Go

/-! The data the light RPC facade and the state-sync provider read and return.

Records keep the fields the modelled code reads; values it only passes on are
given by their protobuf encoding. The functions outside this repository's
sources that it calls are the fields of `Library`, so every statement holds
whatever they compute.
-/

set_option autoImplicit false

namespace Tendermint

structure Time where
  encoded : Bytes
  deriving DecidableEq

structure Version where
  encoded : Bytes
  deriving DecidableEq

structure ConsensusParams where
  encoded : Bytes
  deriving DecidableEq

structure Event where
  encoded : Bytes
  deriving DecidableEq

structure ResponseDeliverTx where
  encoded : Bytes
  deriving DecidableEq

structure ProofOps where
  encoded : Bytes
  deriving DecidableEq

structure MerkleProof where
  encoded : Bytes
  deriving DecidableEq

structure PartSetHeader where
  total : UInt32
  hash : Bytes
  deriving DecidableEq

structure BlockID where
  hash : Bytes
  partSetHeader : PartSetHeader
  deriving DecidableEq

structure Header where
  height : Int64
  time : Time
  dataHash : Bytes
  validatorsHash : Bytes
  nextValidatorsHash : Bytes
  consensusHash : Bytes
  appHash : Bytes
  lastResultsHash : Bytes
  deriving DecidableEq

structure Commit where
  blockID : BlockID
  deriving DecidableEq

structure SignedHeader where
  header : Header
  commit : Commit
  deriving DecidableEq

structure Block where
  header : Header
  deriving DecidableEq

structure BlockMeta where
  header : Header
  deriving DecidableEq

/-- A `crypto.PubKey`: its `Type()` and its bytes. -/
structure PubKey where
  keyType : GoString
  bytes : Bytes
  deriving DecidableEq

/-- A protobuf `crypto.PublicKey`: the field of its `sum` that is set. -/
inductive PublicKey where
  | unset
  | ed25519 (key : Bytes)
  | secp256k1 (key : Bytes)
  deriving DecidableEq

structure Validator where
  pubKey : PubKey
  votingPower : Int64
  deriving DecidableEq

structure ValidatorSet where
  validators : List Validator
  deriving DecidableEq

structure ValidatorUpdate where
  pubKey : PublicKey
  power : Int64
  deriving DecidableEq

abbrev Tx := Bytes

structure TxProof where
  rootHash : Bytes
  data : Tx
  proof : MerkleProof
  deriving DecidableEq

/-- `abci.ResponseQuery`; a `nil` value is `none`, unlike an empty one. -/
structure ResponseQuery where
  code : UInt32
  key : Bytes
  value : Option Bytes
  proofOps : Option ProofOps
  height : Int64
  deriving DecidableEq

/-! ## The results of rpc/core/types -/

structure SyncInfo where
  latestBlockHeight : Int64
  deriving DecidableEq

structure ResultStatus where
  syncInfo : SyncInfo
  deriving DecidableEq

structure ResultABCIQuery where
  response : ResponseQuery
  deriving DecidableEq

structure ResultBlock where
  blockID : BlockID
  block : Block
  deriving DecidableEq

structure ResultCommit where
  signedHeader : SignedHeader
  deriving DecidableEq

structure ResultConsensusParams where
  blockHeight : Int64
  consensusParams : ConsensusParams
  deriving DecidableEq

/-- A `nil` block meta is `none`. -/
structure ResultBlockchainInfo where
  blockMetas : List (Option BlockMeta)
  deriving DecidableEq

structure ResultBlockResults where
  height : Int64
  txsResults : List ResponseDeliverTx
  beginBlockEvents : List Event
  endBlockEvents : List Event
  deriving DecidableEq

structure ResultTx where
  height : Int64
  tx : Tx
  proof : TxProof
  deriving DecidableEq

structure ResultValidators where
  blockHeight : Int64
  validators : List Validator
  count : Int64
  total : Int64
  deriving DecidableEq

structure ABCIQueryOptions where
  height : Int64
  prove : Bool
  deriving DecidableEq

/-- A light client provider over HTTP: its chain and its RPC client's address. -/
structure Provider where
  chainID : GoString
  remote : GoString
  deriving DecidableEq

/-- The functions of `types`, `crypto/merkle` and `gogo/proto` the modelled code calls. -/
structure Library where
  headerHash : Header → Bytes
  blockHash : Block → Bytes
  blockIDValidateBasic : BlockID → Option GoError
  blockValidateBasic : Block → Option GoError
  /-- `SignedHeader.ValidateBasic(chainID)`. -/
  signedHeaderValidateBasic : SignedHeader → GoString → Option GoError
  blockMetaValidateBasic : BlockMeta → Option GoError
  validateConsensusParams : ConsensusParams → Option GoError
  hashConsensusParams : ConsensusParams → Bytes
  /-- `types.NewValidatorSet(vals).Hash()`. -/
  validatorSetHash : List Validator → Bytes
  /-- `TxProof.Validate(dataHash)`. -/
  txProofValidate : TxProof → Bytes → Option GoError
  /-- `proto.Marshal(&abci.ResponseBeginBlock{Events: events})`. -/
  marshalBeginBlockEvents : List Event → Except GoError Bytes
  /-- `proto.Marshal(&abci.ResponseEndBlock{Events: events})`. -/
  marshalEndBlockEvents : List Event → Except GoError Bytes
  /-- `types.NewResults(txs).Hash()`. -/
  resultsHash : List ResponseDeliverTx → Bytes
  hashFromByteSlices : List Bytes → Bytes
  /-- `ResponseQuery.IsErr()`. -/
  responseQueryIsErr : ResponseQuery → Bool
  /-- `rpcclient.DefaultABCIQueryOptions`. -/
  defaultABCIQueryOptions : ABCIQueryOptions

end Tendermint
