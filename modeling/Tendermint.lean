import Tendermint.Go
import Tendermint.Strings
import Tendermint.Types
import Tendermint.Types.Protobuf
import Tendermint.Light.Interfaces
import Tendermint.Light.Store
import Tendermint.Light.Rpc.StorePath
import Tendermint.Light.Rpc.Client
import Tendermint.Light.Rpc.AbciQuery
import Tendermint.Light.Rpc.Soundness
import Tendermint.Light.Rpc.Runs
import Tendermint.Statesync.StateProvider
import Tendermint.Statesync.Runs
import Tendermint.Rpc.Core.Events
import Tendermint.Rpc.Core.Events.Limits
import Tendermint.Rpc.Core.Events.Server
import Tendermint.Rpc.Core.Events.Admission
