import GalacticBridge.Table
import GalacticBridge.Events
import GalacticBridge.StateCore
import GalacticBridge.StateRun
import GalacticBridge.Footprint
import GalacticBridge.Lifecycle
import GalacticBridge.RetryLaws
import GalacticBridge.Counters
import GalacticBridge.Config
import GalacticBridge.RangeKeys
import GalacticBridge.LedgerMemo
import GalacticBridge.SolRpcClient
import GalacticBridge.Commutation
import GalacticBridge.TriggerCheck
import GalacticBridge.Interleavings
import GalacticBridge.Entries
import GalacticBridge.Address
import GalacticBridge.IdempotencyKey
