import SubspaceSdk.ProofKit.Transition
import SubspaceSdk.ProofKit.Channel
import SubspaceSdk.Utils.Interrupted
import SubspaceSdk.Farmer.ProgressHint
import SubspaceSdk.Farmer.DriverRuns
import SubspaceSdk.Farmer.SlotAlone
import SubspaceSdk.Farmer.SlotOverlap
import SubspaceSdk.Node.DomainClose
import SubspaceSdk.Node.DomainVerdict
import SubspaceSdk.Node.DomainProgress
import SubspaceSdk.Node.Close
import SubspaceSdk.Farmer.SectorCount
import SubspaceSdk.Node.SegmentHeaderRuns
import SubspaceSdk.Utils.Ss58Display
import SubspaceSdk.Farmer.PieceIndex
import SubspaceSdk.Node.SyncOutage
import SubspaceSdk.Node.SyncHint
import SubspaceSdk.Node.Config
import SubspaceSdk.Node.BlockHeader
import SubspaceSdk.Node.ChainSpec
import SubspaceSdk.Farmer.ServedPieces
import SubspaceSdk.Farmer.PlottingDelay
import SubspaceSdk.Farmer.Solutions
import SubspaceSdk.Utils.RpcSubscription
import SubspaceSdk.Farmer.Config
import SubspaceSdk.Node.EditedConfig
import SubspaceSdk.Node.Effective
import SubspaceSdk.Node.Heads
