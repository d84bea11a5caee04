import CedraReflect.Closure
import CedraReflect.CheckpointSafety
import CedraReflect.CheckpointGate
import CedraReflect.ReplayedBooks
import CedraReflect.FileStoreSafety
import CedraReflect.WorkerSafety
import CedraReflect.AlertJournal
import CedraReflect.SettlementExact
import CedraReflect.PackageMetadata
import CedraReflect.FaucetStatus
import CedraReflect.SwapPath
import CedraReflect.ReleaseAgreement
import CedraReflect.GenesisReplay
import CedraReflect.IntegerSqrt
import CedraReflect.SignedExact
import CedraReflect.PackageDigest
import CedraReflect.CanonicalJson
import CedraReflect.SwapGroups
import CedraReflect.ShortRuns
import CedraReflect.LongRuns
import CedraReflect.Trading
import CedraReflect.FaucetRuns
import CedraReflect.MirrorRuns
