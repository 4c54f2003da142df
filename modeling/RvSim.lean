import RvSim.Core.TranslationBarrier
import RvSim.Core.DataAccesses
import RvSim.Core.InstretCounter
import RvSim.Core.Speculation
import RvSim.Core.TrapReturn
import RvSim.Core.Interrupts
import RvSim.Core.BusTiming
import RvSim.Pipeline.Alone
import RvSim.Mmu.Fence
import RvSim.Mmu.Width
import RvSim.Mmu.DirtyBits
import RvSim.Mmu.Fresh
import RvSim.System.CompatAnswers
import RvSim.System.Cache.BankCalls
import RvSim.System.Cache.Ranges
import RvSim.System.Cache.Maintenance
import RvSim.System.Cache.Answers
import RvSim.System.Cache.SplitMemory
import RvSim.Exec.TrapNesting
import RvSim.Core.SupervisorViews
import RvSim.System.ArbiterFairness
import RvSim.System.ArbiterAnswers
import RvSim.Devices.DmaRestart
import RvSim.System.TornStore
import RvSim.System.Delivery
import RvSim.State.Arbitration
import RvSim.Exec.SoftwarePending
import RvSim.Devices.InterruptClaims
import RvSim.Devices.BlockCommands
import RvSim.Isa.Encoding
import RvSim.Core.Alignment
import RvSim.Devices.Latency
import RvSim.Devices.DramRows
import RvSim.Mmu.Termination
import RvSim.System.Cache.FetchMemory
import RvSim.Core.Progress
import RvSim.Core.CachedRun
import RvSim.Core.Sleep
import RvSim.System.Cache.Coherence
