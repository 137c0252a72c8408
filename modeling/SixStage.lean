import SixStage.Main
import SixStage.Proofs.Arbitration
import SixStage.Proofs.Codec
import SixStage.Proofs.Conservation
import SixStage.Proofs.ControlBlock
import SixStage.Proofs.CopyDuration
import SixStage.Proofs.CycleLimit
import SixStage.Proofs.Disassembly
import SixStage.Proofs.FailedTick
import SixStage.Proofs.Footprint
import SixStage.Proofs.ImageGrammar
import SixStage.Proofs.InOrder
import SixStage.Proofs.InstructionTrace
import SixStage.Proofs.Isolation
import SixStage.Proofs.MemoryDump
import SixStage.Proofs.OutputRegister
import SixStage.Proofs.Polling
import SixStage.Proofs.Prediction
import SixStage.Proofs.RetirementTiming
import SixStage.Proofs.Solo
import SixStage.Proofs.Speculation
import SixStage.Proofs.Tracing
import SixStage.Proofs.Transfer
import SixStage.Sequential
