-- The core: all that it keeps from one cycle to the next.
import SixStage.Dma
import SixStage.Pipeline.Record
import SixStage.RegFile

namespace SixStage

structure Core where
  regs : RegFile
  /-- The cycles since reset. -/
  cycle : Nat
  latches : Latches
  predictor : Predictor
  dma : Dma.Block
  deriving DecidableEq, Repr, Inhabited

/-- The core at reset, with a predictor of the given size. -/
def Core.reset (predictorSize : Nat) : Core :=
  ⟨RegFile.zero, 0, Latches.empty, Predictor.empty predictorSize, Dma.Block.reset⟩

end SixStage
