-- The core with its two memories. A cycle that meets no fault moves the core
-- on and clocks both; one that does leaves everything as it was.
import SixStage.Pipeline.Cycle

namespace SixStage

structure Board where
  core : Core
  /-- The instruction memory. -/
  imem : Sram
  /-- The data memory, which the copy engine shares. -/
  dmem : Sram
  deriving DecidableEq, Repr, Inhabited

namespace Board

/-- A board at reset, with an image at address zero of both memories. -/
def reset (predictorSize height : Nat) (image : List Word) : Board where
  core := Core.reset predictorSize
  imem := (Sram.zero height).install image
  dmem := (Sram.zero height).install image

/-- The core that a cycle leads to, before any memory is clocked. -/
def clock (b : Board) : Except Trap (Core × Report) := b.core.clock b.imem.out b.dmem.out

/-- Schedules what the cycle asks of the memories. -/
def schedule (b : Board) : Board :=
  { b with
    imem := b.imem.issueAll b.core.fetchAccesses
    dmem := b.dmem.issueAll (b.core.dataAccesses b.dmem.out) }

/-- Makes `next` the core and clocks both memories. -/
def commit (b : Board) (next : Core) : Board where
  core := next
  imem := b.imem.clock b.core.fetchAccesses
  dmem := b.dmem.clock (b.core.dataAccesses b.dmem.out)

def discard (b : Board) : Board := { b with imem := b.imem.discard, dmem := b.dmem.discard }

/-- A cycle that is dropped leaves nothing of what it has scheduled. -/
theorem discard_schedule (b : Board) : b.schedule.discard = b.discard := by
  simp only [schedule, discard, Sram.discard_issueAll]

/-- One cycle. -/
def step (b : Board) : Except Trap (Board × Report) :=
  match b.clock with
  | .error t => .error t
  | .ok (next, report) => .ok (b.commit next, report)

end Board

end SixStage
