-- What each stage of the pipeline holds. An instruction passes through
-- Fetch0, Fetch1, Dec0, Dec1, Exec0 and Exec1; its record grows on the way.
-- Fetch0 is always at work, and all it holds is the address to fetch.
import SixStage.Isa.Branch
import SixStage.Isa.Codec
import SixStage.Isa.Trap

namespace SixStage

/-- An instruction in Fetch1: the read of its word is in flight. -/
structure Fetch1 where
  pc : Addr
  /-- Where the predictor said that control goes from here. -/
  expected : Direction
  deriving DecidableEq, Repr, Inhabited

/-- An instruction in Dec0: its word has come. -/
structure Dec0 extends Fetch1 where
  word : Word
  deriving DecidableEq, Repr, Inhabited

/-- An instruction in Dec1: its word has been decoded. -/
structure Dec1 extends Dec0 where
  /-- The decoded word; for an illegal one, the instruction that stands in. -/
  inst : Instruction
  /-- The fault of an illegal word. -/
  trap : Option Trap
  deriving DecidableEq, Repr, Inhabited

/-- An instruction in Exec0: its operands have been read. -/
structure Exec0 extends Dec1 where
  a : Word
  b : Word
  deriving DecidableEq, Repr, Inhabited

/-- An instruction in Exec1: its operands are final, and its result is known. -/
structure Exec1 extends Exec0 where
  result : Word
  deriving DecidableEq, Repr, Inhabited

/-- The word that a load brought in the cycle before, and its register. -/
structure Loaded where
  dst : Reg
  word : Word
  deriving DecidableEq, Repr, Inhabited

/-- Decodes a word. The fault of an illegal one is only noted, since the
instruction may be on a wrong path. -/
def Dec0.decoded (d : Dec0) : Dec1 :=
  match Instruction.decode d.word with
  | .ok i => { d with inst := i, trap := none }
  | .error code => { d with inst := Instruction.standIn, trap := some ⟨d.pc, code, d.word⟩ }

namespace Dec1

def is (d : Dec1) (o : Opcode) : Bool := d.trap.isNone && d.inst.opcode = o

def isBranch (d : Dec1) : Bool := d.trap.isNone && d.inst.opcode.isBranch

end Dec1

namespace Exec1

/-- The register and the value that the instruction has ready for younger ones:
its result, or its own address if it is a taken branch. A load has none, for
its word comes only as it commits. -/
def forward (e : Exec1) : Option (Reg × Word) :=
  if e.trap.isSome then none
  else if e.inst.opcode.isAlu then
    if e.inst.dst.isWritable then some (e.inst.dst, e.result) else none
  else if e.inst.opcode.isBranch ∧ e.result ≠ 0 then some (Reg.link, e.pc.word)
  else none

def loadDst (e : Exec1) : Option Reg :=
  if e.is .ld ∧ e.inst.dst.isWritable then some e.inst.dst else none

end Exec1

/-! ## The latches -/

structure Latches where
  /-- The address that Fetch0 reads next. -/
  fetchPc : Addr
  fetch1 : Option Fetch1
  /-- The word that came for Fetch1 in a stall. -/
  saved : Option Word
  dec0 : Option Dec0
  dec1 : Option Dec1
  exec0 : Option Exec0
  exec1 : Option Exec1
  /-- What a load that committed in the cycle before brought. -/
  loaded : Option Loaded
  deriving DecidableEq, Repr, Inhabited

namespace Latches

/-- An empty pipeline that starts at address zero. -/
def empty : Latches := ⟨0, none, none, none, none, none, none, none⟩

/-- Drops every instruction, as a branch that went the unexpected way does with
all that came after it. -/
def flush (l : Latches) : Latches :=
  { l with fetch1 := none, saved := none, dec0 := none, dec1 := none, exec0 := none, exec1 := none }

/-- Drops what was fetched after an instruction in Dec0 and fetches from `pc`. -/
def squash (l : Latches) (pc : Addr) : Latches :=
  { l with fetchPc := pc, fetch1 := none, saved := none, dec0 := none }

end Latches

end SixStage
