-- The machine that runs one instruction at a time: what a program means.
-- It has no pipeline, no predictor and no cycles. The data memory and the
-- copy engine stand outside, since others change them as time passes.
import SixStage.Alu
import SixStage.Isa.Branch
import SixStage.Isa.Codec
import SixStage.Isa.Trap
import SixStage.RegFile

namespace SixStage

/-- What an instruction asks for, on whatever machine it runs. -/
inductive Action where
  /-- A result for `dst`, which `r0` and `r1` drop. -/
  | write (dst : Reg) (value : Word)
  | load (dst : Reg) (addr : Addr)
  | store (addr : Addr) (word : Word)
  /-- A request for a copy. -/
  | copy (src dst len : Word)
  | jump (direction : Direction)
  | halt
  deriving DecidableEq, Repr, Inhabited

namespace Instruction

/-- The first operand, with every older instruction done. -/
def valueA (i : Instruction) (regs : RegFile) : Word := i.operandA.elim i.imm regs.read

def valueB (i : Instruction) (regs : RegFile) : Word := i.operandB.elim i.imm regs.read

/-- The result of an instruction. `dmaFree` is what DMP asks for. -/
def resultOf (i : Instruction) (regs : RegFile) (dmaFree : Bool) : Word :=
  if i.opcode = .dmp then Word.ofBool dmaFree
  else alu i.opcode (i.valueA regs) (i.valueB regs) i.imm

def action (i : Instruction) (regs : RegFile) (dmaFree : Bool) : Action :=
  let result := i.resultOf regs dmaFree
  match i.opcode with
  | .ld => .load i.dst result.addr
  | .st => .store result.addr (i.valueA regs)
  | .dma => .copy (i.valueA regs) result (i.valueB regs)
  | .jlt | .jle | .jeq | .jne | .jin => .jump (i.direction result (i.valueA regs))
  | .hlt => .halt
  | _ => .write i.dst result

end Instruction

structure Sequential where
  pc : Addr
  regs : RegFile
  deriving DecidableEq, Repr, Inhabited

/-- What a step finds outside. -/
structure Surroundings where
  data : Addr → Word
  /-- The copy engine is free. -/
  dmaFree : Bool

namespace Sequential

def reset : Sequential := ⟨0, RegFile.zero⟩

/-- The machine after an action of the instruction at its address. -/
def after (s : Sequential) (data : Addr → Word) : Action → Sequential
  | .write dst value => ⟨s.pc.next, s.regs.write dst value⟩
  | .load dst addr => ⟨s.pc.next, s.regs.write dst (data addr)⟩
  | .jump d => ⟨d.nextPc s.pc, if d.taken then s.regs.write Reg.link s.pc.word else s.regs⟩
  | _ => ⟨s.pc.next, s.regs⟩

/-- One instruction, and what it asks for. `code` is the instruction memory. -/
def step (code : Addr → Word) (e : Surroundings) (s : Sequential) :
    Except Trap (Sequential × Action) :=
  match Instruction.decode (code s.pc) with
  | .error opcode => .error ⟨s.pc, opcode, code s.pc⟩
  | .ok i =>
    let action := i.action s.regs e.dmaFree
    .ok (s.after e.data action, action)

end Sequential

end SixStage
