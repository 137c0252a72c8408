-- The text of the three traces: a record for every cycle, one for the copy
-- engine in every cycle, and one for every instruction that retires. All
-- show the core as it was at the start of the cycle.
import SixStage.Isa.Disassembly
import SixStage.Pipeline.Cycle

namespace SixStage.Trace

open Text

/-- Lines with their ends. -/
def unlines (l : List String) : String := l.foldl (fun text line => text ++ line ++ "\n") ""

/-- A condition is written 1 or 0. -/
def bit (b : Bool) : Nat := if b then 1 else 0

/-! ## Cycles -/

def registerLines (f : RegFile) : List String :=
  [2, 3, 4, 5, 6, 7].map fun (r : Reg) => s!"{r.name} {hexWord (f.cell r)}"

/-- Whether a stage holds an instruction, and the lines for one that it does. -/
def stageLines {α : Type} (name : String) (record : Option α) (l : α → List String) :
    List String :=
  s!"{name}_active {bit record.isSome}" :: record.elim [] l

def sourceName (s : Option Source) : String := s.elim "-" Source.name

/-- The record of a cycle, when `n` instructions have been traced. -/
def cycleRecord (n : Nat) (c : Core) (r : Report) : String :=
  let l := c.latches
  let sourceA := r.signals.exec0.map fun o => o.a.source
  let sourceB := r.signals.exec0.map fun o => o.b.source
  unlines <|
    [s!"nr_simulated_instructions {n}", s!"cycle {c.cycle}"] ++
    registerLines c.regs ++
    [s!"fetch0_pc {hexAddr l.fetchPc}"] ++
    stageLines "fetch1" l.fetch1 (fun e =>
      [s!"fetch1_pc {hexAddr e.pc}",
        s!"fetch1_btb {bit e.expected.taken} {hexAddr e.expected.target}"]) ++
    l.saved.elim [] (fun w => [s!"fetch1_saved_inst {hexWord w}"]) ++
    stageLines "dec0" l.dec0 (fun e =>
      [s!"dec0_pc {hexAddr e.pc}", s!"dec0_inst {hexWord e.word}"]) ++
    stageLines "dec1" l.dec1 (fun e =>
      [s!"dec1_pc {hexAddr e.pc}", s!"dec1_inst {hexWord e.word}"]) ++
    stageLines "exec0" l.exec0 (fun e =>
      [s!"exec0_pc {hexAddr e.pc}", s!"exec0_inst {hexWord e.word}",
        s!"exec0_alu0 {hexWord e.a}", s!"exec0_alu1 {hexWord e.b}"]) ++
    stageLines "exec1" l.exec1 (fun e =>
      [s!"exec1_pc {hexAddr e.pc}", s!"exec1_inst {hexWord e.word}",
        s!"exec1_alu0 {hexWord e.a}", s!"exec1_alu1 {hexWord e.b}",
        s!"exec1_aluout {hexWord e.result}"]) ++
    [s!"is_pipe_stalled {bit r.signals.stall}",
      s!"exec0_alu0_src {sourceName sourceA} exec0_alu1_src {sourceName sourceB}",
      s!"dma_conflict {bit r.signals.dmaConflict}", ""]

/-! ## The copy engine -/

def dmaRecord (c : Core) (act : Dma.Activity) : String :=
  let d := c.dma
  unlines <|
    [s!"cycle {c.cycle}", s!"dma_busy {bit d.busy}", s!"dma_src {hexAddr d.src}",
      s!"dma_dst {hexAddr d.dst}", s!"dma_len {hex 8 d.remaining}", s!"dma_reg {hexWord d.reg}",
      s!"dma_reg2 {hexWord d.shadow}", s!"dma_pending_read {bit d.pending}",
      s!"dma_state {d.phase.name}"] ++
    (if act.stalled then [s!"Stalled in DMA_STATE_{d.phase.name}"] else []) ++
    act.write.elim [] (fun (addr, word) => [s!"MEM[{addr.toNat}] = {hexWord word}"]) ++
    [""]

/-! ## Instructions -/

/-- What an instruction did, without the marks around it. -/
def effectText (r : Retired) : String :=
  let i := r.inst
  match r.effect with
  | .reg dst value =>
    if i.opcode = .dmp then s!"R[{dst.toNat}] = DMP = {value.toInt}"
    else s!"R[{dst.toNat}] = {r.a.toInt} {i.opcode.mnemonic} {r.b.toInt}"
  | .load dst addr word => s!"R[{dst.toNat}] = MEM[{addr.toNat}] = {hexWord word}"
  | .store addr word => s!"MEM[{addr.toNat}] = R[{i.src0.toNat}] = {hexWord word}"
  | .dma launched =>
    let fate := if launched then "" else " (dropped, busy)"
    s!"DMA {r.a.toInt} -> {r.result.toInt} len {r.b.toInt}{fate}"
  | .branch d _ =>
    if i.opcode = .jin then s!"JIN R[{i.src0.toNat}] = {hexWord r.a}"
    else s!"{i.opcode.mnemonic} {r.a.toInt}, {r.b.toInt}, {(d.nextPc r.pc).toNat}"
  | .halt => s!"HALT at PC {hexAddr r.pc}"

/-- The lines about what instruction number `n` did. HLT also ends the trace. -/
def effectLines (n : Nat) (r : Retired) : List String :=
  if r.effect = .halt then
    [s!">>>> EXEC: {effectText r}<<<<",
      s!"sim finished at pc {r.pc.toNat}, {n + 1} instructions"]
  else [s!">>>> EXEC: {effectText r} <<<<", ""]

/-- The record of instruction number `n`. The registers are those that it found;
`r0` shows zero, and `r1` the immediate. -/
def instructionRecord (n : Nat) (regs : RegFile) (r : Retired) : String :=
  let i := r.inst
  unlines <|
    [s!"--- instruction {n} ({hex 4 n}) @ PC {r.pc.toNat} ({hexAddr r.pc}) -----------------------------------------------------------",
      s!"pc = {hexAddr r.pc}, inst = {hexWord r.word}, opcode = {i.opcode.code.toNat} ({i.opcode.mnemonic}), dst = {i.dst.toNat}, src0 = {i.src0.toNat}, src1 = {i.src1.toNat}, immediate = {hexWord i.imm}",
      s!"disasm = {Instruction.disassemble r.word}",
      s!"r[0] = 00000000 r[1] = {hexWord i.imm} r[2] = {hexWord (regs.cell 2)} r[3] = {hexWord (regs.cell 3)} ",
      s!"r[4] = {hexWord (regs.cell 4)} r[5] = {hexWord (regs.cell 5)} r[6] = {hexWord (regs.cell 6)} r[7] = {hexWord (regs.cell 7)} ",
      ""] ++
    effectLines n r

end SixStage.Trace
