-- What the trace says of an instruction, line by line, in the terms of the machine
-- that executes it: which one it is, what it finds in the registers, and what it does,
-- told by its kind. The record that is written for it is these lines.
import SixStage.Proofs.Disassembly
import SixStage.Proofs.InOrder
import SixStage.Trace.Record

namespace SixStage

/-! ## Numbers -/

namespace Text

/-- A number in base sixteen, with zeros before it up to a least width. -/
def base16 (width n : Nat) : String :=
  String.ofList ((Nat.toDigits 16 n).leftpad width '0')

theorem toDigits_sixteen (n : Nat) :
    Nat.toDigits 16 n =
      (if n / 16 = 0 then [] else Nat.toDigits 16 (n / 16)) ++ [hexDigit (n % 16)] := by
  rw [hexDigit_eq (Nat.mod_lt n (by decide)), Nat.toDigits_eq_if (by decide)]
  by_cases small : n < 16
  · rw [if_pos small, if_pos (Nat.div_eq_of_lt small), Nat.mod_eq_of_lt small]
    rfl
  · rw [if_neg small, if_neg (by omega)]

theorem hexDigits_eq (n : Nat) (l : List Char) :
    hexDigits n l = if n = 0 then l else Nat.toDigits 16 n ++ l := by
  induction n using Nat.strongRecOn generalizing l with
  | ind n ih =>
    rw [hexDigits]
    split
    · rfl
    · rw [ih (n / 16) (by omega), toDigits_sixteen n]
      split
      · rfl
      · rw [List.append_assoc, List.singleton_append]

theorem hexChars_eq (width n : Nat) :
    hexChars (width + 1) n = (Nat.toDigits 16 n).leftpad (width + 1) '0' := by
  induction width generalizing n with
  | zero =>
    rw [hexChars, hexChars, hexDigits_eq, toDigits_sixteen n]
    split <;> simp [List.leftpad]
  | succ width ih =>
    rw [hexChars, ih, toDigits_sixteen n]
    -- A number of one digit leaves a zero before it.
    split
    · next zero => simp [List.leftpad, zero, ← List.replicate_succ']
    · simp [List.leftpad]

theorem hex_eq_base16 (width n : Nat) : hex (width + 1) n = base16 (width + 1) n := by
  rw [hex, hexChars_eq, base16]

end Text

/-! ## What an instruction does -/

/-- What an instruction asks for, by its kind. -/
inductive Instruction.Asks (i : Instruction) (regs : RegFile) (free : Bool) : Action → Prop
  | write (alu : i.opcode.isAlu = true) : Asks i regs free (.write i.dst (i.resultOf regs free))
  | load (ld : i.opcode = .ld) : Asks i regs free (.load i.dst (i.resultOf regs free).addr)
  | store (st : i.opcode = .st) :
      Asks i regs free (.store (i.resultOf regs free).addr (i.valueA regs))
  | copy (dma : i.opcode = .dma) :
      Asks i regs free (.copy (i.valueA regs) (i.resultOf regs free) (i.valueB regs))
  | jump (branch : i.opcode.isBranch = true) :
      Asks i regs free (.jump (i.direction (i.resultOf regs free) (i.valueA regs)))
  | halt (hlt : i.opcode = .hlt) : Asks i regs free .halt

theorem Instruction.asks (i : Instruction) (regs : RegFile) (free : Bool) :
    i.Asks regs free (i.action regs free) := by
  by_cases alu : i.opcode.isAlu = true
  · rw [action_of_isAlu alu]
    exact .write alu
  by_cases branch : i.opcode.isBranch = true
  · rw [action_of_isBranch branch]
    exact .jump branch
  -- Four kinds are left, and each has one opcode.
  unfold action
  cases ho : i.opcode <;> simp only [ho, Opcode.isAlu, Opcode.isBranch, not_true] at alu branch
  · exact .load ho
  · exact .store ho
  · exact .copy ho
  · exact .halt ho

namespace Sequential

/-- What the machine makes of an instruction, by its kind. It goes on at `next`. -/
inductive Performs (e : Surroundings) (x : Retired) (next : Addr) : Effect → Prop
  | write (alu : x.inst.opcode.isAlu = true) : Performs e x next (.reg x.inst.dst x.result)
  | load (ld : x.inst.opcode = .ld) :
      Performs e x next (.load x.inst.dst x.result.addr (e.data x.result.addr))
  | store (st : x.inst.opcode = .st) : Performs e x next (.store x.result.addr x.a)
  | copy (dma : x.inst.opcode = .dma) (taken : Bool) : Performs e x next (.dma taken)
  | jump (branch : x.inst.opcode.isBranch = true) {d : Direction} (there : d.nextPc x.pc = next)
      (flushed : Bool) : Performs e x next (.branch d flushed)
  | halt (hlt : x.inst.opcode = .hlt) : Performs e x next .halt

theorem performs_of_executes {code : Addr → Word} {e : Surroundings} {s s' : Sequential}
    {x : Retired} (h : Executes code e s x s') : Performs e x s'.pc x.effect := by
  obtain ⟨after, action⟩ := action_of_executes h
  have asked := x.inst.asks s.regs e.dmaFree
  have load := h.load
  rw [action] at asked
  unfold Retired.action at after asked
  generalize x.effect = eff at after asked load
  rcases eff with ⟨dst, value⟩ | ⟨dst, addr, word⟩ | ⟨addr, word⟩ | taken | ⟨d, flushed⟩ | _
  · cases asked with
    | write alu =>
      rw [← h.result]
      exact .write alu
  · cases asked with
    | load ld =>
      rw [← h.result] at load ⊢
      obtain rfl : word = _ := load
      exact .load ld
  · cases asked with
    | store st =>
      rw [← h.result, ← h.a]
      exact .store st
  · generalize ha : Action.copy x.a x.result x.b = act at asked
    cases asked with
    | copy dma => exact .copy dma taken
    | write | load | store | jump | halt => cases ha
  · cases asked with
    | jump branch =>
      refine .jump branch ?_ flushed
      rw [h.pc, ← after]
      rfl
  · cases asked with
    | halt hlt => exact .halt hlt

end Sequential

/-! ## Records -/

namespace Trace

open Text

/-- The last line of a trace, if HLT retires at `pc` as the last of `n` instructions. -/
def lastLine (pc : Addr) (n : Nat) : String := s!"sim finished at pc {pc.toNat}, {n} instructions"

/-- What is told of what an instruction does, by its kind. The machine goes on at `next`. -/
inductive Tells (e : Surroundings) (x : Retired) (next : Addr) : String → Prop
  | result (alu : x.inst.opcode.isAlu = true) (op : x.inst.opcode ≠ .dmp) :
      Tells e x next
        s!"R[{x.inst.dst.toNat}] = {x.a.toInt} {x.inst.opcode.mnemonic} {x.b.toInt}"
  | poll (dmp : x.inst.opcode = .dmp) :
      Tells e x next s!"R[{x.inst.dst.toNat}] = DMP = {x.result.toInt}"
  | load (ld : x.inst.opcode = .ld) {word : Word} (found : e.data x.result.addr = word) :
      Tells e x next
        s!"R[{x.inst.dst.toNat}] = MEM[{x.result.addr.toNat}] = {base16 8 word.toNat}"
  | store (st : x.inst.opcode = .st) :
      Tells e x next
        s!"MEM[{x.result.addr.toNat}] = R[{x.inst.src0.toNat}] = {base16 8 x.a.toNat}"
  | copy (dma : x.inst.opcode = .dma) (taken : x.effect = .dma true) :
      Tells e x next s!"DMA {x.a.toInt} -> {x.result.toInt} len {x.b.toInt}"
  | dropped (dma : x.inst.opcode = .dma) (refused : x.effect = .dma false) :
      Tells e x next s!"DMA {x.a.toInt} -> {x.result.toInt} len {x.b.toInt} (dropped, busy)"
  | branch (branch : x.inst.opcode.isBranch = true) (op : x.inst.opcode ≠ .jin) :
      Tells e x next s!"{x.inst.opcode.mnemonic} {x.a.toInt}, {x.b.toInt}, {next.toNat}"
  | jump (jin : x.inst.opcode = .jin) :
      Tells e x next s!"JIN R[{x.inst.src0.toNat}] = {base16 8 x.a.toNat}"

/-- The lines about what instruction number `n` does. HLT also ends the trace. -/
inductive Closes (n : Nat) (e : Surroundings) (x : Retired) (next : Addr) : List String → Prop
  | step {what : String} (tells : Tells e x next what) :
      Closes n e x next [s!">>>> EXEC: {what} <<<<", ""]
  | halt (hlt : x.inst.opcode = .hlt) :
      Closes n e x next
        [s!">>>> EXEC: HALT at PC {base16 4 x.pc.toNat}<<<<", lastLine x.pc (n + 1)]

/-- What is shown of a register: `r0` as zero, `r1` as the immediate, and any other as the
instruction finds it. -/
def shown (regs : RegFile) (x : Retired) (r : Reg) : Word :=
  if r = Reg.zero then 0 else if r.isImm then x.inst.imm else regs.cell r

/-- A line of registers has a blank behind each of them. -/
def showing (regs : RegFile) (x : Retired) (l : List Reg) : String :=
  String.join (l.map fun r => s!"r[{r.toNat}] = {base16 8 (shown regs x r).toNat} ")

/-- A line of names and values. -/
def naming (l : List (String × String)) : String :=
  ", ".intercalate (l.map fun p => p.1 ++ " = " ++ p.2)

/-- The lines that introduce an instruction: its number and its address, its word and the fields
of that, the mnemonic with the registers and the number that matter to it, and what is in the
registers. -/
def opening (n : Nat) (regs : RegFile) (x : Retired) : List String :=
  [s!"--- instruction {n} ({base16 4 n}) @ PC {x.pc.toNat} ({base16 4 x.pc.toNat}) " ++
      String.ofList (List.replicate 59 '-'),
    naming [("pc", base16 4 x.pc.toNat), ("inst", base16 8 x.word.toNat),
      ("opcode", s!"{x.inst.opcode.code.toNat} ({x.inst.opcode.mnemonic})"),
      ("dst", toString x.inst.dst.toNat), ("src0", toString x.inst.src0.toNat),
      ("src1", toString x.inst.src1.toNat), ("immediate", base16 8 x.inst.imm.toNat)],
    naming [("disasm", x.inst.opcode.mnemonic ++
      Instruction.listText " " x.inst.shown.1 x.inst.shown.2)],
    showing regs x [0, 1, 2, 3], showing regs x [4, 5, 6, 7], ""]

/-- The lines of the record of instruction number `n`. -/
def Recounts (n : Nat) (regs : RegFile) (e : Surroundings) (x : Retired) (next : Addr)
    (lines : List String) : Prop :=
  ∃ closing, Closes n e x next closing ∧ lines = opening n regs x ++ closing

variable {e : Surroundings} {x : Retired} {next : Addr} {n : Nat}

/-- HLT is not told of but with the end of the trace. -/
theorem Tells.opcode_ne_hlt {what : String} (h : Tells e x next what) : x.inst.opcode ≠ .hlt := by
  intro hlt
  cases h with
  | result alu => simp [hlt, Opcode.isAlu] at alu
  | branch branch => simp [hlt, Opcode.isBranch] at branch
  | poll op | load op | store op | copy op | dropped op | jump op => cases hlt.symm.trans op

/-- The record of HLT ends with the last line of the trace. -/
theorem lastLine_of_recounts {regs : RegFile} {lines : List String}
    (h : Recounts n regs e x next lines) (hlt : x.inst.opcode = .hlt) :
    ∃ before, lines = before ++ [lastLine x.pc (n + 1)] := by
  obtain ⟨closing, closes, rfl⟩ := h
  cases closes with
  | step tells => exact absurd hlt tells.opcode_ne_hlt
  | halt => exact ⟨opening n regs x ++ [_], by rw [List.append_assoc]; rfl⟩

/-! ### The writer -/

theorem tells_effectText (h : Sequential.Performs e x next x.effect) (goes : x.effect ≠ .halt) :
    Tells e x next (effectText x) := by
  unfold effectText
  generalize hx : x.effect = eff at h goes
  cases h with
  | write alu =>
    by_cases op : x.inst.opcode = .dmp
    · simp only [op, if_true]
      exact .poll op
    · simp only [op, if_false]
      exact .result alu op
  | load ld =>
    simp only [hexWord, hex_eq_base16]
    exact .load ld rfl
  | store st =>
    simp only [hexWord, hex_eq_base16]
    exact .store st
  | copy dma taken =>
    cases taken
    · simp only [Bool.false_eq_true, if_false]
      exact .dropped dma hx
    · change Tells e x next (_ ++ "")
      rw [String.append_empty]
      exact .copy dma hx
  | jump branch there =>
    by_cases op : x.inst.opcode = .jin
    · simp only [op, if_true, hexWord, hex_eq_base16]
      exact .jump op
    · simp only [op, if_false, there]
      exact .branch branch op
  | halt => exact absurd rfl goes

theorem closes_effectLines (h : Sequential.Performs e x next x.effect) (n : Nat) :
    Closes n e x next (effectLines n x) := by
  unfold effectLines
  split
  · next halts =>
    rw [halts] at h
    cases h with
    | halt hlt =>
      simp only [effectText, halts, hexAddr, hex_eq_base16]
      exact .halt hlt
  · next goes => exact .step (tells_effectText h goes)

theorem unlines_eq (l : List String) : unlines l = String.join (l.map (· ++ "\n")) := by
  unfold unlines String.join
  simp only [List.foldl_map, String.append_assoc]

theorem naming_fields (pc word opcode dst src0 src1 imm : String) :
    naming [("pc", pc), ("inst", word), ("opcode", opcode), ("dst", dst), ("src0", src0),
        ("src1", src1), ("immediate", imm)] =
      "pc = " ++ pc ++ ", inst = " ++ word ++ ", opcode = " ++ opcode ++ ", dst = " ++ dst ++
        ", src0 = " ++ src0 ++ ", src1 = " ++ src1 ++ ", immediate = " ++ imm := by
  simp [naming, ← String.toList_inj]

/-- Between two registers of a line stands one blank. -/
theorem showing_four (regs : RegFile) (x : Retired) (p q r s : Reg) :
    showing regs x [p, q, r, s] =
      s!"r[{p.toNat}] = " ++ hexWord (shown regs x p) ++
        s!" r[{q.toNat}] = " ++ hexWord (shown regs x q) ++
        s!" r[{r.toNat}] = " ++ hexWord (shown regs x r) ++
        s!" r[{s.toNat}] = " ++ hexWord (shown regs x s) ++ " " := by
  have string : ∀ s : String, toString s = s := fun _ => rfl
  simp [showing, hexWord, hex_eq_base16, string, ← String.toList_inj]

theorem instructionRecord_eq (legal : Instruction.decode x.word = .ok x.inst) (n : Nat)
    (regs : RegFile) :
    instructionRecord n regs x = unlines (opening n regs x ++ effectLines n x) := by
  have disasm : Instruction.disassemble x.word = x.inst.render := by
    rw [Instruction.disassemble, legal]
  have rule : ") -----------------------------------------------------------" =
      ") " ++ String.ofList (List.replicate 59 '-') := by decide +kernel
  have zero : hexWord (shown regs x 0) = "00000000" := by
    change hexWord 0 = _
    decide +kernel
  have mnemonic : "), dst = " = ")" ++ ", dst = " := by decide +kernel
  unfold instructionRecord opening
  rw [disasm, Instruction.render_eq, naming_fields, showing_four, showing_four, zero]
  refine congrArg (fun l => unlines (l ++ effectLines n x)) ?_
  simp only [List.cons.injEq, and_true]
  refine ⟨?header, ?fields, ?disasm, ?low, ?high⟩
  case header =>
    simp only [rule, hexAddr, hex_eq_base16, String.append_assoc]
    rfl
  case fields =>
    simp only [mnemonic, hexAddr, hexWord, hex_eq_base16, String.append_assoc]
    rfl
  case disasm => rfl
  case low => rfl
  case high => rfl

/-- The record that is written of an instruction is the one that its execution calls for. -/
theorem recounts_of_executes {code : Addr → Word} {s s' : Sequential}
    (h : Sequential.Executes code e s x s') (n : Nat) :
    ∃ lines, Recounts n s.regs e x s'.pc lines ∧
      instructionRecord n s.regs x = String.join (lines.map (· ++ "\n")) := by
  refine ⟨_, ⟨_, closes_effectLines (Sequential.performs_of_executes h) n, rfl⟩, ?_⟩
  rw [instructionRecord_eq h.inst, unlines_eq]

/-- An addition that retires as the first instruction. -/
example : instructionRecord 0 .zero
    { pc := 0, word := 0x00d10001, inst := ⟨.add, 3, 2, 1, 1⟩, a := 0, b := 1, result := 1
      effect := .reg 3 1 } =
    String.join (List.map (· ++ "\n")
      ["--- instruction 0 (0000) @ PC 0 (0000) " ++
        "-----------------------------------------------------------",
      "pc = 0000, inst = 00d10001, opcode = 0 (ADD), dst = 3, src0 = 2, src1 = 1, " ++
        "immediate = 00000001",
      "disasm = ADD r3, r2, r1, 1",
      "r[0] = 00000000 r[1] = 00000001 r[2] = 00000000 r[3] = 00000000 ",
      "r[4] = 00000000 r[5] = 00000000 r[6] = 00000000 r[7] = 00000000 ", "",
      ">>>> EXEC: R[3] = 0 ADD 1 <<<<", ""]) := by
  decide +kernel

end Trace

end SixStage
