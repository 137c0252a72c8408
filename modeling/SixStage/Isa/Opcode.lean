-- The operations. Bits 25 to 29 of an instruction word hold the code of
-- one; eighteen of the thirty-two codes are legal.
import SixStage.Word

namespace SixStage

inductive Opcode where
  /-- `dst = a + b` -/
  | add
  /-- `dst = a - b` -/
  | sub
  /-- `dst = a` shifted left by `b` -/
  | lsf
  /-- `dst = a` shifted right by `b`, zeros coming in -/
  | rsf
  /-- `dst = a` and `b`, bit by bit -/
  | and
  /-- `dst = a` or `b`, bit by bit -/
  | or
  /-- `dst = a` exclusive or `b`, bit by bit -/
  | xor
  /-- Loads the immediate into the high half of `dst`. -/
  | lhi
  /-- `dst = memory[b]` -/
  | ld
  /-- `memory[b] = a` -/
  | st
  /-- Asks for a copy of `b` words from `a` to the immediate. -/
  | dma
  /-- `dst = 1` if the copy engine is free, else 0. -/
  | dmp
  /-- Jumps if `a < b`. -/
  | jlt
  /-- Jumps if `a ≤ b`. -/
  | jle
  /-- Jumps if `a = b`. -/
  | jeq
  /-- Jumps if `a ≠ b`. -/
  | jne
  /-- Jumps to `a`. -/
  | jin
  /-- Stops the machine. -/
  | hlt
  deriving DecidableEq, Repr, Inhabited

namespace Opcode

/-- Every operation, by rising code. -/
def all : List Opcode :=
  [add, sub, lsf, rsf, and, or, xor, lhi, ld, st, dma, dmp, jlt, jle, jeq, jne, jin, hlt]

/-- The code of an operation. -/
def code : Opcode → BitVec 8
  | add => 0 | sub => 1 | lsf => 2 | rsf => 3 | and => 4 | or => 5 | xor => 6 | lhi => 7
  | ld => 8 | st => 9 | dma => 10 | dmp => 11
  | jlt => 16 | jle => 17 | jeq => 18 | jne => 19 | jin => 20
  | hlt => 24

/-- The operation of a code, if it is legal. -/
def ofCode? (c : BitVec 8) : Option Opcode := all.find? (fun o => o.code = c)

def mnemonic : Opcode → String
  | add => "ADD" | sub => "SUB" | lsf => "LSF" | rsf => "RSF"
  | and => "AND" | or => "OR" | xor => "XOR" | lhi => "LHI"
  | ld => "LD" | st => "ST" | dma => "DMA" | dmp => "DMP"
  | jlt => "JLT" | jle => "JLE" | jeq => "JEQ" | jne => "JNE" | jin => "JIN"
  | hlt => "HLT"

/-- The jumps: what the branch predictor is asked about and told of. -/
def isBranch : Opcode → Bool
  | jlt | jle | jeq | jne | jin => true
  | _ => false

/-- The operations that end by writing their result to `dst`. -/
def isAlu : Opcode → Bool
  | add | sub | lsf | rsf | and | or | xor | lhi | dmp => true
  | _ => false

end Opcode

end SixStage
