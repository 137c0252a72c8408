-- The block copy engine. It copies words within the data memory beside the
-- pipeline, and holds its phase in every cycle in which the pipeline takes
-- the port. A word that it has read waits in the output register of the
-- memory for one cycle; `pending` says that one waits there.
import SixStage.Sram

namespace SixStage.Dma

inductive Phase where
  /-- Waits for a request. -/
  | idle
  /-- Reads the first word. -/
  | readFirst
  /-- Takes the waiting word and reads the next one. -/
  | doRead
  /-- Takes the waiting word and writes the one before it. -/
  | doWrite
  /-- Writes the held word after it was kept from doing so. -/
  | writeStalled
  /-- Writes the last word. -/
  | writeLast
  /-- Takes the only word of a copy of one. -/
  | single
  deriving DecidableEq, Repr, Inhabited

/-- The name of a phase in the traces. -/
def Phase.name : Phase → String
  | .idle => "IDLE"
  | .readFirst => "READ_FIRST"
  | .doRead => "DO_READ"
  | .doWrite => "DO_WRITE"
  | .writeStalled => "WRITE_STALLED"
  | .writeLast => "WRITE_LAST"
  | .single => "DO"

/-- The control block. -/
structure Block where
  /-- A copy was asked for and is not finished. -/
  busy : Bool
  /-- The next address to read. -/
  src : Addr
  /-- The next address to write. -/
  dst : Addr
  /-- How many words are still to be written. -/
  remaining : Nat
  /-- The next word to write. -/
  reg : Word
  /-- The word after it, taken when a write was held up. -/
  shadow : Word
  /-- A word read and not yet taken is in the output register. -/
  pending : Bool
  phase : Phase
  deriving DecidableEq, Repr, Inhabited

/-- What the engine did in one cycle. -/
structure Activity where
  /-- It held its phase because the pipeline had the port. -/
  stalled : Bool
  read : Option Addr
  write : Option (Addr × Word)
  /-- The copy ended. -/
  finished : Bool
  deriving DecidableEq, Repr, Inhabited

namespace Activity

def quiet : Activity := ⟨false, none, none, false⟩

def stall : Activity := ⟨true, none, none, false⟩

def reading (a : Addr) : Activity := ⟨false, some a, none, false⟩

def writing (a : Addr) (w : Word) : Activity := ⟨false, none, some (a, w), false⟩

/-- The uses of the memory port. -/
def accesses (act : Activity) : List Access :=
  (act.read.map Access.read).toList ++ (act.write.map fun (a, w) => Access.write a w).toList

end Activity

namespace Block

/-- The engine at reset. -/
def reset : Block := ⟨false, 0, 0, 0, 0, 0, false, .idle⟩

/-! ## Requests

A request and a step of the engine may fall in one cycle. Both look at the
block as it was at the start of the cycle, and change `next`, which starts as a
copy of it. -/

/-- The block after a request for a copy of `len` words, none if `len` is
negative. A busy engine ignores it. -/
def launch (b : Block) (src dst len : Word) (next : Block) : Block :=
  if b.busy then next
  else { next with busy := true, src := src.addr, dst := dst.addr, remaining := len.toInt.toNat }

/-! ## Steps -/

/-- Reads the next word. -/
def issueRead (b next : Block) : Block := { next with src := b.src.next, pending := true }

/-- Writes the held word. -/
def issueWrite (b next : Block) : Block :=
  { next with dst := b.dst.next, remaining := b.remaining - 1 }

/-- Takes the word that waits in the output register, if one does. -/
def capture (b : Block) (out : Word) (next : Block) : Block :=
  { next with reg := if b.pending then out else next.reg, pending := false }

/-- The phase after a write, which leaves one word or more. -/
def afterWrite (b : Block) : Phase := if b.remaining = 2 then .writeLast else .doRead

/-- One cycle: the next block, and what the engine does. `out` is the output
register of the data memory; in a `conflict` the pipeline has its port. -/
def step (b : Block) (out : Word) (conflict : Bool) (next : Block) : Block × Activity :=
  match b.phase with
  | .idle =>
    if b.busy then
      if b.remaining = 0 then
        ({ next with busy := false }, { Activity.quiet with finished := true })
      else ({ next with phase := .readFirst }, .quiet)
    else (next, .quiet)
  | .readFirst =>
    if conflict then (next, .stall)
    else
      ({ b.issueRead next with phase := if b.remaining = 1 then .single else .doRead },
        .reading b.src)
  | .doRead =>
    -- A pipeline read would overwrite the output register, so the word is
    -- taken even when the port is not free.
    if conflict then (b.capture out next, .stall)
    else ({ b.issueRead (b.capture out next) with phase := .doWrite }, .reading b.src)
  | .doWrite =>
    if conflict then
      ({ next with shadow := out, pending := false, phase := .writeStalled }, .stall)
    else
      ({ b.issueWrite (b.capture out next) with phase := b.afterWrite }, .writing b.dst b.reg)
  | .writeStalled =>
    if conflict then (next, .stall)
    else
      ({ b.issueWrite next with reg := b.shadow, phase := b.afterWrite }, .writing b.dst b.reg)
  | .writeLast =>
    if conflict then (next, .stall)
    else
      ({ next with remaining := 0, busy := false, phase := .idle },
        { Activity.writing b.dst b.reg with finished := true })
  | .single => ({ next with reg := out, pending := false, phase := .writeLast }, .quiet)

end Block

end SixStage.Dma
