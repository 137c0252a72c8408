-- Where trace text goes. A sink keeps what was written, and may refuse: an
-- attempt to write can break off anywhere, once what came through before it
-- is written, and an attempt to flush can fail. The text of a trace is plain
-- ASCII, so a character is a byte.

namespace SixStage

structure Sink where
  text : String
  /-- The faults to come: how many more characters get through before each one.
  The attempt to write past them fails, and the next one goes on. -/
  writeFaults : List Nat
  /-- Which of the coming flushes fail; those after the last one work. -/
  flushFaults : List Bool
  /-- The flushes so far, those that failed too. -/
  flushes : Nat
  deriving DecidableEq, Repr, Inhabited

namespace Sink

/-- A sink that never refuses. -/
def empty : Sink := ⟨"", [], [], 0⟩

/-- Writes a record, and says if all of it came through. The rest of a record
that breaks off is lost. -/
def write (s : Sink) (record : String) : Sink × Bool :=
  match s.writeFaults with
  | [] => ({ s with text := s.text ++ record }, true)
  | room :: faults =>
    if record.length ≤ room then
      ({ s with text := s.text ++ record, writeFaults := (room - record.length) :: faults }, true)
    else
      ({ s with
          text := s.text ++ String.ofList (record.toList.take room)
          writeFaults := faults }, false)

/-- A record would come through whole. -/
def admits (s : Sink) (record : String) : Bool :=
  match s.writeFaults with
  | [] => true
  | room :: _ => record.length ≤ room

theorem write_snd (s : Sink) (record : String) : (s.write record).2 = s.admits record := by
  unfold write admits
  split
  · rfl
  · split <;> simp_all

/-- Flushes, and says if that worked. -/
def flush (s : Sink) : Sink × Bool :=
  ({ s with flushFaults := s.flushFaults.tail, flushes := s.flushes + 1 },
    !s.flushFaults.headD false)

end Sink

end SixStage
