-- Who gets the memory ports. Whatever the core holds, the pipeline takes the
-- data port in the cycles that it calls conflicts, and in those alone, and the
-- copy engine stays away then. A memory that refuses a second access in one cycle
-- never has to.
import SixStage.Proofs.DataPort

namespace SixStage

namespace Sram

/-- Schedules an access, unless one of its kind is scheduled already. -/
def issue? (s : Sram) (x : Access) : Option Sram :=
  match x with
  | .read _ => if s.readReq.isSome then none else some (s.issue x)
  | .write _ _ => if s.writeReq.isSome then none else some (s.issue x)

/-- Schedules the accesses of one cycle one after the other, if none of them is refused. -/
def issueAll? (s : Sram) (l : List Access) : Option Sram := l.foldlM issue? s

theorem issueAll?_of_idle {s : Sram} (idle : s.Idle) {l : List Access} (one : l.length ≤ 1) :
    s.issueAll? l = some (s.issueAll l) := by
  match l with
  | [] => rfl
  | [x] => cases x <;> simp [issueAll?, issueAll, issue?, idle.no_read, idle.no_write]
  | _ :: _ :: _ => simp at one

end Sram

namespace Core

variable {c : Core} {loaded : Word}

/-- The pipeline has the port to itself or leaves it free, also in a cycle with a fault. -/
theorem length_pipelineAccesses (c : Core) (loaded : Word) :
    (c.pipelineAccesses loaded).length = c.dmaConflict.toNat := by
  rw [pipelineAccesses_eq, dmaConflict_eq]
  rcases c.portUse with _ | x <;> rfl

theorem dmaAccesses_of_conflict (conflict : c.dmaConflict = true) : c.dmaAccesses loaded = [] := by
  obtain ⟨hr, hw⟩ := Dma.activity_of_conflict c.dma c.requested loaded
  unfold dmaAccesses
  split
  · rfl
  · simp [dmaStep, conflict, Dma.Activity.accesses, hr, hw]

theorem length_dmaAccesses (c : Core) (loaded : Word) : (c.dmaAccesses loaded).length ≤ 1 := by
  unfold dmaAccesses
  split
  · exact Nat.zero_le 1
  · rcases Dma.read_or_write c.dma c.requested loaded c.dmaConflict with h | h
    · rcases hw : (c.dmaStep loaded).2.write <;>
        simp [Dma.Activity.accesses, show (c.dmaStep loaded).2.read = none from h, hw]
    · rcases hr : (c.dmaStep loaded).2.read <;>
        simp [Dma.Activity.accesses, show (c.dmaStep loaded).2.write = none from h, hr]

theorem length_dataAccesses (c : Core) (loaded : Word) : (c.dataAccesses loaded).length ≤ 1 := by
  rw [dataAccesses, List.length_append, length_pipelineAccesses]
  -- The conflict says which of the two keeps away.
  rcases hc : c.dmaConflict with _ | _
  · simpa using c.length_dmaAccesses loaded
  · simp [dmaAccesses_of_conflict hc]

theorem fetchAccesses_eq (c : Core) :
    c.fetchAccesses = [] ∨ c.fetchAccesses = [.read c.latches.fetchPc] := by
  unfold fetchAccesses
  split
  · exact .inl rfl
  · exact .inr rfl

theorem length_fetchAccesses (c : Core) : c.fetchAccesses.length ≤ 1 := by
  rcases c.fetchAccesses_eq with h | h <;> simp [h]

end Core

namespace Board

/-- Schedules what a cycle asks of the memories, if neither has to refuse a part of it. -/
def schedule? (b : Board) : Option Board :=
  (b.imem.issueAll? b.core.fetchAccesses).bind fun imem =>
    (b.dmem.issueAll? (b.core.dataAccesses b.dmem.out)).map fun dmem =>
      { b with imem := imem, dmem := dmem }

theorem schedule?_of_idle {b : Board} (idle : b.Idle) : b.schedule? = some b.schedule := by
  simp [schedule?, schedule, Sram.issueAll?_of_idle idle.imem b.core.length_fetchAccesses,
    Sram.issueAll?_of_idle idle.dmem (b.core.length_dataAccesses b.dmem.out)]

end Board

/-- Each port serves one user in a cycle, whatever the core holds. The data memory gets
one access at most; the pipeline makes one in a conflict and none without, and in a conflict
the copy engine makes none. The instruction memory gets one read at most. So memories that
have nothing scheduled refuse nothing, and in a run they never do. -/
theorem ports_serve_one_user_a_cycle :
    (∀ b : Board,
      (b.core.dataAccesses b.dmem.out).length ≤ 1 ∧
      (b.core.pipelineAccesses b.dmem.out).length = b.core.dmaConflict.toNat ∧
      (b.core.dmaConflict = true → b.core.dmaAccesses b.dmem.out = []) ∧
      (b.core.fetchAccesses = [] ∨ ∃ a, b.core.fetchAccesses = [.read a]) ∧
      (b.Idle → b.schedule? = some b.schedule)) ∧
    ∀ (s : Setup) (n : Nat), (s.board n).schedule? = some (s.board n).schedule := by
  refine ⟨fun b => ⟨b.core.length_dataAccesses _, b.core.length_pipelineAccesses _,
    Core.dmaAccesses_of_conflict, ?_, Board.schedule?_of_idle⟩,
    fun s n => Board.schedule?_of_idle (s.idle_board n)⟩
  exact b.core.fetchAccesses_eq.imp_right fun h => ⟨_, h⟩

/-- The third of three loads is in Exec0 in tick 8, when the copy engine is about to read
its first word. -/
theorem loads_keep_a_copy_waiting :
    let s := Setup.small [0x00880002, 0x14020004, 0x10c10000, 0x10c10000, 0x10c10000, 0x30000000]
    (s.board 8).core.dmaConflict = true ∧ (s.board 8).core.dma.phase = .readFirst ∧
      (s.board 8).core.dmaAccesses (s.board 8).dmem.out = [] ∧
      (s.board 8).schedule? = some (s.board 8).schedule := by
  intro s
  obtain ⟨ports, run⟩ := ports_serve_one_user_a_cycle
  have conflict : (s.board 8).core.dmaConflict = true := by decide +kernel
  exact ⟨conflict, by decide +kernel, (ports (s.board 8)).2.2.1 conflict, run s 8⟩

end SixStage
