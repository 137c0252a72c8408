-- The data port. In one cycle it serves a load, a store or the copy engine,
-- and never two of them. So a load retires with the word that stands in the
-- memory then, and the words change by what the reports say was written.
import SixStage.Proofs.PipelineStep
import SixStage.Proofs.PortSchedule
import SixStage.Proofs.Run

namespace SixStage

/-- The write that an effect makes on the data memory, if it is a store. -/
def Effect.written : Effect → Option (Addr × Word)
  | store a w => some (a, w)
  | _ => none

/-- The word that the load of an effect brought is the one at its address. -/
def Effect.LoadsFrom (data : Addr → Word) : Effect → Prop
  | load _ addr word => word = data addr
  | _ => True

namespace Core

variable {c : Core} {loaded : Word}

/-! ## The pipeline's use of the port -/

/-- The address that a load in Exec0 reads, unless it has to wait. -/
def loadRead (c : Core) : Option Addr :=
  c.latches.exec0.bind fun e =>
    if !c.stall && e.is .ld then some (c.execute e).result.addr else none

def storeWrite (c : Core) : Option (Addr × Word) :=
  c.latches.exec1.bind fun e => if e.is .st then some (e.result.addr, e.a) else none

/-- What the pipeline uses the data port for. -/
def portUse (c : Core) : Option Access :=
  (c.loadRead.map Access.read).or (c.storeWrite.map fun p => Access.write p.1 p.2)

theorem exec0Is_of_loadRead {a : Addr} (h : c.loadRead = some a) :
    c.stall = false ∧ c.exec0Is .ld = true := by
  obtain ⟨e, he, h⟩ := Option.bind_eq_some_iff.mp h
  split at h
  · next hc =>
    simp only [Bool.and_eq_true, Bool.not_eq_true'] at hc
    exact ⟨hc.1, by simp [exec0Is, he, hc.2]⟩
  · cases h

/-- A load waits for a store to leave the port. -/
theorem storeWrite_of_loadRead {a : Addr} (h : c.loadRead = some a) : c.storeWrite = none := by
  obtain ⟨hs, h0⟩ := exec0Is_of_loadRead h
  simp only [stall, structural, h0, Bool.true_and, Bool.or_eq_false_iff] at hs
  rcases he : c.latches.exec1 with _ | e
  · simp [storeWrite, he]
  · have h1 := hs.1
    simp only [exec1Is, he, Option.any_some] at h1
    simp [storeWrite, he, h1]

theorem dmaConflict_eq (c : Core) : c.dmaConflict = c.portUse.isSome := by
  have h0 : (!c.stall && c.exec0Is .ld) = c.loadRead.isSome := by
    rcases he : c.latches.exec0 with _ | e
    · simp [exec0Is, loadRead, he]
    · simp only [exec0Is, loadRead, he, Option.any_some, Option.bind_some]
      split <;> simp_all
  have h1 : c.exec1Is .st = c.storeWrite.isSome := by
    rcases he : c.latches.exec1 with _ | e
    · simp [exec1Is, storeWrite, he]
    · simp only [exec1Is, storeWrite, he, Option.any_some, Option.bind_some]
      split <;> simp_all
  simp [dmaConflict, portUse, h0, h1]

theorem written_of_retired (loaded : Word) (trap : c.trap = none) :
    ((c.retired loaded).bind fun x => x.effect.written) = c.storeWrite := by
  rcases he : c.latches.exec1 with _ | e
  · simp [retired, storeWrite, he]
  rw [trap_of_exec1 he] at trap
  have hv := c.retires e loaded
  simp only [retired, storeWrite, he, Option.map_some, Option.bind_some, retire, Dec1.is, trap,
    Option.isNone_none, Bool.true_and, decide_eq_true_eq]
  generalize c.effect e loaded = eff at hv
  cases hv with
  | write alu =>
    rw [if_neg]
    · rfl
    · intro st
      simp [st, Opcode.isAlu] at alu
  | load ld => simp [Effect.written, ld]
  | store st => simp [Effect.written, st]
  | copy dma => simp [Effect.written, dma]
  | jump branch =>
    rw [if_neg]
    · rfl
    · intro st
      simp [st, Opcode.isBranch] at branch
  | halt hlt => simp [Effect.written, hlt]

theorem loadAccesses_eq (c : Core) : c.loadAccesses = (c.loadRead.map Access.read).toList := by
  rcases he : c.latches.exec0 with _ | e
  · simp [loadAccesses, loadRead, he]
  · simp only [loadAccesses, loadRead, he, Option.bind_some]
    split <;> rfl

theorem storeWrite_of_trap {t : Trap} (trap : c.trap = some t) : c.storeWrite = none := by
  obtain ⟨e, he, ht⟩ := Option.bind_eq_some_iff.mp trap
  simp [storeWrite, he, Dec1.is, ht]

theorem storeAccesses_eq (c : Core) (loaded : Word) :
    c.storeAccesses loaded = (c.storeWrite.map fun p => Access.write p.1 p.2).toList := by
  rcases ht : c.trap with _ | t
  · rw [← written_of_retired loaded ht, storeAccesses, ht]
    rcases c.retired loaded with _ | x
    · rfl
    · rcases hx : x.effect with _ | _ | _ | _ | _ | _ <;> simp [Effect.accesses, Effect.written, hx]
  · simp [storeAccesses, ht, storeWrite_of_trap ht]

theorem pipelineAccesses_eq (c : Core) (loaded : Word) :
    c.pipelineAccesses loaded = c.portUse.toList := by
  rw [pipelineAccesses, loadAccesses_eq, storeAccesses_eq, portUse]
  rcases hr : c.loadRead with _ | a
  · rfl
  · rw [storeWrite_of_loadRead hr]
    rfl

theorem written_portUse (c : Core) : c.portUse.bind Access.written = c.storeWrite := by
  rw [portUse]
  rcases hr : c.loadRead with _ | a
  · rcases c.storeWrite with _ | p <;> rfl
  · rw [storeWrite_of_loadRead hr]
    rfl

end Core

/-! ## The memory after a cycle -/

def Report.writes (r : Report) : List (Addr × Word) :=
  (r.retired.bind fun x => x.effect.written).toList ++ r.dma.write.toList

namespace Board

variable {b : Board}

def bench (b : Board) : Dma.Bench := ⟨b.core.dma, b.dmem⟩

/-- Requests do not change what the engine does in their cycle. -/
theorem activity_eq (b : Board) :
    (b.core.dmaStep b.dmem.out).2 = (b.bench.turn b.core.portUse).2 := by
  rw [Core.dmaStep, Dma.Bench.turn, Core.dmaConflict_eq]
  exact Dma.activity_step ..

theorem dmem_next (trap : b.core.trap = none) :
    b.next.dmem = (b.bench.next b.core.portUse).memory := by
  simp only [next, commit, Core.dataAccesses, Core.pipelineAccesses_eq, Core.dmaAccesses,
    trap, Option.isSome_none, Bool.false_eq_true, if_false, activity_eq]
  rfl

theorem words_next (trap : b.core.trap = none) (idle : b.dmem.Idle) :
    b.next.dmem.words = (b.dmem.writeAll b.report.writes).words := by
  rw [dmem_next trap, Dma.Bench.words_next _ idle, Core.written_portUse, Report.writes, report,
    Core.report, activity_eq, Core.written_of_retired _ trap]
  rfl

/-- A load in Exec1 finds its word in the output register, and the memory still has it. -/
def Served (b : Board) : Prop :=
  ∀ e, b.core.latches.exec1 = some e → e.is .ld = true → b.dmem.out = b.dmem.peek e.result.addr

/-- A load that comes to Exec1 has just read its word. -/
theorem portUse_of_load {e : Exec1} (trap : b.core.trap = none)
    (he : b.next.core.latches.exec1 = some e) (ld : e.is .ld = true) :
    b.core.portUse = some (.read e.result.addr) := by
  obtain ⟨stall, e0, he0, rfl⟩ := Core.exec0_of_exec1_next trap he
  have hr : b.core.loadRead = some (b.core.execute e0).result.addr := by
    have : e0.is .ld = true := ld
    simp [Core.loadRead, he0, stall, this]
  simp [Core.portUse, hr]

theorem served_next (trap : b.core.trap = none) (idle : b.dmem.Idle) : b.next.Served := by
  intro e he hld
  rw [dmem_next trap, portUse_of_load trap he hld, Dma.Bench.memory_next idle]
  rfl

theorem loadsFrom_of_served {e : Exec1} (served : b.Served) (trap : e.trap = none)
    (he : b.core.latches.exec1 = some e) :
    (b.core.effect e b.dmem.out).LoadsFrom b.dmem.peek := by
  have hv := b.core.retires e b.dmem.out
  generalize b.core.effect e b.dmem.out = eff at hv
  cases hv with
  | load ld => exact served e he (by simp [Dec1.is, trap, ld])
  | write | store | copy | jump | halt => trivial

end Board

/-! ## Runs -/

namespace Setup

theorem served_board (s : Setup) (n : Nat) : (s.board n).Served := by
  apply s.holds_board
  · exact fun _ h => by cases h
  · exact fun n goes _ => Board.served_next goes.no_trap (s.idle_board n).dmem

theorem exec1_of_retired {s : Setup} {n : Nat} {x : Retired} (h : s.retired n = some x) :
    ∃ e, (s.board n).core.latches.exec1 = some e ∧ e.trap = none ∧
      (s.board n).core.retire e (s.board n).dmem.out = x := by
  obtain ⟨goes, _, hr⟩ := cycle_of_retired h
  rw [retired, hr] at h
  obtain ⟨e, he, hx⟩ := Option.map_eq_some_iff.mp h
  exact ⟨e, he, (Core.trap_of_exec1 he).symm.trans goes.no_trap, hx⟩

/-- A load that retires has the word that stands in the memory as its tick starts. -/
theorem loadsFrom_of_retired {s : Setup} {n : Nat} {x : Retired} (h : s.retired n = some x) :
    x.effect.LoadsFrom (s.board n).dmem.peek := by
  obtain ⟨e, he, trap, rfl⟩ := exec1_of_retired h
  exact Board.loadsFrom_of_served (s.served_board n) trap he

end Setup

end SixStage
