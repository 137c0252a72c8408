-- The trace of the instructions. As long as its own sink takes every record, it is
-- the transcript of what the machine without a pipeline executes, whatever the other
-- sinks refuse and however often a tick is tried again: a record is written as its
-- instruction retires, and only then.
import SixStage.Proofs.InstructionRecord
import SixStage.Proofs.Speculation

namespace SixStage

/-! ## Transcripts -/

namespace Sequential

/-- From one state to another the machine executes these instructions, none of them behind a HLT,
and the text recounts each of them in the order in which they are executed: numbered from zero,
with the registers as the instructions before it leave them, and with what it does to them. -/
inductive Transcript (code : Addr → Word) (s : Sequential) :
    List Retired → String → Sequential → Prop
  | start : Transcript code s [] "" s
  | record {l : List Retired} {text : String} {s' s'' : Sequential} {e : Surroundings}
      {x : Retired} {lines : List String} (before : Transcript code s l text s')
      (running : l.any Retired.isHalt = false) (next : Executes code e s' x s'')
      (recounts : Trace.Recounts l.length s'.regs e x s''.pc lines) :
      Transcript code s (l ++ [x]) (text ++ String.join (lines.map (· ++ "\n"))) s''

/-- A HLT is the last instruction, and the last line of the text tells its address and the number
of all instructions. -/
theorem lastLine_of_transcript {code : Addr → Word} {s s' : Sequential} {l : List Retired}
    {text : String} (h : Transcript code s l text s') (halted : l.any Retired.isHalt = true) :
    ∃ before x text', l = before ++ [x] ∧ x.effect = .halt ∧
      text = text' ++ Trace.lastLine x.pc l.length ++ "\n" := by
  cases h with
  | start => cases halted
  | @record l text _ _ _ x lines before running next recounts =>
    have halts : x.effect = .halt := by
      simpa [running, Retired.isHalt] using halted
    have performs := performs_of_executes next
    rw [halts] at performs
    cases performs with
    | halt hlt =>
      obtain ⟨first, rfl⟩ := Trace.lastLine_of_recounts recounts hlt
      refine ⟨l, x, text ++ String.join (first.map (· ++ "\n")), rfl, halts, ?_⟩
      simp only [List.map_append, List.map_cons, List.map_nil, String.join_append,
        String.join_cons, String.join_nil, String.append_empty, String.append_assoc,
        List.length_append, List.length_singleton]

end Sequential

/-! ## The sink -/

namespace Tracer

variable {t : Tracer} {text : String}

/-- There is a sink for instructions, it takes every record whole, and this is its text. -/
def Keeps (t : Tracer) (text : String) : Prop :=
  ∃ s, t.inst = some s ∧ s.writeFaults = [] ∧ s.text = text

def added (t : Tracer) (c : Core) (r : Report) : String :=
  r.retired.elim "" (Trace.instructionRecord t.instructions c.regs)

theorem keeps_flush (h : t.Keeps text) : t.flush.1.Keeps text := by
  have inst : t.flush.1.inst = (flushOne t.inst).1 := by
    unfold flush
    split
    · next hs => rw [hs]
    · next hs =>
      rw [hs]
      simp only
      split <;> rfl
  obtain ⟨s, hs, faults, rfl⟩ := h
  rw [hs] at inst
  exact ⟨s.flush.1, inst, faults, rfl⟩

theorem keeps_writeInstruction (h : t.Keeps text) (c : Core) (r : Report) :
    (t.writeInstruction c r).2 = true ∧ (t.writeInstruction c r).1.Keeps (text ++ t.added c r) := by
  unfold writeInstruction added
  rcases r.retired with _ | x
  · rw [Option.elim_none, String.append_empty]
    exact ⟨rfl, h⟩
  · obtain ⟨s, hs, faults, rfl⟩ := h
    simp only [hs, writeTo, Sink.write, faults, Option.elim_some, true_and]
    exact ⟨_, rfl, rfl, rfl⟩

/-- A record of the instruction is written if all records of the cycle are, and only then. -/
theorem keeps_record (h : t.Keeps text) (c : Core) (r : Report) :
    (t.record c r).1.Keeps (text ++ if (t.record c r).2 then t.added c r else "") := by
  have cycle : (t.writeCycle c r).1.Keeps text := h
  have dma : ((t.writeCycle c r).1.writeDma c r).1.Keeps text := h
  have inst := keeps_writeInstruction dma c r
  have same : ((t.writeCycle c r).1.writeDma c r).1.added c r = t.added c r := rfl
  rcases hc : t.writeCycle c r with ⟨t', _ | _⟩
  · rw [hc] at cycle
    simpa [record, hc] using cycle
  · rw [hc] at dma inst same
    rcases hd : t'.writeDma c r with ⟨t'', _ | _⟩
    · rw [hd] at dma
      simpa [record, hc, hd] using dma
    · rw [hd] at inst same
      simp only [record, hc, hd, inst.1, if_true, ← same]
      exact inst.2

end Tracer

/-! ## One tick -/

namespace Machine

variable {m : Machine} {code : Addr → Word} {l : List Retired} {text : String}

theorem keeps_tick (h : m.tracer.Keeps text) :
    m.tick.1.tracer.Keeps
      (text ++ if m.commits then m.tracer.added m.board.core m.board.report else "") := by
  have record := Tracer.keeps_record h m.board.core m.board.report
  rw [Tracer.record_snd] at record
  have stays : m.commits = false →
      (text ++ if m.commits then m.tracer.added m.board.core m.board.report else "") = text :=
    fun hc => by simp [hc]
  have does := m.does
  generalize m.tick = r at does ⊢
  cases does with
  | rest halted =>
    rw [stays (by simp [commits, halted])]
    exact h
  | fault _ t trap =>
    rw [stays (by simp [commits, trap])]
    exact Tracer.keeps_flush h
  | untraced _ _ broken =>
    rw [stays (by simp [commits, broken])]
    simpa [broken] using record
  | commit running trap traced =>
    rw [commits_iff.mpr ⟨running, trap, traced⟩]
    rwa [traced] at record
  | stop running stops =>
    rw [commits_iff.mpr ⟨running, stops.no_trap, stops.traced⟩]
    rw [stops.traced] at record
    simp only [tracer_stop]
    exact Tracer.keeps_flush record

/-- The instructions `l` have retired, their trace is their transcript, and what is in flight is
what the machine without a pipeline executes next. -/
structure Transcribes (code : Addr → Word) (l : List Retired) (m : Machine) : Prop where
  counted : m.tracer.instructions = l.length
  halted : m.halted = l.any Retired.isHalt
  trace : ∃ text s free, m.tracer.Keeps text ∧ Sequential.Transcript code .reset l text s ∧
    m.board.Holds code free s

theorem transcribes_of_not_commits (h : m.Transcribes code l) (hc : m.commits = false) :
    m.tick.1.Transcribes code l := by
  obtain ⟨text, s, free, keeps, transcript, holds⟩ := h.trace
  obtain ⟨board, stats, halted, _⟩ := tick_of_not_commits holds.idle hc
  have count := m.instructions_tick
  rw [stats, h.counted] at count
  have kept := keeps_tick keeps
  rw [hc, if_neg Bool.false_ne_true, String.append_empty] at kept
  exact ⟨Nat.add_right_cancel count, halted.trans h.halted, text, s, free, kept, transcript,
    board ▸ holds⟩

theorem transcribes_of_commits (h : m.Transcribes code l) (hc : m.commits = true) :
    m.tick.1.Transcribes code (l ++ m.board.report.retired.toList) := by
  obtain ⟨running, trap, _⟩ := commits_iff.mp hc
  obtain ⟨board, stats, halted⟩ := tick_of_commits hc
  obtain ⟨text, s, free, keeps, transcript, holds⟩ := h.trace
  have none_halts : l.any Retired.isHalt = false := h.halted.symm.trans running
  have count := m.instructions_tick
  rw [stats, Statistics.retired_record, h.counted] at count
  have kept := keeps_tick keeps
  rw [if_pos hc, Tracer.added, h.counted, holds.regs] at kept
  rw [Report.halts_eq] at halted
  -- Something retires if and only if there is something in Exec1.
  rcases he : m.board.core.latches.exec1 with _ | e
  · have next := Board.holds_next_of_exec1_none holds he
    rw [Board.retired_of_exec1_none he] at halted count kept ⊢
    rw [Option.elim_none, String.append_empty] at kept
    rw [Option.toList_none, List.append_nil]
    refine ⟨?_, halted.trans none_halts.symm, text, s, _, kept, transcript, board ▸ next⟩
    simp only [Option.isSome_none, Bool.toNat_false] at count
    omega
  · have executes := Board.executes_of_exec1 holds trap he
    have next : m.tick.1.board.Holds code m.board.core.dmaFree
        ⟨m.board.core.oldest s.pc, m.board.next.core.regs⟩ := board ▸ Board.holds_next holds trap
    obtain ⟨lines, recounts, record⟩ := Trace.recounts_of_executes executes l.length
    rw [Board.retired_of_exec1 he] at halted count kept ⊢
    generalize m.board.core.retire e m.board.dmem.out = x
      at halted count kept executes recounts record ⊢
    rw [Option.elim_some, record] at kept
    rw [Option.toList_some]
    refine ⟨?_, ?_, _, _, _, kept, transcript.record none_halts executes recounts, next⟩
    · simp only [Option.isSome_some, Bool.toNat_true] at count
      rw [List.length_append, List.length_singleton]
      omega
    · simp [halted, none_halts]

/-! ## Runs -/

theorem transcribes_of_atReset (reset : m.AtReset) (keeps : m.tracer.Keeps "") :
    m.Transcribes m.board.imem.peek [] := by
  have tracks : m.board.Tracks m.board.imem.peek ⟨.reset, m.board.dmem⟩ :=
    tracks_of_atReset reset (fun _ => rfl) rfl rfl
  exact ⟨reset.instructions, reset.halted, "", .reset, true, keeps, .start, tracks.toHolds⟩

theorem transcribes_after (reset : m.AtReset) (keeps : m.tracer.Keeps "") (n : Nat) :
    (m.after n).Transcribes m.board.imem.peek (m.retirements n) := by
  induction n with
  | zero => exact transcribes_of_atReset reset keeps
  | succ n ih =>
    rcases hc : (m.after n).commits with _ | _
    · rw [retirements_of_not_commits hc]
      exact transcribes_of_not_commits ih hc
    · rw [retirements_of_commits hc]
      exact transcribes_of_commits ih hc

/-- After every tick, those that fail and are tried again among them, the trace of the
instructions is the transcript of what has retired: the machine without a pipeline executes the
same instructions from reset, and the text recounts each of them once, with what it finds in the
registers and what it does. So nothing is lost and nothing stands twice, whatever the sinks for
cycles and copies refuse. At a halt HLT is the last instruction, and the last line of the trace
tells where it stood and how many instructions the machine has counted. -/
theorem instruction_trace_is_the_transcript (reset : m.AtReset) {sink : Sink}
    (traced : m.tracer.inst = some sink) (takes : sink.writeFaults = []) (blank : sink.text = "")
    (n : Nat) :
    ∃ sink' s, (m.after n).tracer.inst = some sink' ∧
      Sequential.Transcript m.board.imem.peek .reset (m.retirements n) sink'.text s ∧
      s.regs = (m.after n).board.core.regs ∧
      (m.after n).stats.retired = (m.retirements n).length ∧
      ((m.after n).halted = true → ∃ before x text, m.retirements n = before ++ [x] ∧
        x.effect = .halt ∧ sink'.text = text ++
          s!"sim finished at pc {x.pc.toNat}, {(m.after n).stats.retired} instructions" ++
            "\n") := by
  have h := transcribes_after reset ⟨sink, traced, takes, blank⟩ n
  obtain ⟨_, s, _, ⟨sink', inst, _, rfl⟩, transcript, holds⟩ := h.trace
  have counted := (instructions_after reset n).symm.trans h.counted
  refine ⟨sink', s, inst, transcript, holds.regs.symm, counted, fun halted => ?_⟩
  rw [counted]
  exact Sequential.lastLine_of_transcript transcript (h.halted.symm.trans halted)

/-- A small machine with traces of its instructions and of the copy engine. The first record of
the copy engine breaks off. -/
def grudging (image : List Word) : Machine :=
  { (Setup.small image).machine 0 with
    tracer := ⟨some .empty, none, some ⟨"", [0], [], 0⟩, 0⟩ }

/-- An ADD and HLT, and a first tick that fails. The trace of the instructions does not show that:
both are in it, the ADD has left its sum in `r3`, and the trace ends as it should. -/
theorem failed_tick_leaves_the_trace_whole :
    let m := grudging [0x00d10001, 0x30000000]
    m.AtReset ∧ broken m.tick.2 = true ∧ (m.after 8).halted = true ∧
      (m.retirements 8).map Retired.pc = [0, 1] ∧
      ∃ sink s text, (m.after 8).tracer.inst = some sink ∧
        Sequential.Transcript m.board.imem.peek .reset (m.retirements 8) sink.text s ∧
        s.regs.cell 3 = 1 ∧ sink.text = text ++ "sim finished at pc 1, 2 instructions" ++ "\n" := by
  generalize hm : grudging [0x00d10001, 0x30000000] = m
  dsimp only
  have reset : m.AtReset := by
    rw [← hm]
    exact ⟨rfl, Setup.idle_start _, rfl, rfl, rfl⟩
  have run : broken m.tick.2 = true ∧ (m.after 8).halted = true ∧
      (m.retirements 8).map Retired.pc = [0, 1] ∧ (m.after 8).board.core.regs.cell 3 = 1 := by
    rw [← hm]
    decide +kernel
  obtain ⟨failed, halted, pcs, sum⟩ := run
  obtain ⟨sink, s, inst, transcript, regs, counted, ends⟩ :=
    instruction_trace_is_the_transcript reset (by rw [← hm]; rfl) rfl rfl 8
  obtain ⟨before, x, text, retired, _, last⟩ := ends halted
  have two : (m.after 8).stats.retired = 2 := by
    rw [counted, ← List.length_map Retired.pc, pcs]
    rfl
  have pc : x.pc = 1 := by
    rw [retired] at pcs
    simpa using congrArg List.getLast? pcs
  rw [two, pc] at last
  rw [← regs] at sum
  exact ⟨reset, failed, halted, pcs, sink, s, text, inst, transcript, sum, last⟩

end Machine

end SixStage
