-- Copies in whole programs. The engine takes one request at a time and is busy
-- until the last write of its copy; whatever the pipeline does meanwhile, on right
-- paths or wrong ones, only makes it wait. So a copy that is not interfered with
-- ends with the words of its source in its target.
import Mathlib.Data.List.Nodup
import SixStage.Proofs.Polling

namespace SixStage

namespace Board

variable {b : Board} {n : Nat}

theorem words_after (idle : b.Idle) (lasts : b.Lasts n) :
    (b.after n).dmem.words = (b.dmem.writeAll (b.course.writes n)).words :=
  Course.words_after (c := b.course) idle (steps_of_lasts lasts)

/-! ## A copy from its first cycle on -/

/-- The copy is not finished when cycle `n` starts. The engine has been busy all the time. -/
structure Underway (b : Board) (src dst : Addr) (count n : Nat) : Prop where
  busy : ∀ k ≤ n, (b.after k).core.dma.busy = true
  reads : (b.course.copyReads n).map Prod.fst <+: Dma.addrs src count
  writes : (b.course.copyWrites n).map Prod.fst <+: Dma.addrs dst count
  words : (b.course.copyWrites n).map Prod.snd <+: (b.course.copyReads n).map Prod.snd
  left : n = 0 ∨ (b.course.copyWrites n).length < count

/-- Cycle `e` is the last one of the copy. It is the one of the last write, or the first
of all if there is nothing to copy. -/
structure Ends (b : Board) (src dst : Addr) (count e : Nat) : Prop where
  busy : ∀ k ≤ e, (b.after k).core.dma.busy = true
  free : (b.after (e + 1)).core.dma.busy = false
  reads : (b.course.copyReads (e + 1)).map Prod.fst = Dma.addrs src count
  writes : (b.course.copyWrites (e + 1)).map Prod.fst = Dma.addrs dst count
  words : (b.course.copyWrites (e + 1)).map Prod.snd = (b.course.copyReads (e + 1)).map Prod.snd
  last : count = 0 ∧ e = 0 ∨ (b.after e).report.dma.write.isSome = true

section Copy

variable {src dst : Addr} {count : Nat}
  (start : Dma.Progress src dst count [] [] b.core.dma b.dmem.out)

include start

theorem progress_of_busy (idle : b.Idle) (lasts : b.Lasts n)
    (busy : ∀ k < n, (b.after k).core.dma.busy = true) :
    Dma.Progress src dst count (b.course.copyReads n) (b.course.copyWrites n) (b.after n).core.dma
      (b.after n).dmem.out :=
  Course.progress_after (c := b.course) start idle (steps_of_lasts lasts)
    fun k hk _ => .inl (busy k hk)

theorem underway_of_busy (idle : b.Idle) (lasts : b.Lasts n)
    (busy : ∀ k ≤ n, (b.after k).core.dma.busy = true) : b.Underway src dst count n := by
  have h := progress_of_busy start idle lasts fun k hk => busy k (Nat.le_of_lt hk)
  obtain ⟨hr, hw⟩ := Dma.length_le h
  refine ⟨busy, h.read_addrs ▸ Dma.addrs_prefix src hr, h.write_addrs ▸ Dma.addrs_prefix dst hw,
    ⟨_, h.words.symm⟩, ?_⟩
  cases n with
  | zero => exact .inl rfl
  | succ n =>
    -- Cycle `n` has left the engine busy, so it has left it words to write.
    right
    have hm := progress_of_busy start idle (lasts.mono (Nat.le_succ n))
      fun k hk => busy k (Nat.le_succ_of_le (Nat.le_of_lt hk))
    have hn := dma_next_of_no_launch (.inl (busy n (Nat.le_succ n)))
    have hb : (b.after n).next.core.dma.busy = true := busy (n + 1) (Nat.le_refl _)
    rw [hn] at hb
    have left : 0 < (b.after (n + 1)).core.dma.remaining := by
      rw [after, hn]
      exact Dma.Block.remaining_of_busy_step hm.sound hb
    have := h.left
    omega

theorem ends_of_free (idle : b.Idle) (lasts : b.Lasts (n + 1)) (h : b.Underway src dst count n)
    (free : (b.after (n + 1)).core.dma.busy = false) : b.Ends src dst count n := by
  have hp := progress_of_busy start idle lasts fun k hk => h.busy k (Nat.le_of_lt_succ hk)
  obtain ⟨hr, hw, words⟩ := Dma.length_of_free hp free
  refine ⟨h.busy, free, hr ▸ hp.read_addrs, hw ▸ hp.write_addrs, words, ?_⟩
  rw [Course.copyWrites_succ, List.length_append] at hw
  rcases hlast : (b.course.report n).dma.write with _ | p
  · -- All words were written before cycle `n`, so it is the first one.
    left
    rw [hlast, Option.toList_none, List.length_nil, Nat.add_zero] at hw
    rcases h.left with rfl | short
    · exact ⟨hw.symm, rfl⟩
    · omega
  · exact .inr (Option.isSome_of_eq_some hlast)

theorem underway_or_ended (idle : b.Idle) (busy : b.core.dma.busy = true) (n : Nat)
    (lasts : b.Lasts n) :
    b.Underway src dst count n ∨ ∃ e < n, b.Ends src dst count e := by
  induction n with
  | zero =>
    left
    apply underway_of_busy start idle lasts
    intro k hk
    rw [Nat.le_zero.mp hk]
    exact busy
  | succ n ih =>
    rcases ih (lasts.mono (Nat.le_succ n)) with h | ⟨e, he, h⟩
    · rcases hb : (b.after (n + 1)).core.dma.busy with _ | _
      · exact .inr ⟨n, Nat.lt_succ_self n, ends_of_free start idle lasts h hb⟩
      · left
        apply underway_of_busy start idle lasts
        intro k hk
        rcases Nat.le_succ_iff.mp hk with hk | rfl
        · exact h.busy k hk
        · exact hb
    · exact .inr ⟨e, Nat.lt_succ_of_lt he, h⟩

end Copy

/-! ## The memory after a copy -/

/-- Nothing gets in the way of a copy that takes `n` cycles: no two of its target words
share a place, none has the place of a source word, and no store falls on one of either. -/
structure Clear (b : Board) (src dst : Addr) (count n : Nat) : Prop where
  distinct : ((Dma.addrs dst count).map b.dmem.place).Nodup
  apart : ∀ k ∈ (Dma.addrs dst count).map b.dmem.place, k ∉ (Dma.addrs src count).map b.dmem.place
  unstored : ∀ w ∈ b.course.stores n,
    b.dmem.place w.1 ∉ (Dma.addrs src count ++ Dma.addrs dst count).map b.dmem.place

section Clear

variable {src dst : Addr} {count e : Nat}

theorem word_of_read (idle : b.Idle) (lasts : b.Lasts (e + 1)) (h : b.Ends src dst count e)
    (clear : b.Clear src dst count (e + 1)) {p : Addr × Word}
    (hp : p ∈ b.course.copyReads (e + 1)) : p.2 = b.dmem.peek p.1 := by
  have hsrc : p.1 ∈ Dma.addrs src count := h.reads ▸ List.mem_map_of_mem hp
  obtain ⟨k, hk, hword⟩ : ∃ k < e + 1, p.2 = (b.after k).dmem.peek p.1 := Course.mem_copyReads hp
  rw [hword, Sram.peek_congr (words_after idle (lasts.mono (Nat.le_of_lt hk)))]
  -- No write before that cycle falls on its place.
  apply Sram.peek_writeAll_of_miss
  intro w hw place
  rcases Course.mem_writes.mp (Course.mem_writes_mono (Nat.le_of_lt hk) hw) with hw | hw
  · apply clear.unstored w hw
    rw [place]
    exact List.mem_map_of_mem (List.mem_append_left _ hsrc)
  · have hdst : w.1 ∈ Dma.addrs dst count := h.writes ▸ List.mem_map_of_mem hw
    apply clear.apart _ (List.mem_map_of_mem hdst)
    rw [place]
    exact List.mem_map_of_mem hsrc

theorem word_of_write (idle : b.Idle) (lasts : b.Lasts (e + 1)) (h : b.Ends src dst count e)
    (clear : b.Clear src dst count (e + 1)) {p : Addr × Word}
    (hp : p ∈ b.course.copyWrites (e + 1)) : (b.after (e + 1)).dmem.peek p.1 = p.2 := by
  have hdst : p.1 ∈ Dma.addrs dst count := h.writes ▸ List.mem_map_of_mem hp
  have distinct := clear.distinct
  rw [← h.writes, List.map_map] at distinct
  rw [Sram.peek_congr (words_after idle lasts)]
  -- No other write falls on its place.
  apply Sram.peek_writeAll_of_hit (Course.mem_writes.mpr (.inr hp))
  intro q hq place
  rcases Course.mem_writes.mp hq with hq | hq
  · apply absurd _ (clear.unstored q hq)
    rw [place]
    exact List.mem_map_of_mem (List.mem_append_right _ hdst)
  · exact List.inj_on_of_nodup_map distinct hq hp place

theorem target_of_clear (idle : b.Idle) (lasts : b.Lasts (e + 1)) (h : b.Ends src dst count e)
    (clear : b.Clear src dst count (e + 1)) :
    (Dma.addrs dst count).map (b.after (e + 1)).dmem.peek =
      (Dma.addrs src count).map b.dmem.peek := by
  calc (Dma.addrs dst count).map (b.after (e + 1)).dmem.peek
      = (b.course.copyWrites (e + 1)).map fun p => (b.after (e + 1)).dmem.peek p.1 := by
        rw [← h.writes, List.map_map]
        rfl
    _ = (b.course.copyWrites (e + 1)).map Prod.snd :=
        List.map_congr_left fun p hp => word_of_write idle lasts h clear hp
    _ = (b.course.copyReads (e + 1)).map Prod.snd := h.words
    _ = (b.course.copyReads (e + 1)).map fun p => b.dmem.peek p.1 :=
        List.map_congr_left fun p hp => word_of_read idle lasts h clear hp
    _ = (Dma.addrs src count).map b.dmem.peek := by
        rw [← h.reads, List.map_map]
        rfl

end Clear

theorem word_of_others {src dst : Addr} {count e : Nat} (idle : b.Idle) (lasts : b.Lasts (e + 1))
    (h : b.Ends src dst count e) {a : Addr}
    (miss : b.dmem.place a ∉ (Dma.addrs dst count).map b.dmem.place) :
    (b.after (e + 1)).dmem.peek a = (b.dmem.writeAll (b.course.stores (e + 1))).peek a := by
  rw [Sram.peek_congr (words_after idle lasts), Sram.peek_writeAll, Sram.peek_writeAll,
    Course.hits_writes b.dmem (e + 1)]
  intro p hp place
  rw [← h.writes, ← place] at miss
  exact miss (List.mem_map_of_mem (List.mem_map_of_mem hp))

/-- A cycle in which a request is taken writes nothing. -/
theorem words_of_launch {x : Retired} (sound : b.core.dma.Sound) (free : b.core.dma.busy = false)
    (trap : b.core.trap = none) (idle : b.dmem.Idle) (hx : b.report.retired = some x)
    (taken : x.effect = .dma true) : b.next.dmem.words = b.dmem.words := by
  have hact : b.report.dma = .quiet := by
    rw [report, Core.report, activity_eq, Dma.Bench.turn, bench,
      (Dma.Block.step_of_free sound free ..).2]
  rw [words_next trap idle, Report.writes, hx, hact]
  simp [taken, Effect.written, Dma.Activity.quiet, Sram.writeAll]

end Board

/-! ## Runs -/

namespace Setup

variable {s : Setup} {d : Nat} {x : Retired}

theorem result_of_request (request : s.retired d = some x) (dma : x.inst.opcode = .dma) :
    x.result = x.inst.imm := by
  obtain ⟨⟨v, _, hv⟩, before⟩ := cycle_before_retired request
  obtain ⟨_, trap, e, he, hdma, hinst, hres⟩ := before v hv
  rw [dma] at hdma
  rw [← hres, ← hinst]
  exact Board.result_of_dma trap he hdma

theorem dropped_of_busy (request : s.retired d = some x) (dma : x.inst.opcode = .dma)
    (busy : s.busy d = true) :
    x.effect = .dma false ∧ (s.board (d + 1)).core.dma =
      ((s.board d).core.dma.step (s.board d).dmem.out (s.board d).core.dmaConflict
        (s.board d).core.dma).1 := by
  constructor
  · rw [(effect_of_request request).1 dma, busy]
    rfl
  · rw [(cycle_of_retired request).2.1, Board.dma_next_of_no_launch (.inl busy),
      Core.dmaConflict_eq]
    rfl

/-- A copy whose request is taken runs to its end, as far as the run goes. The engine is busy
from the next cycle up to that of the last write, and no longer. In these cycles it writes
the target in order, with the words that it read from the source in order, and outside of the
target only stores change the memory. If nothing gets in the way, the target ends as the source
was when the request retired. Requests to a busy engine are dropped and do not touch its
block. -/
theorem taken_copies_run_to_their_end (s : Setup) (d : Nat) (x : Retired)
    (request : s.retired d = some x) (taken : x.effect = .dma true) :
    let b := s.board (d + 1)
    let src := x.a.addr
    let dst := x.inst.imm.addr
    let count := x.b.toInt.toNat
    (x.inst.opcode = .dma ∧ s.cycle (d + 1) = s.cycle d + 1 ∧
      b.dmem.words = (s.board d).dmem.words) ∧
    (∀ t n, s.cycle t = s.cycle d + 1 + n → s.board t = b.after n ∧
      (b.Underway src dst count n ∨ ∃ e < n, b.Ends src dst count e ∧
        (∀ a, b.dmem.place a ∉ (Dma.addrs dst count).map b.dmem.place →
          (b.after (e + 1)).dmem.peek a = (b.dmem.writeAll (b.course.stores (e + 1))).peek a) ∧
        (b.Clear src dst count (e + 1) →
          (Dma.addrs dst count).map (b.after (e + 1)).dmem.peek =
            (Dma.addrs src count).map b.dmem.peek))) ∧
    ∀ u y, s.retired u = some y → y.inst.opcode = .dma → s.busy u = true →
      y.effect = .dma false ∧ (s.board (u + 1)).core.dma =
        ((s.board u).core.dma.step (s.board u).dmem.out (s.board u).core.dmaConflict
          (s.board u).core.dma).1 := by
  intro b src dst count
  obtain ⟨dma, free⟩ := (effect_of_request request).2 taken
  obtain ⟨goes, hb, hr⟩ := cycle_of_retired request
  have hcycle : s.cycle (d + 1) = s.cycle d + 1 := by
    rw [cycle, hb]
    exact Core.cycle_next ..
  obtain ⟨busy, start⟩ := progress_of_taken request taken
  rw [result_of_request request dma] at start
  have idle := s.idle_board (d + 1)
  refine ⟨⟨dma, hcycle, ?_⟩, ?_, fun u y => dropped_of_busy⟩
  · change (s.board (d + 1)).dmem.words = _
    rw [hb]
    exact Board.words_of_launch (s.sound_board d) free goes.no_trap (s.idle_board d).dmem
      (hr ▸ request) taken
  · intro t n ht
    obtain ⟨hbt, lasts⟩ := s.board_after (t := d + 1) (ht.trans (by rw [hcycle]))
    refine ⟨hbt, ?_⟩
    rcases Board.underway_or_ended start idle busy n lasts with h | ⟨e, he, h⟩
    · exact .inl h
    · right
      have lasts : b.Lasts (e + 1) := lasts.mono he
      refine ⟨e, he, h, ?_, Board.target_of_clear idle lasts h⟩
      intro a miss
      exact Board.word_of_others idle lasts h miss

/-- Two words are copied. The second request is dropped, the store holds the engine up
for a cycle, and the last write falls in the cycle in which HLT retires. -/
theorem copy_ends_as_the_machine_halts :
    let s := small [0x00880002, 0x14020004, 0x14020004, 0x12110007, 0, 0, 0, 0x30000000]
    (∃ x, s.retired 6 = some x ∧ x.effect = .dma true) ∧
      (∃ y, s.retired 7 = some y ∧ y.effect = .dma false) ∧
      (s.board 7).Ends 0 4 2 5 ∧ (s.machine 13).halted = true ∧
      (Dma.addrs 4 2).map (s.board 13).dmem.peek = [1, 2] ∧ (s.board 13).dmem.peek 7 = 2 := by
  intro s
  obtain ⟨x, hx, hxv⟩ := Option.map_eq_some_iff.mp
    (show (s.retired 6).map (fun x => (x.effect, x.a.addr, x.inst.imm.addr, x.b.toInt.toNat)) =
      some (.dma true, 0, 4, 2) by decide +kernel)
  obtain ⟨y, hy, dma⟩ := Option.map_eq_some_iff.mp
    (show (s.retired 7).map (fun y => y.inst.opcode) = some .dma by decide +kernel)
  simp only [Prod.mk.injEq] at hxv
  obtain ⟨taken, hsrc, hdst, hcount⟩ := hxv
  obtain ⟨_, copy, dropped⟩ := taken_copies_run_to_their_end s 6 x hx taken
  simp only [hsrc, hdst, hcount, Nat.reduceAdd] at copy
  obtain ⟨h13, h⟩ := copy 13 6 (by decide +kernel)
  have free : ((s.board 7).after 6).core.dma.busy = false := by decide +kernel
  rcases h with h | ⟨e, he, ends, others, target⟩
  · cases (h.busy 6 (Nat.le_refl _)).symm.trans free
  obtain rfl : e = 5 := by
    rcases Nat.lt_or_ge e 5 with h5 | h5
    · have early : ∀ k < 5, ((s.board 7).after (k + 1)).core.dma.busy = true := by decide +kernel
      cases ends.free.symm.trans (early e h5)
    · omega
  simp only [Nat.reduceAdd] at others target
  have stored : (s.board 7).course.stores 6 = [(7, 2)] := by decide +kernel
  have clear : (s.board 7).Clear 0 4 2 6 := by
    refine ⟨by decide +kernel, by decide +kernel, ?_⟩
    intro w hw
    rw [stored, List.mem_singleton] at hw
    rw [hw]
    decide +kernel
  refine ⟨⟨x, hx, taken⟩, ⟨y, hy, (dropped 7 y hy dma (by decide +kernel)).1⟩, ends,
    by decide +kernel, ?_, ?_⟩
  · rw [h13]
    exact (target clear).trans (by decide +kernel)
  · rw [h13, others 7 (by decide +kernel)]
    decide +kernel

end Setup

end SixStage
