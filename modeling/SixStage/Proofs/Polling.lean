-- What DMP tells a program. It is asked in Exec0, a cycle before it retires,
-- while requests, the last write and the end of a copy fall in other stages
-- and cycles. Yet if it says 1, the engine is free and all of the last copy
-- is in the memory; if it says 0, the engine was busy.
import SixStage.Proofs.Course

namespace SixStage

namespace Board

variable {b : Board}

/-! ## One cycle -/

theorem result_of_dmp {e : Exec1} (trap : b.core.trap = none)
    (he : b.next.core.latches.exec1 = some e) (dmp : e.is .dmp = true) :
    e.result = Word.ofBool b.core.dmaFree := by
  obtain ⟨_, e0, _, rfl⟩ := Core.exec0_of_exec1_next trap he
  have hd : e0.is .dmp = true := dmp
  simp only [Dec1.is, Bool.and_eq_true, Option.isNone_iff_eq_none, decide_eq_true_eq] at hd
  simp [Core.execute, Core.result, hd.1, hd.2]

theorem result_of_dma {e : Exec1} (trap : b.core.trap = none)
    (he : b.next.core.latches.exec1 = some e) (dma : e.is .dma = true) :
    e.result = e.inst.imm := by
  obtain ⟨_, e0, _, rfl⟩ := Core.exec0_of_exec1_next trap he
  have hd : e0.is .dma = true := dma
  simp only [Dec1.is, Bool.and_eq_true, Option.isNone_iff_eq_none, decide_eq_true_eq] at hd
  simp [Core.execute, Core.result, hd.1, hd.2, alu]

/-- A DMP that comes to Exec1 with 1 has passed no request, and finds the engine free
before and after its cycle. -/
theorem free_of_dmp {e : Exec1} (sound : b.core.dma.Sound) (trap : b.core.trap = none)
    (he : b.next.core.latches.exec1 = some e) (dmp : e.is .dmp = true) (h : e.result = 1) :
    b.core.dma.busy = false ∧ b.core.exec1Is .dma = false ∧ b.next.core.dma.busy = false := by
  rw [result_of_dmp trap he dmp] at h
  have hf : b.core.dmaFree = true := by
    rcases hf : b.core.dmaFree with _ | _
    · rw [hf] at h
      cases h
    · rfl
  simp only [Core.dmaFree, Bool.and_eq_true, Bool.not_eq_true'] at hf
  obtain ⟨free, none⟩ := hf
  refine ⟨free, none, ?_⟩
  rw [dma_next_of_no_launch (.inr none), Dma.Bench.next, Dma.Bench.turn, bench,
    (Dma.Block.step_of_free sound free ..).2]
  exact free

theorem busy_of_dmp {e : Exec1} (sound : b.core.dma.Sound) (trap : b.core.trap = none)
    (he : b.next.core.latches.exec1 = some e) (dmp : e.is .dmp = true) (h : e.result = 0) :
    b.core.dma.busy = true ∨ b.next.core.dma.busy = true := by
  rw [result_of_dmp trap he dmp] at h
  have hf : b.core.dmaFree = false := by
    rcases hf : b.core.dmaFree with _ | _
    · rfl
    · rw [hf] at h
      cases h
  rcases hb : b.core.dma.busy with _ | _
  · right
    simp only [Core.dmaFree, hb, Bool.not_false, Bool.true_and, Bool.not_eq_false'] at hf
    obtain ⟨e', he', dma⟩ := (Option.any_eq_true ..).mp hf
    rw [dma_next_of_launch sound hb he' dma]
    simp [Dma.Block.launch, hb]
  · exact .inl rfl

end Board

/-! ## Runs -/

namespace Setup

variable {s : Setup} {n : Nat} {x : Retired}

def busy (s : Setup) (n : Nat) : Bool := (s.board n).core.dma.busy

/-- A request for a copy retires in tick `n`. -/
def asks (s : Setup) (n : Nat) : Bool := (s.retired n).any fun x => x.inst.opcode = .dma

/-- A request that the engine takes retires in tick `n`. -/
def launches (s : Setup) (n : Nat) : Bool := (s.retired n).any fun x => x.effect = .dma true

theorem effect_of_request (h : s.retired n = some x) :
    (x.inst.opcode = .dma → x.effect = .dma !(s.busy n)) ∧
      (x.effect = .dma true → x.inst.opcode = .dma ∧ s.busy n = false) := by
  obtain ⟨e, _, _, rfl⟩ := exec1_of_retired h
  constructor
  · intro dma
    have dma : e.inst.opcode = .dma := dma
    simp [Core.retire, Core.effect, dma, busy]
  · intro taken
    have taken : (s.board n).core.effect e (s.board n).dmem.out = .dma true := taken
    have hv := (s.board n).core.retires e (s.board n).dmem.out
    generalize (s.board n).core.effect e (s.board n).dmem.out = eff at hv taken
    cases hv with
    | copy dma => exact ⟨dma, by simpa [busy] using taken⟩
    | write | load | store | jump | halt => cases taken

theorem retired_of_request {e : Exec1} (report : s.Reported n)
    (he : (s.board n).core.latches.exec1 = some e) (dma : e.is .dma = true) :
    s.retired n = some ((s.board n).core.retire e (s.board n).dmem.out) := by
  rcases report with hr | ⟨_, halts, _⟩
  · simp [retired, hr, Board.report, Core.report, Core.retired, he]
  · simp only [Dec1.is, Bool.and_eq_true, decide_eq_true_eq] at dma
    simp [Board.report, Core.report, Report.halts, Report.haltPc, Core.retired, he, Core.retire,
      Core.effect, dma.2] at halts

theorem not_taken_of_launches (report : s.Reported n) (h : s.launches n = false) :
    (s.board n).core.dma.busy = true ∨ (s.board n).core.exec1Is .dma = false := by
  rcases hb : (s.board n).core.dma.busy with _ | _
  · right
    rw [Bool.eq_false_iff]
    intro hd
    obtain ⟨e, he, dma⟩ := (Option.any_eq_true ..).mp hd
    have hx := retired_of_request report he dma
    simp only [Dec1.is, Bool.and_eq_true, decide_eq_true_eq] at dma
    have taken := (effect_of_request hx).1 dma.2
    simp [launches, hx, taken, busy, hb] at h
  · exact .inl rfl

theorem free_until_asked {t j : Nat} (free : s.busy t = false)
    (unasked : ∀ k < t + j, t ≤ k → s.asks k = false) : s.busy (t + j) = false := by
  induction j with
  | zero => exact free
  | succ j ih =>
    have ih := ih fun k hkj hk => unasked k (Nat.lt_succ_of_lt hkj) hk
    rw [busy, ← Nat.add_assoc]
    cases s.turn (t + j) with
    | stay hb _ => rw [hb]; exact ih
    | cycle _ hb report =>
      -- No request retires, so none is taken, and by itself a free engine does nothing.
      have hl : s.launches (t + j) = false := by
        rw [Bool.eq_false_iff]
        intro taken
        obtain ⟨x, hx, taken⟩ := (Option.any_eq_true ..).mp taken
        have dma := ((effect_of_request hx).2 (by simpa using taken)).1
        have hask := unasked (t + j) (Nat.lt_succ_self _) (Nat.le_add_right ..)
        simp [asks, hx, dma] at hask
      have alone := not_taken_of_launches report hl
      rw [hb, Board.dma_next_of_no_launch alone, Dma.Bench.next, Dma.Bench.turn,
        Board.bench, (Dma.Block.step_of_free (s.sound_board _) ih ..).2]
      exact ih

theorem progress_of_taken {d : Nat} (request : s.retired d = some x)
    (taken : x.effect = .dma true) :
    s.busy (d + 1) = true ∧
      Dma.Progress x.a.addr x.result.addr x.b.toInt.toNat [] [] (s.board (d + 1)).core.dma
        (s.board (d + 1)).dmem.out := by
  obtain ⟨hdma, free⟩ := (effect_of_request request).2 taken
  obtain ⟨e, he, trap, rfl⟩ := exec1_of_retired request
  have dma : e.is .dma = true := by
    have hdma : e.inst.opcode = .dma := hdma
    simp [Dec1.is, trap, hdma]
  have rests := (Dma.Block.step_of_free (s.sound_board d) free 0 false (s.board d).core.dma).1
  rw [busy, (cycle_of_retired request).2.1,
    Board.dma_next_of_launch (s.sound_board d) free he dma]
  exact ⟨by rw [Dma.Block.launch_of_free free rests], Dma.progress_launch free rests ..⟩

/-- The whole copy that the request `x` asked for happened in the `n` ticks from tick `i`
on, and the memory has all its writes. -/
structure Copied (s : Setup) (x : Retired) (i n : Nat) : Prop where
  reads : ((s.course i).copyReads n).map Prod.fst = Dma.addrs x.a.addr x.b.toInt.toNat
  writes : ((s.course i).copyWrites n).map Prod.fst = Dma.addrs x.result.addr x.b.toInt.toNat
  words : ((s.course i).copyWrites n).map Prod.snd = ((s.course i).copyReads n).map Prod.snd
  among : ((s.course i).copyWrites n).Sublist ((s.course i).writes n)
  memory : (s.board (i + n)).dmem.words =
    ((s.board i).dmem.writeAll ((s.course i).writes n)).words

theorem copied_of_free {d : Nat} (request : s.retired d = some x) (taken : x.effect = .dma true)
    (n : Nat) (running : (s.machine (d + 1 + n)).halted = false)
    (alone : ∀ k < d + 1 + n, d < k → s.launches k = false)
    (free : s.busy (d + 1 + n) = false) : s.Copied x (d + 1) n := by
  have idle := s.idle_board (d + 1)
  have steps := steps_of_running running
  have h := Course.progress_after (progress_of_taken request taken).2 idle steps
    fun k hk told => not_taken_of_launches (.inl told) (alone (d + 1 + k) (by omega) (by omega))
  obtain ⟨hr, hw, hwords⟩ := Dma.length_of_free h free
  exact ⟨hr ▸ h.read_addrs, hw ▸ h.write_addrs, hwords, Course.sublist_copyWrites _ n,
    Course.words_after idle steps⟩

/-- The cycle before that of what retires: it is there, and the instruction came to Exec1
in it. -/
theorem cycle_before_retired {t : Nat} {y : Retired} (retires : s.retired t = some y) :
    (∃ v ≤ t, s.cycle t = s.cycle v + 1) ∧
      ∀ v, s.cycle t = s.cycle v + 1 → s.board t = (s.board v).next ∧
        (s.board v).core.trap = none ∧
        ∃ e, (s.board v).next.core.latches.exec1 = some e ∧ e.is y.inst.opcode = true ∧
          e.inst = y.inst ∧ e.result = y.result := by
  obtain ⟨e, he, trap, rfl⟩ := exec1_of_retired retires
  constructor
  · -- At reset nothing is in Exec1, so there has been a cycle.
    have hc : s.cycle t ≠ 0 := by
      intro h0
      rw [(s.board_eq_after t).1, h0] at he
      cases he
    obtain ⟨v, hv, hcv⟩ := s.exists_tick (Nat.sub_le (s.cycle t) 1)
    exact ⟨v, hv, by omega⟩
  · intro v hv
    obtain ⟨hb, htrap⟩ := board_of_cycle_succ hv
    exact ⟨hb, htrap, e, hb ▸ he, by simp [Dec1.is, trap, Core.retire], rfl, rfl⟩

section Dmp

variable {t : Nat} {y : Retired} (retires : s.retired t = some y) (dmp : y.inst.opcode = .dmp)

include retires dmp

theorem free_before_dmp (one : y.result = 1) {u : Nat} (h : s.cycle t = s.cycle u + 1) :
    s.busy u = false ∧ (s.board u).core.exec1Is .dma = false ∧ s.busy t = false := by
  obtain ⟨hb, trap, e, he, hdmp, _, hres⟩ := (cycle_before_retired retires).2 u h
  rw [dmp] at hdmp
  have hfree := Board.free_of_dmp (s.sound_board u) trap he hdmp (hres.trans one)
  rw [← hb] at hfree
  exact hfree

theorem free_around_dmp (one : y.result = 1) {u : Nat} (hut : u ≤ t)
    (h : s.cycle t ≤ s.cycle u + 1) : s.busy u = false := by
  have hle := s.cycle_mono hut
  rcases Nat.lt_or_ge (s.cycle u) (s.cycle t) with hlt | hge
  · exact (free_before_dmp retires dmp one (by omega)).1
  · obtain ⟨v, _, hv⟩ := (cycle_before_retired retires).1
    rw [busy, board_of_cycle_eq (show s.cycle u = s.cycle t by omega)]
    exact (free_before_dmp retires dmp one hv).2.2

/-- A request before a DMP with 1 has retired before the cycle in which the DMP was
in Exec0. -/
theorem request_before_dmp (one : y.result = 1) {d u : Nat} (hdt : d < t)
    (request : s.retired d = some x) (dma : x.inst.opcode = .dma)
    (h : s.cycle t = s.cycle u + 1) : d < u ∧ u < t := by
  have hut : u < t := by
    rcases Nat.lt_or_ge u t with hut | htu
    · exact hut
    · have := s.cycle_mono htu
      omega
  refine ⟨?_, hut⟩
  rcases Nat.lt_or_ge d u with hdu | hud
  · exact hdu
  -- Then both fall in one cycle, and the request is in Exec1 there.
  have hd : s.cycle (d + 1) = s.cycle d + 1 := by
    rw [cycle, (cycle_of_retired request).2.1]
    exact Core.cycle_next ..
  have h1 := s.cycle_mono hud
  have h2 := s.cycle_mono (show d + 1 ≤ t from hdt)
  have hbd := board_of_cycle_eq (show s.cycle d = s.cycle u by omega)
  have none := (free_before_dmp retires dmp one h).2.1
  obtain ⟨e, he, trap, rfl⟩ := exec1_of_retired request
  have dma : e.inst.opcode = .dma := dma
  rw [← hbd] at none
  simp [Core.exec1Is, he, Dec1.is, trap, dma] at none

theorem copied_before_dmp (one : y.result = 1) {d u : Nat} (hdt : d < t)
    (request : s.retired d = some x) (taken : x.effect = .dma true)
    (alone : ∀ k < t, d < k → s.launches k = false) (h : s.cycle t = s.cycle u + 1) :
    ∃ n, u = d + 1 + n ∧ s.Copied x (d + 1) n := by
  obtain ⟨hdu, hut⟩ := request_before_dmp retires dmp one hdt request
    ((effect_of_request request).2 taken).1 h
  obtain ⟨n, rfl⟩ : ∃ n, u = d + 1 + n := ⟨u - (d + 1), by omega⟩
  have running := running_mono (Nat.le_of_lt hut) (cycle_of_retired retires).1.running
  exact ⟨n, rfl, copied_of_free request taken n running
    (fun k hkn hk => alone k (Nat.lt_trans hkn hut) hk) (free_before_dmp retires dmp one h).1⟩

theorem busy_around_dmp (zero : y.result = 0) :
    ∃ u ≤ t, s.cycle t ≤ s.cycle u + 1 ∧ s.busy u = true := by
  obtain ⟨⟨v, hvt, hv⟩, before⟩ := cycle_before_retired retires
  obtain ⟨hb, trap, e, he, hdmp, _, hres⟩ := before v hv
  rw [dmp] at hdmp
  rcases Board.busy_of_dmp (s.sound_board v) trap he hdmp (hres.trans zero) with busy | busy
  · exact ⟨v, hvt, Nat.le_of_eq hv, busy⟩
  · rw [← hb] at busy
    exact ⟨t, Nat.le_refl _, Nat.le_succ _, busy⟩

end Dmp

/-- The contract of a program that polls. If a DMP retires with 1, the engine is free in its
cycle, in the one before it, and until a request retires, which is taken; all of
the copy that was asked for before is in the memory when the cycle before starts, and
every later load reads that memory, changed by later writes only. If it retires with 0, the
engine is busy in its cycle or in the one before. -/
theorem polling_is_free_of_races (s : Setup) (t : Nat) (y : Retired)
    (retires : s.retired t = some y) (dmp : y.inst.opcode = .dmp) :
    (y.result = 1 →
      (∀ u ≤ t, s.cycle t ≤ s.cycle u + 1 → s.busy u = false) ∧
      (∀ u, t ≤ u → (∀ k < u, t ≤ k → s.asks k = false) → s.busy u = false ∧
        ∀ z, s.retired u = some z → z.inst.opcode = .dma → z.effect = .dma true) ∧
      (∀ d < t, ∀ x, s.retired d = some x → x.effect = .dma true →
        (∀ k < t, d < k → s.launches k = false) →
        ∀ u, s.cycle t = s.cycle u + 1 →
          (∃ n, u = d + 1 + n ∧ s.Copied x (d + 1) n) ∧
          ∀ e z, t < e → s.retired e = some z →
            z.effect.LoadsFrom (s.board e).dmem.peek ∧
            (s.board e).dmem.words =
              ((s.board u).dmem.writeAll ((s.course u).writes (e - u))).words)) ∧
    (y.result = 0 → ∃ u ≤ t, s.cycle t ≤ s.cycle u + 1 ∧ s.busy u = true) := by
  refine ⟨fun one => ⟨?_, ?_, ?_⟩, busy_around_dmp retires dmp⟩
  · exact fun u hut h => free_around_dmp retires dmp one hut h
  · intro u htu quiet
    obtain ⟨j, rfl⟩ : ∃ j, u = t + j := ⟨u - t, by omega⟩
    have hnow := free_around_dmp retires dmp one (Nat.le_refl t) (Nat.le_succ _)
    have hfree := free_until_asked hnow quiet
    refine ⟨hfree, fun z hz dma => ?_⟩
    rw [(effect_of_request hz).1 dma, hfree]
    rfl
  · intro d hdt x request taken alone u h
    refine ⟨copied_before_dmp retires dmp one hdt request taken alone h, ?_⟩
    intro e z hte hz
    refine ⟨loadsFrom_of_retired hz, ?_⟩
    have hut : u < t := (request_before_dmp retires dmp one hdt request
      ((effect_of_request request).2 taken).1 h).2
    obtain ⟨j, rfl⟩ : ∃ j, e = u + j := ⟨e - u, by omega⟩
    rw [Nat.add_sub_cancel_left]
    exact Course.words_after (s.idle_board u) (steps_of_running (cycle_of_retired hz).1.running)

/-- A copy of two words, and a loop that polls: the DMP in tick 7 brings 0, the one in tick 14
brings 1, and the load behind the loop gets a word that was copied. -/
theorem small_poll_is_free_of_races :
    let s := small [0x00880002, 0x14020004, 0x16c00000, 0x24180002, 0x11010005, 0x30000000]
    (∃ u ≤ 7, s.busy u = true) ∧ s.busy 13 = false ∧ s.busy 14 = false ∧
      (∃ x, s.retired 6 = some x ∧ x.b = 2 ∧ s.Copied x 7 6) ∧
      ∃ z, s.retired 23 = some z ∧ z.effect = .load 4 5 2 ∧ (s.board 23).dmem.peek 5 = 2 := by
  intro s
  obtain ⟨w, hw, hwv⟩ := Option.map_eq_some_iff.mp
    (show (s.retired 7).map (fun w => (w.inst.opcode, w.result)) = some (.dmp, 0) by decide +kernel)
  obtain ⟨y, hy, hyv⟩ := Option.map_eq_some_iff.mp
    (show (s.retired 14).map (fun y => (y.inst.opcode, y.result)) = some (.dmp, 1) by
      decide +kernel)
  obtain ⟨x, hx, hxv⟩ := Option.map_eq_some_iff.mp
    (show (s.retired 6).map (fun x => (x.effect, x.b)) = some (.dma true, 2) by decide +kernel)
  obtain ⟨z, hz, hzv⟩ := Option.map_eq_some_iff.mp
    (show (s.retired 23).map (·.effect) = some (.load 4 5 2) by decide +kernel)
  obtain ⟨hwo, hwr⟩ := Prod.mk.inj hwv
  obtain ⟨hyo, hyr⟩ := Prod.mk.inj hyv
  obtain ⟨hxe, hxb⟩ := Prod.mk.inj hxv
  obtain ⟨u, hu, _, busy⟩ := (polling_is_free_of_races s 7 w hw hwo).2 hwr
  obtain ⟨free, _, copied⟩ := (polling_is_free_of_races s 14 y hy hyo).1 hyr
  obtain ⟨⟨n, hn, hcopied⟩, loads⟩ :=
    copied 6 (by decide) x hx hxe (by decide +kernel) 13 (by decide +kernel)
  obtain rfl : n = 6 := by omega
  have hload := (loads 23 z (by decide) hz).1
  rw [hzv] at hload
  exact ⟨⟨u, hu, busy⟩, free 13 (by decide) (by decide +kernel),
    free 14 (by decide) (by decide +kernel), ⟨x, hx, hxb, hcopied⟩, z, hz, hzv, hload.symm⟩

end Setup

end SixStage
