-- Predictions. The table is told of the branches that retire and of nothing
-- else, so each address finds in it what the last branch of its class did. A
-- record takes along what the table said in the cycle that fetched it: behind
-- Fetch1 it is one stage for each cycle since then in which the pipeline moved.
import SixStage.Proofs.InOrder

namespace SixStage

/-! ## The last outcome -/

/-- What the last branch of the list did whose address falls on the entry of `pc` in a
table of so many entries. If there is none, straight on. -/
def lastOn (size : Nat) (l : List (Addr × Direction)) (pc : Addr) : Direction :=
  ((l.filter fun p => p.1.toNat % size = pc.toNat % size).getLast?.map Prod.snd).getD .straight

theorem lastOn_concat (size : Nat) (l : List (Addr × Direction)) (p : Addr × Direction)
    (pc : Addr) :
    lastOn size (l ++ [p]) pc =
      if p.1.toNat % size = pc.toNat % size then p.2 else lastOn size l pc := by
  unfold lastOn
  by_cases h : p.1.toNat % size = pc.toNat % size
  · simp [List.filter_append, h]
  · simp [List.filter_append, h]

theorem Predictor.lookup_empty (size : Nat) (pc : Addr) :
    (Predictor.empty size).lookup pc = .straight := by
  simp [lookup, empty]

/-! ## One cycle -/

theorem isBranch_decoded {d : Dec0}
    (plain : ∀ i, Instruction.decode d.word = .ok i → i.opcode.isBranch = false) :
    d.decoded.isBranch = false := by
  unfold Dec0.decoded
  split
  · next i hi => simp [Dec1.isBranch, plain i hi]
  · simp [Dec1.isBranch]

namespace Latches

/-- The record that stands so many stages behind Fetch1, as it came from there. -/
def record (l : Latches) : Nat → Option Fetch1
  | 0 => l.fetch1
  | 1 => l.dec0.map fun d => d.toFetch1
  | 2 => l.dec1.map fun d => d.toFetch1
  | 3 => l.exec0.map fun e => e.toFetch1
  | 4 => l.exec1.map fun e => e.toFetch1
  | _ => none

end Latches

namespace Core

variable {c : Core} {fetched loaded : Word}

/-- Where a record is from that stands `d` stages behind Fetch1 after a cycle. -/
inductive Brings (c : Core) : Nat → Fetch1 → Prop
  /-- It waits where it was. -/
  | held (stall : c.stall = true) {d : Nat} {f : Fetch1} (was : c.latches.record d = some f) :
      Brings c d f
  | fetched (stall : c.stall = false) : Brings c 0 ⟨c.latches.fetchPc, c.prediction⟩
  | moved (stall : c.stall = false) {d : Nat} {f : Fetch1} (was : c.latches.record d = some f) :
      Brings c (d + 1) f

theorem record_hold (c : Core) (fetched : Word) {d : Nat} {f : Fetch1}
    (h : (c.hold fetched).record d = some f) : c.latches.record d = some f := by
  rcases d with _ | _ | _ | _ | _ | d
  · exact h
  · exact h
  · exact h
  · rw [Latches.record, hold, Option.map_map] at h
    exact h
  · cases h
  · cases h

theorem record_squash (l : Latches) (pc : Addr) {d : Nat} {f : Fetch1}
    (h : (l.squash pc).record d = some f) : l.record d = some f := by
  rcases d with _ | _ | _ | _ | _ | d
  · cases h
  · cases h
  · exact h
  · exact h
  · exact h
  · cases h

theorem brings_advance (c : Core) (fetched : Word) {d : Nat} {f : Fetch1} (stall : c.stall = false)
    (h : (c.advance fetched).record d = some f) : c.Brings d f := by
  rcases d with _ | _ | _ | _ | _ | d
  · cases h
    exact .fetched stall
  · apply Brings.moved stall
    rw [Latches.record, advance, Option.map_map] at h
    simpa [Latches.record] using h
  · apply Brings.moved stall
    rw [Latches.record, advance, Option.map_map] at h
    rw [Latches.record, ← h]
    exact Option.map_congr fun d _ => by rw [Function.comp_apply, toDec0_decoded]
  · apply Brings.moved stall
    rw [Latches.record, advance, Option.map_map] at h
    exact h
  · apply Brings.moved stall
    rw [Latches.record, advance, Option.map_map] at h
    exact h
  · cases h

theorem brings_next (trap : c.trap = none) {d : Nat} {f : Fetch1}
    (h : (c.next fetched loaded).latches.record d = some f) : c.Brings d f := by
  have hc := cycled fetched loaded trap
  generalize (c.next fetched loaded).latches = l at hc h
  cases hc with
  | flush pc redirect => rcases d with _ | _ | _ | _ | _ | d <;> cases h
  | hold redirect stall => exact .held stall (record_hold c fetched h)
  | squash d' redirect stall squasher =>
    exact brings_advance c fetched stall (record_squash (c.advance fetched) d'.pc.next h)
  | advance redirect stall squasher => exact brings_advance c fetched stall h

theorem squashed_report (c : Core) (loaded : Word) :
    (c.report loaded).squashed = c.squasher.isSome := rfl

theorem squashed_of_no_branch {d : Dec0} (stall : c.stall = false)
    (hd : c.latches.dec0 = some d) (plain : d.decoded.isBranch = false) :
    (c.report loaded).squashed = d.expected.taken := by
  rw [squashed_report, squasher_eq stall, hd]
  cases ht : d.expected.taken <;> simp [Dec1.squashes, expected_decoded, plain, ht]

/-- Nothing is in Fetch1 after a cycle in which the front end was squashed or the pipeline
flushed. -/
theorem front_next (trap : c.trap = none) (stall : c.stall = false) :
    ((c.next fetched loaded).latches.fetch1 = none ↔
      (c.report loaded).squashed = true ∨ c.redirect.isSome = true) ∧
    ((c.report loaded).squashed = true → (c.next fetched loaded).latches.dec0 = none) := by
  have hc := cycled fetched loaded trap
  generalize (c.next fetched loaded).latches = l at hc
  rw [squashed_report]
  cases hc with
  | flush pc redirect => simp [redirect]
  | hold _ stalls => cases stall.symm.trans stalls
  | squash d redirect _ squasher => simp [squasher, Latches.squash]
  | advance redirect _ squasher => simp [squasher, redirect, advance]

theorem outcome_of_halts (h : (c.report loaded).halts = true) :
    (c.retired loaded).bind Retired.outcome = none := by
  simp only [Report.halts, Report.haltPc, report, retired] at h
  rcases he : c.latches.exec1 with _ | e
  · simp [retired, he]
  simp only [he, Option.map_some, retire] at h
  split at h
  · next halt =>
    have hlt := opcode_of_halt halt
    simp [retired, he, retire, Retired.outcome, hlt, Opcode.isBranch]
  · cases h

end Core

/-! ## Runs -/

namespace Setup

variable {s : Setup} {n : Nat}

/-- The branches that retired in the first `n` ticks, and the way each went. -/
def outcomes (s : Setup) (n : Nat) : List (Addr × Direction) :=
  (List.range n).filterMap fun k => (s.retired k).bind Retired.outcome

/-- What the last branch did that retired before tick `n` and shares the entry of `pc`. -/
def lastOutcome (s : Setup) (n : Nat) (pc : Addr) : Direction :=
  lastOn s.config.predictorSize (s.outcomes n) pc

def lookup (s : Setup) (n : Nat) (pc : Addr) : Direction := (s.board n).core.predictor.lookup pc

/-- Tick `n` is a cycle, and every record in flight leaves its stage. -/
def Moves (s : Setup) (n : Nat) : Prop :=
  s.cycle (n + 1) = s.cycle n + 1 ∧ (s.board n).core.stall = false

instance (s : Setup) (n : Nat) : Decidable (s.Moves n) :=
  inferInstanceAs (Decidable (_ ∧ _))

/-- The ticks before tick `n` that fetched, the last one first. -/
def fetches (s : Setup) : Nat → List Nat
  | 0 => []
  | n + 1 => if s.Moves n then n :: s.fetches n else s.fetches n

theorem outcomes_succ (s : Setup) (n : Nat) :
    s.outcomes (n + 1) = s.outcomes n ++ ((s.retired n).bind Retired.outcome).toList :=
  filterMap_range_succ ..

theorem predictor_succ (s : Setup) (n : Nat) :
    (s.board (n + 1)).core.predictor =
      ((s.retired n).bind Retired.outcome).elim (s.board n).core.predictor
        fun p => (s.board n).core.predictor.update p.1 p.2 := by
  cases s.turn n with
  | stay hb hr => rw [hb, retired, hr]; rfl
  | cycle goes hb hr =>
    have hp : (s.board (n + 1)).core.predictor =
        ((s.board n).report.retired.bind Retired.outcome).elim (s.board n).core.predictor
          fun p => (s.board n).core.predictor.update p.1 p.2 := by
      rw [hb]
      exact Core.predictor_next ..
    rcases hr with hr | ⟨hr, halts, _⟩
    · rw [hp, retired, hr]
    · have hn : (s.board n).report.retired.bind Retired.outcome = none :=
        Core.outcome_of_halts halts
      rw [hp, hn, retired, hr]
      rfl

theorem size_predictor (s : Setup) (n : Nat) :
    (s.board n).core.predictor.size = s.config.predictorSize := by
  induction n with
  | zero =>
    have hv : s.config.predictorSize ≠ 0 := by
      intro h
      have := s.valid
      simp [Config.fault?, h] at this
    have hs : (s.board 0).core.predictor.size = max s.config.predictorSize 1 :=
      Array.size_replicate
    omega
  | succ n ih =>
    rw [predictor_succ]
    rcases (s.retired n).bind Retired.outcome with _ | p
    · exact ih
    · exact (Predictor.size_update ..).trans ih

/-- The table holds what the last branches did. -/
theorem lookup_eq (s : Setup) (n : Nat) (pc : Addr) : s.lookup n pc = s.lastOutcome n pc := by
  induction n with
  | zero => exact Predictor.lookup_empty ..
  | succ n ih =>
    rw [lookup, predictor_succ, lastOutcome, outcomes_succ]
    rcases (s.retired n).bind Retired.outcome with _ | p
    · rw [Option.toList_none, List.append_nil]
      exact ih
    · rw [Option.elim_some, Predictor.lookup_update, size_predictor, Option.toList_some,
        lastOn_concat, ← lastOutcome, ← ih]
      rfl

/-- The record was fetched in tick `k`, with what the table said then. -/
structure FetchedIn (s : Setup) (f : Fetch1) (k : Nat) : Prop where
  moves : s.Moves k
  pc : f.pc = (s.board k).core.latches.fetchPc
  expected : f.expected = s.lookup k f.pc

/-- A record so many stages behind Fetch1 was fetched so many fetches ago. -/
theorem fetchedIn_of_record {d : Nat} {f : Fetch1}
    (h : (s.board n).core.latches.record d = some f) :
    ∃ k, (s.fetches n)[d]? = some k ∧ s.FetchedIn f k := by
  -- A tick that moves the record puts one more fetch before its own; any other leaves both.
  induction n generalizing d f with
  | zero => rcases d with _ | _ | _ | _ | _ | d <;> cases h
  | succ n ih =>
    cases s.turn n with
    | stay hb _ =>
      have hm : ¬ s.Moves n := by
        intro hm
        have := hm.1
        rw [cycle, hb, cycle] at this
        omega
      rw [fetches, if_neg hm]
      rw [hb] at h
      exact ih h
    | cycle goes hb _ =>
      have hc : s.cycle (n + 1) = s.cycle n + 1 := by
        rw [cycle, hb]
        exact Core.cycle_next ..
      rw [hb] at h
      cases Core.brings_next goes.no_trap h with
      | held stall was =>
        have hm : ¬ s.Moves n := fun hm => by cases stall.symm.trans hm.2
        rw [fetches, if_neg hm]
        exact ih was
      | fetched stall =>
        rw [fetches, if_pos ⟨hc, stall⟩]
        exact ⟨n, rfl, ⟨hc, stall⟩, rfl, rfl⟩
      | moved stall was =>
        obtain ⟨k, hk, hf⟩ := ih was
        rw [fetches, if_pos ⟨hc, stall⟩]
        exact ⟨k, hk, hf⟩

theorem outcomes_eq (s : Setup) (n : Nat) :
    s.outcomes n = (s.retirements n).filterMap fun p => p.2.outcome := by
  rw [outcomes, retirements, List.filterMap_filterMap]
  congr 1
  funext k
  rw [Option.bind_map]
  rfl

/-- What is known of predictions as tick `n` starts, and in that tick. -/
structure Foretold (s : Setup) (n : Nat) : Prop where
  lookup : ∀ pc, s.lookup n pc = s.lastOutcome n pc
  stays : (∀ x, s.retired n = some x → x.inst.opcode.isBranch = false) →
    (s.board (n + 1)).core.predictor = (s.board n).core.predictor
  /-- The branches that retired are those of the program's own path. -/
  path : s.Traced n → ∃ pc,
    Sequential.Runs s.code .reset (s.retirements n) ⟨pc, (s.board n).core.regs⟩ ∧
      s.outcomes n = (s.retirements n).filterMap fun p => p.2.outcome
  /-- A record has what the table said in the tick that fetched it. -/
  record : ∀ d f, (s.board n).core.latches.record d = some f →
    ∃ k, (s.fetches n)[d]? = some k ∧ s.FetchedIn f k
  /-- A branch flushes exactly if it does not go as the last one of its class went that
  retired before the branch was fetched. -/
  branch : ∀ x, s.retired n = some x → x.inst.opcode.isBranch = true →
    ∃ k flushed, (s.fetches n)[4]? = some k ∧ (s.board k).core.latches.fetchPc = x.pc ∧
      x.effect = .branch (x.inst.direction x.result x.a) flushed ∧
      (flushed = true ↔
        (x.inst.direction x.result x.a).taken ≠ (s.lastOutcome k x.pc).taken ∨
        (x.inst.direction x.result x.a).taken = true ∧
          (x.inst.direction x.result x.a).target ≠ (s.lastOutcome k x.pc).target)
  /-- What is no branch squashes the front end as it leaves Dec0 exactly if the last branch
  of its class, before it was fetched, was taken. -/
  plain : ∀ d, (s.board n).core.latches.dec0 = some d → s.Moves n →
    (∀ i, Instruction.decode d.word = .ok i → i.opcode.isBranch = false) →
    ∃ k, (s.fetches n)[1]? = some k ∧ (s.board k).core.latches.fetchPc = d.pc ∧
      ((s.board n).report.squashed = true ↔ (s.lastOutcome k d.pc).taken = true) ∧
      ((s.board (n + 1)).core.latches.fetch1 = none ↔
        (s.board n).report.squashed = true ∨ (s.board n).core.redirect.isSome = true) ∧
      ((s.board n).report.squashed = true → (s.board (n + 1)).core.latches.dec0 = none)

theorem flushed_of_branch {x : Retired} (h : s.retired n = some x)
    (branch : x.inst.opcode.isBranch = true) :
    ∃ f, (s.board n).core.latches.record 4 = some f ∧ f.pc = x.pc ∧
      x.effect = .branch (x.inst.direction x.result x.a)
        ((x.inst.direction x.result x.a).contradicts f.expected) := by
  obtain ⟨e, he, _, rfl⟩ := exec1_of_retired h
  refine ⟨e.toFetch1, by rw [Latches.record, he]; rfl, rfl, ?_⟩
  have hv := (s.board n).core.retires e (s.board n).dmem.out
  simp only [Core.retire] at branch ⊢
  generalize (s.board n).core.effect e (s.board n).dmem.out = eff at hv
  cases hv with
  | write alu => simp [Core.opcode_of_isAlu alu] at branch
  | load ld => simp [ld, Opcode.isBranch] at branch
  | store st => simp [st, Opcode.isBranch] at branch
  | copy dma => simp [dma, Opcode.isBranch] at branch
  | jump _ => rfl
  | halt hlt => simp [hlt, Opcode.isBranch] at branch

/-- The table says of each address what the last branch of its class did that retired, and
wrong paths never change it. Each record in flight has what the table said of its address
in the cycle that fetched it. So a branch flushes, and what is no branch squashes what was
fetched behind it, exactly if the last outcome before its fetch was the wrong one. -/
theorem predictions_are_the_latest_outcomes (s : Setup) (n : Nat) : s.Foretold n where
  lookup := s.lookup_eq n
  stays h := by
    rw [predictor_succ]
    rcases hx : s.retired n with _ | x
    · rfl
    · simp [Retired.outcome, h x hx]
  path traced := by
    obtain ⟨pc, hruns, _⟩ := runs_in_step traced
    exact ⟨pc, hruns, s.outcomes_eq n⟩
  record d f h := fetchedIn_of_record h
  branch x hx hb := by
    obtain ⟨f, hf, hpc, heff⟩ := flushed_of_branch hx hb
    obtain ⟨k, hk, hfetched⟩ := fetchedIn_of_record hf
    refine ⟨k, _, hk, hfetched.pc.symm.trans hpc, heff, ?_⟩
    rw [hfetched.expected, hpc, lookup_eq, Direction.contradicts, decide_eq_true_eq]
  plain d hd moves hplain := by
    have hr : (s.board n).core.latches.record 1 = some d.toFetch1 := by
      rw [Latches.record, hd]
      rfl
    obtain ⟨k, hk, hfetched⟩ := fetchedIn_of_record hr
    obtain ⟨hb, trap⟩ := board_of_cycle_succ moves.1
    refine ⟨k, hk, hfetched.pc.symm, ?_, ?_⟩
    · rw [Board.report, Core.squashed_of_no_branch moves.2 hd (isBranch_decoded hplain),
        hfetched.expected, lookup_eq]
    · rw [hb]
      exact Core.front_next trap moves.2

/-- A loop counts with the words that a load brings, and the table has a single entry. The
JLT waits for the load and then flushes, since no branch had retired when it was fetched.
From then on the load itself is expected to jump, and squashes what was fetched behind it. -/
theorem taken_branch_misleads_a_load :
    let s := small [0x00c10002, 0x11010000, 0x00940000, 0x20130001, 0x30000000]
    let jlt : Retired := ⟨3, 0x20130001, ⟨.jlt, 0, 2, 3, 1⟩, 1, 2, 1, .branch ⟨true, 1⟩ true⟩
    let ld : Dec0 := ⟨⟨1, ⟨true, 1⟩⟩, 0x11010000⟩
    (s.retired 9 = some jlt ∧ (s.fetches 9)[4]? = some 3 ∧ s.lastOutcome 3 3 ≠ ⟨true, 1⟩) ∧
      (s.board 12).core.latches.dec0 = some ld ∧ (s.fetches 12)[1]? = some 10 ∧
      s.lastOutcome 10 1 = ⟨true, 1⟩ ∧ (s.board 12).report.squashed = true ∧
      (s.board 13).core.latches.fetch1 = none := by
  intro s jlt ld
  have retired : s.retired 9 = some jlt := by decide +kernel
  have fetched : (s.fetches 9)[4]? = some 3 ∧ (s.fetches 12)[1]? = some 10 := by decide +kernel
  have dec0 : (s.board 12).core.latches.dec0 = some ld := by decide +kernel
  have moves : s.Moves 12 := by decide +kernel
  have last : s.lastOutcome 10 1 = ⟨true, 1⟩ := by decide +kernel
  have legal : Instruction.decode 0x11010000 = .ok ⟨.ld, 4, 0, 1, 0⟩ := by rfl
  clear_value s
  obtain ⟨k, flushed, hk, _, effect, flushes⟩ :=
    (predictions_are_the_latest_outcomes s 9).branch jlt retired rfl
  obtain rfl : k = 3 := Option.some.inj (hk.symm.trans fetched.1)
  obtain ⟨j, hj, _, squashes, front, _⟩ :=
    (predictions_are_the_latest_outcomes s 12).plain ld dec0 moves fun i hi => by
      cases legal.symm.trans hi
      rfl
  obtain rfl : j = 10 := Option.some.inj (hj.symm.trans fetched.2)
  have squashed := squashes.mpr (congrArg Direction.taken last)
  refine ⟨⟨retired, fetched.1, fun straight => ?_⟩, dec0, fetched.2, last, squashed,
    front.mpr (.inl squashed)⟩
  cases effect
  rcases flushes.mp rfl with taken | ⟨_, target⟩
  · exact taken (congrArg Direction.taken straight.symm)
  · exact target (congrArg Direction.target straight.symm)

end Setup

end SixStage
