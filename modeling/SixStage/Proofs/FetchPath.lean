-- The instructions in flight. From Exec1 back to Fetch1 each stands where the
-- one before it leads, and fetching goes on where the last one leads; each
-- holds the word of its address, decoded once it has passed Dec0. Stalls,
-- squashes and flushes keep it so.
import SixStage.Proofs.PipelineStep
import SixStage.Proofs.Run

namespace SixStage

/-! ## Paths -/

/-- The pairs are an address each and the one behind it; they lead from `start` to
`stop`. -/
def Linked : Addr → List (Addr × Addr) → Addr → Prop
  | start, [], stop => start = stop
  | start, (pc, behind) :: l, stop => start = pc ∧ Linked behind l stop

theorem linked_append {start stop : Addr} {l m : List (Addr × Addr)} :
    Linked start (l ++ m) stop ↔ ∃ mid, Linked start l mid ∧ Linked mid m stop := by
  induction l generalizing start with
  | nil => simp [Linked]
  | cons p l ih => simp [Linked, ih, and_assoc]

/-- Where the predictor lets fetching go on. -/
def Fetch1.hop (f : Fetch1) : Addr × Addr := (f.pc, f.expected.nextPc f.pc)

/-- Once it is decoded, what is no branch leads to the next address. -/
def Dec1.hop (d : Dec1) : Addr × Addr :=
  (d.pc, if d.isBranch then d.expected.nextPc d.pc else d.pc.next)

theorem toDec0_decoded (d : Dec0) : d.decoded.toDec0 = d := by
  unfold Dec0.decoded
  split <;> rfl

/-- If nothing is squashed behind a record, decoding it does not change where it
leads. -/
theorem hop_decoded {d : Dec0} (h : d.decoded.squashes = false) :
    d.decoded.hop = d.toFetch1.hop := by
  have hd := toDec0_decoded d
  rw [Dec1.squashes, hd] at h
  rw [Dec1.hop, hd, Fetch1.hop]
  cases ht : d.expected.taken
  · simp [Direction.nextPc, ht]
  · simp [ht] at h
    simp [h]

theorem hop_of_squashes {d : Dec1} (h : d.squashes = true) : d.hop = (d.pc, d.pc.next) := by
  simp only [Dec1.squashes, Bool.and_eq_true, Bool.not_eq_true'] at h
  simp [Dec1.hop, h.2]

namespace Latches

def decodedPath (l : Latches) : List (Addr × Addr) :=
  (l.exec0.map fun e => e.hop).toList ++ (l.dec1.map Dec1.hop).toList

/-- The path of the records behind Exec1. -/
def rest (l : Latches) : List (Addr × Addr) :=
  l.decodedPath ++ ((l.dec0.map fun d => d.toFetch1.hop).toList ++
    (l.fetch1.map Fetch1.hop).toList)

def path (l : Latches) : List (Addr × Addr) := (l.exec1.map fun e => e.hop).toList ++ l.rest

end Latches

namespace Core

variable {c : Core} {fetched loaded : Word} {pc : Addr}

/-- The address of the oldest instruction after a cycle, if it was `pc` before. -/
def oldest (c : Core) (pc : Addr) : Addr :=
  c.redirect.getD (c.latches.exec1.elim pc fun e => e.hop.2)

theorem linked_rest (h : Linked pc c.latches.path c.latches.fetchPc)
    (redirect : c.redirect = none) :
    Linked (c.oldest pc) c.latches.rest c.latches.fetchPc := by
  rw [oldest, redirect]
  rcases he : c.latches.exec1 with _ | e
  · simpa [Latches.path, he] using h
  · simp only [Latches.path, he, Option.map_some, Option.toList_some, List.singleton_append] at h
    exact h.2

theorem path_hold (c : Core) (fetched : Word) : (c.hold fetched).path = c.latches.rest := by
  simp only [Latches.path, Latches.rest, Latches.decodedPath, hold, Option.map_none,
    Option.toList_none, List.nil_append, Option.map_map]
  rfl

theorem path_advance (stall : c.stall = false) (squasher : c.squasher = none) :
    (c.advance fetched).path =
      c.latches.rest ++ [(c.latches.fetchPc, c.prediction.nextPc c.latches.fetchPc)] := by
  have hd : c.latches.dec0.map (Dec1.hop ∘ Dec0.decoded) =
      c.latches.dec0.map fun d => d.toFetch1.hop :=
    Option.map_congr fun d hd => hop_decoded (not_squashes_of_squasher stall squasher hd)
  simp only [Latches.path, Latches.rest, Latches.decodedPath, advance, Option.map_map, hd,
    List.append_assoc]
  rfl

theorem path_squash {d : Dec0} (hd : c.latches.dec0 = some d) (hq : d.decoded.squashes = true)
    (pc : Addr) :
    ((c.advance fetched).squash pc).path = c.latches.decodedPath ++ [(d.pc, d.pc.next)] := by
  have hh : d.decoded.hop = (d.pc, d.pc.next) := by rw [hop_of_squashes hq, toDec0_decoded]
  simp only [Latches.path, Latches.rest, Latches.decodedPath, Latches.squash, advance,
    Option.map_map, hd, Option.map_some, hh]
  simp
  rfl

theorem linked_next (trap : c.trap = none) (h : Linked pc c.latches.path c.latches.fetchPc) :
    Linked (c.oldest pc) (c.next fetched loaded).latches.path
      (c.next fetched loaded).latches.fetchPc := by
  have hc := cycled fetched loaded trap
  generalize (c.next fetched loaded).latches = l at hc
  cases hc with
  | flush pc' redirect =>
    rw [oldest, redirect]
    rfl
  | hold redirect stall =>
    have h := linked_rest h redirect
    rw [← path_hold c fetched] at h
    exact h
  | squash d redirect stall squasher =>
    -- The path is cut behind the record in Dec0 and goes on at the next address.
    obtain ⟨hd, hq⟩ := squashes_of_squasher stall squasher
    have h := linked_rest h redirect
    rw [Latches.rest, linked_append] at h
    obtain ⟨mid, h01, h2⟩ := h
    have hmid : mid = d.pc := by
      rw [hd] at h2
      exact h2.1
    have hl : Linked (c.oldest pc) ((c.advance fetched).squash d.pc.next).path d.pc.next := by
      rw [path_squash hd hq, linked_append]
      exact ⟨mid, h01, hmid, rfl⟩
    exact hl
  | advance redirect stall squasher =>
    have hl : Linked (c.oldest pc) (c.advance fetched).path
        (c.prediction.nextPc c.latches.fetchPc) := by
      rw [path_advance stall squasher, linked_append]
      exact ⟨_, linked_rest h redirect, rfl, rfl⟩
    exact hl

end Core

/-! ## Words -/

/-- The record is the decoding of the word at its address. -/
structure Dec1.Genuine (code : Addr → Word) (d : Dec1) : Prop where
  word : d.word = code d.pc
  decoded : d.toDec0.decoded = d

/-- Every record holds the word at its address, or waits for it in the output register. A
word is saved only for Fetch1. -/
structure Board.Faithful (code : Addr → Word) (b : Board) : Prop where
  imem : ∀ a, b.imem.peek a = code a
  fetch1 : ∀ f, b.core.latches.fetch1 = some f → b.imem.out = code f.pc
  saved : ∀ w, b.core.latches.saved = some w →
    w = b.imem.out ∧ b.core.latches.fetch1.isSome
  dec0 : ∀ d, b.core.latches.dec0 = some d → d.word = code d.pc
  dec1 : ∀ d, b.core.latches.dec1 = some d → d.Genuine code
  exec0 : ∀ e, b.core.latches.exec0 = some e → e.Genuine code
  exec1 : ∀ e, b.core.latches.exec1 = some e → e.Genuine code

namespace Board

variable {b : Board} {code : Addr → Word}

theorem imem_next_of_stall (idle : b.imem.Idle) (stall : b.core.stall = true) :
    b.next.imem = b.imem := by
  simp [next, commit, Core.fetchAccesses, stall, Sram.clock_nil idle]

theorem imem_next_of_no_stall (idle : b.imem.Idle) (stall : b.core.stall = false) :
    b.next.imem = { b.imem with out := b.imem.peek b.core.latches.fetchPc } := by
  simp [next, commit, Core.fetchAccesses, stall, Sram.clock_read idle]

theorem peek_imem_next (idle : b.imem.Idle) (a : Addr) : b.next.imem.peek a = b.imem.peek a := by
  cases hs : b.core.stall
  · rw [imem_next_of_no_stall idle hs]
    rfl
  · rw [imem_next_of_stall idle hs]

theorem genuine_decoded {d : Dec0} (h : d.word = code d.pc) : d.decoded.Genuine code := by
  constructor
  · rw [toDec0_decoded]
    exact h
  · rw [toDec0_decoded]

theorem word_of_faithful {f : Fetch1} (h : b.Faithful code)
    (hf : b.core.latches.fetch1 = some f) :
    b.core.latches.saved.getD b.imem.out = code f.pc := by
  rcases hs : b.core.latches.saved with _ | w
  · exact h.fetch1 f hf
  · rw [Option.getD_some, (h.saved w hs).1]
    exact h.fetch1 f hf

theorem genuine_readOperands {e : Exec0} (h : b.Faithful code)
    (he : b.core.latches.dec1.map b.core.readOperands = some e) : e.Genuine code := by
  obtain ⟨d, hd, rfl⟩ := Option.map_eq_some_iff.mp he
  exact h.dec1 d hd

theorem genuine_execute {e : Exec1} (h : b.Faithful code)
    (he : b.core.latches.exec0.map b.core.execute = some e) : e.Genuine code := by
  obtain ⟨e0, he0, rfl⟩ := Option.map_eq_some_iff.mp he
  exact h.exec0 e0 he0

theorem faithful_next (idle : b.imem.Idle) (trap : b.core.trap = none) (h : b.Faithful code) :
    b.next.Faithful code := by
  have himem : ∀ a, b.next.imem.peek a = code a := fun a => by
    rw [peek_imem_next idle, h.imem]
  have hc := Core.cycled b.imem.out b.dmem.out trap
  generalize hl : (b.core.next b.imem.out b.dmem.out).latches = l at hc
  have hl : b.next.core.latches = l := hl
  cases hc with
  | flush pc redirect =>
    constructor
    · exact himem
    all_goals simp [hl]
  | hold redirect stall =>
    constructor
    · exact himem
    all_goals simp only [hl, imem_next_of_stall idle stall, Core.hold]
    · exact h.fetch1
    · intro w hw
      split at hw
      · next hf =>
        refine ⟨?_, hf⟩
        rcases hs : b.core.latches.saved with _ | v
        · simpa [hs] using hw.symm
        · rw [hs, Option.some_or, Option.some.injEq] at hw
          rw [← hw]
          exact (h.saved v hs).1
      · exact h.saved w hw
    · exact h.dec0
    · exact h.dec1
    · intro e he
      obtain ⟨e0, he0, rfl⟩ := Option.map_eq_some_iff.mp he
      exact h.exec0 e0 he0
    · simp
  | squash d redirect stall squasher =>
    obtain ⟨hd, _⟩ := Core.squashes_of_squasher stall squasher
    constructor
    · exact himem
    all_goals simp only [hl, Core.advance, Latches.squash]
    · simp
    · simp
    · simp
    · intro d' hd'
      obtain ⟨d0, hd0, rfl⟩ := Option.map_eq_some_iff.mp hd'
      exact genuine_decoded (h.dec0 d0 hd0)
    · exact fun e he => genuine_readOperands h he
    · exact fun e he => genuine_execute h he
  | advance redirect stall squasher =>
    constructor
    · exact himem
    all_goals simp only [hl, imem_next_of_no_stall idle stall, Core.advance]
    · intro f hf
      cases hf
      exact h.imem _
    · intro w hw
      split at hw
      · cases hw
      · next hf => exact absurd (h.saved w hw).2 hf
    · intro d hd
      obtain ⟨f, hf, rfl⟩ := Option.map_eq_some_iff.mp hd
      exact word_of_faithful h hf
    · intro d' hd'
      obtain ⟨d0, hd0, rfl⟩ := Option.map_eq_some_iff.mp hd'
      exact genuine_decoded (h.dec0 d0 hd0)
    · exact fun e he => genuine_readOperands h he
    · exact fun e he => genuine_execute h he

end Board

/-! ## Runs -/

namespace Latches

/-- The records from Dec1 on, the oldest first. -/
def decoded (l : Latches) : List Dec1 :=
  (l.exec1.map fun e => e.toDec1).toList ++ (l.exec0.map fun e => e.toDec1).toList ++
    l.dec1.toList

end Latches

theorem decode_of_genuine {d : Dec1} {code : Addr → Word} (h : d.Genuine code) :
    Instruction.decode d.word = .ok d.inst ∧ d.trap = none ∨
      ∃ c, Instruction.decode d.word = .error c ∧ d.trap = some ⟨d.pc, c, d.word⟩ := by
  rw [← h.decoded]
  simp only [toDec0_decoded]
  rcases hd : Instruction.decode d.word with c | i
  · exact .inr ⟨c, rfl, by simp [Dec0.decoded, hd]⟩
  · exact .inl ⟨by simp [Dec0.decoded, hd], by simp [Dec0.decoded, hd]⟩

namespace Board

variable {b : Board} {code : Addr → Word}

theorem genuine_of_mem_decoded (h : b.Faithful code) {d : Dec1}
    (hd : d ∈ b.core.latches.decoded) : d.Genuine code := by
  simp only [Latches.decoded, List.mem_append, Option.mem_toList, Option.map_eq_some_iff] at hd
  rcases hd with (⟨e, he, rfl⟩ | ⟨e, he, rfl⟩) | hd
  · exact h.exec1 e he
  · exact h.exec0 e he
  · exact h.dec1 d hd

end Board

namespace Setup

theorem faithful_board (s : Setup) (n : Nat) : (s.board n).Faithful s.code := by
  apply s.holds_board
  · constructor
    · exact fun _ => rfl
    all_goals exact fun _ h => by cases h
  · intro n goes h
    exact Board.faithful_next (s.idle_board n).imem goes.no_trap h

theorem linked_board (s : Setup) (n : Nat) :
    ∃ start, Linked start (s.board n).core.latches.path (s.board n).core.latches.fetchPc := by
  apply s.holds_board (P := fun b => ∃ pc, Linked pc b.core.latches.path b.core.latches.fetchPc)
  · exact ⟨0, rfl⟩
  · rintro n goes ⟨pc, h⟩
    exact ⟨_, Core.linked_next goes.no_trap h⟩

/-- After any number of ticks the records in flight form one path: from Exec1 back to Fetch1 each
stands where the one before it leads, and fetching goes on where the last one leads. From Dec0
on they hold the words of the program at their addresses, and from Dec1 on also the instructions
or the faults that these words are. The word of Fetch1 is in the output register of the
instruction memory, and a saved word is that word. -/
theorem records_in_flight_form_one_path (s : Setup) (n : Nat) :
    let b := s.board n
    let l := b.core.latches
    (∃ start, Linked start l.path l.fetchPc) ∧
    (∀ a, b.imem.peek a = s.code a) ∧
    (∀ d, l.dec0 = some d → d.word = s.code d.pc) ∧
    (∀ d ∈ l.decoded, d.word = s.code d.pc ∧
      (Instruction.decode d.word = .ok d.inst ∧ d.trap = none ∨
        ∃ c, Instruction.decode d.word = .error c ∧ d.trap = some ⟨d.pc, c, d.word⟩)) ∧
    (∀ f, l.fetch1 = some f → b.imem.out = s.code f.pc) ∧
    ∀ w, l.saved = some w → l.fetch1.isSome ∧ w = b.imem.out := by
  intro b l
  have h := s.faithful_board n
  refine ⟨s.linked_board n, h.imem, h.dec0, fun d hd => ?_, h.fetch1, fun w hw => ?_⟩
  · have genuine := Board.genuine_of_mem_decoded h hd
    exact ⟨genuine.word, decode_of_genuine genuine⟩
  · exact (h.saved w hw).symm

/-- In tick 5 an addition waits for a load, with an illegal word in Dec1. In tick 6 the word that
came for Fetch1 in the meantime is saved, and the records in flight stand side by side. -/
theorem saved_word_is_on_the_path :
    let s := small [0x10810007, 0x00d10001, 0x1f000000, 0x12190002, 0x28080001]
    let l := (s.board 6).core.latches
    (∃ start, Linked start l.path l.fetchPc) ∧ l.path = [(1, 2), (2, 3), (3, 4), (4, 5)] ∧
      (∃ d ∈ l.decoded, d.trap = some ⟨2, 15, 0x1f000000⟩ ∧ d.word = s.code d.pc) ∧
      l.saved = some 0x28080001 ∧ 0x28080001 = s.code 4 := by
  intro s l
  obtain ⟨path, _, _, decoded, fetched, saved⟩ := records_in_flight_form_one_path s 6
  have illegal : ∃ d ∈ l.decoded, d.trap = some ⟨2, 15, 0x1f000000⟩ := by decide +kernel
  have waits : l.saved = some 0x28080001 := by decide +kernel
  have word : (s.board 6).imem.out = s.code 4 := fetched ⟨4, .straight⟩ (by decide +kernel)
  obtain ⟨d, hd, trap⟩ := illegal
  exact ⟨path, by decide +kernel, ⟨d, hd, trap, (decoded d hd).1⟩, waits,
    (saved _ waits).2.trans word⟩

end Setup

end SixStage
