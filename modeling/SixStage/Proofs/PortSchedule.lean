-- A copy under a schedule of the port. In each cycle the pipeline leaves the
-- port free or makes one use of it, and the engine waits. However that falls,
-- the engine reads and writes the same addresses in the same order. If nobody
-- else writes, what it has still to do to the memory never changes.
import SixStage.Proofs.CopyEngine

namespace SixStage.Dma

/-! ## The plain loop -/

/-- The loop with `w` in hand: it reads one word ahead of every write, `n` times, and
writes the last word. -/
def loopFrom (src dst : Addr) (w : Word) : Nat → Sram → Sram
  | 0, m => m.poke dst w
  | n + 1, m => loopFrom src.next dst.next (m.peek src) n (m.poke dst w)

/-- The copy of `len` words as a plain loop over the memory. -/
def copyLoop (src dst : Addr) : Nat → Sram → Sram
  | 0, m => m
  | n + 1, m => loopFrom src.next dst (m.peek src) n m

/-- What is left of the loop with `n` words to write, some of them in hand. -/
def restOfLoop (src dst : Addr) (n : Nat) (m : Sram) : List Word → Sram
  | [] => copyLoop src dst n m
  | [w] => loopFrom src dst w (n - 1) m
  | w :: v :: _ => loopFrom src dst.next v (n - 2) (m.poke dst w)

section Loop

variable {m m' : Sram}

theorem loopFrom_congr (h : m.words = m'.words) (src dst : Addr) (w : Word) (n : Nat) :
    (loopFrom src dst w n m).words = (loopFrom src dst w n m').words := by
  induction n generalizing src dst w m m' with
  | zero => exact Sram.poke_congr h dst w
  | succ n ih =>
    rw [loopFrom, loopFrom, Sram.peek_congr h]
    exact ih (Sram.poke_congr h dst w) _ _ _

theorem restOfLoop_congr (h : m.words = m'.words) (src dst : Addr) (n : Nat) (l : List Word) :
    (restOfLoop src dst n m l).words = (restOfLoop src dst n m' l).words := by
  match l with
  | [] =>
    cases n with
    | zero => exact h
    | succ n =>
      rw [restOfLoop, restOfLoop, copyLoop, copyLoop, Sram.peek_congr h]
      exact loopFrom_congr h ..
  | [w] => exact loopFrom_congr h ..
  | w :: v :: _ => exact loopFrom_congr (Sram.poke_congr h dst w) ..

/-- The next word read is the next word in hand. -/
theorem restOfLoop_read {src dst : Addr} {n : Nat} {l : List Word} (h : l.length + 1 ≤ n)
    (two : l.length + 1 ≤ 2) :
    restOfLoop src dst n m l = restOfLoop src.next dst n m (l ++ [m.peek src]) := by
  match l with
  | [] =>
    obtain ⟨n, rfl⟩ : ∃ k, n = k + 1 := ⟨n - 1, by simp at h; omega⟩
    rfl
  | [w] =>
    obtain ⟨n, rfl⟩ : ∃ k, n = k + 2 := ⟨n - 2, by simp at h; omega⟩
    rfl
  | w :: v :: _ => simp at two

/-- The oldest word in hand is the next one written, at once if nothing else is. -/
theorem restOfLoop_write {src dst : Addr} {n : Nat} {w : Word} {l : List Word}
    (ahead : l ≠ [] ∨ n = 0) (one : l.length ≤ 1) :
    restOfLoop src dst (n + 1) m (w :: l) = restOfLoop src dst.next n (m.poke dst w) l := by
  match l with
  | [] =>
    rcases ahead with h | rfl
    · exact absurd rfl h
    · rfl
  | [v] => rfl
  | v :: u :: _ => simp at one

end Loop

/-! ## Schedules -/

structure Bench where
  block : Block
  memory : Sram

namespace Bench

def turn (t : Bench) (use : Option Access) : Block × Activity :=
  t.block.step t.memory.out use.isSome t.block

def next (t : Bench) (use : Option Access) : Bench :=
  ⟨(t.turn use).1, t.memory.clock (use.toList ++ (t.turn use).2.accesses)⟩

def after (t : Bench) (schedule : Nat → Option Access) : Nat → Bench
  | 0 => t
  | n + 1 => (t.after schedule n).next (schedule n)

def activity (t : Bench) (schedule : Nat → Option Access) (n : Nat) : Activity :=
  ((t.after schedule n).turn (schedule n)).2

/-- The engine's reads in the first `n` cycles, each with the word that stands there as
its cycle starts. -/
def reads (t : Bench) (schedule : Nat → Option Access) (n : Nat) : List (Addr × Word) :=
  (List.range n).filterMap fun k =>
    (t.activity schedule k).read.map fun a => (a, (t.after schedule k).memory.peek a)

def writes (t : Bench) (schedule : Nat → Option Access) (n : Nat) : List (Addr × Word) :=
  (List.range n).filterMap fun k => (t.activity schedule k).write

variable {t : Bench} {use : Option Access} {schedule : Nat → Option Access} {n : Nat}

theorem idle_after (idle : t.memory.Idle) (n : Nat) : (t.after schedule n).memory.Idle := by
  cases n with
  | zero => exact idle
  | succ n => exact Sram.idle_clock _ _

theorem memory_next (idle : t.memory.Idle) :
    (t.next use).memory =
      match use, (t.turn use).2.read, (t.turn use).2.write with
      | some (.read a), _, _ => { t.memory with out := t.memory.peek a }
      | some (.write a w), _, _ => t.memory.poke a w
      | none, some a, _ => { t.memory with out := t.memory.peek a }
      | none, none, some (a, w) => t.memory.poke a w
      | none, none, none => t.memory := by
  rcases use with _ | use
  · rcases read_or_write t.block t.block t.memory.out false with hr | hw
    · rcases hw : (t.turn none).2.write with _ | ⟨a, w⟩
      · simp [next, Activity.accesses, show (t.turn none).2.read = none from hr, hw,
          Sram.clock_nil idle]
      · simp [next, Activity.accesses, show (t.turn none).2.read = none from hr, hw,
          Sram.clock_write idle]
    · rcases hr : (t.turn none).2.read with _ | a
      · simp [next, Activity.accesses, show (t.turn none).2.write = none from hw, hr,
          Sram.clock_nil idle]
      · simp [next, Activity.accesses, show (t.turn none).2.write = none from hw, hr,
          Sram.clock_read idle]
  · obtain ⟨hr, hw⟩ := activity_of_conflict t.block t.block t.memory.out
    cases use with
    | read a =>
      simp [next, turn, Activity.accesses, hr, hw, Sram.clock_read idle]
    | write a w =>
      simp [next, turn, Activity.accesses, hr, hw, Sram.clock_write idle]

theorem memory_of_read (idle : t.memory.Idle) {a : Addr} (read : (t.turn use).2.read = some a) :
    (t.next use).memory = { t.memory with out := t.memory.peek a } := by
  rw [memory_next idle, read]
  rcases use with _ | use
  · rfl
  · rw [turn, Option.isSome_some, (activity_of_conflict ..).1] at read
    cases read

theorem out_next (idle : t.memory.Idle) {a : Addr} (read : (t.turn use).2.read = some a) :
    (t.next use).memory.out = t.memory.peek a := by
  rw [memory_of_read idle read]

/-- The words that a cycle leaves. Of the pipeline and the engine only one writes. -/
theorem words_next (use : Option Access) (idle : t.memory.Idle) :
    (t.next use).memory.words =
      (t.memory.writeAll
        ((use.bind Access.written).toList ++ (t.turn use).2.write.toList)).words := by
  rw [memory_next idle]
  rcases use with _ | use
  · rcases hr : (t.turn none).2.read with _ | a
    · rcases (t.turn none).2.write with _ | p <;> rfl
    · rcases read_or_write t.block t.block t.memory.out false with h | h
      · exact absurd (hr.symm.trans h) nofun
      · rw [show (t.turn none).2.write = none from h]
        rfl
  · rw [turn, Option.isSome_some, (activity_of_conflict ..).2]
    cases use <;> rfl

/-- What the engine has still to do to the memory. -/
def rest (t : Bench) : Sram :=
  restOfLoop t.block.src t.block.dst t.block.remaining t.memory (t.block.held t.memory.out)

theorem rest_next (sound : t.block.Sound) (idle : t.memory.Idle)
    (unwritten : use.bind Access.written = none) : (t.next use).rest.words = t.rest.words := by
  have hw := words_next use idle
  rw [unwritten] at hw
  have ho : ∀ a, (t.turn use).2.read = some a → (t.next use).memory.out = t.memory.peek a :=
    fun a => out_next idle
  have hm : t.block.Moves t.memory.out (t.next use).memory.out (t.next use).block (t.turn use).2 :=
    Block.moves_step sound _ _ _
  unfold rest
  generalize (t.next use).block = b' at hm
  generalize (t.turn use).2 = act at hm hw ho
  generalize (t.next use).memory = m' at hm hw ho
  -- A cycle takes the next step of the loop, or none.
  cases hm with
  | keep read write sound' held src dst remaining busy =>
    rw [write] at hw
    rw [held, src, dst, remaining]
    exact restOfLoop_congr hw ..
  | read busy read write sound' held src dst remaining =>
    rw [write] at hw
    obtain ⟨h2, hr⟩ := Block.length_held_le sound' m'.out
    rw [held, List.length_append, List.length_singleton] at h2 hr
    rw [remaining] at hr
    rw [held, src, dst, remaining, ho _ read, restOfLoop_read hr h2]
    exact restOfLoop_congr hw ..
  | write w busy read write sound' held ahead src dst remaining =>
    rw [write] at hw
    have h2 := (Block.length_held_le sound t.memory.out).1
    rw [held, List.length_cons] at h2
    rw [held, ← remaining, restOfLoop_write ahead (Nat.le_of_succ_le_succ h2)]
    rcases hb : b'.busy with _ | _
    · obtain ⟨hh, hr⟩ := Block.held_of_free sound' hb m'.out
      rw [hh, hr]
      exact hw
    · rw [src hb, dst hb]
      exact restOfLoop_congr hw ..

/-- How far a copy has come after a cycle, whatever use of the port it was beside. -/
theorem progress_next {src dst : Addr} {len : Nat} {reads writes : List (Addr × Word)}
    (idle : t.memory.Idle) (h : Progress src dst len reads writes t.block t.memory.out) :
    Progress src dst len
      (reads ++ ((t.turn use).2.read.map fun a => (a, t.memory.peek a)).toList)
      (writes ++ (t.turn use).2.write.toList) (t.next use).block (t.next use).memory.out := by
  have hstep := progress_step h use.isSome (t.next use).memory.out
  have hread : ((t.turn use).2.read.map fun a => (a, t.memory.peek a)) =
      (t.turn use).2.read.map fun a => (a, (t.next use).memory.out) :=
    Option.map_congr fun a ha => by rw [out_next idle ha]
  rw [hread]
  exact hstep

theorem reads_succ (t : Bench) (schedule : Nat → Option Access) (n : Nat) :
    t.reads schedule (n + 1) = t.reads schedule n ++
      ((t.activity schedule n).read.map fun a =>
        (a, (t.after schedule n).memory.peek a)).toList :=
  filterMap_range_succ ..

theorem writes_succ (t : Bench) (schedule : Nat → Option Access) (n : Nat) :
    t.writes schedule (n + 1) =
      t.writes schedule n ++ (t.activity schedule n).write.toList :=
  filterMap_range_succ ..

theorem progress_after {src dst : Addr} {len : Nat} (idle : t.memory.Idle)
    (start : Progress src dst len [] [] t.block t.memory.out) (n : Nat) :
    Progress src dst len (t.reads schedule n) (t.writes schedule n) (t.after schedule n).block
      (t.after schedule n).memory.out := by
  induction n with
  | zero => exact start
  | succ n ih =>
    rw [reads_succ, writes_succ]
    exact progress_next (idle_after idle n) ih

theorem rest_after (idle : t.memory.Idle) (sound : ∀ k, (t.after schedule k).block.Sound)
    (unwritten : ∀ k < n, (schedule k).bind Access.written = none) :
    (t.after schedule n).rest.words = t.rest.words := by
  induction n with
  | zero => rfl
  | succ n ih =>
    rw [after, rest_next (sound n) (idle_after idle n) (unwritten n (Nat.lt_succ_self n))]
    exact ih fun k hk => unwritten k (Nat.lt_succ_of_lt hk)

theorem toGo_after (sound : ∀ k, (t.after schedule k).block.Sound) (n : Nat) :
    (t.after schedule n).block.toGo ≤
      t.block.toGo - (List.range n).countP fun k => (schedule k).isNone := by
  induction n with
  | zero => exact Nat.le_refl _
  | succ n ih =>
    have h : (t.after schedule (n + 1)).block.toGo ≤
        (t.after schedule n).block.toGo - (!(schedule n).isSome).toNat :=
      Block.toGo_step (sound n) _ _
    rw [List.range_succ, List.countP_append, List.countP_singleton]
    cases hs : schedule n <;> simp [hs] at h ⊢ <;> omega

end Bench

/-- A copy is the same under every schedule. The engine reads the source in order and
once each, and writes the target so, with the words it read; it reads one word before
every write but the last, and never two. When it is free, all of it has happened, and if the
pipeline never wrote, the memory is as the plain loop leaves it. It gets free if the
port is free often enough. -/
theorem copy_is_exact_under_every_schedule (b : Block) (t : Bench) (src dst len : Word)
    (free : b.busy = false) (rests : b.phase = .idle) (launched : t.block = b.launch src dst len b)
    (idle : t.memory.Idle) (schedule : Nat → Option Access) (n : Nat) :
    let count := len.toInt.toNat
    let reads := t.reads schedule n
    let writes := t.writes schedule n
    (reads.length ≤ count ∧ reads.map Prod.fst = addrs src.addr reads.length) ∧
    (writes.length ≤ count ∧ writes.map Prod.fst = addrs dst.addr writes.length) ∧
    writes.map Prod.snd <+: reads.map Prod.snd ∧
    (∀ p, (t.activity schedule n).write = some p →
      writes.length + 1 = count ∧ reads.length = count ∨ writes.length + 2 = reads.length) ∧
    (∀ a, (t.activity schedule n).read = some a → reads.length ≤ writes.length + 1) ∧
    ((t.after schedule n).block.busy = false → reads.length = count ∧ writes.length = count ∧
      ((∀ k < n, (schedule k).bind Access.written = none) →
        (t.after schedule n).memory.words = (copyLoop src.addr dst.addr count t.memory).words)) ∧
    (2 * count + 2 ≤ (List.range n).countP (fun k => (schedule k).isNone) →
      (t.after schedule n).block.busy = false) := by
  intro count reads writes
  have ht : t.block = _ := launched.trans (Block.launch_of_free free rests src dst len)
  have start : Progress src.addr dst.addr count [] [] t.block t.memory.out := by
    rw [launched]
    exact progress_launch free rests src dst len _
  have hp : ∀ k, Progress src.addr dst.addr count (t.reads schedule k) (t.writes schedule k)
      (t.after schedule k).block (t.after schedule k).memory.out :=
    fun k => Bench.progress_after idle start k
  have h : Progress src.addr dst.addr count reads writes _ _ := hp n
  refine ⟨⟨(length_le h).1, h.read_addrs⟩, ⟨(length_le h).2, h.write_addrs⟩, ?_,
    fun p hw => length_of_write h hw, fun a ha => length_of_read h ha, ?_, ?_⟩
  · rw [h.words]
    exact List.prefix_append _ _
  · intro done
    obtain ⟨hr, hw, _⟩ := length_of_free h done
    refine ⟨hr, hw, fun unwritten => ?_⟩
    obtain ⟨hh, h0⟩ := Block.held_of_free h.sound done (t.after schedule n).memory.out
    have hrest := Bench.rest_after idle (fun k => (hp k).sound) unwritten
    rw [Bench.rest, hh, h0, Bench.rest, ht] at hrest
    exact hrest
  · intro often
    have hgo := Bench.toGo_after (fun k => (hp k).sound) n
    have hstart : t.block.toGo = 2 * count + 2 := by
      rw [ht]
      rfl
    exact Block.free_of_toGo h.sound (by omega)

/-- Three words move up by one place while the pipeline reads in cycles 2 and 4: the words
that are overwritten have been read before. -/
theorem overlapping_copy_is_exact :
    let schedule : Nat → Option Access := fun k => if k = 2 ∨ k = 4 then some (.read 3) else none
    let t : Bench := ⟨Block.reset.launch 0 1 3 .reset, ⟨#[5, 6, 7, 8], by decide, none, none, 0⟩⟩
    (t.after schedule 12).block.busy = false ∧ (t.reads schedule 12).length = 3 ∧
      (t.writes schedule 12).map Prod.fst = [1, 2, 3] ∧
      (t.after schedule 12).memory.words = (copyLoop 0 1 3 t.memory).words ∧
      (t.after schedule 12).memory.words = #[5, 5, 6, 7] := by
  intro schedule t
  obtain ⟨_, ⟨_, hw⟩, _, _, _, hdone, hfree⟩ :=
    copy_is_exact_under_every_schedule .reset t 0 1 3 rfl rfl rfl ⟨rfl, rfl⟩ schedule 12
  have free : (t.after schedule 12).block.busy = false := hfree (by decide +kernel)
  have unwritten : ∀ k < 12, (schedule k).bind Access.written = none := by decide
  obtain ⟨hr, hl, hm⟩ := hdone free
  refine ⟨free, hr, ?_, hm unwritten, (hm unwritten).trans (by decide +kernel)⟩
  rw [hw, hl]
  decide +kernel

end SixStage.Dma
