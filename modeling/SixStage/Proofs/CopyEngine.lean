-- The copy engine, beside a pipeline that may take the port in any cycle.
-- Words go through it in order: what it has read is what it has written and
-- what it holds. So it reads the source and writes the target once each, and
-- leaves what the plain loop leaves if nobody else writes.
import SixStage.Dma
import SixStage.Proofs.MemoryCycles

namespace SixStage.Dma

/-! ## What the port is used for -/

theorem activity_of_conflict (b next : Block) (out : Word) :
    (b.step out true next).2.read = none ∧ (b.step out true next).2.write = none := by
  unfold Block.step
  cases b.phase <;> simp [Activity.stall, Activity.quiet]
  split
  · split <;> exact ⟨rfl, rfl⟩
  · exact ⟨rfl, rfl⟩

theorem activity_step (b next next' : Block) (out : Word) (conflict : Bool) :
    (b.step out conflict next).2 = (b.step out conflict next').2 := by
  unfold Block.step
  cases b.phase <;> simp only
  all_goals repeat' split
  all_goals rfl

theorem read_or_write (b next : Block) (out : Word) (conflict : Bool) :
    (b.step out conflict next).2.read = none ∨ (b.step out conflict next).2.write = none := by
  cases conflict with
  | true => exact .inl (activity_of_conflict b next out).1
  | false =>
    unfold Block.step
    cases b.phase <;> simp [Activity.quiet, Activity.reading, Activity.writing]
    split
    · split <;> exact .inl rfl
    · exact .inl rfl

/-! ## The block -/

namespace Block

/-- What the fields have to do with the phase. -/
def Sound (b : Block) : Prop :=
  match b.phase with
  | .idle => b.busy = false → b.remaining = 0
  | .readFirst => b.busy = true ∧ 1 ≤ b.remaining
  | .doRead => b.busy = true ∧ 2 ≤ b.remaining
  | .doWrite => b.busy = true ∧ 2 ≤ b.remaining ∧ b.pending = true
  | .writeStalled => b.busy = true ∧ 2 ≤ b.remaining ∧ b.pending = false
  | .writeLast => b.busy = true ∧ b.remaining = 1
  | .single => b.busy = true ∧ b.remaining = 1

/-- The words that have been read and not written, the oldest first. `out` is the output
register of the memory. -/
def held (b : Block) (out : Word) : List Word :=
  match b.phase with
  | .idle | .readFirst => []
  | .doRead => [if b.pending then out else b.reg]
  | .doWrite => [b.reg, out]
  | .writeStalled => [b.reg, b.shadow]
  | .writeLast => [b.reg]
  | .single => [out]

/-- What one cycle of the engine comes to. `out` is the output register as the cycle
starts, and `out'` as it ends. -/
inductive Moves (b : Block) (out out' : Word) : Block → Activity → Prop
  /-- It changes its phase at most. -/
  | keep (b' : Block) (act : Activity) (read : act.read = none) (write : act.write = none)
      (sound : b'.Sound) (held : b'.held out' = b.held out) (src : b'.src = b.src)
      (dst : b'.dst = b.dst) (remaining : b'.remaining = b.remaining)
      (busy : b'.busy = true → b.busy = true) : Moves b out out' b' act
  /-- It reads the next word. -/
  | read (b' : Block) (act : Activity) (busy : b.busy = true) (read : act.read = some b.src)
      (write : act.write = none) (sound : b'.Sound) (held : b'.held out' = b.held out ++ [out'])
      (src : b'.src = b.src.next) (dst : b'.dst = b.dst) (remaining : b'.remaining = b.remaining) :
      Moves b out out' b' act
  /-- It writes the oldest word that it holds. -/
  | write (b' : Block) (act : Activity) (w : Word) (busy : b.busy = true)
      (read : act.read = none) (write : act.write = some (b.dst, w)) (sound : b'.Sound)
      (held : b.held out = w :: b'.held out') (ahead : b'.held out' ≠ [] ∨ b'.remaining = 0)
      (src : b'.busy = true → b'.src = b.src) (dst : b'.busy = true → b'.dst = b.dst.next)
      (remaining : b'.remaining + 1 = b.remaining) : Moves b out out' b' act

theorem sound_afterWrite (b b' : Block) (busy : b'.busy = true) (two : 2 ≤ b.remaining)
    (remaining : b'.remaining = b.remaining - 1) (pending : b'.pending = false)
    (phase : b'.phase = b.afterWrite) (out : Word) : b'.Sound ∧ b'.held out = [b'.reg] := by
  unfold afterWrite at phase
  split at phase
  · simp only [Sound, held, phase]
    exact ⟨⟨busy, by omega⟩, trivial⟩
  · simp only [Sound, held, phase, pending]
    exact ⟨⟨busy, by omega⟩, rfl⟩

theorem moves_step {b : Block} (h : b.Sound) (out out' : Word) (conflict : Bool) :
    Moves b out out' (b.step out conflict b).1 (b.step out conflict b).2 := by
  obtain ⟨busy, src, dst, remaining, reg, shadow, pending, phase⟩ := b
  cases phase with
  | idle =>
    simp only [step]
    split
    · next hb =>
      split
      · next h0 => exact .keep _ _ rfl rfl (fun _ => h0) rfl rfl rfl rfl nofun
      · next h0 => exact .keep _ _ rfl rfl ⟨hb, Nat.pos_of_ne_zero h0⟩ rfl rfl rfl rfl id
    · exact .keep _ _ rfl rfl h rfl rfl rfl rfl id
  | readFirst =>
    obtain ⟨hb, hr⟩ := h
    simp only at hb hr
    simp only [step]
    split
    · exact .keep _ _ rfl rfl ⟨hb, hr⟩ rfl rfl rfl rfl id
    · split
      · next h1 => exact .read _ _ hb rfl rfl ⟨hb, h1⟩ rfl rfl rfl rfl
      · next h1 =>
        have h2 : 2 ≤ remaining := by omega
        exact .read _ _ hb rfl rfl ⟨hb, h2⟩ rfl rfl rfl rfl
  | doRead =>
    simp only [step]
    split
    · exact .keep _ _ rfl rfl h rfl rfl rfl rfl id
    · exact .read _ _ h.1 rfl rfl ⟨h.1, h.2, rfl⟩ rfl rfl rfl rfl
  | doWrite =>
    obtain ⟨hb, hr, hp⟩ := h
    simp only at hb hr hp
    subst hp
    simp only [step]
    split
    · exact .keep _ _ rfl rfl ⟨hb, hr, rfl⟩ rfl rfl rfl rfl id
    · obtain ⟨hs, hh⟩ := sound_afterWrite
        ⟨busy, src, dst, remaining, reg, shadow, true, .doWrite⟩
        ⟨busy, src, dst.next, remaining - 1, out, shadow, false, _⟩ hb hr rfl rfl rfl out'
      exact .write _ _ reg hb rfl rfl hs (congrArg (reg :: ·) hh.symm)
        (.inl fun h => nomatch hh.symm.trans h) (fun _ => rfl) (fun _ => rfl)
        (Nat.sub_add_cancel (Nat.le_of_lt hr))
  | writeStalled =>
    obtain ⟨hb, hr, hp⟩ := h
    simp only at hb hr hp
    subst hp
    simp only [step]
    split
    · exact .keep _ _ rfl rfl ⟨hb, hr, rfl⟩ rfl rfl rfl rfl id
    · obtain ⟨hs, hh⟩ := sound_afterWrite
        ⟨busy, src, dst, remaining, reg, shadow, false, .writeStalled⟩
        ⟨busy, src, dst.next, remaining - 1, shadow, shadow, false, _⟩ hb hr rfl rfl rfl out'
      exact .write _ _ reg hb rfl rfl hs (congrArg (reg :: ·) hh.symm)
        (.inl fun h => nomatch hh.symm.trans h) (fun _ => rfl) (fun _ => rfl)
        (Nat.sub_add_cancel (Nat.le_of_lt hr))
  | writeLast =>
    obtain ⟨hb, hr⟩ := h
    simp only [step]
    split
    · exact .keep _ _ rfl rfl ⟨hb, hr⟩ rfl rfl rfl rfl id
    · exact .write _ _ reg hb rfl rfl (fun _ => rfl) rfl (.inr rfl) nofun nofun hr.symm
  | single => exact .keep _ _ rfl rfl h rfl rfl rfl rfl id

theorem sound_step {b : Block} (h : b.Sound) (out : Word) (conflict : Bool) :
    (b.step out conflict b).1.Sound := by
  cases moves_step h out out conflict <;> assumption

/-- The engine never holds more words than it has still to write, and two at most. -/
theorem length_held_le {b : Block} (h : b.Sound) (out : Word) :
    (b.held out).length ≤ 2 ∧ (b.held out).length ≤ b.remaining := by
  unfold Sound at h
  unfold held
  cases hp : b.phase <;> simp [hp] at h ⊢ <;> omega

theorem held_of_free {b : Block} (h : b.Sound) (free : b.busy = false) (out : Word) :
    b.held out = [] ∧ b.remaining = 0 := by
  unfold Sound at h
  unfold held
  cases hp : b.phase <;> simp_all

/-- The cycles with a free port that the engine needs at most. -/
def toGo (b : Block) : Nat :=
  match b.phase with
  | .idle => if b.busy then 2 * b.remaining + 2 else 0
  | .readFirst => 2 * b.remaining + 1
  | .doRead => 2 * b.remaining - 1
  | .doWrite | .writeStalled => 2 * b.remaining - 2
  | .writeLast => 1
  | .single => 2

theorem toGo_afterWrite {b b' : Block} (two : 2 ≤ b.remaining)
    (remaining : b'.remaining = b.remaining - 1) (phase : b'.phase = b.afterWrite) :
    b'.toGo ≤ 2 * b.remaining - 2 - 1 := by
  unfold afterWrite at phase
  split at phase
  · simp only [toGo, phase]
    omega
  · simp only [toGo, phase, remaining]
    omega

/-- A cycle with a free port brings the end nearer, and no cycle puts it off. -/
theorem toGo_step {b : Block} (h : b.Sound) (out : Word) (conflict : Bool) :
    (b.step out conflict b).1.toGo ≤ b.toGo - (!conflict).toNat := by
  obtain ⟨busy, src, dst, remaining, reg, shadow, pending, phase⟩ := b
  cases phase with
  | idle =>
    simp only [step]
    cases busy <;> cases conflict <;> cases remaining <;> simp [toGo]
  | readFirst =>
    cases conflict
    · by_cases h1 : remaining = 1 <;> simp [step, toGo, issueRead, h1]
    · simp [step, toGo]
  | doRead =>
    have hr : 2 ≤ remaining := h.2
    cases conflict
    · simp [step, toGo, issueRead, capture]
      omega
    · simp [step, toGo, capture]
  | doWrite =>
    cases conflict
    · exact toGo_afterWrite h.2.1 rfl rfl
    · simp [step, toGo]
  | writeStalled =>
    cases conflict
    · exact toGo_afterWrite h.2.1 rfl rfl
    · simp [step, toGo]
  | writeLast =>
    cases conflict <;> simp [step, toGo]
  | single => cases conflict <;> simp [step, toGo]

theorem free_of_toGo {b : Block} (h : b.Sound) (done : b.toGo = 0) : b.busy = false := by
  unfold Sound at h
  unfold toGo at done
  cases hp : b.phase <;> simp [hp] at h done ⊢
  · exact done
  all_goals omega

theorem remaining_of_busy_step {b : Block} (h : b.Sound) {out : Word} {conflict : Bool}
    (busy : (b.step out conflict b).1.busy = true) :
    0 < (b.step out conflict b).1.remaining := by
  obtain ⟨busy, src, dst, remaining, reg, shadow, pending, phase⟩ := b
  cases phase with
  | idle =>
    simp only [step] at busy ⊢
    split at busy
    · split at busy
      · cases busy
      · next hb h0 => simpa [hb, h0] using Nat.pos_of_ne_zero h0
    · next hb => exact absurd busy hb
  | readFirst =>
    have hr : 1 ≤ remaining := h.2
    cases conflict <;> exact hr
  | doRead =>
    have hr : 2 ≤ remaining := h.2
    cases conflict <;> exact Nat.lt_of_succ_lt hr
  | doWrite =>
    have hr : 2 ≤ remaining := h.2.1
    cases conflict
    · exact Nat.sub_pos_of_lt hr
    · exact Nat.lt_of_succ_lt hr
  | writeStalled =>
    have hr : 2 ≤ remaining := h.2.1
    cases conflict
    · exact Nat.sub_pos_of_lt hr
    · exact Nat.lt_of_succ_lt hr
  | writeLast =>
    have hr : remaining = 1 := h.2
    cases conflict
    · cases busy
    · exact hr ▸ Nat.one_pos
  | single =>
    have hr : remaining = 1 := h.2
    exact hr ▸ Nat.one_pos

/-- A step that ends a copy frees the engine, and no other does. -/
theorem busy_step {b : Block} (h : b.Sound) (out : Word) (conflict : Bool) :
    (b.step out conflict b).1.busy.toNat + (b.step out conflict b).2.finished.toNat =
      b.busy.toNat := by
  obtain ⟨busy, src, dst, remaining, reg, shadow, pending, phase⟩ := b
  cases phase with
  | idle =>
    simp only [step]
    split
    · next hb => split <;> simp [hb, Activity.quiet]
    · rfl
  | writeLast =>
    have hb : busy = true := h.1
    cases conflict <;> simp [step, hb, Activity.writing, Activity.stall]
  | _ => cases conflict <;> rfl

/-- An engine that is not busy does nothing, and a request that comes with its cycle
stands. -/
theorem step_of_free {b : Block} (h : b.Sound) (free : b.busy = false) (out : Word)
    (conflict : Bool) (next : Block) :
    b.phase = .idle ∧ b.step out conflict next = (next, .quiet) := by
  have hp : b.phase = .idle := by
    unfold Sound at h
    cases hp : b.phase <;> simp_all
  refine ⟨hp, ?_⟩
  simp [step, hp, free]

theorem launch_of_free {b : Block} (free : b.busy = false) (rests : b.phase = .idle)
    (src dst len : Word) :
    b.launch src dst len b =
      { b with
        busy := true, src := src.addr, dst := dst.addr, remaining := len.toInt.toNat
        phase := .idle } := by
  simp [launch, free, ← rests]

end Block

/-! ## Progress -/

/-- The `n` addresses from `a` on. The last address of all is followed by zero. -/
def addrs (a : Addr) (n : Nat) : List Addr := (List.range n).map fun i => a + BitVec.ofNat 16 i

theorem addrs_succ (a : Addr) (n : Nat) :
    addrs a (n + 1) = addrs a n ++ [a + BitVec.ofNat 16 n] := by
  simp [addrs, List.range_succ]

theorem addrs_prefix (a : Addr) {m n : Nat} (h : m ≤ n) : addrs a m <+: addrs a n := by
  obtain ⟨k, rfl⟩ := Nat.exists_eq_add_of_le h
  simp [addrs, List.range_add]

theorem next_add (a : Addr) (n : Nat) :
    (a + BitVec.ofNat 16 n).next = a + BitVec.ofNat 16 (n + 1) := by
  rw [Addr.next, BitVec.add_assoc, BitVec.ofNat_add]
  rfl

/-- How far a copy of `len` words has come. The reads and the writes so far carry
their words, and every word read is written or held. -/
structure Progress (src dst : Addr) (len : Nat) (reads writes : List (Addr × Word)) (b : Block)
    (out : Word) : Prop where
  sound : b.Sound
  words : reads.map Prod.snd = writes.map Prod.snd ++ b.held out
  read_addrs : reads.map Prod.fst = addrs src reads.length
  write_addrs : writes.map Prod.fst = addrs dst writes.length
  left : writes.length + b.remaining = len
  next_read : b.busy = true → b.src = src + BitVec.ofNat 16 reads.length
  next_write : b.busy = true → b.dst = dst + BitVec.ofNat 16 writes.length

section Progress

variable {src dst : Addr} {len : Nat} {reads writes : List (Addr × Word)} {b : Block} {out : Word}

theorem progress_launch (free : b.busy = false) (rests : b.phase = .idle) (src dst len : Word)
    (out : Word) :
    Progress src.addr dst.addr len.toInt.toNat [] [] (b.launch src dst len b) out := by
  rw [Block.launch_of_free free rests]
  refine ⟨?_, ?_, rfl, rfl, Nat.zero_add _, fun _ => ?_, fun _ => ?_⟩
  · simp [Block.Sound]
  · simp [Block.held]
  · exact (BitVec.add_zero _).symm
  · exact (BitVec.add_zero _).symm

theorem progress_step (h : Progress src dst len reads writes b out) (conflict : Bool)
    (out' : Word) :
    Progress src dst len
      (reads ++ ((b.step out conflict b).2.read.map fun a => (a, out')).toList)
      (writes ++ (b.step out conflict b).2.write.toList) (b.step out conflict b).1 out' := by
  have hm := Block.moves_step h.sound out out' conflict
  generalize (b.step out conflict b).1 = b' at hm
  generalize (b.step out conflict b).2 = act at hm
  cases hm with
  | keep read write sound held src dst remaining busy =>
    simp only [read, write, Option.map_none, Option.toList_none, List.append_nil]
    refine ⟨sound, ?_, h.read_addrs, h.write_addrs, ?_, ?_, ?_⟩
    · rw [held, h.words]
    · rw [remaining, h.left]
    · intro hb
      rw [src, h.next_read (busy hb)]
    · intro hb
      rw [dst, h.next_write (busy hb)]
  | read busy read write sound held src dst remaining =>
    simp only [read, write, Option.map_some, Option.toList_some, Option.toList_none,
      List.append_nil]
    refine ⟨sound, ?_, ?_, h.write_addrs, ?_, ?_, ?_⟩
    · rw [List.map_append, h.words, held, List.append_assoc]
      rfl
    · rw [List.map_append, h.read_addrs, List.length_append, List.length_singleton, addrs_succ,
        h.next_read busy]
      rfl
    · rw [remaining, h.left]
    · intro _
      rw [src, h.next_read busy, next_add, List.length_append, List.length_singleton]
    · intro _
      rw [dst, h.next_write busy]
  | write w busy read write sound held ahead src dst remaining =>
    simp only [read, write, Option.map_none, Option.toList_some, Option.toList_none,
      List.append_nil]
    refine ⟨sound, ?_, h.read_addrs, ?_, ?_, ?_, ?_⟩
    · rw [List.map_append, h.words, held, List.append_assoc]
      rfl
    · rw [List.map_append, h.write_addrs, List.length_append, List.length_singleton, addrs_succ,
        h.next_write busy]
      rfl
    · have := h.left
      rw [List.length_append, List.length_singleton]
      omega
    · intro hb
      rw [src hb, h.next_read busy]
    · intro hb
      rw [dst hb, h.next_write busy, next_add, List.length_append, List.length_singleton]

theorem length_reads (h : Progress src dst len reads writes b out) :
    reads.length = writes.length + (b.held out).length := by
  have := congrArg List.length h.words
  simpa using this

theorem length_le (h : Progress src dst len reads writes b out) :
    reads.length ≤ len ∧ writes.length ≤ len := by
  have hlen := length_reads h
  have hleft := h.left
  have hheld := (Block.length_held_le h.sound out).2
  omega

theorem length_of_free (h : Progress src dst len reads writes b out) (free : b.busy = false) :
    reads.length = len ∧ writes.length = len ∧
      writes.map Prod.snd = reads.map Prod.snd := by
  obtain ⟨hh, h0⟩ := Block.held_of_free h.sound free out
  have hlen := length_reads h
  have hleft := h.left
  rw [hh, List.length_nil] at hlen
  refine ⟨by omega, by omega, ?_⟩
  rw [h.words, hh, List.append_nil]

/-- Every write but the last one waits until the word after it has been read. -/
theorem length_of_write (h : Progress src dst len reads writes b out) {conflict : Bool}
    {p : Addr × Word} (hw : (b.step out conflict b).2.write = some p) :
    writes.length + 1 = len ∧ reads.length = len ∨ writes.length + 2 = reads.length := by
  have hlen := length_reads h
  have hleft := h.left
  obtain ⟨h2, hr⟩ := Block.length_held_le h.sound out
  have hm := Block.moves_step h.sound out out conflict
  generalize (b.step out conflict b).1 = b' at hm
  generalize (b.step out conflict b).2 = act at hm hw
  cases hm with
  | keep _ write => rw [write] at hw; cases hw
  | read _ _ write => rw [write] at hw; cases hw
  | write w _ _ _ _ held ahead _ _ remaining =>
    rw [held, List.length_cons] at hlen h2 hr
    rcases ahead with ahead | done
    · have := List.length_pos_iff.mpr ahead
      right
      omega
    · left
      omega

/-- No word is read while two are held. -/
theorem length_of_read (h : Progress src dst len reads writes b out) {conflict : Bool} {a : Addr}
    (ha : (b.step out conflict b).2.read = some a) : reads.length ≤ writes.length + 1 := by
  have hlen := length_reads h
  have hm := Block.moves_step h.sound out out conflict
  generalize (b.step out conflict b).1 = b' at hm
  generalize (b.step out conflict b).2 = act at hm ha
  cases hm with
  | keep read => rw [read] at ha; cases ha
  | write _ _ read => rw [read] at ha; cases ha
  | read _ _ _ sound' held =>
    have := (Block.length_held_le sound' out).1
    rw [held, List.length_append, List.length_singleton] at this
    omega

end Progress

end SixStage.Dma
