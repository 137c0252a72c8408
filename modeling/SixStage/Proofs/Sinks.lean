-- What records and flushes make of the sinks. Each fault that a sink meets is used
-- up by it, so there is an end to them, and a sink that has none left stays so.
import SixStage.Trace.Tracer

namespace SixStage

/-! ## Sinks -/

/-- The records that are still to break off, and the flushes that may still fail. -/
def Sink.faults (s : Sink) : Nat := s.writeFaults.length + s.flushFaults.length

namespace Sink

theorem writeFaults_write (s : Sink) (text : String) (h : s.writeFaults = []) :
    (s.write text).1.writeFaults = [] := by
  simp [write, h]

theorem writeFaults_flush (s : Sink) (h : s.writeFaults = []) : s.flush.1.writeFaults = [] := h

theorem flushFaults_write (s : Sink) (text : String) (h : s.flushFaults = []) :
    (s.write text).1.flushFaults = [] := by
  unfold write
  split
  · exact h
  · split <;> exact h

theorem flushFaults_flush (s : Sink) (h : s.flushFaults = []) : s.flush.1.flushFaults = [] := by
  simp [flush, h]

end Sink

/-! ## Tracers -/

/-- What holds of every sink. -/
structure Tracer.All (P : Sink → Prop) (t : Tracer) : Prop where
  inst : ∀ s ∈ t.inst, P s
  cycle : ∀ s ∈ t.cycle, P s
  dma : ∀ s ∈ t.dma, P s

namespace Tracer

variable {t : Tracer} {sink : Option Sink}

/-- The faults that are still to come, in all sinks. -/
def faults (t : Tracer) : Nat :=
  t.inst.elim 0 Sink.faults + t.cycle.elim 0 Sink.faults + t.dma.elim 0 Sink.faults

/-- A record that breaks off uses a fault up. -/
theorem faults_writeTo (sink : Option Sink) (record : Unit → String) :
    (writeTo sink record).1.elim 0 Sink.faults + (!(writeTo sink record).2).toNat =
      sink.elim 0 Sink.faults := by
  rcases sink with _ | s
  · rfl
  · simp only [writeTo, Sink.write, Option.elim_some, Sink.faults]
    split
    · next h => simp [h]
    · next room faults h =>
      split
      · simp [h]
      · simp only [h, List.length_cons, Bool.not_false, Bool.toNat_true]
        omega

/-- A flush that fails uses a fault up, and no flush adds one. -/
theorem faults_flushOne (sink : Option Sink) :
    (flushOne sink).1.elim 0 Sink.faults + (!(flushOne sink).2).toNat ≤
      sink.elim 0 Sink.faults := by
  rcases sink with _ | s
  · exact Nat.le_refl _
  · rcases h : s.flushFaults with _ | ⟨_ | _, faults⟩
    all_goals
      simp only [flushOne, Sink.flush, Option.elim_some, Sink.faults, h, List.tail_nil,
        List.tail_cons, List.headD_nil, List.headD_cons, List.length_cons, Bool.not_not,
        Bool.toNat_true, Bool.toNat_false]
      omega

theorem faults_writeCycle (t : Tracer) (c : Core) (r : Report) :
    (t.writeCycle c r).1.faults + (!(t.writeCycle c r).2).toNat = t.faults := by
  have := faults_writeTo t.cycle fun _ => Trace.cycleRecord t.instructions c r
  simp only [writeCycle, faults]
  omega

theorem faults_writeDma (t : Tracer) (c : Core) (r : Report) :
    (t.writeDma c r).1.faults + (!(t.writeDma c r).2).toNat = t.faults := by
  have := faults_writeTo t.dma fun _ => Trace.dmaRecord c r.dma
  simp only [writeDma, faults]
  omega

theorem faults_writeInstruction (t : Tracer) (c : Core) (r : Report) :
    (t.writeInstruction c r).1.faults + (!(t.writeInstruction c r).2).toNat = t.faults := by
  unfold writeInstruction
  rcases r.retired with _ | x
  · rfl
  · have := faults_writeTo t.inst fun _ => Trace.instructionRecord t.instructions c.regs x
    simp only [faults]
    omega

/-- A cycle whose records break off uses one fault up, and any other none. -/
theorem faults_record (t : Tracer) (c : Core) (r : Report) :
    (t.record c r).1.faults + (!(t.record c r).2).toNat = t.faults := by
  have hc := t.faults_writeCycle c r
  have hd := (t.writeCycle c r).1.faults_writeDma c r
  have hi := ((t.writeCycle c r).1.writeDma c r).1.faults_writeInstruction c r
  unfold record
  split
  · next h => simpa [h] using hc
  · next h =>
    simp only [h, Bool.not_true, Bool.toNat_false] at hc hd hi
    split
    · next h =>
      simp only [h, Bool.not_false, Bool.toNat_true] at hd ⊢
      omega
    · next h =>
      simp only [h, Bool.not_true, Bool.toNat_false] at hd hi
      omega

theorem instructions_writeInstruction (t : Tracer) (c : Core) (r : Report) :
    (t.writeInstruction c r).1.instructions =
      t.instructions + ((t.writeInstruction c r).2 && r.retired.isSome).toNat := by
  unfold writeInstruction
  rcases r.retired with _ | x
  · rfl
  · rcases h : (writeTo t.inst fun _ => Trace.instructionRecord t.instructions c.regs x).2 <;>
      simp [h]

/-- An instruction counts once all records of its cycle have come through. -/
theorem instructions_record (t : Tracer) (c : Core) (r : Report) :
    (t.record c r).1.instructions =
      t.instructions + ((t.record c r).2 && r.retired.isSome).toNat := by
  have hc : (t.writeCycle c r).1.instructions = t.instructions := rfl
  have hd : ((t.writeCycle c r).1.writeDma c r).1.instructions = t.instructions := rfl
  have hi := ((t.writeCycle c r).1.writeDma c r).1.instructions_writeInstruction c r
  unfold record
  split
  · next h => simpa [h] using hc
  · next h =>
    simp only [h] at hd hi
    split
    · next h => simpa [h] using hd
    · next h =>
      simp only [h] at hd hi
      rw [hi, hd]

theorem faults_flush (t : Tracer) : t.flush.1.faults + (!t.flush.2).toNat ≤ t.faults := by
  have hi := faults_flushOne t.inst
  have hc := faults_flushOne t.cycle
  have hd := faults_flushOne t.dma
  unfold flush
  split
  · next h =>
    rw [h] at hi
    simp only [faults] at hi ⊢
    omega
  · next h =>
    rw [h] at hi
    simp only
    split
    · next h =>
      rw [h] at hc
      simp only [faults] at hi hc ⊢
      omega
    · next h =>
      rw [h] at hc
      simp only [faults] at hi hc hd ⊢
      omega

theorem instructions_flush (t : Tracer) : t.flush.1.instructions = t.instructions := by
  unfold flush
  split
  · rfl
  · simp only
    split <;> rfl

/-- What has been written to the sinks. -/
def texts (t : Tracer) : List (Option String) :=
  [t.inst.map Sink.text, t.cycle.map Sink.text, t.dma.map Sink.text]

theorem text_flushOne (sink : Option Sink) :
    (flushOne sink).1.map Sink.text = sink.map Sink.text := by
  rcases sink with _ | s <;> rfl

/-- A flush writes nothing. -/
theorem texts_flush (t : Tracer) : t.flush.1.texts = t.texts := by
  have hi := text_flushOne t.inst
  have hc := text_flushOne t.cycle
  have hd := text_flushOne t.dma
  unfold flush
  split
  · next h =>
    rw [h] at hi
    simp only [texts, hi]
  · next h =>
    rw [h] at hi
    simp only
    split
    · next h =>
      rw [h] at hc
      simp only [texts, hi, hc]
    · next h =>
      rw [h] at hc
      simp only [texts, hi, hc, hd]

/-! ### What holds of every sink -/

theorem all_disabled (P : Sink → Prop) : disabled.All P := by
  constructor <;> exact fun _ h => by cases h

theorem all_writeTo {P : Sink → Prop} (write : ∀ s text, P s → P (s.write text).1)
    (h : ∀ s ∈ sink, P s) (record : Unit → String) : ∀ s ∈ (writeTo sink record).1, P s := by
  rcases sink with _ | s
  · exact h
  · rintro _ ⟨⟩
    exact write s _ (h s rfl)

theorem all_writeCycle {P : Sink → Prop} (write : ∀ s text, P s → P (s.write text).1)
    (h : t.All P) (c : Core) (r : Report) : (t.writeCycle c r).1.All P := by
  have hw := all_writeTo write h.cycle fun _ => Trace.cycleRecord t.instructions c r
  exact ⟨h.inst, hw, h.dma⟩

theorem all_writeDma {P : Sink → Prop} (write : ∀ s text, P s → P (s.write text).1)
    (h : t.All P) (c : Core) (r : Report) : (t.writeDma c r).1.All P := by
  have hw := all_writeTo write h.dma fun _ => Trace.dmaRecord c r.dma
  exact ⟨h.inst, h.cycle, hw⟩

theorem all_writeInstruction {P : Sink → Prop} (write : ∀ s text, P s → P (s.write text).1)
    (h : t.All P) (c : Core) (r : Report) : (t.writeInstruction c r).1.All P := by
  unfold writeInstruction
  rcases r.retired with _ | x
  · exact h
  · have hw := all_writeTo write h.inst fun _ =>
      Trace.instructionRecord t.instructions c.regs x
    exact ⟨hw, h.cycle, h.dma⟩

theorem all_record {P : Sink → Prop} (write : ∀ s text, P s → P (s.write text).1)
    (h : t.All P) (c : Core) (r : Report) : (t.record c r).1.All P := by
  have hc := all_writeCycle write h c r
  have hd := all_writeDma write hc c r
  have hi := all_writeInstruction write hd c r
  unfold record
  split
  · next h => rwa [h] at hc
  · next h =>
    rw [h] at hd hi
    split
    · next h => rwa [h] at hd
    · next h => rwa [h] at hi

theorem all_flushOne {P : Sink → Prop} (flush : ∀ s, P s → P s.flush.1) (h : ∀ s ∈ sink, P s) :
    ∀ s ∈ (flushOne sink).1, P s := by
  rcases sink with _ | s
  · exact h
  · rintro _ ⟨⟩
    exact flush s (h s rfl)

theorem all_flush {P : Sink → Prop} (flush : ∀ s, P s → P s.flush.1) (h : t.All P) :
    t.flush.1.All P := by
  have hi := all_flushOne flush h.inst
  have hc := all_flushOne flush h.cycle
  have hd := all_flushOne flush h.dma
  unfold Tracer.flush
  split
  · next hs =>
    rw [hs] at hi
    exact ⟨hi, h.cycle, h.dma⟩
  · next hs =>
    rw [hs] at hi
    simp only
    split
    · next hs =>
      rw [hs] at hc
      exact ⟨hi, hc, h.dma⟩
    · next hs =>
      rw [hs] at hc
      exact ⟨hi, hc, hd⟩

theorem All.mono {P Q : Sink → Prop} (h : t.All P) (hpq : ∀ s, P s → Q s) : t.All Q :=
  ⟨fun s hs => hpq s (h.inst s hs), fun s hs => hpq s (h.cycle s hs),
    fun s hs => hpq s (h.dma s hs)⟩

/-- Sinks that take every record whole take those of a cycle. -/
theorem admits_of_all (h : t.All fun s => s.writeFaults = []) (c : Core) (r : Report) :
    t.admits c r = true := by
  have ok : ∀ (sink : Option Sink) (record : Unit → String),
      (∀ s ∈ sink, s.writeFaults = []) → admitsTo sink record = true := by
    rintro (_ | s) record h
    · rfl
    · simp [admitsTo, Sink.admits, h s rfl]
  rcases hr : r.retired with _ | x <;>
    simp [admits, ok _ _ h.inst, ok _ _ h.cycle, ok _ _ h.dma, hr]

/-- Sinks that never fail to flush are flushed. -/
theorem flush_of_all (h : t.All fun s => s.flushFaults = []) : t.flush.2 = true := by
  have ok : ∀ sink : Option Sink, (∀ s ∈ sink, s.flushFaults = []) → (flushOne sink).2 = true := by
    rintro (_ | s) h
    · rfl
    · simp [flushOne, Sink.flush, h s rfl]
  have hi := ok _ h.inst
  have hc := ok _ h.cycle
  have hd := ok _ h.dma
  unfold flush
  split
  · next hs => simp [hs] at hi
  · simp only
    split
    · next hs => simp [hs] at hc
    · exact hd

end Tracer

end SixStage
