-- What a cycle does to a memory at rest: with one access at most it is that
-- access and nothing else. The words that a run of writes leaves are a fold
-- over the writes, whatever stands in the output register.
import SixStage.Sram

namespace SixStage

/-- A log that gets one entry at most in each cycle grows at its end. -/
theorem filterMap_range_succ {α : Type} (f : Nat → Option α) (n : Nat) :
    (List.range (n + 1)).filterMap f = (List.range n).filterMap f ++ (f n).toList := by
  cases h : f n <;> simp [List.range_succ, h]

theorem countP_snoc {α : Type} (p : α → Bool) (l : List α) (x : α) :
    (l ++ [x]).countP p = l.countP p + (p x).toNat := by
  cases h : p x <;> simp [h]

/-- The write that an access makes, if it is one. -/
def Access.written : Access → Option (Addr × Word)
  | .read _ => none
  | .write a w => some (a, w)

namespace Sram

/-! ## One cycle -/

/-- Nothing is scheduled. -/
structure Idle (s : Sram) : Prop where
  no_read : s.readReq = none
  no_write : s.writeReq = none

theorem idle_zero (height : Nat) : (zero height).Idle := ⟨rfl, rfl⟩

theorem idle_pokeAll (l : List Word) : ∀ (s : Sram) (a : Addr), s.Idle → (s.pokeAll a l).Idle := by
  induction l with
  | nil => exact fun _ _ h => h
  | cons w l ih => exact fun s a h => ih (s.poke a w) a.next ⟨h.no_read, h.no_write⟩

theorem idle_install {s : Sram} (h : s.Idle) (image : List Word) : (s.install image).Idle :=
  idle_pokeAll _ s 0 h

theorem readReq_completeRead (s : Sram) : s.completeRead.readReq = none := by
  unfold completeRead
  split
  · assumption
  · rfl

/-- The clock edge leaves nothing scheduled, whatever was. -/
theorem idle_commit (s : Sram) : s.commit.Idle := by
  have h := s.readReq_completeRead
  unfold commit completeWrite
  split
  · next hw => exact ⟨h, hw⟩
  · exact ⟨h, rfl⟩

theorem idle_clock (s : Sram) (l : List Access) : (s.clock l).Idle := (s.issueAll l).idle_commit

theorem discard_of_idle {s : Sram} (h : s.Idle) : s.discard = s := by
  obtain ⟨words, nonempty, readReq, writeReq, out⟩ := s
  obtain ⟨hr, hw⟩ := h
  subst hr hw
  rfl

theorem clock_nil {s : Sram} (h : s.Idle) : s.clock [] = s := by
  simp [clock, issueAll, commit, completeRead, completeWrite, h.no_read, h.no_write]

theorem clock_read {s : Sram} (h : s.Idle) (a : Addr) :
    s.clock [.read a] = { s with out := s.peek a } := by
  obtain ⟨words, nonempty, readReq, writeReq, out⟩ := s
  obtain ⟨hr, hw⟩ := h
  subst hr hw
  rfl

theorem clock_write {s : Sram} (h : s.Idle) (a : Addr) (w : Word) :
    s.clock [.write a w] = s.poke a w := by
  obtain ⟨words, nonempty, readReq, writeReq, out⟩ := s
  obtain ⟨hr, hw⟩ := h
  subst hr hw
  rfl

/-! ## Words -/

/-- What stands at an address depends on the words alone. -/
theorem peek_congr {s t : Sram} (h : s.words = t.words) (a : Addr) : s.peek a = t.peek a := by
  obtain ⟨words, nonempty, _, _, _⟩ := s
  obtain ⟨_, _, _, _, _⟩ := t
  subst h
  rfl

theorem poke_congr {s t : Sram} (h : s.words = t.words) (a : Addr) (w : Word) :
    (s.poke a w).words = (t.poke a w).words := by
  obtain ⟨words, nonempty, _, _, _⟩ := s
  obtain ⟨_, _, _, _, _⟩ := t
  subst h
  rfl

/-- A memory after writes, the first of them first. -/
def writeAll (s : Sram) (l : List (Addr × Word)) : Sram := l.foldl (fun s p => s.poke p.1 p.2) s

theorem writeAll_congr {s t : Sram} (h : s.words = t.words) (l : List (Addr × Word)) :
    (s.writeAll l).words = (t.writeAll l).words := by
  induction l generalizing s t with
  | nil => exact h
  | cons p l ih => exact ih (poke_congr h p.1 p.2)

theorem writeAll_append (s : Sram) (l m : List (Addr × Word)) :
    s.writeAll (l ++ m) = (s.writeAll l).writeAll m := by
  simp [writeAll, List.foldl_append]

/-! ## Places -/

/-- The place of an address, as a number. -/
def place (s : Sram) (a : Addr) : Nat := a.toNat % s.height

/-- The writes that fall on the place of an address. -/
def hits (s : Sram) (a : Addr) (l : List (Addr × Word)) : List (Addr × Word) :=
  l.filter fun p => s.place p.1 = s.place a

theorem place_poke (s : Sram) (a b : Addr) (w : Word) : (s.poke b w).place a = s.place a := by
  rw [place, place, height_poke]

theorem hits_poke (s : Sram) (a b : Addr) (w : Word) (l : List (Addr × Word)) :
    (s.poke b w).hits a l = s.hits a l :=
  List.filter_congr fun p _ => by rw [place_poke, place_poke]

theorem hits_append (s : Sram) (a : Addr) (l m : List (Addr × Word)) :
    s.hits a (l ++ m) = s.hits a l ++ s.hits a m := List.filter_append ..

theorem hits_of_miss (s : Sram) {a : Addr} {l : List (Addr × Word)}
    (miss : ∀ p ∈ l, s.place p.1 ≠ s.place a) : s.hits a l = [] :=
  List.filter_eq_nil_iff.mpr fun p hp => by simpa using miss p hp

/-- The last write on its place is what stands at an address. -/
theorem peek_writeAll (s : Sram) (l : List (Addr × Word)) (a : Addr) :
    (s.writeAll l).peek a = ((s.hits a l).getLast?.map Prod.snd).getD (s.peek a) := by
  induction l generalizing s with
  | nil => rfl
  | cons p l ih =>
    have hw : s.writeAll (p :: l) = (s.poke p.1 p.2).writeAll l := rfl
    have hp : (s.poke p.1 p.2).peek a = if s.place p.1 = s.place a then p.2 else s.peek a :=
      peek_poke ..
    rw [hw, ih, hits_poke, hp]
    by_cases h : s.place p.1 = s.place a
    · have hh : s.hits a (p :: l) = p :: s.hits a l := List.filter_cons_of_pos (by simpa using h)
      rw [hh, List.getLast?_cons, if_pos h]
      cases (s.hits a l).getLast? <;> rfl
    · have hh : s.hits a (p :: l) = s.hits a l := List.filter_cons_of_neg (by simpa using h)
      rw [hh, if_neg h]

theorem peek_writeAll_of_miss {s : Sram} {l : List (Addr × Word)} {a : Addr}
    (miss : ∀ p ∈ l, s.place p.1 ≠ s.place a) : (s.writeAll l).peek a = s.peek a := by
  rw [peek_writeAll, hits_of_miss s miss]
  rfl

/-- A word that is written, and never but as `w`, ends as `w`. -/
theorem peek_writeAll_of_hit {s : Sram} {l : List (Addr × Word)} {p : Addr × Word} (hp : p ∈ l)
    (same : ∀ q ∈ l, s.place q.1 = s.place p.1 → q = p) : (s.writeAll l).peek p.1 = p.2 := by
  have hit : p ∈ s.hits p.1 l := List.mem_filter.mpr ⟨hp, by simp⟩
  obtain ⟨q, hq⟩ := Option.ne_none_iff_exists'.mp
    (mt List.getLast?_eq_none_iff.mp (List.ne_nil_of_mem hit))
  obtain ⟨hql, place⟩ := List.mem_filter.mp (List.mem_of_getLast? hq)
  rw [peek_writeAll, hq, same q hql (by simpa using place)]
  rfl

end Sram

end SixStage
