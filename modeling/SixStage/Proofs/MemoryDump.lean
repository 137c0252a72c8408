-- Dumps and images are inverse. A dump has a line for every word, and the
-- line spells it; so whatever reads images reads the words back, as many as
-- it has room for. An image goes to the places from zero on, and up to the
-- height that addresses can tell apart no two of its words meet.
import SixStage.Config
import SixStage.Proofs.ImageGrammar
import SixStage.Sram

namespace SixStage

/-! ## Bytes -/

theorem loop_toList (bs : ByteArray) (i : Nat) (r : List UInt8) :
    ByteArray.toList.loop bs i r = r.reverse ++ bs.data.toList.drop i := by
  fun_induction ByteArray.toList.loop bs i r with
  | case1 i r h ih =>
    have hi : i < bs.data.toList.length := h
    have get : bs.get! i = bs.data.toList[i] := getElem!_pos bs.data i h
    rw [ih, List.drop_eq_getElem_cons hi, get, List.reverse_cons, List.append_assoc,
      List.singleton_append]
  | case2 i r h =>
    rw [List.drop_eq_nil_of_le (Nat.not_lt.mp h), List.append_nil]

theorem toList_toUTF8 (s : String) : s.toUTF8.toList = s.toList.flatMap String.utf8EncodeChar := by
  calc s.toUTF8.toList = s.toByteArray.data.toList := loop_toList s.toByteArray 0 []
    _ = (s.toList.flatMap String.utf8EncodeChar).toByteArray.data.toList := by
      rw [← String.utf8Encode_toList, List.utf8Encode]
    _ = s.toList.flatMap String.utf8EncodeChar := by rw [List.data_toByteArray]

namespace Image

/-! ## Digits that are written -/

theorem digitOf_hexDigit {d : Nat} (h : d < 16) : DigitOf (Text.hexDigit d) d :=
  ⟨h, .inl (Text.hexDigit_eq h)⟩

theorem digits_hexChars {width n : Nat} (h : n < 16 ^ width) :
    ∃ digits, List.Forall₂ DigitOf (Text.hexChars width n) digits ∧ digits.length = width ∧
      n = Nat.ofDigits 16 digits.reverse := by
  induction width generalizing n with
  | zero =>
    obtain rfl : n = 0 := by simpa using h
    exact ⟨[], by simp [Text.hexChars, Text.hexDigits], rfl, rfl⟩
  | succ width ih =>
    have shorter : n / 16 < 16 ^ width := by
      rw [Nat.pow_succ] at h
      omega
    obtain ⟨digits, hd, hl, hn⟩ := ih shorter
    refine ⟨digits ++ [n % 16], ?_, by rw [List.length_append, hl, List.length_singleton], ?_⟩
    · have last : n % 16 < 16 := Nat.mod_lt n (by decide)
      exact List.rel_append hd (.cons (digitOf_hexDigit last) .nil)
    · rw [List.reverse_append, List.reverse_singleton, List.singleton_append, Nat.ofDigits_cons,
        ← hn]
      exact (Nat.mod_add_div n 16).symm

theorem spells_hexChars (w : Word) : Spells (Text.hexChars 8 w.toNat) w := by
  have fits : w.toNat < 16 ^ 8 := w.isLt
  obtain ⟨digits, hd, hl, hn⟩ := digits_hexChars fits
  have length := hd.length_eq
  rw [hl] at length
  exact ⟨List.ne_nil_of_length_pos (by omega), Nat.le_of_eq length, digits, hd, hn⟩

theorem plain_of_digitOf {c : Char} {d : Nat} (h : DigitOf c d) :
    c.toNat ∉ Text.whiteSpace ∧ 10 ∉ String.utf8EncodeChar c := by
  have lower : ∀ d < 16, d.digitChar.toNat ∉ Text.whiteSpace ∧
      10 ∉ String.utf8EncodeChar d.digitChar := by decide
  have upper : ∀ d < 16, d.digitChar.toUpper.toNat ∉ Text.whiteSpace ∧
      10 ∉ String.utf8EncodeChar d.digitChar.toUpper := by decide
  obtain ⟨hd, rfl | rfl⟩ := h
  · exact lower d hd
  · exact upper d hd

theorem exists_digit {text : List Char} {digits : List Nat} (h : List.Forall₂ DigitOf text digits)
    {c : Char} (hc : c ∈ text) : ∃ d, DigitOf c d := by
  induction h with
  | nil => cases hc
  | cons hd _ ih =>
    rcases List.mem_cons.mp hc with rfl | hc
    · exact ⟨_, hd⟩
    · exact ih hc

theorem plain_of_spells {text : List Char} {w : Word} (h : Spells text w) {c : Char}
    (hc : c ∈ text) : c.toNat ∉ Text.whiteSpace ∧ 10 ∉ String.utf8EncodeChar c := by
  obtain ⟨digits, hd, _⟩ := h.digits
  obtain ⟨d, hcd⟩ := exists_digit hd hc
  exact plain_of_digitOf hcd

/-! ## Lines that are written -/

/-- The bytes of the line that a word is written on. -/
def lineOf (w : Word) : List UInt8 := (Text.hexWord w).toList.flatMap String.utf8EncodeChar

theorem lineOf_eq (w : Word) :
    lineOf w = (Text.hexChars 8 w.toNat).flatMap String.utf8EncodeChar := by
  rw [lineOf, Text.hexWord, Text.hex, String.toList_ofList]

theorem newline_not_mem_lineOf (w : Word) : 10 ∉ lineOf w := by
  rw [lineOf_eq, List.mem_flatMap]
  rintro ⟨c, hc, h⟩
  exact (plain_of_spells (spells_hexChars w) hc).2 h

theorem shows_lineOf (w : Word) : Shows (lineOf w) (Text.hexChars 8 w.toNat) := by
  have plain : ∀ c ∈ Text.hexChars 8 w.toNat, c.toNat ∉ Text.whiteSpace :=
    fun c hc => (plain_of_spells (spells_hexChars w) hc).1
  refine ⟨_, lineOf_eq w, ⟨⟨[], [], by simp, fun c hc => by cases hc⟩, ?_, ?_⟩⟩
  · exact fun c hc => plain c (List.mem_of_mem_head? hc)
  · exact fun c hc => plain c (List.mem_of_getLast? hc)

theorem holds_lines (words : List Word) : Holds (words.map lineOf) words := by
  induction words with
  | nil => exact .nil
  | cons w words ih => exact .word (shows_lineOf w) (spells_hexChars w) ih

theorem physicalLines_append {line : List UInt8} (h : 10 ∉ line) (rest : List UInt8) :
    physicalLines (line ++ 10 :: rest) = line :: physicalLines rest := by
  induction line with
  | nil =>
    rw [List.nil_append, physicalLines_cons]
    rfl
  | cons b line ih =>
    rw [List.mem_cons, not_or] at h
    rw [List.cons_append, physicalLines_cons, ih h.2]
    simp only [prependByte, Ne.symm h.1, if_false]

/-- Words that are written one a line come back, as many as there is room for. -/
theorem parse_lines (words : List Word) (capacity : Nat) :
    parse (words.flatMap fun w => lineOf w ++ [10]) capacity =
      .ok ⟨words.take capacity, decide (capacity < words.length)⟩ := by
  have lines : physicalLines (words.flatMap fun w => lineOf w ++ [10]) = words.map lineOf := by
    induction words with
    | nil => rfl
    | cons w words ih =>
      rw [List.flatMap_cons, List.append_assoc, List.singleton_append,
        physicalLines_append (newline_not_mem_lineOf w), ih, List.map_cons]
  rw [parse_eq_ok_iff, lines]
  by_cases more : capacity < words.length
  · have cut := reads_of_holds (holds_lines words) more []
    rwa [List.append_nil, ← decide_eq_true more] at cut
  · rw [decide_eq_false more, List.take_of_length_le (Nat.not_lt.mp more)]
    exact .whole (holds_lines words) (Nat.not_lt.mp more)

end Image

namespace Sram

/-! ## Dumps -/

theorem toList_dump (s : Sram) :
    s.dump.toList = s.words.toList.flatMap fun w => (Text.hexWord w).toList ++ ['\n'] := by
  have grow : ∀ (l : List Word) (text : String),
      (l.foldl (fun text w => text ++ Text.hexWord w ++ "\n") text).toList =
        text.toList ++ l.flatMap fun w => (Text.hexWord w).toList ++ ['\n'] := by
    intro l
    induction l with
    | nil => intro text; simp
    | cons w l ih =>
      intro text
      rw [List.foldl_cons, ih, List.flatMap_cons, String.toList_append, String.toList_append,
        List.append_assoc, List.append_assoc, List.append_assoc]
      rfl
  rw [dump, ← Array.foldl_toList, grow, String.toList_empty, List.nil_append]

theorem bytes_dump (s : Sram) :
    s.dump.toUTF8.toList = s.words.toList.flatMap fun w => Image.lineOf w ++ [10] := by
  have newline : ['\n'].flatMap String.utf8EncodeChar = [10] := by decide
  simp only [toList_toUTF8, toList_dump, List.flatMap_assoc, List.flatMap_append, newline,
    Image.lineOf]

/-- Reading a dump gives the words of the memory, as many as there is room for. -/
theorem parse_dump (s : Sram) (capacity : Nat) :
    Image.parse s.dump.toUTF8.toList capacity =
      .ok ⟨s.words.toList.take capacity, decide (capacity < s.height)⟩ := by
  rw [bytes_dump, Image.parse_lines, Array.length_toList, height]

/-! ## Images that are installed -/

theorem getElem?_poke (s : Sram) (a : Addr) (w : Word) (i : Nat) :
    (s.poke a w).words[i]? = if a.toNat % s.height = i then some w else s.words[i]? :=
  Array.getElem?_set (s.slot a).isLt

theorem height_pokeAll (l : List Word) (s : Sram) (a : Addr) :
    (s.pokeAll a l).height = s.height := by
  induction l generalizing s a with
  | nil => rfl
  | cons w l ih => rw [pokeAll, ih, height_poke]

theorem height_install (s : Sram) (image : List Word) : (s.install image).height = s.height :=
  height_pokeAll _ s 0

/-- Words that fit between a place and the height go one after the other to the places from there
on, and to no others. -/
theorem getElem?_pokeAll {s : Sram} (small : s.height ≤ Config.maxHeight) {l : List Word} {k : Nat}
    (fits : k + l.length ≤ s.height) (i : Nat) :
    (s.pokeAll (BitVec.ofNat 16 k) l).words[i]? =
      if k ≤ i ∧ i < k + l.length then l[i - k]? else s.words[i]? := by
  unfold Config.maxHeight at small
  induction l generalizing s k with
  | nil => rw [pokeAll, if_neg (by simp only [List.length_nil]; omega)]
  | cons w l ih =>
    rw [List.length_cons] at fits
    have place : (BitVec.ofNat 16 k).toNat % s.height = k := by
      rw [BitVec.toNat_ofNat, Nat.mod_eq_of_lt (by omega), Nat.mod_eq_of_lt (by omega)]
    have next : Addr.next (BitVec.ofNat 16 k) = BitVec.ofNat 16 (k + 1) :=
      (BitVec.ofNat_add k 1).symm
    rw [pokeAll, next, ih (by rwa [height_poke]) (by rw [height_poke]; omega), getElem?_poke, place,
      List.length_cons]
    -- The place `k` itself is before those of the rest.
    by_cases first : k = i
    · subst first
      rw [if_neg (by omega), if_pos rfl, if_pos (by omega), Nat.sub_self]
      rfl
    · rw [if_neg first]
      by_cases later : k + 1 ≤ i ∧ i < k + 1 + l.length
      · have shift : i - k = i - (k + 1) + 1 := by omega
        rw [if_pos later, if_pos (by omega), shift, List.getElem?_cons_succ]
      · rw [if_neg later, if_neg (by omega)]

/-- An image goes to the places from zero on, as far as both go. -/
theorem getElem?_install {s : Sram} (small : s.height ≤ Config.maxHeight) (image : List Word)
    {i : Nat} (hi : i < s.height) :
    (s.install image).words[i]? = if i < image.length then image[i]? else s.words[i]? := by
  have fits : 0 + (image.take s.height).length ≤ s.height := by
    rw [List.length_take]
    omega
  have h := getElem?_pokeAll small fits i
  rw [Nat.sub_zero, List.length_take, List.getElem?_take, if_pos hi] at h
  rw [install]
  exact h.trans (if_congr (by omega) rfl rfl)

theorem words_install {s t : Sram} (small : s.height ≤ Config.maxHeight)
    (same : t.height = s.height) : (t.install s.words.toList).words = s.words := by
  have height := t.height_install s.words.toList
  apply Array.ext_getElem?
  intro i
  by_cases hi : i < s.height
  · rw [getElem?_install (by rwa [same]) _ (by rwa [same]), if_pos (by rwa [Array.length_toList]),
      Array.getElem?_toList]
  · have beyond : (t.install s.words.toList).height ≤ i := by omega
    rw [Array.getElem?_eq_none beyond, Array.getElem?_eq_none (Nat.not_lt.mp hi)]

theorem height_zero {n : Nat} (h : 0 < n) : (zero n).height = n := by
  rw [height, zero, Array.size_replicate]
  omega

/-- Dumps and images are inverse. Reading a dump gives back the words of the memory, or as many of
them as there is room for; and while addresses tell all places apart, installing them makes
any memory of that height hold the same words, whatever it held. An image of any length goes to
the places from zero on, and the places past its end keep their words. -/
theorem dumps_restore_memories (s : Sram) :
    (∀ capacity, Image.parse s.dump.toUTF8.toList capacity =
      .ok ⟨s.words.toList.take capacity, decide (capacity < s.height)⟩) ∧
    (s.height ≤ Config.maxHeight →
      (∃ image, Image.parse s.dump.toUTF8.toList s.height = .ok image ∧
        ((zero s.height).install image.words).words = s.words ∧
        ∀ t : Sram, t.height = s.height → (t.install image.words).words = s.words) ∧
      ∀ image : List Word, (s.install image).height = s.height ∧
        ∀ i < s.height, (s.install image).words[i]? =
          if i < image.length then image[i]? else s.words[i]?) := by
  refine ⟨s.parse_dump, fun small => ⟨?_, fun image => ⟨s.height_install image, ?_⟩⟩⟩
  · have all : s.words.toList.take s.height = s.words.toList :=
      List.take_of_length_le (Nat.le_of_eq Array.length_toList)
    refine ⟨_, s.parse_dump s.height, ?_, fun t same => ?_⟩
    · rw [all]
      exact words_install small (height_zero s.nonempty)
    · rw [all]
      exact words_install small same
  · exact fun i hi => getElem?_install small image hi

/-- A memory of three words, its dump, and what becomes of a memory that held others. -/
theorem three_words_outlive_their_memory :
    let s := (zero 3).install [0xdeadbeef, 0, 1]
    let t := (zero 3).install [7, 7, 7, 7]
    s.dump = "deadbeef\n00000000\n00000001\n" ∧
      Image.parse s.dump.toUTF8.toList 2 = .ok ⟨[0xdeadbeef, 0], true⟩ ∧
      ∃ image, Image.parse s.dump.toUTF8.toList 3 = .ok image ∧
        (t.install image.words).words = #[0xdeadbeef, 0, 1] := by
  intro s t
  obtain ⟨read, restore⟩ := dumps_restore_memories s
  obtain ⟨⟨image, parsed, _, installed⟩, _⟩ := restore (by decide)
  have text : ((zero 3).install [0xdeadbeef, 0, 1]).dump = "deadbeef\n00000000\n00000001\n" := by
    decide +kernel
  exact ⟨text, read 2, image, parsed, installed t rfl⟩

end Sram

end SixStage
