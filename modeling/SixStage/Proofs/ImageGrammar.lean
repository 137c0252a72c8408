-- The grammar of memory images. A file is lines, and a line is what its bytes
-- say as UTF-8, without the blanks around it. The grammar says which lines
-- hold which words, and from it which outcome a file has; reading a file has
-- this outcome and no other.
import Mathlib.Data.List.Forall2
import Mathlib.Data.Nat.Digits.Defs
import SixStage.Fault

namespace SixStage

namespace Text

/-! ## Blanks -/

/-- The code points of the Unicode property White_Space. -/
def whiteSpace : List Nat :=
  [0x9, 0xa, 0xb, 0xc, 0xd, 0x20, 0x85, 0xa0, 0x1680, 0x2000, 0x2001, 0x2002, 0x2003, 0x2004,
    0x2005, 0x2006, 0x2007, 0x2008, 0x2009, 0x200a, 0x2028, 0x2029, 0x202f, 0x205f, 0x3000]

/-- `t` is what is left of `l` without the blanks at its ends. -/
structure Trims (l t : List Char) : Prop where
  cut : ∃ before after, l = before ++ t ++ after ∧ ∀ c ∈ before ++ after, c.toNat ∈ whiteSpace
  first : ∀ c ∈ t.head?, c.toNat ∉ whiteSpace
  last : ∀ c ∈ t.getLast?, c.toNat ∉ whiteSpace

theorem isBlank_iff (c : Char) : isBlank c = true ↔ c.toNat ∈ whiteSpace := by
  simp only [isBlank, blankRanges, whiteSpace, List.any_cons, List.any_nil, Bool.or_eq_true,
    Bool.and_eq_true, decide_eq_true_eq, List.mem_cons, List.not_mem_nil, Bool.or_false, or_false]
  omega

theorem not_isBlank_iff (c : Char) : isBlank c = false ↔ c.toNat ∉ whiteSpace := by
  rw [← isBlank_iff, Bool.not_eq_true]

theorem mem_takeWhile_isBlank {l : List Char} {c : Char} (h : c ∈ l.takeWhile isBlank) :
    c.toNat ∈ whiteSpace :=
  (isBlank_iff c).mp (List.all_eq_true.mp List.all_takeWhile c h)

theorem head?_dropWhile_isBlank {l : List Char} {c : Char} (h : c ∈ (l.dropWhile isBlank).head?) :
    c.toNat ∉ whiteSpace := by
  have hd := List.head?_dropWhile_not isBlank l
  rw [Option.mem_def] at h
  rw [h] at hd
  exact (not_isBlank_iff c).mp hd

theorem dropWhile_isBlank {before l : List Char} (blank : ∀ c ∈ before, c.toNat ∈ whiteSpace)
    (first : ∀ c ∈ l.head?, c.toNat ∉ whiteSpace) : (before ++ l).dropWhile isBlank = l := by
  rw [List.dropWhile_append_of_pos fun c hc => (isBlank_iff c).mpr (blank c hc)]
  cases l with
  | nil => rfl
  | cons c l =>
    have hc : isBlank c = false := (not_isBlank_iff c).mpr (first c rfl)
    exact List.dropWhile_cons_of_neg (by simp [hc])

theorem trim_of_trims {l t : List Char} (h : Trims l t) : trim l = t := by
  obtain ⟨⟨before, after, rfl, blank⟩, first, last⟩ := h
  have front : ∀ c ∈ before, c.toNat ∈ whiteSpace :=
    fun c hc => blank c (List.mem_append_left _ hc)
  have back : ∀ c ∈ after.reverse, c.toNat ∈ whiteSpace :=
    fun c hc => blank c (List.mem_append_right _ (List.mem_reverse.mp hc))
  unfold trim
  by_cases ht : t = []
  · -- With nothing in between, all of the text goes at once.
    subst ht
    have all := dropWhile_isBlank (l := []) blank (fun _ hc => by cases hc)
    rw [List.append_nil] at all ⊢
    rw [all]
    rfl
  · obtain ⟨c, t, rfl⟩ := List.exists_cons_of_ne_nil ht
    have start : (before ++ (c :: t ++ after)).dropWhile isBlank = c :: t ++ after :=
      dropWhile_isBlank front first
    rw [List.append_assoc, start, List.reverse_append,
      dropWhile_isBlank back fun d hd => last d (by rwa [List.head?_reverse] at hd),
      List.reverse_reverse]

theorem trims_trim (l : List Char) : Trims l (trim l) := by
  -- What is dropped at the front, and then at the back of the rest.
  have front := List.takeWhile_append_dropWhile (p := isBlank) (l := l)
  have back := List.takeWhile_append_dropWhile (p := isBlank) (l := (l.dropWhile isBlank).reverse)
  have split : l.dropWhile isBlank =
      trim l ++ ((l.dropWhile isBlank).reverse.takeWhile isBlank).reverse := by
    rw [trim, ← List.reverse_append, back, List.reverse_reverse]
  constructor
  case cut =>
    refine ⟨l.takeWhile isBlank, ((l.dropWhile isBlank).reverse.takeWhile isBlank).reverse, ?_, ?_⟩
    · rw [List.append_assoc, ← split, front]
    · intro c hc
      rcases List.mem_append.mp hc with hc | hc
      · exact mem_takeWhile_isBlank hc
      · exact mem_takeWhile_isBlank (List.mem_reverse.mp hc)
  case first =>
    intro c hc
    apply head?_dropWhile_isBlank (l := l)
    rw [split, Option.mem_def, List.head?_append, hc]
    rfl
  case last =>
    intro c hc
    apply head?_dropWhile_isBlank (l := (l.dropWhile isBlank).reverse)
    rwa [trim, List.getLast?_reverse] at hc

theorem trims_iff {l t : List Char} : Trims l t ↔ trim l = t := by
  constructor
  · exact trim_of_trims
  · rintro rfl
    exact trims_trim l

end Text

namespace Image

/-! ## Words -/

/-- A character is the digit of a number below sixteen, in either case. -/
def DigitOf (c : Char) (d : Nat) : Prop := d < 16 ∧ (c = d.digitChar ∨ c = d.digitChar.toUpper)

/-- The text is one to eight digits in base sixteen, and the word is their number. -/
structure Spells (text : List Char) (w : Word) : Prop where
  nonempty : text ≠ []
  short : text.length ≤ 8
  digits : ∃ digits, List.Forall₂ DigitOf text digits ∧ w.toNat = Nat.ofDigits 16 digits.reverse

theorem digit?_of_digitOf {c : Char} {d : Nat} (h : DigitOf c d) : digit? c = some d := by
  have lower : ∀ d < 16, digit? d.digitChar = some d := by decide
  have upper : ∀ d < 16, digit? d.digitChar.toUpper = some d := by decide
  obtain ⟨hd, rfl | rfl⟩ := h
  · exact lower d hd
  · exact upper d hd

theorem toNat_lt_of_digit? {c : Char} {d : Nat} (h : digit? c = some d) : c.toNat < 128 := by
  have bound : ∀ last : Char, c ≤ last → c.toNat ≤ last.toNat := fun _ h => h
  have last : ('9'.toNat < 128 ∧ 'f'.toNat < 128) ∧ 'F'.toNat < 128 := by decide
  unfold digit? at h
  split at h
  · next hc => exact Nat.lt_of_le_of_lt (bound _ hc.2) last.1.1
  · split at h
    · next hc => exact Nat.lt_of_le_of_lt (bound _ hc.2) last.1.2
    · split at h
      · next hc => exact Nat.lt_of_le_of_lt (bound _ hc.2) last.2
      · cases h

theorem digitOf_of_digit? {c : Char} {d : Nat} (h : digit? c = some d) : DigitOf c d := by
  have ascii : ∀ n < 128, ∀ d ∈ digit? (Char.ofNat n),
      d < 16 ∧ (Char.ofNat n = d.digitChar ∨ Char.ofNat n = d.digitChar.toUpper) := by decide
  have hc := ascii c.toNat (toNat_lt_of_digit? h) d
  rw [Char.ofNat_toNat] at hc
  exact hc h

/-- The digits go on behind those of `n`. -/
theorem number?_eq_some_iff {l : List Char} {n m : Nat} : number? n l = some m ↔
    ∃ digits, List.Forall₂ DigitOf l digits ∧
      m = 16 ^ l.length * n + Nat.ofDigits 16 digits.reverse := by
  induction l generalizing n with
  | nil => simp [number?, eq_comm]
  | cons c l ih =>
    have place : ∀ d digits, List.Forall₂ DigitOf l digits →
        16 ^ l.length * (16 * n + d) + Nat.ofDigits 16 digits.reverse =
          16 ^ (l.length + 1) * n + Nat.ofDigits 16 (d :: digits).reverse := by
      intro d digits h
      rw [List.reverse_cons, Nat.ofDigits_append, List.length_reverse, ← h.length_eq,
        Nat.ofDigits_singleton]
      ring
    simp only [number?]
    constructor
    · intro h
      split at h
      · cases h
      · next d hd =>
        obtain ⟨digits, hl, rfl⟩ := ih.mp h
        exact ⟨d :: digits, .cons (digitOf_of_digit? hd) hl, place d digits hl⟩
    · rintro ⟨_, h, rfl⟩
      cases h with
      | @cons _ d _ digits hd hl =>
        rw [digit?_of_digitOf hd]
        exact ih.mpr ⟨digits, hl, (place d digits hl).symm⟩

theorem ofDigits_lt {text : List Char} {digits : List Nat} (h : List.Forall₂ DigitOf text digits)
    (short : text.length ≤ 8) : Nat.ofDigits 16 digits.reverse < 2 ^ 32 := by
  have below : ∀ d ∈ digits.reverse, d < 16 := by
    intro d hd
    exact ((List.forall₂_and_left _ _).mp h.flip).1 d (List.mem_reverse.mp hd)
  calc Nat.ofDigits 16 digits.reverse < 16 ^ digits.reverse.length :=
        Nat.ofDigits_lt_base_pow_length (by decide) below
    _ ≤ 16 ^ 8 := Nat.pow_le_pow_right (by decide) (by rwa [List.length_reverse, ← h.length_eq])
    _ = 2 ^ 32 := by decide

theorem word?_eq_some_iff {text : List Char} {w : Word} : word? text = some w ↔ Spells text w := by
  unfold word?
  split
  · next h =>
    constructor
    · intro hw
      cases hw
    · rintro ⟨nonempty, short, _⟩
      rcases h with h | h
      · exact absurd (List.length_eq_zero_iff.mp h) nonempty
      · omega
  · next h =>
    obtain ⟨nonempty, short⟩ := not_or.mp h
    rw [Nat.not_lt] at short
    simp only [Option.map_eq_some_iff, number?_eq_some_iff, Nat.mul_zero, Nat.zero_add]
    constructor
    · rintro ⟨_, ⟨digits, hd, rfl⟩, rfl⟩
      refine ⟨mt List.length_eq_zero_iff.mpr nonempty, short, digits, hd, ?_⟩
      rw [BitVec.toNat_ofNat, Nat.mod_eq_of_lt (ofDigits_lt hd short)]
    · rintro ⟨_, _, digits, hd, hw⟩
      exact ⟨_, ⟨digits, hd, rfl⟩, by rw [← hw, BitVec.ofNat_toNat, BitVec.setWidth_eq]⟩

/-! ## Lines -/

/-- The lines of a file are the pieces between its newlines. A last piece that is empty is no
line. -/
def physicalLines (bytes : List UInt8) : List (List UInt8) :=
  let pieces := bytes.splitOn 10
  if pieces.getLast? = some [] then pieces.dropLast else pieces

theorem physicalLines_cons (b : UInt8) (bytes : List UInt8) :
    physicalLines (b :: bytes) = prependByte b (physicalLines bytes) := by
  obtain ⟨piece, pieces, hp⟩ := List.exists_cons_of_ne_nil (List.splitOn_ne_nil (10 : UInt8) bytes)
  simp only [physicalLines, List.splitOn_cons_eq_if_modifyHead, hp]
  by_cases hb : b = 10
  · subst hb
    simp only [prependByte, beq_self_eq_true, if_true, List.getLast?_cons_cons,
      List.dropLast_cons_cons]
    split <;> rfl
  · rcases pieces with _ | ⟨second, rest⟩
    · cases piece <;> simp [prependByte, hb]
    · simp only [prependByte, hb, beq_iff_eq, if_false, List.modifyHead_cons,
        List.getLast?_cons_cons, List.dropLast_cons_cons]
      split <;> rfl

theorem linesOf_eq (bytes : List UInt8) : linesOf bytes = physicalLines bytes := by
  induction bytes with
  | nil => rfl
  | cons b bytes ih => rw [physicalLines_cons, ← ih, linesOf, List.foldr_cons, ← linesOf]

/-- A line is valid UTF-8. -/
def IsText (line : List UInt8) : Prop :=
  ∃ text : List Char, line = text.flatMap String.utf8EncodeChar

/-- A line is valid UTF-8, and `t` is its text without the blanks at its ends. -/
def Shows (line : List UInt8) (t : List Char) : Prop :=
  ∃ text : List Char, line = text.flatMap String.utf8EncodeChar ∧ Text.Trims text t

theorem fromUTF8?_eq_some_iff {line : List UInt8} {s : String} :
    String.fromUTF8? line.toByteArray = some s ↔
      line = s.toList.flatMap String.utf8EncodeChar := by
  have encoded : s.toByteArray = (s.toList.flatMap String.utf8EncodeChar).toByteArray :=
    String.utf8Encode_toList.symm
  rw [← List.toByteArray_inj, ← encoded]
  unfold String.fromUTF8?
  split
  · rw [Option.some.injEq]
    constructor
    · rintro rfl
      rfl
    · exact fun h => String.toByteArray_inj.mp h
  · next invalid =>
    constructor
    · intro h
      cases h
    · intro h
      exact absurd (h ▸ s.isValidUTF8) invalid

theorem lineText?_eq_some_iff {line : List UInt8} {t : List Char} :
    lineText? line = some t ↔ Shows line t := by
  simp only [lineText?, Option.map_eq_some_iff, fromUTF8?_eq_some_iff, Shows, Text.trims_iff]
  constructor
  · rintro ⟨s, hs, ht⟩
    exact ⟨s.toList, hs, ht⟩
  · rintro ⟨text, hs, ht⟩
    exact ⟨String.ofList text, by rwa [String.toList_ofList], by rwa [String.toList_ofList]⟩

theorem lineText?_eq_none_iff {line : List UInt8} : lineText? line = none ↔ ¬ IsText line := by
  rw [← not_iff_not, not_not, ← ne_eq, Option.ne_none_iff_exists']
  constructor
  · rintro ⟨t, ht⟩
    obtain ⟨text, hl, _⟩ := lineText?_eq_some_iff.mp ht
    exact ⟨text, hl⟩
  · rintro ⟨text, hl⟩
    exact ⟨_, lineText?_eq_some_iff.mpr ⟨text, hl, Text.trims_trim text⟩⟩

theorem shows_unique {line : List UInt8} {t t' : List Char} (h : Shows line t)
    (h' : Shows line t') : t = t' :=
  Option.some.inj ((lineText?_eq_some_iff.mpr h).symm.trans (lineText?_eq_some_iff.mpr h'))

instance (line : List UInt8) (t : List Char) : Decidable (Shows line t) :=
  decidable_of_iff _ lineText?_eq_some_iff

/-! ## The grammar -/

/-- Each of the lines is blank or a word, and these are the words. -/
inductive Holds : List (List UInt8) → List Word → Prop
  | nil : Holds [] []
  | blank {line lines words} (shows : Shows line []) (rest : Holds lines words) :
      Holds (line :: lines) words
  | word {line lines words t w} (shows : Shows line t) (spells : Spells t w)
      (rest : Holds lines words) : Holds (line :: lines) (w :: words)

/-- What comes of reading lines into a memory of so many words. -/
inductive Reads (capacity : Nat) (lines : List (List UInt8)) :
    Except SixStage.Fault Image → Prop
  /-- All lines are blank or words, and there is room for all words. -/
  | whole {words} (holds : Holds lines words) (fits : words.length ≤ capacity) :
      Reads capacity lines (.ok ⟨words, false⟩)
  /-- The memory is full, and one more line is not blank. Neither that line nor any after it is
  looked at as a word. -/
  | truncated {before line after words t} (split : lines = before ++ line :: after)
      (holds : Holds before words) (full : words.length = capacity) (shows : Shows line t)
      (more : t ≠ []) : Reads capacity lines (.ok ⟨words, true⟩)
  /-- A line is not UTF-8. -/
  | notText {before line after words} (split : lines = before ++ line :: after)
      (holds : Holds before words) (fits : words.length ≤ capacity) (broken : ¬ IsText line) :
      Reads capacity lines (.error (.io .notText))
  /-- There is room for a word, and a line is neither blank nor one. It is told by its number
  among all lines, and by its text. -/
  | malformed {before line after words t} (split : lines = before ++ line :: after)
      (holds : Holds before words) (room : words.length < capacity) (shows : Shows line t)
      (text : t ≠ []) (noWord : ∀ w, ¬ Spells t w) :
      Reads capacity lines (.error (.imageFormat (before.length + 1) (String.ofList t)))

theorem holds_append {before lines : List (List UInt8)} {words words' : List Word}
    (h : Holds before words) (h' : Holds lines words') :
    Holds (before ++ lines) (words ++ words') := by
  induction h with
  | nil => exact h'
  | blank shows _ ih => exact .blank shows ih
  | word shows spells _ ih => exact .word shows spells ih

theorem scan_of_shows {capacity n : Nat} {acc : Array Word} {line : List UInt8} {t : List Char}
    (shows : Shows line t) (text : t ≠ []) (rest : List (List UInt8)) :
    scan capacity n acc (line :: rest) =
      if acc.size = capacity then .ok ⟨acc.toList, true⟩
      else
        match word? t with
        | none => .error (.malformed n (String.ofList t))
        | some w => scan capacity (n + 1) (acc.push w) rest := by
  obtain ⟨c, t, rfl⟩ := List.exists_cons_of_ne_nil text
  rcases hw : word? (c :: t) with _ | w
  · simp only [scan, lineText?_eq_some_iff.mpr shows, hw]
  · simp only [scan, lineText?_eq_some_iff.mpr shows, hw]

theorem scan_of_blank {capacity n : Nat} {acc : Array Word} {line : List UInt8}
    (shows : Shows line []) (rest : List (List UInt8)) :
    scan capacity n acc (line :: rest) = scan capacity (n + 1) acc rest := by
  rw [scan, lineText?_eq_some_iff.mpr shows]

theorem scan_of_not_text {capacity n : Nat} {acc : Array Word} {line : List UInt8}
    (broken : ¬ IsText line) (rest : List (List UInt8)) :
    scan capacity n acc (line :: rest) = .error .notText := by
  rw [scan, lineText?_eq_none_iff.mpr broken]

theorem scan_of_holds {capacity : Nat} {before : List (List UInt8)} {words : List Word}
    (h : Holds before words) {n : Nat} {acc : Array Word}
    (room : acc.size + words.length ≤ capacity) (rest : List (List UInt8)) :
    scan capacity n acc (before ++ rest) =
      scan capacity (n + before.length) (acc ++ words.toArray) rest := by
  induction h generalizing n acc with
  | nil => simp
  | blank shows _ ih =>
    rw [List.cons_append, scan_of_blank shows, ih room, List.length_cons]
    congr 1
    omega
  | @word line lines words t w shows spells _ ih =>
    rw [List.length_cons] at room
    have free : acc.size ≠ capacity := by omega
    rw [List.cons_append, scan_of_shows shows spells.nonempty, if_neg free,
      word?_eq_some_iff.mpr spells]
    simp only
    rw [ih (by rw [Array.size_push]; omega), List.length_cons]
    congr 1
    · omega
    · simp

/-- What a scan comes to behind lines that have been read. -/
theorem reads_scan {capacity : Nat} {before lines : List (List UInt8)} {words : List Word}
    (h : Holds before words) (fits : words.length ≤ capacity) :
    Reads capacity (before ++ lines)
      ((scan capacity (before.length + 1) words.toArray lines).mapError Fault.toFault) := by
  induction lines generalizing before words with
  | nil =>
    rw [List.append_nil]
    exact .whole h fits
  | cons line rest ih =>
    -- A line that is passed over joins those before.
    have pass : ∀ {more : List Word}, Holds [line] more → words.length + more.length ≤ capacity →
        Reads capacity (before ++ line :: rest)
          ((scan capacity (before.length + 1 + 1) (words ++ more).toArray rest).mapError
            Fault.toFault) := by
      intro more hm room
      have hr := ih (holds_append h hm) (by rwa [List.length_append])
      rwa [List.append_assoc, List.length_append] at hr
    rcases hl : lineText? line with _ | t
    · have broken := lineText?_eq_none_iff.mp hl
      rw [scan_of_not_text broken]
      exact .notText rfl h fits broken
    · have shows := lineText?_eq_some_iff.mp hl
      by_cases text : t = []
      · subst text
        rw [scan_of_blank shows]
        have hp := pass (.blank shows .nil) fits
        rwa [List.append_nil] at hp
      · rw [scan_of_shows shows text, List.size_toArray]
        by_cases full : words.length = capacity
        · rw [if_pos full]
          exact .truncated rfl h full shows text
        · rw [if_neg full]
          have room : words.length < capacity := Nat.lt_of_le_of_ne fits full
          rcases hw : word? t with _ | w
          · refine .malformed rfl h room shows text fun w spells => ?_
            cases hw.symm.trans (word?_eq_some_iff.mpr spells)
          · have hp := pass (.word shows (word?_eq_some_iff.mp hw) .nil) room
            simpa using hp

theorem scan_of_reads {capacity : Nat} {lines : List (List UInt8)}
    {r : Except SixStage.Fault Image} (h : Reads capacity lines r) :
    (scan capacity 1 #[] lines).mapError Fault.toFault = r := by
  have start : ∀ {before words}, Holds before words → words.length ≤ capacity → ∀ rest,
      scan capacity 1 #[] (before ++ rest) =
        scan capacity (before.length + 1) words.toArray rest := by
    intro before words holds room rest
    rw [scan_of_holds holds (by simpa using room), Nat.add_comm, Array.empty_append]
  cases h with
  | whole holds fits =>
    have hs := start holds fits []
    rw [List.append_nil] at hs
    rw [hs]
    rfl
  | truncated split holds full shows more =>
    subst split
    rw [start holds (Nat.le_of_eq full), scan_of_shows shows more, List.size_toArray, if_pos full]
    rfl
  | notText split holds fits broken =>
    subst split
    rw [start holds fits, scan_of_not_text broken]
    rfl
  | malformed split holds room shows text noWord =>
    subst split
    have none : word? _ = none :=
      Option.eq_none_iff_forall_ne_some.mpr fun w hw => noWord w (word?_eq_some_iff.mp hw)
    rw [start holds (Nat.le_of_lt room), scan_of_shows shows text, List.size_toArray,
      if_neg (Nat.ne_of_lt room), none]
    rfl

theorem parse_iff {bytes : List UInt8} {capacity : Nat} {r : Except SixStage.Fault Image} :
    (parse bytes capacity).mapError Fault.toFault = r ↔
      Reads capacity (physicalLines bytes) r := by
  rw [parse, linesOf_eq]
  constructor
  · rintro rfl
    exact reads_scan Holds.nil (Nat.zero_le _)
  · exact scan_of_reads

theorem parse_eq_ok_iff {bytes : List UInt8} {capacity : Nat} {image : Image} :
    parse bytes capacity = .ok image ↔ Reads capacity (physicalLines bytes) (.ok image) := by
  rw [← parse_iff]
  cases parse bytes capacity <;> simp [Except.mapError]

/-! ## What is read -/

/-- The lines that are not blank. -/
def filled (lines : List (List UInt8)) : List (List UInt8) :=
  lines.filter fun line => ¬ Shows line []

theorem filled_of_holds {lines : List (List UInt8)} {words : List Word} (h : Holds lines words) :
    List.Forall₂ (fun line w => ∃ t, Shows line t ∧ Spells t w) (filled lines) words := by
  induction h with
  | nil => exact .nil
  | blank shows _ ih => rwa [filled, List.filter_cons_of_neg (by simpa using shows)]
  | word shows spells _ ih =>
    have text : ¬ Shows _ [] := fun blank => spells.nonempty (shows_unique shows blank)
    rw [filled, List.filter_cons_of_pos (by simpa using text)]
    exact .cons ⟨_, shows, spells⟩ ih

/-- Each word of some lines stands on one of them, behind those that hold the words before it. -/
theorem split_of_holds {lines : List (List UInt8)} {words : List Word} (h : Holds lines words)
    {k : Nat} (hk : k < words.length) :
    ∃ before line after t, lines = before ++ line :: after ∧ Holds before (words.take k) ∧
      Shows line t ∧ t ≠ [] := by
  induction h generalizing k with
  | nil => cases hk
  | @blank line lines words shows _ ih =>
    obtain ⟨before, next, after, t, rfl, holds, rest⟩ := ih hk
    exact ⟨line :: before, next, after, t, rfl, .blank shows holds, rest⟩
  | @word line lines words t w shows spells rest ih =>
    cases k with
    | zero => exact ⟨[], line, lines, t, rfl, .nil, shows, spells.nonempty⟩
    | succ k =>
      obtain ⟨before, next, after, t', rfl, holds, rest⟩ := ih (Nat.lt_of_succ_lt_succ hk)
      exact ⟨line :: before, next, after, t', rfl, .word shows spells holds, rest⟩

theorem words_of_reads {capacity : Nat} {lines : List (List UInt8)} {image : Image}
    (h : Reads capacity lines (.ok image)) :
    List.Forall₂ (fun line w => ∃ t, Shows line t ∧ Spells t w) ((filled lines).take capacity)
      image.words := by
  cases h with
  | whole holds fits =>
    have words := filled_of_holds holds
    rwa [List.take_of_length_le (by rwa [words.length_eq])]
  | truncated split holds full shows more =>
    have words := filled_of_holds holds
    subst split
    rwa [filled, List.filter_append, ← filled, List.take_append_of_le_length
      (by rw [words.length_eq, full]), List.take_of_length_le (by rw [words.length_eq, full])]

/-- Lines that hold more words than there is room for are cut, whatever comes after them. -/
theorem reads_of_holds {capacity : Nat} {lines : List (List UInt8)} {words : List Word}
    (h : Holds lines words) (more : capacity < words.length) (rest : List (List UInt8)) :
    Reads capacity (lines ++ rest) (.ok ⟨words.take capacity, true⟩) := by
  obtain ⟨before, line, after, t, rfl, holds, shows, text⟩ := split_of_holds h more
  rw [List.append_assoc, List.cons_append]
  apply Reads.truncated rfl holds ?_ shows text
  rw [List.length_take, Nat.min_eq_left (Nat.le_of_lt more)]

/-- With less room the same words come, as many as there is room for. -/
theorem reads_of_le {capacity larger : Nat} {lines : List (List UInt8)} {image : Image}
    (h : Reads larger lines (.ok image)) (le : capacity ≤ larger) :
    ∃ truncated, Reads capacity lines (.ok ⟨image.words.take capacity, truncated⟩) := by
  cases h with
  | @whole words holds fits =>
    by_cases more : capacity < words.length
    · have hr := reads_of_holds holds more []
      rw [List.append_nil] at hr
      exact ⟨true, hr⟩
    · rw [Nat.not_lt] at more
      refine ⟨false, ?_⟩
      rw [List.take_of_length_le more]
      exact .whole holds more
  | @truncated before line after words t split holds full shows text =>
    refine ⟨true, ?_⟩
    by_cases more : capacity < words.length
    · rw [split]
      exact reads_of_holds holds more _
    · have same : words.length = capacity := by omega
      rw [List.take_of_length_le (Nat.le_of_eq same)]
      exact .truncated split holds same shows text

/-- An image that is cut off is cut at one of its lines, and what comes after that line changes
nothing. -/
theorem exists_cut {bytes : List UInt8} {capacity : Nat} {words : List Word}
    (h : parse bytes capacity = .ok ⟨words, true⟩) :
    ∃ before line after, physicalLines bytes = before ++ line :: after ∧
      ∀ bytes' after', physicalLines bytes' = before ++ line :: after' →
        parse bytes' capacity = .ok ⟨words, true⟩ := by
  cases parse_eq_ok_iff.mp h with
  | @truncated before line after _ t split holds full shows more =>
    refine ⟨before, line, after, split, fun bytes' after' split' => ?_⟩
    exact parse_eq_ok_iff.mpr (.truncated split' holds full shows more)

/-- An image is read by its grammar. The outcome is the one that `Reads` gives to the lines of the
file, and there is no other: all words, or as many as there is room for, or the fault of the first
line that is not UTF-8 or, with room left, no word. The words are those of the first lines that
are not blank; behind the line where an image is cut off, nothing matters; and with less room
the words are the first of those that come with more. -/
theorem images_are_read_by_their_grammar (bytes : List UInt8) (capacity : Nat) :
    (∀ r, (parse bytes capacity).mapError Fault.toFault = r ↔
      Reads capacity (physicalLines bytes) r) ∧
    (∀ image, parse bytes capacity = .ok image →
      List.Forall₂ (fun line w => ∃ t, Shows line t ∧ Spells t w)
        ((filled (physicalLines bytes)).take capacity) image.words) ∧
    (∀ words, parse bytes capacity = .ok ⟨words, true⟩ →
      ∃ before line after, physicalLines bytes = before ++ line :: after ∧
        ∀ bytes' after', physicalLines bytes' = before ++ line :: after' →
          parse bytes' capacity = .ok ⟨words, true⟩) ∧
    ∀ larger image, capacity ≤ larger → parse bytes larger = .ok image →
      ∃ truncated, parse bytes capacity = .ok ⟨image.words.take capacity, truncated⟩ := by
  refine ⟨fun r => parse_iff, fun image h => ?_, fun words h => exists_cut h,
    fun larger image le h => ?_⟩
  · exact words_of_reads (parse_eq_ok_iff.mp h)
  · obtain ⟨truncated, hr⟩ := reads_of_le (parse_eq_ok_iff.mp h) le
    exact ⟨truncated, parse_eq_ok_iff.mpr hr⟩

/-- A word before a carriage return, one behind a wide space, a blank line, a sign that no word
has, and a byte that is no text. Room for two words ends the reading before the sign; room for
three does not, and then line four is told. -/
theorem room_decides_which_fault_is_met :
    let file : List UInt8 := [0x31, 0x0d, 0x0a, 0xe2, 0x80, 0x83, 0x62, 0x45, 0x45, 0x66, 0x0a,
      0x0a, 0x2b, 0x35, 0x0a, 0xff]
    parse file 2 = .ok ⟨[1, 0xbeef], true⟩ ∧
      (∃ truncated, parse file 1 = .ok ⟨[1], truncated⟩) ∧
      Reads 3 (physicalLines file) (.error (.imageFormat 4 "+5")) := by
  intro file
  have two : parse file 2 = .ok ⟨[1, 0xbeef], true⟩ := rfl
  have three : (parse file 3).mapError Fault.toFault = .error (.imageFormat 4 "+5") := rfl
  obtain ⟨_, _, _, less⟩ := images_are_read_by_their_grammar file 1
  obtain ⟨grammar, _⟩ := images_are_read_by_their_grammar file 3
  exact ⟨two, less 2 _ (by decide) two, (grammar _).mp three⟩

end Image

end SixStage
