-- The text of an instruction tells what it does. It names the opcode and shows the
-- fields that matter to it, each so that it can be told from any other; the fields
-- that it leaves out have no part in what the instruction does.
import SixStage.Isa.Disassembly
import SixStage.Proofs.Codec
import SixStage.Sequential

namespace SixStage

/-! ## Numbers -/

namespace Text

theorem natText_inj {m n : Nat} (h : toString m = toString n) : m = n := by
  have digits := congrArg String.toList h
  rw [Nat.toString_eq_repr, Nat.toString_eq_repr, Nat.toList_repr, Nat.toList_repr] at digits
  have read := congrArg (Nat.ofDigitChars 10 · 0) digits
  simpa only [Nat.ofDigitChars_ten_toDigits] using read

/-- A minus sign stands before negative numbers only. -/
theorem minus_not_mem_natText (n : Nat) : '-' ∉ (toString n).toList := by
  intro minus
  rw [Nat.toString_eq_repr, Nat.toList_repr] at minus
  exact absurd (Nat.isDigit_of_mem_toDigits (by decide) (by decide) minus) (by decide)

theorem intText_inj {m n : Int} (h : toString m = toString n) : m = n := by
  have natural : ∀ k : Nat, toString (Int.ofNat k) = toString k := fun _ => rfl
  have negative : ∀ k : Nat, toString (Int.negSucc k) = "-" ++ toString (k + 1) := fun _ => rfl
  have minus : ∀ s : String, '-' ∈ ("-" ++ s).toList := by
    intro s
    rw [String.toList_append]
    exact List.mem_append_left _ (by decide)
  cases m with
  | ofNat m =>
    cases n with
    | ofNat n =>
      rw [natText_inj h]
    | negSucc n =>
      rw [natural, negative] at h
      exact absurd (h ▸ minus _) (minus_not_mem_natText m)
  | negSucc m =>
    cases n with
    | ofNat n =>
      rw [natural, negative] at h
      exact absurd (h ▸ minus _) (minus_not_mem_natText n)
    | negSucc n =>
      rw [negative, negative, String.append_right_inj] at h
      rw [Nat.add_right_cancel (natText_inj h)]

end Text

/-! ## Names -/

/-- A register is named by two characters, so what follows its name is known too. -/
theorem Reg.name_append_inj {r r' : Reg} {s s' : String} (h : r.name ++ s = r'.name ++ s') :
    r = r' ∧ s = s' := by
  have chars : ∀ r : Reg, r.name.toList = ['r', r.toNat.digitChar] := by decide
  have digits : ∀ r r' : Reg, r.toNat.digitChar = r'.toNat.digitChar → r = r' := by decide
  have h := congrArg String.toList h
  rw [String.toList_append, String.toList_append, chars, chars] at h
  obtain ⟨digit, rest⟩ := List.cons.inj (List.cons.inj h).2
  exact ⟨digits r r' digit, String.toList_inj.mp rest⟩

namespace Opcode

theorem mnemonic_injective {o o' : Opcode} (h : o.mnemonic = o'.mnemonic) : o = o' := by
  have found : ∀ o : Opcode, all.find? (fun p => p.mnemonic = o.mnemonic) = some o := by
    intro o
    cases o <;> rfl
  have same := found o
  rw [h, found o'] at same
  exact (Option.some.inj same).symm

theorem space_not_mem_mnemonic (o : Opcode) : ' ' ∉ o.mnemonic.toList := by
  cases o <;> decide

theorem mnemonic_starts (o : Opcode) : ∃ c l, o.mnemonic.toList = c :: l ∧ c ≠ 'I' := by
  cases o <;> exact ⟨_, _, rfl, by decide⟩

end Opcode

namespace Instruction

variable {i i' : Instruction}

/-! ## What the text shows -/

/-- The registers that the text shows, and the number behind them. -/
def shown (i : Instruction) : List Reg × Option Int :=
  match i.opcode with
  | .hlt => ([], none)
  | .lhi => ([i.dst], some i.unsignedImm)
  | .jin => ([i.src0], some i.imm.toInt)
  | .jlt | .jle | .jeq | .jne => ([i.src0, i.src1], some i.unsignedImm)
  | .dmp => ([i.dst], none)
  | _ => ([i.dst, i.src0, i.src1], some i.imm.toInt)

/-- Registers and a number, with a separator before the first and a comma before the others. -/
def listText (separator : String) : List Reg → Option Int → String
  | [], none => ""
  | [], some n => separator ++ toString n
  | r :: l, n => separator ++ (r.name ++ listText ", " l n)

theorem render_eq (i : Instruction) :
    i.render = i.opcode.mnemonic ++ listText " " i.shown.1 i.shown.2 := by
  have string : ∀ s : String, toString s = s := fun _ => rfl
  have number : ∀ n : Nat, toString (n : Int) = toString n := fun _ => rfl
  have words : "LHI " = "LHI" ++ " " ∧ "JIN " = "JIN" ++ " " ∧ "DMP " = "DMP" ++ " " := by decide
  unfold render shown
  cases i.opcode <;>
    simp only [listText, Opcode.mnemonic, string, number, words, String.append_assoc,
      String.append_empty]

theorem listText_inj {separator : String} {l l' : List Reg} {n n' : Option Int}
    (length : l.length = l'.length) (number : n.isSome = n'.isSome)
    (h : listText separator l n = listText separator l' n') : l = l' ∧ n = n' := by
  induction l generalizing separator l' with
  | nil =>
    obtain rfl : l' = [] := List.length_eq_zero_iff.mp length.symm
    cases n with
    | none =>
      cases n' with
      | none => exact ⟨rfl, rfl⟩
      | some => cases number
    | some n =>
      cases n' with
      | none => cases number
      | some n' =>
        have same := Text.intText_inj ((String.append_right_inj separator).mp h)
        exact ⟨rfl, congrArg some same⟩
  | cons r l ih =>
    cases l' with
    | nil => cases length
    | cons r' l' =>
      obtain ⟨rfl, rest⟩ := Reg.name_append_inj ((String.append_right_inj separator).mp h)
      obtain ⟨rfl, same⟩ := ih (Nat.succ.inj length) rest
      exact ⟨rfl, same⟩

theorem takeWhile_listText (l : List Reg) (n : Option Int) :
    (listText " " l n).toList.takeWhile (· ≠ ' ') = [] := by
  have blank : " ".toList = [' '] := by decide
  rcases l, n with ⟨_ | ⟨r, l⟩, _ | n⟩
  · rw [listText, String.toList_empty, List.takeWhile_nil]
  all_goals
    rw [listText, String.toList_append, blank, List.singleton_append,
      List.takeWhile_cons_of_neg (by decide)]

/-- The mnemonic ends at the first blank. -/
theorem takeWhile_render (i : Instruction) :
    i.render.toList.takeWhile (· ≠ ' ') = i.opcode.mnemonic.toList := by
  have word : ∀ c ∈ i.opcode.mnemonic.toList, decide (c ≠ ' ') = true := by
    intro c hc
    exact decide_eq_true fun blank => i.opcode.space_not_mem_mnemonic (blank ▸ hc)
  rw [render_eq, String.toList_append, List.takeWhile_append_of_pos word, takeWhile_listText,
    List.append_nil]

theorem opcode_of_render (h : i.render = i'.render) : i.opcode = i'.opcode := by
  have names := i.takeWhile_render
  rw [h, takeWhile_render] at names
  exact Opcode.mnemonic_injective (String.toList_inj.mp names.symm)

/-- Two instructions with the same text show the same. -/
theorem shown_of_render (h : i.render = i'.render) : i.shown = i'.shown := by
  have opcode := opcode_of_render h
  have shape : i.shown.1.length = i'.shown.1.length ∧ i.shown.2.isSome = i'.shown.2.isSome := by
    unfold shown
    rw [opcode]
    cases i'.opcode <;> simp only [List.length_cons, List.length_nil, Option.isSome_some, and_self]
  rw [render_eq, render_eq, opcode, String.append_right_inj] at h
  obtain ⟨registers, number⟩ := listText_inj shape.1 shape.2 h
  exact Prod.ext registers number

/-! ## What matters -/

/-- The instruction with the fields cleared that are of no use to its opcode. -/
def live (i : Instruction) : Instruction :=
  match i.opcode with
  | .hlt => ⟨.hlt, 0, 0, 0, 0⟩
  | .lhi => { i with src0 := 0, src1 := 0 }
  | .jin => { i with dst := 0, src1 := 0 }
  | .jlt | .jle | .jeq | .jne => { i with dst := 0 }
  | .dmp => { i with src0 := 0, src1 := 0, imm := 0 }
  | _ => i

/-- The immediate is a half word with its sign extended. -/
def Extended (i : Instruction) : Prop := ∃ half : BitVec 16, i.imm = half.signExtend 32

theorem extended_of_decode {w : Word} (h : decode w = .ok i) : i.Extended := by
  unfold decode at h
  split at h
  · cases h
  · cases h
    exact ⟨_, rfl⟩

theorem imm_of_unsignedImm (h : i.Extended) (h' : i'.Extended)
    (same : i.unsignedImm = i'.unsignedImm) : i.imm = i'.imm := by
  obtain ⟨half, hi⟩ := h
  obtain ⟨half', hi'⟩ := h'
  rw [unsignedImm, unsignedImm, hi, hi', Word.setWidth_signExtend, Word.setWidth_signExtend]
    at same
  rw [hi, hi', BitVec.eq_of_toNat_eq same]

/-- The text shows all fields that are of use. -/
theorem live_of_shown (opcode : i.opcode = i'.opcode) (h : i.Extended) (h' : i'.Extended)
    (same : i.shown = i'.shown) : i.live = i'.live := by
  obtain ⟨o, dst, src0, src1, imm⟩ := i
  obtain ⟨o', dst', src0', src1', imm'⟩ := i'
  obtain rfl : o = o' := opcode
  have unsigned := imm_of_unsignedImm h h'
  have signed : imm.toInt = imm'.toInt → imm = imm' := BitVec.eq_of_toInt_eq
  -- One case for each way to show fields.
  unfold shown at same
  unfold live
  cases o with
  | hlt => rfl
  | dmp =>
    obtain ⟨rfl, _⟩ := List.cons.inj (Prod.mk.inj same).1
    rfl
  | lhi =>
    obtain ⟨registers, number⟩ := Prod.mk.inj same
    obtain ⟨rfl, _⟩ := List.cons.inj registers
    obtain rfl : imm = imm' := unsigned (Int.ofNat.inj (Option.some.inj number))
    rfl
  | jin =>
    obtain ⟨registers, number⟩ := Prod.mk.inj same
    obtain ⟨rfl, _⟩ := List.cons.inj registers
    obtain rfl : imm = imm' := signed (Option.some.inj number)
    rfl
  | jlt | jle | jeq | jne =>
    obtain ⟨registers, number⟩ := Prod.mk.inj same
    obtain ⟨rfl, registers⟩ := List.cons.inj registers
    obtain ⟨rfl, _⟩ := List.cons.inj registers
    obtain rfl : imm = imm' := unsigned (Int.ofNat.inj (Option.some.inj number))
    rfl
  | _ =>
    obtain ⟨registers, number⟩ := Prod.mk.inj same
    obtain ⟨rfl, registers⟩ := List.cons.inj registers
    obtain ⟨rfl, registers⟩ := List.cons.inj registers
    obtain ⟨rfl, _⟩ := List.cons.inj registers
    obtain rfl : imm = imm' := signed (Option.some.inj number)
    rfl

/-- Nothing else bears on what an instruction asks for. -/
theorem action_live (i : Instruction) (regs : RegFile) (free : Bool) :
    i.live.action regs free = i.action regs free := by
  obtain ⟨o, dst, src0, src1, imm⟩ := i
  cases o <;> rfl

/-! ## What the text says -/

theorem render_ne_illegal (i : Instruction) (n : Nat) : i.render ≠ s!"ILLEGAL({n})" := by
  intro h
  obtain ⟨c, l, name, other⟩ := i.opcode.mnemonic_starts
  have illegal : "ILLEGAL(".toList = 'I' :: "LLEGAL(".toList := by decide
  have text := congrArg String.toList h
  rw [render_eq] at text
  change _ = ("ILLEGAL(" ++ toString n ++ ")").toList at text
  simp only [String.toList_append, name, illegal, List.cons_append] at text
  exact other (List.cons.inj text).1

theorem illegal_inj {code other : BitVec 8}
    (h : s!"ILLEGAL({code.toNat})" = s!"ILLEGAL({other.toNat})") : code = other := by
  have numbers := (String.append_left_inj ")").mp h
  exact BitVec.eq_of_toNat_eq (Text.natText_inj ((String.append_right_inj "ILLEGAL(").mp numbers))

/-- Two words with the same text mean the same. Either both are illegal and have the same opcode,
or both are instructions of one opcode that ask for the same whatever the registers hold and the
copy engine does; so from every state, with every data memory, executing the one has the outcome
of executing the other. -/
theorem disassembly_determines_the_meaning {w w' : Word} (same : disassemble w = disassemble w') :
    (∃ code, decode w = .error code ∧ decode w' = .error code) ∨
    ∃ i i', decode w = .ok i ∧ decode w' = .ok i' ∧ i.opcode = i'.opcode ∧
      (∀ regs free, i.action regs free = i'.action regs free) ∧
      ∀ (code code' : Addr → Word) (e : Surroundings) (s : Sequential),
        code s.pc = w → code' s.pc = w' →
        ∃ outcome, Sequential.step code e s = .ok outcome ∧
          Sequential.step code' e s = .ok outcome := by
  unfold disassemble at same
  rcases hd : decode w with code | i
  · rcases hd' : decode w' with code' | i'
    · rw [hd, hd'] at same
      exact .inl ⟨code, rfl, by rw [illegal_inj same]⟩
    · rw [hd, hd'] at same
      exact absurd same.symm (i'.render_ne_illegal _)
  · rcases hd' : decode w' with code' | i'
    · rw [hd, hd'] at same
      exact absurd same (i.render_ne_illegal _)
    · rw [hd, hd'] at same
      have opcode := opcode_of_render same
      have live := live_of_shown opcode (extended_of_decode hd) (extended_of_decode hd')
        (shown_of_render same)
      have action : ∀ regs free, i.action regs free = i'.action regs free := by
        intro regs free
        rw [← i.action_live, live, i'.action_live]
      refine .inr ⟨i, i', rfl, rfl, opcode, action, ?_⟩
      rintro code code' e s rfl rfl
      simp only [Sequential.step, hd, hd', action]
      exact ⟨_, rfl, rfl⟩

/-- Two words with the same text that differ in all that a jump to the immediate leaves out. -/
theorem words_of_one_jump :
    disassemble 0x2808fffe = "JIN r1, -2" ∧ disassemble 0xe94bfffe = "JIN r1, -2" ∧
      dstField 0x2808fffe ≠ dstField 0xe94bfffe ∧ src1Field 0x2808fffe ≠ src1Field 0xe94bfffe ∧
      ∃ i i', decode 0x2808fffe = .ok i ∧ decode 0xe94bfffe = .ok i' ∧
        ∀ regs free, i.action regs free = i'.action regs free := by
  have text : disassemble 0x2808fffe = "JIN r1, -2" := by decide +kernel
  have text' : disassemble 0xe94bfffe = "JIN r1, -2" := by decide +kernel
  refine ⟨text, text', by decide, by decide, ?_⟩
  rcases disassembly_determines_the_meaning (text.trans text'.symm) with illegal | legal
  · obtain ⟨_, h, _⟩ := illegal
    cases h
  · obtain ⟨i, i', h, h', _, action, _⟩ := legal
    exact ⟨i, i', h, h', action⟩

end Instruction

end SixStage
