-- Instructions as words, and words as instructions. A word has room for five bits of
-- the opcode and for half of the immediate, and what has room comes back. Decoding takes
-- no notice of the top two bits of a word, and encoding clears them. So an instruction and
-- the lower thirty bits of a legal word say the same.
import SixStage.Isa.Codec

namespace SixStage

/-! ## Codes -/

namespace Opcode

variable {o : Opcode} {c : BitVec 8}

theorem ofCode?_eq_some_iff : ofCode? c = some o ↔ o.code = c := by
  constructor
  · intro h
    simpa using List.find?_some h
  · rintro rfl
    cases o <;> rfl

theorem ofCode?_eq_none_iff : ofCode? c = none ↔ ∀ o : Opcode, o.code ≠ c := by
  simp only [Option.eq_none_iff_forall_ne_some, ne_eq, ofCode?_eq_some_iff]

/-- Every code has room in its field. -/
theorem code_mod (o : Opcode) : o.code % 32 = o.code := by
  cases o <;> rfl

end Opcode

/-! ## Words by their bits -/

theorem Word.getLsbD_and_mask (w : Word) (k : Nat) :
    (w &&& 0x3fffffff).getLsbD k = (decide (k < 30) && w.getLsbD k) := by
  have mask : (0x3fffffff : Word) = (BitVec.allOnes 30).setWidth 32 := rfl
  rw [BitVec.getLsbD_and, mask, BitVec.getLsbD_setWidth, BitVec.getLsbD_allOnes, Bool.and_comm]
  by_cases hk : k < 30
  · simp [hk, show k < 32 by omega]
  · simp [hk]

theorem Word.and_mask_eq_iff {w w' : Word} :
    w &&& 0x3fffffff = w' &&& 0x3fffffff ↔ ∀ k < 30, w.getLsbD k = w'.getLsbD k := by
  constructor
  · intro h k hk
    have bit := congrArg (fun v : Word => v.getLsbD k) h
    simpa only [getLsbD_and_mask, hk, decide_true, Bool.true_and] using bit
  · intro h
    apply BitVec.eq_of_getLsbD_eq
    intro k _
    rw [getLsbD_and_mask, getLsbD_and_mask]
    by_cases hk : k < 30
    · rw [h k hk]
    · simp [hk]

/-- With its sign extended, a half word keeps its own bits. -/
theorem Word.setWidth_signExtend (half : BitVec 16) :
    (half.signExtend 32).setWidth 16 = half := by
  apply BitVec.eq_of_getLsbD_eq
  intro k hk
  rw [BitVec.getLsbD_setWidth, BitVec.getLsbD_signExtend]
  simp [hk, show k < 32 by omega]

namespace Instruction

/-! ## Fields -/

section Fields

variable (code : BitVec 8) (dst src0 src1 : Reg) (imm : Word)

/-- What a field has room for is what its mask leaves. -/
theorem setWidth_setWidth_eq_and {n : Nat} (x : BitVec n) (m : Nat) :
    (x.setWidth m).setWidth 32 = x.setWidth 32 &&& (BitVec.allOnes m).setWidth 32 := by
  apply BitVec.eq_of_getLsbD_eq
  intro k hk
  simp [hk, Bool.and_comm]

/-- The fields stand side by side in the word. -/
theorem encodeFields_eq_or :
    encodeFields code dst src0 src1 imm =
      (code.setWidth 32 &&& 0x1f) <<< 25 ||| dst.setWidth 32 <<< 22 |||
        src0.setWidth 32 <<< 19 ||| src1.setWidth 32 <<< 16 ||| (imm &&& 0xffff) := by
  have joined : ∀ {m n : Nat} (x : BitVec m) (y : BitVec n),
      (x ++ y).setWidth 32 = x.setWidth 32 <<< n ||| y.setWidth 32 :=
    fun _ _ => BitVec.setWidth_append_eq_shiftLeft_setWidth_or
  have opcode : (code.setWidth 5).setWidth 32 = code.setWidth 32 &&& 0x1f :=
    setWidth_setWidth_eq_and code 5
  have half : (imm.setWidth 16).setWidth 32 = imm &&& 0xffff := by
    rw [setWidth_setWidth_eq_and, BitVec.setWidth_eq]
    rfl
  rw [← BitVec.setWidth_eq (encodeFields code dst src0 src1 imm), encodeFields]
  simp only [joined, opcode, half, BitVec.or_assoc]
  exact BitVec.zero_or

theorem opcodeField_encodeFields :
    opcodeField (encodeFields code dst src0 src1 imm) = code % 32 := by
  have field : (encodeFields code dst src0 src1 imm).extractLsb' 25 5 = code.setWidth 5 := by
    simp (disch := decide) only [encodeFields, BitVec.extractLsb'_append_eq_of_add_le]
    exact BitVec.extractLsb'_append_eq_left
  rw [opcodeField, field]
  apply BitVec.eq_of_toNat_eq
  simp
  omega

theorem dstField_encodeFields : dstField (encodeFields code dst src0 src1 imm) = dst := by
  simp (disch := decide) only [dstField, encodeFields, BitVec.extractLsb'_append_eq_of_add_le]
  exact BitVec.extractLsb'_append_eq_left

theorem src0Field_encodeFields : src0Field (encodeFields code dst src0 src1 imm) = src0 := by
  simp (disch := decide) only [src0Field, encodeFields, BitVec.extractLsb'_append_eq_of_add_le]
  exact BitVec.extractLsb'_append_eq_left

theorem src1Field_encodeFields : src1Field (encodeFields code dst src0 src1 imm) = src1 := by
  simp (disch := decide) only [src1Field, encodeFields, BitVec.extractLsb'_append_eq_of_add_le]
  exact BitVec.extractLsb'_append_eq_left

theorem immField_encodeFields :
    immField (encodeFields code dst src0 src1 imm) = (imm.setWidth 16).signExtend 32 := by
  simp (disch := decide) only [immField, encodeFields, BitVec.extractLsb'_append_eq_of_add_le]
  rw [BitVec.extractLsb'_eq_self]

end Fields

theorem setWidth_opcodeField (w : Word) : (opcodeField w).setWidth 5 = w.extractLsb' 25 5 := by
  rw [opcodeField, BitVec.setWidth_setWidth_of_le _ (by decide), BitVec.setWidth_eq]

theorem setWidth_immField (w : Word) : (immField w).setWidth 16 = w.extractLsb' 0 16 :=
  Word.setWidth_signExtend _

/-- Side by side again, the fields of a word are its lower thirty bits. -/
theorem encodeFields_fields (w : Word) :
    encodeFields (opcodeField w) (dstField w) (src0Field w) (src1Field w) (immField w) =
      w &&& 0x3fffffff := by
  -- The five fields meet at four places, from the lowest up.
  have joined : encodeFields (opcodeField w) (dstField w) (src0Field w) (src1Field w)
      (immField w) = (0 : BitVec 2) ++ w.extractLsb' 0 30 := by
    rw [encodeFields, setWidth_opcodeField, setWidth_immField, dstField, src0Field, src1Field,
      BitVec.extractLsb'_append_extractLsb'_eq_extractLsb' (by rfl),
      BitVec.extractLsb'_append_extractLsb'_eq_extractLsb' (by rfl),
      BitVec.extractLsb'_append_extractLsb'_eq_extractLsb' (by rfl),
      BitVec.extractLsb'_append_extractLsb'_eq_extractLsb' (by rfl)]
  rw [joined]
  apply BitVec.eq_of_getLsbD_eq
  intro k _
  rw [Word.getLsbD_and_mask, BitVec.getLsbD_append, BitVec.getLsbD_extractLsb']
  by_cases hk : k < 30 <;> simp [hk]

/-! ## Instructions -/

variable {w w' : Word} {i : Instruction} {o : Opcode}

theorem decode_of_code (h : o.code = opcodeField w) :
    decode w = .ok ⟨o, dstField w, src0Field w, src1Field w, immField w⟩ := by
  rw [decode, Opcode.ofCode?_eq_some_iff.mpr h]

/-- A word is illegal if no operation has its code, and the code is all there is to tell. -/
theorem decode_eq_error_iff {c : BitVec 8} :
    decode w = .error c ↔ opcodeField w = c ∧ ∀ o : Opcode, o.code ≠ c := by
  constructor
  · intro h
    unfold decode at h
    split at h
    · next none =>
      cases h
      exact ⟨rfl, Opcode.ofCode?_eq_none_iff.mp none⟩
    · cases h
  · rintro ⟨rfl, none⟩
    rw [decode, Opcode.ofCode?_eq_none_iff.mpr none]

theorem fields_of_decode (h : decode w = .ok i) :
    i.opcode.code = opcodeField w ∧
      i = ⟨i.opcode, dstField w, src0Field w, src1Field w, immField w⟩ := by
  unfold decode at h
  split at h
  · cases h
  · next o some =>
    cases h
    exact ⟨Opcode.ofCode?_eq_some_iff.mp some, rfl⟩

theorem encode_of_decode (h : decode w = .ok i) : i.encode = w &&& 0x3fffffff := by
  obtain ⟨code, fields⟩ := fields_of_decode h
  rw [encode, code, fields]
  exact encodeFields_fields w

/-- The immediate of a decoded word is a half word with its sign. -/
theorem imm_of_decode (h : decode w = .ok i) :
    (i.imm.setWidth 16).signExtend 32 = i.imm ∧ -32768 ≤ i.imm.toInt ∧ i.imm.toInt ≤ 32767 := by
  obtain ⟨_, fields⟩ := fields_of_decode h
  have imm : i.imm = immField w := by rw [fields]
  rw [imm, setWidth_immField]
  have value : (immField w).toInt = (w.extractLsb' 0 16).toInt :=
    BitVec.toInt_signExtend_of_le (by decide)
  have low := BitVec.le_toInt (w.extractLsb' 0 16)
  have high := BitVec.toInt_le (x := w.extractLsb' 0 16)
  rw [← value] at low high
  exact ⟨rfl, low, high⟩

section Fields

variable {code : BitVec 8} {dst src0 src1 : Reg} {imm : Word}

theorem decode_encodeFields (h : o.code = code % 32) :
    decode (encodeFields code dst src0 src1 imm) =
      .ok ⟨o, dst, src0, src1, (imm.setWidth 16).signExtend 32⟩ := by
  rw [← opcodeField_encodeFields code dst src0 src1 imm] at h
  rw [decode_of_code h, dstField_encodeFields, src0Field_encodeFields, src1Field_encodeFields,
    immField_encodeFields]

theorem decode_encodeFields_eq_error_iff :
    decode (encodeFields code dst src0 src1 imm) = .error (code % 32) ↔
      ∀ o : Opcode, o.code ≠ code % 32 := by
  rw [decode_eq_error_iff, opcodeField_encodeFields]
  exact and_iff_right rfl

end Fields

theorem decode_encode (i : Instruction) :
    decode i.encode = .ok { i with imm := (i.imm.setWidth 16).signExtend 32 } :=
  decode_encodeFields i.opcode.code_mod.symm

/-- The top two bits of a word do not matter. -/
theorem decode_and_mask (h : decode w = .ok i) : decode (w &&& 0x3fffffff) = .ok i := by
  rw [← encode_of_decode h, decode_encode, (imm_of_decode h).1]

theorem inst_eq_iff {i' : Instruction} (h : decode w = .ok i) (h' : decode w' = .ok i') :
    i = i' ↔ ∀ k < 30, w.getLsbD k = w'.getLsbD k := by
  rw [← Word.and_mask_eq_iff]
  constructor
  · rintro rfl
    rw [← encode_of_decode h, ← encode_of_decode h']
  · intro same
    have decoded := decode_and_mask h
    rw [same, decode_and_mask h'] at decoded
    exact (Except.ok.inj decoded).symm

/-- Words and instructions correspond. A legal word is the encoding of its instruction, up to
the two bits that mean nothing, and its immediate is a half word with its sign. An instruction
comes back from its encoding with what the immediate field has room for. Raw fields are packed
side by side; they come back the same way if the low five bits of the opcode are the code of
an operation, and as an illegal word with these bits if they are not. Two legal words hold the
same instruction exactly if they agree on their lower thirty bits. -/
theorem words_and_instructions_correspond :
    (∀ w i, decode w = .ok i →
      i.encode = w &&& 0x3fffffff ∧ -32768 ≤ i.imm.toInt ∧ i.imm.toInt ≤ 32767) ∧
    (∀ i : Instruction,
      decode i.encode = .ok { i with imm := (i.imm.setWidth 16).signExtend 32 }) ∧
    (∀ (code : BitVec 8) (dst src0 src1 : Reg) (imm : Word),
      let w := encodeFields code dst src0 src1 imm
      w = ((code.setWidth 32 &&& 0x1f) <<< 25 ||| dst.setWidth 32 <<< 22 |||
        src0.setWidth 32 <<< 19 ||| src1.setWidth 32 <<< 16 ||| (imm &&& 0xffff)) ∧
      (decode w = .error (code % 32) ↔ ∀ o : Opcode, o.code ≠ code % 32) ∧
      ∀ o : Opcode, o.code = code % 32 →
        decode w = .ok ⟨o, dst, src0, src1, (imm.setWidth 16).signExtend 32⟩) ∧
    ∀ w w' i i', decode w = .ok i → decode w' = .ok i' →
      (i = i' ↔ ∀ k < 30, w.getLsbD k = w'.getLsbD k) := by
  refine ⟨fun w i h => ?_, decode_encode, fun code dst src0 src1 imm => ?_, fun w w' i i' => ?_⟩
  · exact ⟨encode_of_decode h, (imm_of_decode h).2⟩
  · exact ⟨encodeFields_eq_or code dst src0 src1 imm, decode_encodeFields_eq_error_iff,
      fun o => decode_encodeFields⟩
  · exact inst_eq_iff

/-- A store with the lowest immediate, once with the top two bits of its word set, and the same
fields with more in the opcode and in the immediate than there is room for. -/
theorem a_store_and_its_words :
    let i : Instruction := ⟨.st, 3, 2, 5, 0xffff8000⟩
    decode 0xd2d58000 = .ok i ∧ i.encode = 0xd2d58000 &&& 0x3fffffff ∧ -32768 ≤ i.imm.toInt ∧
      decode (encodeFields 0xe9 3 2 5 0x12348000) = .ok i ∧
      decode (encodeFields 0xec 3 2 5 0x12348000) = .error 12 ∧
      ∀ k < 30, (0xd2d58000 : Word).getLsbD k = (0x12d58000 : Word).getLsbD k := by
  intro i
  obtain ⟨legal, _, raw, same⟩ := words_and_instructions_correspond
  have decoded : decode 0xd2d58000 = .ok i := rfl
  obtain ⟨encoded, low, _⟩ := legal _ _ decoded
  have stored := (raw 0xe9 3 2 5 0x12348000).2.2 .st (by decide)
  have illegal := (raw 0xec 3 2 5 0x12348000).2.1.mpr fun o => by cases o <;> decide
  exact ⟨decoded, encoded, low, stored, illegal,
    (same _ 0x12d58000 i i decoded rfl).mp rfl⟩

end Instruction

end SixStage
