import Mathlib.Data.List.Pairwise
import Trainer6800.Proofs.Instruction.Operand
import Trainer6800.Proofs.Memory.Cells

/-!
# Listings lose nothing

A listing shows no bytes, only names and operands, and yet all the bytes it was made from can be found
out from it: two memories that are listed alike hold the same code over the lines.

Three things could be lost in a line, and none is.  The name and the operand are told apart, since the
one has no blank and the other begins with it.  No two opcodes have the same name and operands that look
alike, although a branch target is written like any other address; this is a fact about the opcode map,
and is checked on the map as a whole.  And an operand in the form of a mode comes from just one byte or
word, even the target of a branch, which wraps around the address space.
-/

namespace Trainer6800

/-! ## Names and operands apart -/

/-- A name without blanks and the operand behind it can be told apart. -/
theorem PrintedOperand.append_text_inj {name name' : String} {o o' : PrintedOperand}
    (unspaced : name.toList.all (· != ' ') = true) (unspaced' : name'.toList.all (· != ' ') = true)
    (same : name ++ o.text = name' ++ o'.text) : name = name' ∧ o = o' := by
  have chars : name.toList ++ o.text.toList = name'.toList ++ o'.text.toList := by
    rw [← String.toList_append, ← String.toList_append, same]
  have behind {n : String} (free : n.toList.all (· != ' ') = true) (p : PrintedOperand) :
      (n.toList ++ p.text.toList).dropWhile (· != ' ') = p.text.toList := by
    rw [List.dropWhile_append_of_pos (List.all_eq_true.mp free), p.dropWhile_text]
  have texts : o.text.toList = o'.text.toList := by
    rw [← behind unspaced o, chars, behind unspaced' o']
  constructor
  · rw [texts, List.append_cancel_right_eq] at chars
    exact String.toList_inj.mp chars
  · have read := o.ofChars?_text
    rw [texts, o'.ofChars?_text] at read
    exact (Option.some.inj read).symm

/-! ## Opcodes by their appearance -/

/-- The mode that an operand looks like: a branch target is written like any other address. -/
def AddressingMode.appearance : AddressingMode → AddressingMode
  | relative => extended
  | mode => mode

namespace OpcodeMap

/-- The bytes of a name and the appearance of an operand as one number.  Numbers are compared faster
than texts. -/
def lineKey (name : String) (mode : AddressingMode) : Nat :=
  name.toByteArray.data.toList.foldl (fun n b => 256 * n + b.toNat) mode.appearance.ctorIdx

/-- The key of a defined opcode. -/
def key? (opcode : Nat) : Option Nat :=
  (defineOpcode (UInt8.ofNat opcode)).map fun i => lineKey i.mnemonic i.mode

/-- No two opcodes look alike in a listing, and none looks like a data byte. -/
theorem nodup_keys : (lineKey "FCB" .direct :: (List.range 256).filterMap key?).Nodup := by
  decide +kernel

variable {o o' : UInt8} {i j : Instruction}

theorem key?_of_decode (h : decode o = some i) : key? o.toNat = some (lineKey i.mnemonic i.mode) := by
  rw [key?, UInt8.ofNat_toNat, ← decode_eq, h]
  rfl

/-- An instruction with one byte behind its name is not called what a data byte is called. -/
theorem mnemonic_ne_fcb (h : decode o = some i) (looks : i.mode.appearance = .direct) :
    i.mnemonic ≠ "FCB" := by
  intro same
  have absent := (List.nodup_cons.mp nodup_keys).1
  refine absent (List.mem_filterMap.mpr ⟨o.toNat, List.mem_range.mpr o.toNat_lt, ?_⟩)
  rw [key?_of_decode h, same, lineKey, looks]
  rfl

/-- The name and the appearance of the operand tell the opcode. -/
theorem opcode_unique (h : decode o = some i) (h' : decode o' = some j)
    (name : i.mnemonic = j.mnemonic) (looks : i.mode.appearance = j.mode.appearance) : o = o' := by
  have distinct := List.pairwise_filterMap.mp (List.nodup_cons.mp nodup_keys).2
  have symmetric : Std.Symm fun m n =>
      ∀ k, key? m = some k → ∀ l, key? n = some l → k ≠ l :=
    ⟨fun _ _ differ k hk l hl => (differ l hl k hk).symm⟩
  by_contra other
  refine distinct.forall (List.mem_range.mpr o.toNat_lt) (List.mem_range.mpr o'.toNat_lt)
    (fun same => other (UInt8.toNat_inj.mp same)) _ (key?_of_decode h) _ (key?_of_decode h') ?_
  rw [lineKey, lineKey, name, looks]

end OpcodeMap

/-! ## Operands and the bytes behind them -/

theorem lowByte_signExtend (b : UInt8) : lowByte (signExtend b) = b := by
  have all : ∀ n : Fin 256, lowByte (signExtend (UInt8.ofFin n)) = UInt8.ofFin n := by decide +kernel
  exact all b.toFin

variable {M N : Type} [AddressSpace M] [AddressSpace N] {m : M} {m' : N} {address : UInt16}

open AddressSpace

/-- Both memories hold the same bytes at an address and behind it. -/
def SameBytes (m : M) (m' : N) (address : UInt16) (length : Nat) : Prop :=
  ∀ k < length, read m (address + UInt16.ofNat k) = read m' (address + UInt16.ofNat k)

theorem SameBytes.nothing : SameBytes m m' address 0 :=
  fun k none => absurd none (Nat.not_lt_zero k)

theorem SameBytes.cons {length : Nat} (first : read m address = read m' address)
    (rest : SameBytes m m' (address + 1) length) : SameBytes m m' address (1 + length) := by
  intro k bound
  cases k with
  | zero =>
    show read m (address + 0) = read m' (address + 0)
    rwa [UInt16.add_zero]
  | succ k =>
    have next : address + UInt16.ofNat (k + 1) = address + 1 + UInt16.ofNat k := by
      rw [Nat.add_comm, UInt16.ofNat_add, ← UInt16.add_assoc]
      rfl
    rw [next]
    exact rest k (by omega)

theorem SameBytes.one (same : read m address = read m' address) : SameBytes m m' address 1 :=
  .cons same .nothing

theorem SameBytes.word (same : readWord m address = readWord m' address) :
    SameBytes m m' address 2 := by
  have high : highByte (readWord m address) = highByte (readWord m' address) := congrArg highByte same
  have low : lowByte (readWord m address) = lowByte (readWord m' address) := congrArg lowByte same
  simp only [readWord, highByte_joinBytes, lowByte_joinBytes] at high low
  exact .cons high (.one low)

namespace PrintedOperand

/-- An operand shows what its mode looks like. -/
theorem appearance_of_ofMemory_eq {mode mode' : AddressingMode}
    (same : ofMemory m address mode = ofMemory m' address mode') :
    mode.appearance = mode'.appearance := by
  cases mode <;> cases mode' <;> first | rfl | cases same

/-- The operand of a mode tells the bytes that it was found in. -/
theorem sameBytes_of_ofMemory_eq {mode : AddressingMode}
    (same : ofMemory m address mode = ofMemory m' address mode) :
    SameBytes m m' (address + 1) mode.operandLength := by
  cases mode with
  | inherent => exact .nothing
  | immediate => exact .one (byte.inj same)
  | direct => exact .one (direct.inj same)
  | indexed => exact .one (indexed.inj same)
  | immediateWord => exact .word (word.inj same)
  | extended => exact .word (absolute.inj same)
  | relative =>
    have offset := (UInt16.add_right_inj (address + 2)).mp (absolute.inj same)
    have byte := congrArg lowByte offset
    rw [lowByte_signExtend, lowByte_signExtend] at byte
    exact .one byte

end PrintedOperand

/-! ## Lines and listings -/

namespace ListingLine

theorem text_undefined (undefined : decode (read m address) = none) :
    (ofAddress m address).text = "FCB" ++ (PrintedOperand.direct (read m address)).text := by
  rw [ofAddress_undefined undefined, PrintedOperand.text, ← String.append_assoc]
  rfl

theorem address_ofAddress (m : M) (address : UInt16) : (ofAddress m address).address = address := by
  cases decoded : decode (read m address) with
  | none => rw [ofAddress_undefined decoded]
  | some i => rw [ofAddress_defined decoded]

/-- A data byte and an instruction are never written the same. -/
theorem text_ne_of_defined (undefined : decode (read m address) = none) {i : Instruction}
    (defined : decode (read m' address) = some i) :
    (ofAddress m address).text ≠ (ofAddress m' address).text := by
  intro same
  rw [text_undefined undefined, ofAddress_defined defined] at same
  obtain ⟨name, operand⟩ :=
    PrintedOperand.append_text_inj (by decide) i.operation.all_mnemonic_ne_blank same
  refine OpcodeMap.mnemonic_ne_fcb defined ?_ name.symm
  cases mode : i.mode with
  | direct => rfl
  | inherent | immediate | immediateWord | indexed | extended | relative =>
    rw [mode] at operand
    cases operand

/-- Lines with the same text are the same, and were made of the same bytes. -/
theorem sameBytes_of_text_eq (same : (ofAddress m address).text = (ofAddress m' address).text) :
    ofAddress m address = ofAddress m' address ∧
      SameBytes m m' address (ofAddress m address).length := by
  cases first : decode (read m address) with
  | none =>
    cases second : decode (read m' address) with
    | none =>
      rw [text_undefined first, text_undefined second] at same
      have operand := (PrintedOperand.append_text_inj (by decide) (by decide) same).2
      have opcode := PrintedOperand.direct.inj operand
      rw [ofAddress_undefined first, ofAddress_undefined second, opcode]
      exact ⟨rfl, .one opcode⟩
    | some j => exact absurd same (text_ne_of_defined first second)
  | some i =>
    cases second : decode (read m' address) with
    | none => exact absurd same.symm (text_ne_of_defined second first)
    | some j =>
      rw [ofAddress_defined first, ofAddress_defined second] at same
      obtain ⟨name, operand⟩ := PrintedOperand.append_text_inj i.operation.all_mnemonic_ne_blank
        j.operation.all_mnemonic_ne_blank same
      have opcode := OpcodeMap.opcode_unique first second name
        (PrintedOperand.appearance_of_ofMemory_eq operand)
      obtain rfl : i = j := Option.some.inj (by rw [← first, ← second, opcode])
      rw [ofAddress_defined first, ofAddress_defined second, operand]
      exact ⟨rfl, .cons opcode (PrintedOperand.sameBytes_of_ofMemory_eq operand)⟩

/-- Listings with the same texts are the same, and were made of the same bytes. -/
theorem sameBytes_of_texts_eq {n : Nat}
    (same : (listing m n address).map text = (listing m' n address).map text) :
    listing m n address = listing m' n address ∧
      ∀ l ∈ listing m n address, SameBytes m m' l.address l.length := by
  induction n generalizing address with
  | zero => exact ⟨rfl, fun l none => absurd none List.not_mem_nil⟩
  | succ n ih =>
    obtain ⟨first, later⟩ := List.cons.inj same
    obtain ⟨line, bytes⟩ := sameBytes_of_text_eq first
    -- so the next lines begin at one address as well
    rw [← line] at later
    obtain ⟨lines, rest⟩ := ih later
    constructor
    · show ofAddress m address :: listing m n (ofAddress m address).next =
        ofAddress m' address :: listing m' n (ofAddress m' address).next
      rw [← line, lines]
    · intro l member
      rw [listing] at member
      rcases List.mem_cons.mp member with here | behind
      · rw [here, address_ofAddress]
        exact bytes
      · exact rest l behind

end ListingLine

/-- Disassembly loses nothing.  Two memories of which a line has the same text hold the same bytes of the
line, however many they are, and two memories with the same texts in their listings from an address on
hold the same bytes of every line. -/
theorem listing_lossless (m : M) (m' : N) :
    (∀ address, (ListingLine.ofAddress m address).text = (ListingLine.ofAddress m' address).text →
      (ListingLine.ofAddress m address).length = (ListingLine.ofAddress m' address).length ∧
        SameBytes m m' address (ListingLine.ofAddress m address).length) ∧
    ∀ n address,
      (listing m n address).map ListingLine.text = (listing m' n address).map ListingLine.text →
      listing m n address = listing m' n address ∧
        ∀ l ∈ listing m n address, SameBytes m m' l.address l.length := by
  refine ⟨fun address same => ?_, fun n address same => ListingLine.sameBytes_of_texts_eq same⟩
  obtain ⟨line, bytes⟩ := ListingLine.sameBytes_of_text_eq same
  exact ⟨congrArg ListingLine.length line, bytes⟩

/-- Two memories that differ at an address, and a branch at the end of both that is listed alike. -/
theorem listing_lossless_branch :
    (listing (FlatMemory.filled 0x20) 1 0xFFFF).map ListingLine.text =
        (listing ((FlatMemory.filled 0x20).write 5 0) 1 0xFFFF).map ListingLine.text ∧
      SameBytes (FlatMemory.filled 0x20) ((FlatMemory.filled 0x20).write 5 0) 0xFFFF 2 := by
  let m := FlatMemory.filled 0x20
  let m' := m.write 5 0
  have reads (address : UInt16) : read m address = 0x20 := FlatMemory.read_filled 0x20 address
  have reads' {address : UInt16} (other : 5 ≠ address) : read m' address = 0x20 :=
    (m.read_write_of_ne 0 other).trans (reads address)
  have branch : decode 0x20 = some ⟨0x20, .branch .always, .relative, 4⟩ := by
    rw [OpcodeMap.decode_eq]
    rfl
  have defined : decode (read m 0xFFFF) = some ⟨0x20, .branch .always, .relative, 4⟩ := by
    rw [reads, branch]
  have defined' : decode (read m' 0xFFFF) = some ⟨0x20, .branch .always, .relative, 4⟩ := by
    rw [reads' (by decide), branch]
  have line := ListingLine.ofAddress_defined defined
  have operand : PrintedOperand.ofMemory m 0xFFFF .relative =
      PrintedOperand.ofMemory m' 0xFFFF .relative := by
    rw [PrintedOperand.ofMemory, PrintedOperand.ofMemory, reads, reads' (by decide)]
  have alike : ListingLine.ofAddress m 0xFFFF = ListingLine.ofAddress m' 0xFFFF := by
    rw [line, ListingLine.ofAddress_defined defined']
    simp only [operand]
  have texts : (listing m 1 0xFFFF).map ListingLine.text =
      (listing m' 1 0xFFFF).map ListingLine.text := by
    show [(ListingLine.ofAddress m 0xFFFF).text] = [(ListingLine.ofAddress m' 0xFFFF).text]
    rw [alike]
  have bytes := ((listing_lossless m m').2 1 0xFFFF texts).2 _ List.mem_cons_self
  rw [line] at bytes
  exact ⟨texts, bytes⟩

end Trainer6800
