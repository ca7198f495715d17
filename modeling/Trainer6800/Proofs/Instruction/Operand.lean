import Trainer6800.Instruction.Listing
import Trainer6800.Proofs.Keypad.Code

/-!
# Printed operands

A line of a listing is a mnemonic and, after a blank, the operand as the assembler writes it: a value
after `#`, an address of two or four digits, or an offset before `,X`.  A `PrintedOperand` is what is
written there, and nothing is lost in writing it: the text of a line gives its operand back
(`ListingLine.operand?`), so that what is said of the operand is said of the text.
-/

namespace Trainer6800

/-! ## Digits -/

namespace Hex

theorem digitValue?_digit (n : Nat) : digitValue? (digit n) = some (n % 16) := by
  have below : n % 16 < 16 := Nat.mod_lt n (by decide)
  have same : digit (n % 16) = digit n := by
    rw [digit, digit, Nat.mod_mod]
  rw [← same]
  exact (toLower_eq_digit_iff below).mp rfl

theorem bytes?_byteDigits_append (b : UInt8) (rest : List Char) :
    bytes? (byteDigits b ++ rest) = (bytes? rest).map (b :: ·) := by
  have bound := b.toNat_lt
  have value : UInt8.ofNat (16 * (b.toNat / 16 % 16) + b.toNat % 16) = b := by
    have whole : 16 * (b.toNat / 16 % 16) + b.toNat % 16 = b.toNat := by omega
    rw [whole, UInt8.ofNat_toNat]
  show bytes? (digit (b.toNat / 16) :: digit b.toNat :: rest) = _
  rw [bytes?, digitValue?_digit, digitValue?_digit]
  simp only [Option.bind_eq_bind, Option.bind_some, value]
  cases bytes? rest with
  | none => rfl
  | some bs => rfl

theorem bytes?_byteDigits (b : UInt8) : bytes? (byteDigits b) = some [b] := by
  have read := bytes?_byteDigits_append b []
  rwa [List.append_nil] at read

theorem bytes?_wordDigits (w : UInt16) : bytes? (wordDigits w) = some [highByte w, lowByte w] := by
  rw [wordDigits, bytes?_byteDigits_append, bytes?_byteDigits]
  rfl

end Hex

/-! ## Operands -/

/-- An operand as a listing shows it. -/
inductive PrintedOperand where
  | absent
  /-- A byte that is the operand itself. -/
  | byte (value : UInt8)
  /-- A word that is the operand itself. -/
  | word (value : UInt16)
  /-- An address in page zero. -/
  | direct (address : UInt8)
  /-- An offset from the index register. -/
  | indexed (offset : UInt8)
  | absolute (address : UInt16)
  deriving DecidableEq, Repr

namespace PrintedOperand

variable {M : Type} [AddressSpace M]

open AddressSpace

/-- The operand as it is written after the mnemonic. -/
def text : PrintedOperand → String
  | absent => ""
  | byte value => " #$" ++ Hex.byte value
  | word value => " #$" ++ Hex.word value
  | direct address => " $" ++ Hex.byte address
  | indexed offset => " $" ++ Hex.byte offset ++ ",X"
  | absolute address => " $" ++ Hex.word address

/-- One byte or two, as what they mean. -/
def ofBytes? (narrow : UInt8 → PrintedOperand) (wide : UInt16 → PrintedOperand) :
    List UInt8 → Option PrintedOperand
  | [b] => some (narrow b)
  | [high, low] => some (wide (joinBytes high low))
  | _ => none

/-- The operand of what stands behind a mnemonic. -/
def ofChars? : List Char → Option PrintedOperand
  | [] => some absent
  | ' ' :: '#' :: '$' :: digits => (Hex.bytes? digits).bind (ofBytes? byte word)
  | ' ' :: '$' :: digits =>
    match Hex.bytes? digits with
    | some bytes => ofBytes? direct absolute bytes
    | none =>
      match digits with
      | [high, low, ',', 'X'] => (Hex.bytes? [high, low]).bind (ofBytes? indexed absolute)
      | _ => none
  | _ => none

/-- An operand is read back from its text. -/
theorem ofChars?_text (o : PrintedOperand) : ofChars? o.text.toList = some o := by
  cases o with
  | absent => rfl
  | byte value =>
    simp [text, ofChars?, Hex.byte, Hex.bytes?_byteDigits, ofBytes?]
  | word value =>
    simp [text, ofChars?, Hex.word, Hex.bytes?_wordDigits, ofBytes?]
  | direct address =>
    simp [text, ofChars?, Hex.byte, Hex.bytes?_byteDigits, ofBytes?]
  | indexed offset =>
    have other : Hex.bytes? [',', 'X'] = none := by decide
    have read := Hex.bytes?_byteDigits_append offset [',', 'X']
    rw [other] at read
    simp only [ofChars?, text, Hex.byte, String.toList_append, String.reduceToList,
      String.toList_ofList, List.cons_append, ↓Char.isValue, List.nil_append, read, Option.map_none]
    show (Hex.bytes? (Hex.byteDigits offset)).bind (ofBytes? indexed absolute) = _
    rw [Hex.bytes?_byteDigits]
    rfl
  | absolute address =>
    simp [text, ofChars?, Hex.word, Hex.bytes?_wordDigits, ofBytes?]

/-- The operand of an instruction at an address, going by its mode. -/
def ofMemory (m : M) (address : UInt16) : AddressingMode → PrintedOperand
  | .inherent => absent
  | .immediate => byte (read m (address + 1))
  | .immediateWord => word (readWord m (address + 1))
  | .direct => direct (read m (address + 1))
  | .indexed => indexed (read m (address + 1))
  | .extended => absolute (readWord m (address + 1))
  | .relative => absolute (address + 2 + signExtend (read m (address + 1)))

theorem text_ofMemory (m : M) (address : UInt16) (mode : AddressingMode) :
    (ofMemory m address mode).text = ListingLine.operandText m address mode := by
  cases mode <;> rfl

/-- An operand in the form that a mode has. -/
def Shows : PrintedOperand → AddressingMode → Prop
  | absent, .inherent | byte _, .immediate | word _, .immediateWord | direct _, .direct
  | indexed _, .indexed | absolute _, .extended | absolute _, .relative => True
  | _, _ => False

theorem shows_ofMemory (m : M) (address : UInt16) (mode : AddressingMode) :
    (ofMemory m address mode).Shows mode := by
  cases mode <;> trivial

/-- What is written of an operand begins with a blank, if there is anything. -/
theorem dropWhile_text (o : PrintedOperand) :
    o.text.toList.dropWhile (· != ' ') = o.text.toList := by
  cases o with
  | absent => rfl
  | byte _ | word _ | direct _ | absolute _ =>
    rw [text, String.toList_append]
    rfl
  | indexed _ =>
    rw [text, String.toList_append, String.toList_append]
    rfl

end PrintedOperand

/-! ## Lines -/

/-- There is no blank in a mnemonic. -/
theorem Operation.all_mnemonic_ne_blank (op : Operation) :
    op.mnemonic.toList.all (· != ' ') = true := by
  have letter (acc : Accumulator) : acc.letter.toList.all (· != ' ') = true := by
    cases acc <;> decide
  cases op with
  | branch condition => cases condition <;> decide
  | combine m acc =>
    have name : m.mnemonic.toList.all (· != ' ') = true := by
      cases m <;> decide
    rw [mnemonic, String.toList_append, List.all_append, name, letter]
    rfl
  | modify m target =>
    have name : m.mnemonic.toList.all (· != ' ') = true := by
      cases m <;> decide
    have last : target.letter.toList.all (· != ' ') = true := by
      cases target <;> decide
    rw [mnemonic, String.toList_append, List.all_append, name, last]
    rfl
  | pul acc | psh acc | sta acc =>
    rw [mnemonic, String.toList_append, List.all_append, letter]
    decide
  | _ => decide

namespace ListingLine

variable {M : Type} [AddressSpace M]

/-- The operand of a line: what stands from its first blank on. -/
def operand? (l : ListingLine) : Option PrintedOperand :=
  PrintedOperand.ofChars? (l.text.toList.dropWhile (· != ' '))

/-- The operand of a line is the one that it was written with. -/
theorem operand?_of_text {l : ListingLine} {op : Operation} {o : PrintedOperand}
    (text : l.text = op.mnemonic ++ o.text) : l.operand? = some o := by
  have unspaced := List.all_eq_true.mp op.all_mnemonic_ne_blank
  rw [operand?, text, String.toList_append, List.dropWhile_append_of_pos unspaced,
    o.dropWhile_text, o.ofChars?_text]

theorem ofAddress_undefined {m : M} {address : UInt16}
    (undefined : decode (AddressSpace.read m address) = none) :
    ofAddress m address =
      { address, text := "FCB $" ++ Hex.byte (AddressSpace.read m address), length := 1 } := by
  unfold ofAddress
  dsimp only
  rw [undefined]

theorem ofAddress_defined {m : M} {address : UInt16} {i : Instruction}
    (defined : decode (AddressSpace.read m address) = some i) :
    ofAddress m address = {
      address
      text := i.mnemonic ++ (PrintedOperand.ofMemory m address i.mode).text
      length := i.length } := by
  unfold ofAddress
  dsimp only
  rw [defined, PrintedOperand.text_ofMemory]

end ListingLine

end Trainer6800
