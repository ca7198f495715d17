import Trainer6800.Instruction.Basic

/-!
# Names of instructions

`Operation.mnemonic` is the assembler's name of an operation, with the accumulator as a last letter
where there is one to name (`LDAA`, `NEGB`, `NEG`).  `Operation.label` is the structured name that
tables of the instruction set show: the kind of operation, then its argument in parentheses
(`Lda(A)`, `Neg(Memory)`, `Branch(Always)`).  `AddressingMode.label` names the mode in such a table.
-/

namespace Trainer6800

/-- The letter that ends a mnemonic. -/
def Accumulator.letter : Accumulator → String
  | a => "A"
  | b => "B"

/-- The letter that ends a mnemonic; memory has none. -/
def Target.letter : Target → String
  | a => "A"
  | b => "B"
  | memory => ""

/-- The name of a target in a table. -/
def Target.label : Target → String
  | a => "A"
  | b => "B"
  | memory => "Memory"

/-- The mnemonic of the branch on a condition. -/
def Condition.mnemonic : Condition → String
  | always => "BRA"
  | higher => "BHI"
  | lowerOrSame => "BLS"
  | carryClear => "BCC"
  | carrySet => "BCS"
  | notEqual => "BNE"
  | equal => "BEQ"
  | overflowClear => "BVC"
  | overflowSet => "BVS"
  | plus => "BPL"
  | minus => "BMI"
  | greaterOrEqual => "BGE"
  | less => "BLT"
  | greater => "BGT"
  | lessOrEqual => "BLE"

/-- The name of a condition in a table. -/
def Condition.label : Condition → String
  | always => "Always"
  | higher => "Higher"
  | lowerOrSame => "LowerOrSame"
  | carryClear => "CarryClear"
  | carrySet => "CarrySet"
  | notEqual => "NotEqual"
  | equal => "Equal"
  | overflowClear => "OverflowClear"
  | overflowSet => "OverflowSet"
  | plus => "Plus"
  | minus => "Minus"
  | greaterOrEqual => "GreaterOrEqual"
  | less => "Less"
  | greater => "Greater"
  | lessOrEqual => "LessOrEqual"

/-- The first three letters of the mnemonics of a modification. -/
def Modification.mnemonic : Modification → String
  | neg => "NEG"
  | com => "COM"
  | lsr => "LSR"
  | ror => "ROR"
  | asr => "ASR"
  | asl => "ASL"
  | rol => "ROL"
  | dec => "DEC"
  | inc => "INC"
  | tst => "TST"
  | clr => "CLR"

/-- The name of a modification in a table. -/
def Modification.label : Modification → String
  | neg => "Neg"
  | com => "Com"
  | lsr => "Lsr"
  | ror => "Ror"
  | asr => "Asr"
  | asl => "Asl"
  | rol => "Rol"
  | dec => "Dec"
  | inc => "Inc"
  | tst => "Tst"
  | clr => "Clr"

/-- The first three letters of the mnemonics of a combination. -/
def Combination.mnemonic : Combination → String
  | sub => "SUB"
  | cmp => "CMP"
  | sbc => "SBC"
  | and => "AND"
  | bit => "BIT"
  | lda => "LDA"
  | eor => "EOR"
  | adc => "ADC"
  | ora => "ORA"
  | add => "ADD"

/-- The name of a combination in a table. -/
def Combination.label : Combination → String
  | sub => "Sub"
  | cmp => "Cmp"
  | sbc => "Sbc"
  | and => "And"
  | bit => "Bit"
  | lda => "Lda"
  | eor => "Eor"
  | adc => "Adc"
  | ora => "Ora"
  | add => "Add"

/-- The assembler's name of an operation. -/
def Operation.mnemonic : Operation → String
  | nop => "NOP"
  | tap => "TAP"
  | tpa => "TPA"
  | inx => "INX"
  | dex => "DEX"
  | clv => "CLV"
  | sev => "SEV"
  | clc => "CLC"
  | sec => "SEC"
  | cli => "CLI"
  | sei => "SEI"
  | sba => "SBA"
  | cba => "CBA"
  | tab => "TAB"
  | tba => "TBA"
  | daa => "DAA"
  | aba => "ABA"
  | branch condition => condition.mnemonic
  | tsx => "TSX"
  | ins => "INS"
  | pul acc => "PUL" ++ acc.letter
  | des => "DES"
  | txs => "TXS"
  | psh acc => "PSH" ++ acc.letter
  | rts => "RTS"
  | rti => "RTI"
  | wai => "WAI"
  | swi => "SWI"
  | modify m target => m.mnemonic ++ target.letter
  | jmp => "JMP"
  | combine c acc => c.mnemonic ++ acc.letter
  | sta acc => "STA" ++ acc.letter
  | cpx => "CPX"
  | bsr => "BSR"
  | jsr => "JSR"
  | lds => "LDS"
  | sts => "STS"
  | ldx => "LDX"
  | stx => "STX"

/-- The structured name of an operation. -/
def Operation.label : Operation → String
  | nop => "Nop"
  | tap => "Tap"
  | tpa => "Tpa"
  | inx => "Inx"
  | dex => "Dex"
  | clv => "Clv"
  | sev => "Sev"
  | clc => "Clc"
  | sec => "Sec"
  | cli => "Cli"
  | sei => "Sei"
  | sba => "Sba"
  | cba => "Cba"
  | tab => "Tab"
  | tba => "Tba"
  | daa => "Daa"
  | aba => "Aba"
  | branch condition => "Branch(" ++ condition.label ++ ")"
  | tsx => "Tsx"
  | ins => "Ins"
  | pul acc => "Pul(" ++ acc.letter ++ ")"
  | des => "Des"
  | txs => "Txs"
  | psh acc => "Psh(" ++ acc.letter ++ ")"
  | rts => "Rts"
  | rti => "Rti"
  | wai => "Wai"
  | swi => "Swi"
  | modify m target => m.label ++ "(" ++ target.label ++ ")"
  | jmp => "Jmp"
  | combine c acc => c.label ++ "(" ++ acc.letter ++ ")"
  | sta acc => "Sta(" ++ acc.letter ++ ")"
  | cpx => "Cpx"
  | bsr => "Bsr"
  | jsr => "Jsr"
  | lds => "Lds"
  | sts => "Sts"
  | ldx => "Ldx"
  | stx => "Stx"

/-- The name of an addressing mode in a table. -/
def AddressingMode.label : AddressingMode → String
  | inherent => "Inherent"
  | immediate => "Immediate"
  | immediateWord => "Immediate16"
  | direct => "Direct"
  | indexed => "Indexed"
  | extended => "Extended"
  | relative => "Relative"

/-- The assembler's name of an instruction. -/
def Instruction.mnemonic (i : Instruction) : String :=
  i.operation.mnemonic

end Trainer6800
