/-!
# Instructions of the 6800

The instruction set is regular, and the types follow its structure.  Eleven operations modify one
byte in place (`Modification`) and work alike on accumulator A, on accumulator B and on a byte of
memory (`Target`).  Ten operations combine an accumulator with an operand byte (`Combination`) and
work alike on both accumulators.  Branches differ only in their `Condition`.  What is left over has
a constructor of its own in `Operation`.

An `Instruction` is a decoded opcode: the operation, the addressing mode that finds its operand,
and its cost in clock cycles.
-/

namespace Trainer6800

/-- How an instruction finds its operand. -/
inductive AddressingMode where
  /-- The operation itself says what it works on. -/
  | inherent
  /-- The byte after the opcode is the operand. -/
  | immediate
  /-- The word after the opcode is the operand. -/
  | immediateWord
  /-- The byte after the opcode is an address in page zero. -/
  | direct
  /-- The byte after the opcode is an unsigned offset from the index register. -/
  | indexed
  /-- The word after the opcode is the address. -/
  | extended
  /-- The byte after the opcode is a signed offset from the next instruction. -/
  | relative
  deriving DecidableEq, Repr

/-- The two accumulators. -/
inductive Accumulator where
  | a
  | b
  deriving DecidableEq, Repr

/-- What a byte is modified in: an accumulator or the addressed byte of memory. -/
inductive Target where
  | a
  | b
  | memory
  deriving DecidableEq, Repr

/-- When a branch is taken. -/
inductive Condition where
  | always
  | higher
  | lowerOrSame
  | carryClear
  | carrySet
  | notEqual
  | equal
  | overflowClear
  | overflowSet
  | plus
  | minus
  | greaterOrEqual
  | less
  | greater
  | lessOrEqual
  deriving DecidableEq, Repr

/-- Operations on one byte. -/
inductive Modification where
  | neg
  | com
  | lsr
  | ror
  | asr
  | asl
  | rol
  | dec
  | inc
  | tst
  | clr
  deriving DecidableEq, Repr

/-- Operations on an accumulator and an operand byte. -/
inductive Combination where
  | sub
  | cmp
  | sbc
  | and
  | bit
  | lda
  | eor
  | adc
  | ora
  | add
  deriving DecidableEq, Repr

/-- What an instruction does. -/
inductive Operation where
  | nop
  | tap
  | tpa
  | inx
  | dex
  | clv
  | sev
  | clc
  | sec
  | cli
  | sei
  | sba
  | cba
  | tab
  | tba
  | daa
  | aba
  | branch (condition : Condition)
  | tsx
  | ins
  | pul (accumulator : Accumulator)
  | des
  | txs
  | psh (accumulator : Accumulator)
  | rts
  | rti
  | wai
  | swi
  | modify (modification : Modification) (target : Target)
  | jmp
  | combine (combination : Combination) (accumulator : Accumulator)
  | sta (accumulator : Accumulator)
  | cpx
  | bsr
  | jsr
  | lds
  | sts
  | ldx
  | stx
  deriving DecidableEq, Repr

/-- A decoded opcode. -/
structure Instruction where
  opcode : UInt8
  operation : Operation
  mode : AddressingMode
  cycles : Nat
  deriving DecidableEq, Repr

/-- The number of bytes that follow the opcode. -/
def AddressingMode.operandLength : AddressingMode → Nat
  | inherent => 0
  | immediate | direct | indexed | relative => 1
  | immediateWord | extended => 2

/-- The number of bytes of an instruction. -/
def Instruction.length (i : Instruction) : Nat :=
  1 + i.mode.operandLength

end Trainer6800
