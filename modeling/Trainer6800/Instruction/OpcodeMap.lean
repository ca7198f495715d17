import Trainer6800.Instruction.Basic

/-!
# The opcode map

197 of the 256 opcodes are defined.  The map has three regions:

* `00`–`3F`: operations on registers, branches, the stack and interrupts;
* `40`–`7F`: modifications of A (`4x`), of B (`5x`) and of memory, indexed (`6x`) and extended
  (`7x`); the low digit picks the modification;
* `80`–`FF`: combinations of an accumulator with an operand; bit 6 picks the accumulator, bits 4
  and 5 the addressing mode, and the low digit the combination.

`defineOpcode` states the map in this form.  `decode` reads it from a table with one entry for each
opcode, and `decode_eq` says that the table holds nothing else.
-/

namespace Trainer6800.OpcodeMap

/-- Operation, addressing mode and cycles of an opcode. -/
abbrev Entry := Operation × AddressingMode × Nat

/-- The region `00`–`3F`. -/
def inherentRegion (opcode : Nat) : Option Entry :=
  match opcode with
  | 0x01 => some (.nop, .inherent, 2)
  | 0x06 => some (.tap, .inherent, 2)
  | 0x07 => some (.tpa, .inherent, 2)
  | 0x08 => some (.inx, .inherent, 4)
  | 0x09 => some (.dex, .inherent, 4)
  | 0x0A => some (.clv, .inherent, 2)
  | 0x0B => some (.sev, .inherent, 2)
  | 0x0C => some (.clc, .inherent, 2)
  | 0x0D => some (.sec, .inherent, 2)
  | 0x0E => some (.cli, .inherent, 2)
  | 0x0F => some (.sei, .inherent, 2)
  | 0x10 => some (.sba, .inherent, 2)
  | 0x11 => some (.cba, .inherent, 2)
  | 0x16 => some (.tab, .inherent, 2)
  | 0x17 => some (.tba, .inherent, 2)
  | 0x19 => some (.daa, .inherent, 2)
  | 0x1B => some (.aba, .inherent, 2)
  | 0x20 => some (.branch .always, .relative, 4)
  | 0x22 => some (.branch .higher, .relative, 4)
  | 0x23 => some (.branch .lowerOrSame, .relative, 4)
  | 0x24 => some (.branch .carryClear, .relative, 4)
  | 0x25 => some (.branch .carrySet, .relative, 4)
  | 0x26 => some (.branch .notEqual, .relative, 4)
  | 0x27 => some (.branch .equal, .relative, 4)
  | 0x28 => some (.branch .overflowClear, .relative, 4)
  | 0x29 => some (.branch .overflowSet, .relative, 4)
  | 0x2A => some (.branch .plus, .relative, 4)
  | 0x2B => some (.branch .minus, .relative, 4)
  | 0x2C => some (.branch .greaterOrEqual, .relative, 4)
  | 0x2D => some (.branch .less, .relative, 4)
  | 0x2E => some (.branch .greater, .relative, 4)
  | 0x2F => some (.branch .lessOrEqual, .relative, 4)
  | 0x30 => some (.tsx, .inherent, 4)
  | 0x31 => some (.ins, .inherent, 4)
  | 0x32 => some (.pul .a, .inherent, 4)
  | 0x33 => some (.pul .b, .inherent, 4)
  | 0x34 => some (.des, .inherent, 4)
  | 0x35 => some (.txs, .inherent, 4)
  | 0x36 => some (.psh .a, .inherent, 4)
  | 0x37 => some (.psh .b, .inherent, 4)
  | 0x39 => some (.rts, .inherent, 5)
  | 0x3B => some (.rti, .inherent, 10)
  | 0x3E => some (.wai, .inherent, 9)
  | 0x3F => some (.swi, .inherent, 12)
  | _ => none

/-- Target, addressing mode and cycles of the rows `4x` to `7x`. -/
def modificationRow : Nat → Target × AddressingMode × Nat
  | 4 => (.a, .inherent, 2)
  | 5 => (.b, .inherent, 2)
  | 6 => (.memory, .indexed, 7)
  | _ => (.memory, .extended, 6)

/-- The modification in a column of the rows `4x` to `7x`. -/
def modificationColumn : Nat → Option Modification
  | 0x0 => some .neg
  | 0x3 => some .com
  | 0x4 => some .lsr
  | 0x6 => some .ror
  | 0x7 => some .asr
  | 0x8 => some .asl
  | 0x9 => some .rol
  | 0xA => some .dec
  | 0xC => some .inc
  | 0xD => some .tst
  | 0xF => some .clr
  | _ => none

/-- The region `40`–`7F`.  Column `E` is the jump, which spends cycles on its address alone. -/
def modificationRegion (opcode : Nat) : Option Entry :=
  let (target, mode, cycles) := modificationRow (opcode / 16)
  match opcode % 16 with
  | 0xE => if target = .memory then some (.jmp, mode, cycles - 3) else none
  | column => (modificationColumn column).map fun m => (.modify m target, mode, cycles)

/-- Cycles of the immediate, direct, indexed and extended forms of an operation; `none` where
there is no such form. -/
structure Costs where
  immediate : Option Nat
  direct : Option Nat
  indexed : Option Nat
  extended : Option Nat

namespace Costs

/-- Reading a byte. -/
def readByte : Costs := ⟨some 2, some 3, some 5, some 4⟩

/-- Storing a byte. -/
def storeByte : Costs := ⟨none, some 4, some 6, some 5⟩

/-- Reading a word. -/
def readWord : Costs := ⟨some 3, some 4, some 6, some 5⟩

/-- Storing a word. -/
def storeWord : Costs := ⟨none, some 5, some 7, some 6⟩

/-- Calling a subroutine. -/
def call : Costs := ⟨none, none, some 8, some 9⟩

/-- The mode and cost picked by bits 4 and 5 of an opcode; `first` is the mode of the immediate
form, which may hold a byte or a word. -/
def form (costs : Costs) (first : AddressingMode) : Nat → Option (AddressingMode × Nat)
  | 0 => costs.immediate.map (first, ·)
  | 1 => costs.direct.map (.direct, ·)
  | 2 => costs.indexed.map (.indexed, ·)
  | _ => costs.extended.map (.extended, ·)

end Costs

/-- The combination in a column of the rows `8x` to `Fx`. -/
def combinationColumn : Nat → Option Combination
  | 0x0 => some .sub
  | 0x1 => some .cmp
  | 0x2 => some .sbc
  | 0x4 => some .and
  | 0x5 => some .bit
  | 0x6 => some .lda
  | 0x8 => some .eor
  | 0x9 => some .adc
  | 0xA => some .ora
  | 0xB => some .add
  | _ => none

/-- The region `80`–`FF`.  The last four columns hold word operations and calls, and `8D`, where
the immediate form of the call would be, is the relative call. -/
def combinationRegion (opcode : Nat) : Option Entry :=
  let acc : Accumulator := if opcode / 64 % 2 = 0 then .a else .b
  let row := opcode / 16 % 4
  let entry (op : Operation) (costs : Costs) (first : AddressingMode) : Option Entry :=
    (costs.form first row).map (op, ·)
  match opcode % 16, acc with
  | 0x7, acc => entry (.sta acc) .storeByte .immediate
  | 0xC, .a => entry .cpx .readWord .immediateWord
  | 0xC, .b => none
  | 0xD, .a => if row = 0 then some (.bsr, .relative, 8) else entry .jsr .call .immediate
  | 0xD, .b => none
  | 0xE, .a => entry .lds .readWord .immediateWord
  | 0xE, .b => entry .ldx .readWord .immediateWord
  | 0xF, .a => entry .sts .storeWord .immediate
  | 0xF, .b => entry .stx .storeWord .immediate
  | column, acc => (combinationColumn column).bind fun c =>
      entry (.combine c acc) .readByte .immediate

/-- The entry of an opcode, by region. -/
def regionEntry (opcode : UInt8) : Option Entry :=
  let n := opcode.toNat
  if n < 0x40 then inherentRegion n
  else if n < 0x80 then modificationRegion n
  else combinationRegion n

/-- The instruction of an opcode. -/
def defineOpcode (opcode : UInt8) : Option Instruction :=
  (regionEntry opcode).map fun (operation, mode, cycles) => { opcode, operation, mode, cycles }

/-- The instruction of every opcode, in order. -/
def table : Vector (Option Instruction) 256 :=
  Vector.ofFn fun i => defineOpcode (UInt8.ofNat i.val)

end OpcodeMap

/-- The instruction of an opcode; `none` where the opcode is undefined. -/
def decode (opcode : UInt8) : Option Instruction :=
  have bound : opcode.toNat < 256 := opcode.toNat_lt
  OpcodeMap.table[opcode.toNat]

namespace OpcodeMap

theorem decode_eq (opcode : UInt8) : decode opcode = defineOpcode opcode := by
  simp [decode, table]

/-- A decoded instruction remembers the opcode it was decoded from. -/
theorem opcode_of_decode {opcode : UInt8} {i : Instruction} (h : decode opcode = some i) :
    i.opcode = opcode := by
  rw [decode_eq, defineOpcode, Option.map_eq_some_iff] at h
  obtain ⟨_, _, rfl⟩ := h
  rfl

end OpcodeMap

end Trainer6800
