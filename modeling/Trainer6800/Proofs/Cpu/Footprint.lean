import Trainer6800.Proofs.Cpu.FixedBits
import Trainer6800.Proofs.Cpu.Outcome
import Trainer6800.Proofs.Cpu.Stack

/-!
# Footprints of instructions

The programming manual of a processor has a table that says of each instruction which flags it sets and
which registers and bytes of memory it changes.  Here the table is four functions of the operation:
`Operation.flags`, `Operation.accumulators`, `Operation.changesX`, `Operation.changesSp` for what is in
the processor, and `Operation.written` for the addresses that are written, in the order of the writes.
`Cpu.Footprint` says of two states that the second differs from the first in nothing else, and
`Cpu.footprint_step` says it of every instruction, on any address space.

That an address space has been written at some addresses and nowhere else cannot be seen by reading it,
because an address may not answer with what it was given.  So the footprint has the writes themselves:
the space afterwards is the one before, after writes to just these addresses.
-/

namespace Trainer6800

/-! ## The table -/

/-- The flags of the condition codes. -/
inductive ConditionFlag where
  | halfCarry
  | interruptMask
  | negative
  | zero
  | overflow
  | carry
  deriving DecidableEq, Repr

/-- The value of a flag. -/
def ConditionCodes.flag (f : ConditionCodes) : ConditionFlag → Bool
  | .halfCarry => f.halfCarry
  | .interruptMask => f.interruptMask
  | .negative => f.negative
  | .zero => f.zero
  | .overflow => f.overflow
  | .carry => f.carry

/-- The flags that modifying a byte sets. -/
def Modification.flags : Modification → List ConditionFlag
  | dec | inc => [.negative, .zero, .overflow]
  | neg | com | lsr | ror | asr | asl | rol | tst | clr => [.negative, .zero, .overflow, .carry]

/-- The flags that combining an accumulator with an operand sets. -/
def Combination.flags : Combination → List ConditionFlag
  | add | adc => [.halfCarry, .negative, .zero, .overflow, .carry]
  | sub | sbc | cmp => [.negative, .zero, .overflow, .carry]
  | and | bit | lda | eor | ora => [.negative, .zero, .overflow]

namespace Operation

/-- The flags that an operation sets. -/
def flags : Operation → List ConditionFlag
  | nop | branch _ | jmp | jsr | bsr | rts | psh _ | pul _ | tsx | txs | ins | des | tpa | wai => []
  | inx | dex => [.zero]
  | clv | sev => [.overflow]
  | clc | sec => [.carry]
  | cli | sei | swi => [.interruptMask]
  | cpx | tab | tba | sta _ | lds | ldx | sts | stx => [.negative, .zero, .overflow]
  | sba | cba | daa => [.negative, .zero, .overflow, .carry]
  | aba => [.halfCarry, .negative, .zero, .overflow, .carry]
  | tap | rti => [.halfCarry, .interruptMask, .negative, .zero, .overflow, .carry]
  | modify m _ => m.flags
  | combine c _ => c.flags

/-- The accumulators that an operation changes. -/
def accumulators : Operation → List Accumulator
  | tpa | tba | sba | aba | daa => [.a]
  | tab => [.b]
  | rti => [.a, .b]
  | pul acc => [acc]
  | modify .tst _ => []
  | modify _ .a => [.a]
  | modify _ .b => [.b]
  | combine .cmp _ | combine .bit _ => []
  | combine _ acc => [acc]
  | _ => []

/-- Whether an operation changes the index register. -/
def changesX : Operation → Bool
  | inx | dex | tsx | ldx | rti => true
  | _ => false

/-- Whether an operation moves the stack pointer. -/
def changesSp : Operation → Bool
  | txs | ins | des | lds | psh _ | pul _ | bsr | jsr | rts | rti | wai | swi => true
  | _ => false

/-- The addresses that an operation on `address` writes when the stack pointer is `sp`. -/
def written (address sp : UInt16) : Operation → List UInt16
  | sta _ => [address]
  | stx | sts => [address, address + 1]
  | modify .tst _ => []
  | modify _ .memory => [address]
  | psh _ => stackArea sp 1
  | bsr | jsr => stackArea sp 2
  | swi | wai => stackArea sp 7
  | _ => []

end Operation

/-! ## Flags -/

namespace ConditionCodes

/-- The second codes differ from the first at most in the listed flags. -/
def SameApart (flags : List ConditionFlag) (f g : ConditionCodes) : Prop :=
  ∀ flag, flag ∉ flags → g.flag flag = f.flag flag

variable (f : ConditionCodes)

theorem sameApart_refl (flags : List ConditionFlag) : SameApart flags f f :=
  fun _ _ => rfl

theorem sameApart_zero (z : Bool) : SameApart [.zero] f { f with zero := z } := by
  intro flag apart
  cases flag with
  | zero => simp at apart
  | _ => rfl

theorem sameApart_overflow (v : Bool) : SameApart [.overflow] f { f with overflow := v } := by
  intro flag apart
  cases flag with
  | overflow => simp at apart
  | _ => rfl

theorem sameApart_carry (c : Bool) : SameApart [.carry] f { f with carry := c } := by
  intro flag apart
  cases flag with
  | carry => simp at apart
  | _ => rfl

theorem sameApart_mask (i : Bool) : SameApart [.interruptMask] f { f with interruptMask := i } := by
  intro flag apart
  cases flag with
  | interruptMask => simp at apart
  | _ => rfl

theorem sameApart_nzv (n z v : Bool) :
    SameApart [.negative, .zero, .overflow] f { f with negative := n, zero := z, overflow := v } := by
  intro flag apart
  cases flag with
  | negative | zero | overflow => simp at apart
  | _ => rfl

theorem sameApart_nzvc (n z v c : Bool) :
    SameApart [.negative, .zero, .overflow, .carry] f
      { f with negative := n, zero := z, overflow := v, carry := c } := by
  intro flag apart
  cases flag with
  | negative | zero | overflow | carry => simp at apart
  | _ => rfl

theorem sameApart_hnzvc (h n z v c : Bool) :
    SameApart [.halfCarry, .negative, .zero, .overflow, .carry] f
      { f with halfCarry := h, negative := n, zero := z, overflow := v, carry := c } := by
  intro flag apart
  cases flag with
  | interruptMask => rfl
  | _ => simp at apart

/-- Nothing is said of codes that may differ in every flag. -/
theorem sameApart_all (g : ConditionCodes) :
    SameApart [.halfCarry, .interruptMask, .negative, .zero, .overflow, .carry] f g := by
  intro flag apart
  cases flag <;> simp at apart

end ConditionCodes

open ConditionCodes

theorem Modification.apply_sameApart (op : Modification) (m : UInt8) (f : ConditionCodes) :
    SameApart op.flags f (op.apply m f).2 := by
  cases op with
  | dec | inc => exact f.sameApart_nzv _ _ _
  | _ => exact f.sameApart_nzvc _ _ _ _

theorem Combination.apply_sameApart (op : Combination) (acc m : UInt8) (f : ConditionCodes) :
    SameApart op.flags f (op.apply acc m f).2 := by
  cases op with
  | add | adc => exact f.sameApart_hnzvc _ _ _ _ _
  | sub | sbc | cmp => exact f.sameApart_nzvc _ _ _ _
  | _ => exact f.sameApart_nzv _ _ _

/-! ## Accumulators -/

theorem Registers.accumulator_setAccumulator_of_ne (r : Registers) {acc acc' : Accumulator}
    (apart : acc' ≠ acc) (value : UInt8) :
    (r.setAccumulator acc value).accumulator acc' = r.accumulator acc' := by
  cases acc with
  | a =>
    cases acc' with
    | a => exact absurd rfl apart
    | b => rfl
  | b =>
    cases acc' with
    | a => rfl
    | b => exact absurd rfl apart

/-- Comparisons and bit tests leave the accumulator as it is. -/
theorem Combination.apply_of_notMem {op : Combination} {acc : Accumulator}
    (apart : acc ∉ (Operation.combine op acc).accumulators) (a m : UInt8) (f : ConditionCodes) :
    (op.apply a m f).1 = a := by
  cases op with
  | cmp | bit => rfl
  | _ => exact absurd List.mem_cons_self apart

namespace Cpu

variable {M : Type} [AddressSpace M]

open AddressSpace

/-! ## Two operations opened

All other operations are single updates of the state.  A branch is one or none, and what is modified
may be in memory. -/

theorem perform_branch (c : Cpu M) (condition : Condition) (address : UInt16) :
    ∃ pc, c.perform (.branch condition) address = c.jump pc := by
  simp only [perform]
  split
  · exact ⟨address, rfl⟩
  · exact ⟨c.registers.pc, rfl⟩

theorem modify_memory (c : Cpu M) (op : Modification) (address : UInt16) :
    ∃ bytes : List (UInt16 × UInt8),
      bytes.map Prod.fst = (Operation.modify op .memory).written address c.registers.sp ∧
      c.modify op .memory address =
        { c with
          registers.ccr := (op.apply (read c.memory address) c.registers.ccr).2
          memory := writeBytes c.memory bytes } := by
  cases op with
  | tst => exact ⟨[], rfl, rfl⟩
  | _ => exact ⟨[(address, _)], rfl, rfl⟩

/-- Modifying never reaches beyond the accumulators, the condition codes and memory. -/
theorem exists_modify_eq (c : Cpu M) (op : Modification) (target : Target) (address : UInt16) :
    ∃ a b ccr memory, c.modify op target address =
      { c with registers := { c.registers with a, b, ccr }, memory } := by
  cases target with
  | a => exact ⟨_, _, _, _, rfl⟩
  | b => exact ⟨_, _, _, _, rfl⟩
  | memory =>
    obtain ⟨bytes, -, modified⟩ := c.modify_memory op address
    exact ⟨_, _, _, _, modified⟩

/-! ## What each operation leaves alone -/

theorem sameApart_modify (c : Cpu M) (op : Modification) (target : Target) (address : UInt16) :
    SameApart op.flags c.registers.ccr (c.modify op target address).registers.ccr := by
  cases target with
  | a => exact op.apply_sameApart _ _
  | b => exact op.apply_sameApart _ _
  | memory =>
    obtain ⟨bytes, -, modified⟩ := c.modify_memory op address
    rw [modified]
    exact op.apply_sameApart _ _

theorem sameApart_perform (c : Cpu M) (op : Operation) (address : UInt16) :
    SameApart op.flags c.registers.ccr (c.perform op address).registers.ccr := by
  cases op with
  | nop | jmp | jsr | bsr | rts | psh | tsx | txs | ins | des | tpa => exact sameApart_refl _ _
  | inx | dex => exact sameApart_zero _ _
  | clv | sev => exact sameApart_overflow _ _
  | clc | sec => exact sameApart_carry _ _
  | cli | sei => exact sameApart_mask _ _
  | cpx | tab | tba | sta | lds | ldx | sts | stx => exact sameApart_nzv _ _ _ _
  | sba | cba | daa => exact sameApart_nzvc _ _ _ _ _
  | aba => exact sameApart_hnzvc _ _ _ _ _ _
  | tap | rti => exact sameApart_all _ _
  | modify m target => exact c.sameApart_modify m target address
  | combine m acc => exact m.apply_sameApart _ _ _
  | pul acc =>
    cases acc with
    | a => exact sameApart_refl _ _
    | b => exact sameApart_refl _ _
  | branch condition =>
    obtain ⟨pc, moved⟩ := c.perform_branch condition address
    rw [moved]
    exact sameApart_refl _ _
  | wai =>
    simp only [perform, pushState_eq]
    exact sameApart_refl _ _
  | swi =>
    simp only [perform, pushState_eq]
    exact sameApart_mask _ _

theorem accumulator_modify (c : Cpu M) (op : Modification) (target : Target) (address : UInt16)
    {acc : Accumulator} (apart : acc ∉ (Operation.modify op target).accumulators) :
    (c.modify op target address).registers.accumulator acc = c.registers.accumulator acc := by
  cases target with
  | a =>
    cases acc with
    | a =>
      -- a test is all that is left
      cases op with
      | tst => rfl
      | _ => exact absurd List.mem_cons_self apart
    | b => rfl
  | b =>
    cases acc with
    | a => rfl
    | b =>
      cases op with
      | tst => rfl
      | _ => exact absurd List.mem_cons_self apart
  | memory =>
    obtain ⟨bytes, -, modified⟩ := c.modify_memory op address
    rw [modified]
    rfl

theorem accumulator_combine (c : Cpu M) (op : Combination) (acc : Accumulator) (address : UInt16)
    {acc' : Accumulator} (apart : acc' ∉ (Operation.combine op acc).accumulators) :
    (c.combine op acc address).registers.accumulator acc' = c.registers.accumulator acc' := by
  by_cases same : acc' = acc
  · subst same
    have kept := op.apply_of_notMem apart (c.registers.accumulator acc') (read c.memory address)
      c.registers.ccr
    cases acc' with
    | a => exact kept
    | b => exact kept
  · exact c.registers.accumulator_setAccumulator_of_ne same _

theorem accumulator_perform (c : Cpu M) (op : Operation) (address : UInt16) {acc : Accumulator}
    (apart : acc ∉ op.accumulators) :
    (c.perform op address).registers.accumulator acc = c.registers.accumulator acc := by
  cases op with
  | tpa | tba | sba | aba | daa =>
    cases acc with
    | a => exact absurd List.mem_cons_self apart
    | b => rfl
  | tab =>
    cases acc with
    | a => rfl
    | b => exact absurd List.mem_cons_self apart
  | rti =>
    cases acc with
    | a => exact absurd List.mem_cons_self apart
    | b => exact absurd (List.mem_cons_of_mem _ List.mem_cons_self) apart
  | pul acc' =>
    have other : acc ≠ acc' := fun same => apart (List.mem_singleton.mpr same)
    exact c.pull.2.registers.accumulator_setAccumulator_of_ne other _
  | modify m target => exact c.accumulator_modify m target address apart
  | combine m acc' => exact c.accumulator_combine m acc' address apart
  | branch condition =>
    obtain ⟨pc, moved⟩ := c.perform_branch condition address
    rw [moved]
    rfl
  | wai | swi =>
    simp only [perform, pushState_eq]
    rfl
  | _ => rfl

theorem x_perform (c : Cpu M) (op : Operation) (address : UInt16) (apart : op.changesX = false) :
    (c.perform op address).registers.x = c.registers.x := by
  cases op with
  | inx | dex | tsx | ldx | rti => cases apart
  | pul acc | combine m acc =>
    cases acc with
    | a => rfl
    | b => rfl
  | modify m target =>
    obtain ⟨a, b, ccr, memory, modified⟩ := c.exists_modify_eq m target address
    simp only [perform, modified]
  | branch condition =>
    obtain ⟨pc, moved⟩ := c.perform_branch condition address
    rw [moved]
    rfl
  | wai | swi => simp only [perform, pushState_eq]
  | _ => rfl

theorem sp_perform (c : Cpu M) (op : Operation) (address : UInt16) (apart : op.changesSp = false) :
    (c.perform op address).registers.sp = c.registers.sp := by
  cases op with
  | txs | ins | des | lds | psh | pul | bsr | jsr | rts | rti | wai | swi => cases apart
  | combine m acc =>
    cases acc with
    | a => rfl
    | b => rfl
  | modify m target =>
    obtain ⟨a, b, ccr, memory, modified⟩ := c.exists_modify_eq m target address
    simp only [perform, modified]
  | branch condition =>
    obtain ⟨pc, moved⟩ := c.perform_branch condition address
    rw [moved]
    rfl
  | _ => rfl

/-- Only one operation ends the execution of instructions. -/
theorem state_perform (c : Cpu M) {op : Operation} (address : UInt16) (goes : op ≠ .wai) :
    (c.perform op address).state = c.state := by
  cases op with
  | wai => exact absurd rfl goes
  | modify m target =>
    obtain ⟨a, b, ccr, memory, modified⟩ := c.exists_modify_eq m target address
    simp only [perform, modified]
  | branch condition =>
    obtain ⟨pc, moved⟩ := c.perform_branch condition address
    rw [moved]
    rfl
  | rti => simp only [perform, pullState_eq]
  | swi => simp only [perform, pushState_eq]
  | _ => rfl

/-- An operation counts no cycles; the instruction does. -/
theorem cycles_perform (c : Cpu M) (op : Operation) (address : UInt16) :
    (c.perform op address).cycles = c.cycles := by
  cases op with
  | modify m target =>
    obtain ⟨a, b, ccr, memory, modified⟩ := c.exists_modify_eq m target address
    simp only [perform, modified]
  | branch condition =>
    obtain ⟨pc, moved⟩ := c.perform_branch condition address
    rw [moved]
    rfl
  | rti => simp only [perform, pullState_eq]
  | wai | swi => simp only [perform, pushState_eq]
  | _ => rfl

/-- An operation makes the writes that the table has for it. -/
theorem memory_perform (c : Cpu M) (op : Operation) (address : UInt16) :
    ∃ bytes : List (UInt16 × UInt8), bytes.map Prod.fst = op.written address c.registers.sp ∧
      (c.perform op address).memory = writeBytes c.memory bytes := by
  have top : c.registers.sp = c.registers.sp - 0 := (UInt16.sub_zero _).symm
  cases op with
  | sta acc => exact ⟨[(address, _)], rfl, rfl⟩
  | sts | stx => exact ⟨[(address, _), (address + 1, _)], rfl, rfl⟩
  | psh acc => exact ⟨[(c.registers.sp, _)], congrArg (fun sp => [sp]) top, rfl⟩
  | bsr | jsr =>
    exact ⟨[(c.registers.sp, _), (c.registers.sp - 1, _)],
      congrArg (fun sp => [sp, c.registers.sp - 1]) top, rfl⟩
  | wai | swi =>
    refine ⟨c.registers.frame, c.registers.addresses_frame, ?_⟩
    simp only [perform, pushState_eq]
  | modify m target =>
    cases target with
    | a => cases m <;> exact ⟨[], rfl, rfl⟩
    | b => cases m <;> exact ⟨[], rfl, rfl⟩
    | memory =>
      obtain ⟨bytes, addresses, modified⟩ := c.modify_memory m address
      refine ⟨bytes, addresses, ?_⟩
      simp only [perform, modified]
  | branch condition =>
    obtain ⟨pc, moved⟩ := c.perform_branch condition address
    refine ⟨[], rfl, ?_⟩
    rw [moved]
    rfl
  | rti =>
    refine ⟨[], rfl, ?_⟩
    simp only [perform, pullState_eq, writeBytes_nil]
  | _ => exact ⟨[], rfl, rfl⟩

/-! ## Whole steps -/

theorem cycles_execute (c : Cpu M) (i : Instruction) :
    (c.execute i).cycles = c.cycles + UInt64.ofNat i.cycles := by
  show ((c.jump _).perform i.operation _).cycles + _ = _
  rw [cycles_perform]
  rfl

/-- The counter goes on by what the step says it took. -/
theorem cycles_of_step {c : Cpu M} {n : Nat} (took : c.step.result = .ok n) :
    c.step.cpu.cycles = c.cycles + UInt64.ofNat n := by
  cases state : c.state with
  | halted =>
    rw [step_halted state] at took ⊢
    cases took
    exact (UInt64.add_zero c.cycles).symm
  | waiting =>
    rw [step_waiting state] at took ⊢
    cases took
    rfl
  | running =>
    cases defined : decode c.opcode with
    | none =>
      rw [(step_undefined state defined).2] at took
      cases took
    | some i =>
      obtain ⟨next, result⟩ := step_defined state defined
      rw [result] at took
      cases took
      rw [next, cycles_execute]

/-- The second state differs from the first in nothing but what the table has for an operation on
`address`. -/
structure Footprint (op : Operation) (address : UInt16) (c d : Cpu M) : Prop where
  memory : ∃ bytes : List (UInt16 × UInt8), bytes.map Prod.fst = op.written address c.registers.sp ∧
    d.memory = writeBytes c.memory bytes
  flags : ∀ flag, flag ∉ op.flags → d.registers.ccr.flag flag = c.registers.ccr.flag flag
  /-- Bits 6 and 7 of the condition codes stay set. -/
  codes : c.registers.ccr.IsFixed → d.registers.ccr.IsFixed
  accumulators : ∀ acc, acc ∉ op.accumulators →
    d.registers.accumulator acc = c.registers.accumulator acc
  x : op.changesX = false → d.registers.x = c.registers.x
  sp : op.changesSp = false → d.registers.sp = c.registers.sp
  state : op ≠ .wai → d.state = c.state

/-- An instruction touches only what is in its footprint. -/
theorem footprint_step {c : Cpu M} (running : c.state = .running) {i : Instruction}
    (defined : decode c.opcode = some i) :
    Footprint i.operation (c.operandAddress i.mode) c c.step.cpu := by
  -- the program counter moves before the operation, and no part of a footprint depends on it
  let moved := c.jump (c.registers.pc + UInt16.ofNat i.length)
  let address := c.operandAddress i.mode
  rw [(step_defined running defined).1]
  exact {
    memory := moved.memory_perform i.operation address
    flags := moved.sameApart_perform i.operation address
    codes := fun fixed => perform_isFixed (c := moved) fixed i.operation address
    accumulators := fun _ apart => moved.accumulator_perform i.operation address apart
    x := moved.x_perform i.operation address
    sp := moved.sp_perform i.operation address
    state := moved.state_perform address }

/-- A processor on memory that holds `FF` everywhere, and so is about to store its index register. -/
def amongStores : Cpu FlatMemory :=
  { memory := .filled 0xFF }

/-- The word goes to the two ends of the address space. -/
theorem footprint_step_stx :
    decode amongStores.opcode = some ⟨0xFF, .stx, .extended, 6⟩ ∧
      Footprint .stx 0xFFFF amongStores amongStores.step.cpu := by
  have opcode : amongStores.opcode = 0xFF := FlatMemory.read_filled 0xFF 0
  have defined : decode amongStores.opcode = some ⟨0xFF, .stx, .extended, 6⟩ := by
    rw [opcode, OpcodeMap.decode_eq]
    rfl
  have address : amongStores.operandAddress .extended = 0xFFFF := by
    simp only [amongStores, operandAddress, readWord, FlatMemory.read_filled]
    decide
  have stored := footprint_step rfl defined
  rw [address] at stored
  exact ⟨defined, stored⟩

end Cpu

end Trainer6800
