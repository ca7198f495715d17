import Trainer6800.Proofs.Cpu.Listed
import Trainer6800.Proofs.Cpu.MultiByte

/-!
# Straight-line code

A program that works through a number byte by byte is a row of like blocks, written out one behind the
other or run in a loop.  `Cpu.Series` is a run of such blocks.  Between two of them may stand whatever
keeps the carry, so that it covers loops as well.

A program that is written out lies in memory as instructions one behind the other (`HoldsCode`).  Which
addresses they work on can be told beforehand, as long as the index register is not changed and nothing
is written over them: these are the `Cpu.operations` of the code, and `Cpu.performs_of_code` says that
they are what the processor performs, one a step.
-/

namespace Trainer6800

namespace Cpu

variable {M : Type} [AddressSpace M]

open AddressSpace

/-! ## Blocks -/

/-- Blocks of steps, one or more, lead from one state to another.  After a block and before the next one
are steps that keep the carry and write the addresses `written`. -/
inductive Series {T : Type} (block : Cpu M → T → Cpu M → Prop) (written : T → List UInt16) :
    Cpu M → List T → Cpu M → Prop
  | last {c d : Cpu M} {t : T} (done : block c t d) (ended : written t = []) :
      Series block written c [t] d
  | more {c d e f : Cpu M} {t : T} {rest : List T} (done : block c t d)
      (between : Interlude d (written t) e) (further : Series block written e rest f) :
      Series block written c (t :: rest) f

/-- The steps perform operations on addresses in turn. -/
inductive Performs : Cpu M → List (Operation × UInt16) → Cpu M → Prop
  | done (c : Cpu M) : Performs c [] c
  | step {c d : Cpu M} {op : Operation} {address : UInt16} {rest : List (Operation × UInt16)}
      (executes : c.Executes op address) (further : Performs c.step.cpu rest d) :
      Performs c ((op, address) :: rest) d

end Cpu

/-! ## Code -/

/-- The operation leads on to the next instruction, and moves neither of the registers that addresses
come from. -/
def Operation.IsSteady (op : Operation) : Prop :=
  op.transfers = false ∧ op.changesX = false ∧ op.changesSp = false

section Code

variable {M : Type} [AddressSpace M]

open AddressSpace

/-- The addresses of the bytes of an instruction. -/
def Instruction.area (i : Instruction) (pc : UInt16) : List UInt16 :=
  (List.range i.length).map fun k => pc + UInt16.ofNat k

/-- Instructions lie in memory one behind the other, from an address on. -/
def HoldsCode (m : M) : UInt16 → List Instruction → Prop
  | _, [] => True
  | pc, i :: code => decode (read m pc) = some i ∧ HoldsCode m (pc + UInt16.ofNat i.length) code

/-- The addresses of their bytes. -/
def codeArea : UInt16 → List Instruction → List UInt16
  | _, [] => []
  | pc, i :: code => i.area pc ++ codeArea (pc + UInt16.ofNat i.length) code

/-- What they do, and on which addresses when the index register is as it is now. -/
def Cpu.operations (c : Cpu M) : UInt16 → List Instruction → List (Operation × UInt16)
  | _, [] => []
  | pc, i :: code => (i.operation, (c.jump pc).operandAddress i.mode) ::
      c.operations (pc + UInt16.ofNat i.length) code

theorem mem_area_opcode (i : Instruction) (pc : UInt16) : pc ∈ i.area pc := by
  refine List.mem_map.mpr ⟨0, List.mem_range.mpr ?_, UInt16.add_zero pc⟩
  rw [Instruction.length]
  omega

variable {m m' : M} {pc : UInt16} {code : List Instruction}

/-- The code is still there if its bytes are. -/
theorem HoldsCode.of_same (h : HoldsCode m pc code)
    (same : ∀ address ∈ codeArea pc code, read m' address = read m address) :
    HoldsCode m' pc code := by
  induction code generalizing pc with
  | nil => trivial
  | cons i code ih =>
    obtain ⟨first, rest⟩ := h
    have opcode := same pc (List.mem_append_left _ (mem_area_opcode i pc))
    refine ⟨by rw [opcode, first], ih rest fun address inside => ?_⟩
    exact same address (List.mem_append_right _ inside)

namespace Cpu

variable {c d : Cpu M}

/-- The address that an instruction works on comes from its bytes and the index register. -/
theorem operandAddress_of_same (x : d.registers.x = c.registers.x) (i : Instruction)
    (same : ∀ address ∈ i.area pc, read d.memory address = read c.memory address) :
    (d.jump pc).operandAddress i.mode = (c.jump pc).operandAddress i.mode := by
  have byte (k : Nat) (inside : k < 1 + i.mode.operandLength) :
      read d.memory (pc + UInt16.ofNat k) = read c.memory (pc + UInt16.ofNat k) :=
    same _ (List.mem_map.mpr ⟨k, List.mem_range.mpr inside, rfl⟩)
  cases mode : i.mode with
  | inherent | immediate | immediateWord => rfl
  | direct => exact congrArg UInt8.toUInt16 (byte 1 (by rw [mode]; decide))
  | indexed =>
    have offset := byte 1 (by rw [mode]; decide)
    show d.registers.x + (read d.memory (pc + 1)).toUInt16 = _
    rw [x]
    exact congrArg (c.registers.x + UInt8.toUInt16 ·) offset
  | extended =>
    have next : pc + 1 + 1 = pc + 2 := by rw [UInt16.add_assoc]; rfl
    show joinBytes (read d.memory (pc + 1)) (read d.memory (pc + 1 + 1)) =
      joinBytes (read c.memory (pc + 1)) (read c.memory (pc + 1 + 1))
    rw [next]
    exact congrArg₂ joinBytes (byte 1 (by rw [mode]; decide)) (byte 2 (by rw [mode]; decide))
  | relative => exact congrArg (pc + 2 + signExtend ·) (byte 1 (by rw [mode]; decide))

theorem operations_of_same (x : d.registers.x = c.registers.x)
    (same : ∀ address ∈ codeArea pc code, read d.memory address = read c.memory address) :
    d.operations pc code = c.operations pc code := by
  induction code generalizing pc with
  | nil => rfl
  | cons i code ih =>
    rw [operations, operations, ih fun address inside => same address (List.mem_append_right _ inside),
      operandAddress_of_same x i fun address inside => same address (List.mem_append_left _ inside)]

theorem map_fst_operations (c : Cpu M) (pc : UInt16) (code : List Instruction) :
    (c.operations pc code).map Prod.fst = code.map Instruction.operation := by
  induction code generalizing pc with
  | nil => rfl
  | cons i code ih => rw [operations, List.map_cons, List.map_cons, ih]

/-- An operation that leads on to the next instruction. -/
theorem pc_step (running : c.state = .running) {i : Instruction} (defined : decode c.opcode = some i)
    (stays : i.operation.transfers = false) :
    c.step.cpu.registers.pc = c.registers.pc + UInt16.ofNat i.length := by
  rw [(step_defined running defined).1]
  exact (c.jump _).pc_perform i.operation _ stays

/-- Code that does not write over itself is performed from its beginning to its end. -/
theorem performs_of_code {P : M → Prop} {cell : UInt16 → Prop} (hS : Storage P cell)
    (h : P c.memory) (running : c.state = .running) (holds : HoldsCode c.memory c.registers.pc code)
    (steady : ∀ i ∈ code, i.operation.IsSteady)
    (spares : ∀ o ∈ c.operations c.registers.pc code,
      ∀ address ∈ o.1.written o.2 c.registers.sp,
        cell address ∧ address ∉ codeArea c.registers.pc code) :
    Performs c (c.operations c.registers.pc code) ((fun c => c.step.cpu)^[code.length] c) := by
  induction code generalizing c with
  | nil => exact .done c
  | cons i code ih =>
    obtain ⟨defined, rest⟩ := holds
    obtain ⟨goesOn, keepsX, keepsSp⟩ := steady i List.mem_cons_self
    have executes : c.Executes i.operation (c.operandAddress i.mode) := ⟨running, i, defined, rfl, rfl⟩
    have footprint := executes.footprint
    have pc := pc_step running defined goesOn
    have notWai : i.operation ≠ .wai := by
      intro waits
      rw [waits] at keepsSp
      cases keepsSp
    obtain ⟨bytes, written, memory⟩ := footprint.memory
    rw [operations, List.forall_mem_cons] at spares
    obtain ⟨first, later⟩ := spares
    have first' : ∀ address ∈ bytes.map Prod.fst,
        cell address ∧ address ∉ codeArea c.registers.pc (i :: code) := by
      rw [written]
      exact first
    have cells : ∀ w ∈ bytes, cell w.1 := fun w hw => (first' w.1 (List.mem_map_of_mem hw)).1
    -- the rest of the code is still there when its turn comes
    have same : ∀ address ∈ codeArea c.step.cpu.registers.pc code,
        read c.step.cpu.memory address = read c.memory address := by
      intro address inside
      rw [memory]
      refine hS.read_writeBytes_of_notMem h cells fun touched => (first' address touched).2 ?_
      rw [pc] at inside
      exact List.mem_append_right _ inside
    have x := footprint.x keepsX
    have sp := footprint.sp keepsSp
    rw [← pc] at rest later
    have known := operations_of_same x same
    have further := ih (c := c.step.cpu) (by rw [memory]; exact hS.kept_writeBytes h cells)
      ((footprint.state notWai).trans running) (rest.of_same same)
      (fun j hj => steady j (List.mem_cons_of_mem _ hj)) (by
        rw [known, sp]
        intro o ho address touched
        obtain ⟨inside, apart⟩ := later o ho address touched
        refine ⟨inside, fun within => apart ?_⟩
        rw [pc] at within
        exact List.mem_append_right _ within)
    rw [known] at further
    rw [operations, List.length_cons, Function.iterate_succ_apply, ← pc]
    exact .step executes further

end Cpu

end Code

end Trainer6800
