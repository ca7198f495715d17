import Trainer6800.Proofs.Cpu.ShiftChain
import Trainer6800.Proofs.Cpu.StraightLine

/-!
# Shifts of numbers of many bytes

To shift a number of many bytes, a program modifies its bytes where they are, in the order of
`NumberShift.steps`.  Each operation needs the carry of the one before, so that again only instructions
which keep the carry may stand between them, and no other byte of the number may be written.

`Cpu.shift_exact` says that every such run shifts the number, and that code which consists of these
operations and nothing else is such a run.  The bytes may lie anywhere among the cells of a memory, also
apart from each other, as long as they are different ones and the code is not among them.
-/

namespace Trainer6800

/-- A byte that is modified in the course of a run. -/
structure Visit where
  operation : Modification
  address : UInt16
  /-- The addresses that are written after it and before the next one. -/
  written : List UInt16

/-- Only the byte itself may be written. -/
theorem Operation.eq_of_mem_written {m : Modification} {address sp other : UInt16}
    (member : other ∈ (Operation.modify m .memory).written address sp) : other = address := by
  cases m with
  | tst => cases member
  | _ => exact List.mem_singleton.mp member

namespace Cpu

variable {M : Type} [AddressSpace M] {P : M → Prop} {cell : UInt16 → Prop} {c d : Cpu M}
  {v : Visit} {visits : List Visit} {s : NumberShift} {addresses : List UInt16}

open AddressSpace

/-- The next step modifies the byte. -/
def Visits (c : Cpu M) (v : Visit) (d : Cpu M) : Prop :=
  c.Executes (.modify v.operation .memory) v.address ∧ d = c.step.cpu

/-- The number at some addresses, the least significant byte first, is shifted. -/
structure ShiftsNumber (s : NumberShift) (addresses : List UInt16) (c d : Cpu M) : Prop where
  number : s.Shifts (addresses.map (read c.memory)) (addresses.map (read d.memory))
    d.registers.ccr.carry
  overflow : d.registers.ccr.overflow = (d.registers.ccr.negative != d.registers.ccr.carry)

/-! ## Runs -/

theorem Visits.pass (hS : Storage P cell) (h : Visits c v d) (hP : P c.memory)
    (inside : cell v.address) :
    P d.memory ∧
      (read d.memory v.address, d.registers.ccr.carry) =
        v.operation.pass (read c.memory v.address) c.registers.ccr.carry ∧
      ∀ other, other ≠ v.address → read d.memory other = read c.memory other := by
  obtain ⟨executes, rfl⟩ := h
  obtain ⟨kept, result, others⟩ := executes.cell_modify hS hP inside
  refine ⟨kept, ?_, others⟩
  rw [result, executes.modify.1, Modification.apply_eq_pass]

/-- Visits to different bytes do to them what the operations make of them in turn, and nothing to other
bytes. -/
theorem Series.passAll_eq (hS : Storage P cell) (run : Series Visits Visit.written c visits d)
    (hP : P c.memory) (cells : ∀ v ∈ visits, cell v.address ∧ ∀ address ∈ v.written, cell address)
    (once : (visits.map Visit.address).Nodup)
    (spared : ∀ v ∈ visits, ∀ address ∈ v.written, address ∉ visits.map Visit.address) :
    (visits.map fun v => read d.memory v.address, d.registers.ccr.carry) =
        passAll (visits.map fun v => (v.operation, read c.memory v.address)) c.registers.ccr.carry ∧
      ∀ address, address ∉ visits.map Visit.address → (∀ v ∈ visits, address ∉ v.written) →
        read d.memory address = read c.memory address := by
  induction run with
  | @last c d v done ended =>
    rw [List.forall_mem_singleton] at cells
    obtain ⟨-, passed, others⟩ := done.pass hS hP cells.1
    constructor
    · simp only [List.map_cons, List.map_nil, passAll_cons, ← passed]
      rfl
    · intro address apart _
      exact others address fun here => apart (List.mem_singleton.mpr here)
  | @more c d e f v rest done between further ih =>
    rw [List.forall_mem_cons] at cells spared
    rw [List.map_cons, List.nodup_cons] at once
    obtain ⟨kept, passed, others⟩ := done.pass hS hP cells.1.1
    obtain ⟨kept', same⟩ := between.keeps hS kept cells.1.2
    have spared' : ∀ w ∈ rest, ∀ address ∈ w.written, address ∉ rest.map Visit.address := by
      intro w member address written later
      exact spared.2 w member address written (List.mem_cons_of_mem _ later)
    obtain ⟨passed', others'⟩ := ih kept' cells.2 once.2 spared'
    -- the byte that was visited stays as it is, and the others are still as they were
    have stays : read f.memory v.address = read d.memory v.address := by
      rw [others' v.address once.1, same v.address]
      · intro written
        exact spared.1 v.address written List.mem_cons_self
      · intro w member written
        exact spared.2 w member v.address written List.mem_cons_self
    have unvisited : ∀ w ∈ rest, read e.memory w.address = read c.memory w.address := by
      intro w member
      have later : w.address ∈ rest.map Visit.address := List.mem_map_of_mem member
      rw [same w.address, others w.address]
      · intro here
        exact once.1 (here ▸ later)
      · intro written
        exact spared.1 w.address written (List.mem_cons_of_mem _ later)
    have bytes : (rest.map fun w => (w.operation, read e.memory w.address)) =
        rest.map fun w => (w.operation, read c.memory w.address) :=
      List.map_congr_left fun w member => by rw [unvisited w member]
    rw [bytes, between.carry_eq] at passed'
    constructor
    · rw [List.map_cons, List.map_cons, passAll_cons, ← passed, ← passed', stays]
    · intro address apart unwritten
      rw [List.map_cons, List.mem_cons, not_or] at apart
      rw [List.forall_mem_cons] at unwritten
      rw [others' address apart.2 unwritten.2, same address unwritten.1, others address apart.1]

/-- The flags at the end are those of the last operation. -/
theorem Series.overflow_eq (run : Series Visits Visit.written c visits d)
    (steps : ∀ v ∈ visits, v.operation = s.first ∨ v.operation = s.next) :
    d.registers.ccr.overflow = (d.registers.ccr.negative != d.registers.ccr.carry) := by
  induction run with
  | last done ended =>
    rw [List.forall_mem_singleton] at steps
    obtain ⟨executes, rfl⟩ := done
    rw [executes.modify.1]
    exact s.overflow_apply steps _ _
  | more done between further ih =>
    rw [List.forall_mem_cons] at steps
    exact ih steps.2

/-- Visits to the bytes of a number, in the order of a shift, shift it. -/
theorem Series.shiftsNumber (hS : Storage P cell) (hP : P c.memory)
    (cells : ∀ address ∈ addresses, cell address) (once : addresses.Nodup)
    (run : Series Visits Visit.written c visits d)
    (steps : (visits.map fun v => (v.operation, v.address)) = s.steps addresses)
    (spared : ∀ v ∈ visits, ∀ address ∈ v.written, cell address ∧ address ∉ addresses) :
    ShiftsNumber s addresses c d := by
  have visited : visits.map Visit.address = s.order addresses := by
    rw [← s.map_snd_steps, ← steps, List.map_map]
    rfl
  have step : ∀ v ∈ visits, (v.operation = s.first ∨ v.operation = s.next) ∧ v.address ∈ addresses := by
    intro v member
    have listed : (v.operation, v.address) ∈ s.steps addresses := by
      rw [← steps]
      exact List.mem_map_of_mem (f := fun v : Visit => (v.operation, v.address)) member
    exact s.mem_of_mem_steps listed
  have nonempty : addresses ≠ [] := by
    rintro rfl
    cases run with
    | last => exact List.not_mem_nil (step _ List.mem_cons_self).2
    | more => exact List.not_mem_nil (step _ List.mem_cons_self).2
  obtain ⟨passed, -⟩ := run.passAll_eq hS hP
    (fun v member => ⟨cells _ (step v member).2, fun address written => (spared v member address written).1⟩)
    (visited ▸ s.nodup_order once)
    (fun v member address written => by
      rw [visited, s.mem_order]
      exact (spared v member address written).2)
  have before : (visits.map fun v => (v.operation, read c.memory v.address)) =
      s.steps (addresses.map (read c.memory)) := by
    rw [s.steps_map, ← steps, List.map_map]
    rfl
  have after : (visits.map fun v => read d.memory v.address) =
      s.order (addresses.map (read d.memory)) := by
    rw [s.order_map, ← visited, List.map_map]
    rfl
  rw [before, after] at passed
  have bytes : addresses.map (read c.memory) ≠ [] := mt List.map_eq_nil_iff.mp nonempty
  have shifts := s.shifts_steps bytes c.registers.ccr.carry
  rw [← passed, s.order_order] at shifts
  exact ⟨shifts, run.overflow_eq fun v member => (step v member).1⟩

/-! ## Code -/

/-- Operations that are performed one after the other are visits with nothing between them. -/
theorem series_of_performs {steps : List (Modification × UInt16)} (nonempty : steps ≠ [])
    (h : Performs c (steps.map fun step => (.modify step.1 .memory, step.2)) d) :
    Series Visits Visit.written c (steps.map fun step => ⟨step.1, step.2, []⟩) d := by
  induction steps generalizing c with
  | nil => exact absurd rfl nonempty
  | cons step rest ih =>
    rw [List.map_cons] at h ⊢
    cases h with
    | step executes further =>
      by_cases last : rest = []
      · subst last
        cases further
        exact .last ⟨executes, rfl⟩ rfl
      · exact .more ⟨executes, rfl⟩ (.done _) (ih last further)

/-- Every run of the operations of a shift shifts the number, and code that is made of them is such a
run. -/
theorem shift_exact (hS : Storage P cell) (hP : P c.memory)
    (cells : ∀ address ∈ addresses, cell address) (once : addresses.Nodup) (s : NumberShift) :
    (∀ {visits : List Visit} {d : Cpu M}, Series Visits Visit.written c visits d →
      (visits.map fun v => (v.operation, v.address)) = s.steps addresses →
      (∀ v ∈ visits, ∀ address ∈ v.written, cell address ∧ address ∉ addresses) →
      ShiftsNumber s addresses c d) ∧
    (∀ {code : List Instruction}, addresses ≠ [] → c.state = .running →
      HoldsCode c.memory c.registers.pc code →
      c.operations c.registers.pc code =
        (s.steps addresses).map (fun step => (.modify step.1 .memory, step.2)) →
      (∀ address ∈ addresses, address ∉ codeArea c.registers.pc code) →
      ShiftsNumber s addresses c ((fun c => c.step.cpu)^[code.length] c)) := by
  refine ⟨fun run steps spared => run.shiftsNumber hS hP cells once steps spared, ?_⟩
  intro code nonempty running holds operations apart
  have steady : ∀ i ∈ code, i.operation.IsSteady := by
    intro i member
    have listed : i.operation ∈ code.map Instruction.operation := List.mem_map_of_mem member
    rw [← c.map_fst_operations c.registers.pc code, operations, List.map_map] at listed
    obtain ⟨step, -, operation⟩ := List.mem_map.mp listed
    rw [← operation]
    exact ⟨rfl, rfl, rfl⟩
  have performs := performs_of_code hS hP running holds steady fun o member address written => by
    rw [operations] at member
    obtain ⟨step, member', rfl⟩ := List.mem_map.mp member
    have inside := (s.mem_of_mem_steps member').2
    rw [Operation.eq_of_mem_written written]
    exact ⟨cells _ inside, apart _ inside⟩
  rw [operations] at performs
  have run := series_of_performs (s.steps_ne_nil nonempty) performs
  refine run.shiftsNumber hS hP cells once ?_ ?_
  · rw [List.map_map]
    exact List.map_id _
  · intro v member address written
    obtain ⟨step, -, rfl⟩ := List.mem_map.mp member
    cases written

/-- The bus of a trainer whose monitor shifts the number in the first two bytes of memory to the
right. -/
def halvingBus : Bus :=
  .ofMonitor [0x77, 0x00, 0x01, 0x76, 0x00, 0x00] {}

/-- A processor at the beginning of the monitor.  The number is 8001, the lowest but one in two's
complement. -/
def aboutToHalve : Cpu Bus :=
  { registers := { pc := 0xFC00 }, memory := write (write halvingBus 0 0x01) 1 0x80 }

/-- The code of the monitor. -/
def halvingCode : List Instruction :=
  [⟨0x77, .modify .asr .memory, .extended, 6⟩, ⟨0x76, .modify .ror .memory, .extended, 6⟩]

theorem isCell_halving : ∀ address ∈ [(0 : UInt16), 1], Bus.IsCell address := by
  rw [List.forall_mem_cons, List.forall_mem_singleton]
  exact ⟨⟨by decide, by decide⟩, ⟨by decide, by decide⟩⟩

theorem memory_halving : aboutToHalve.memory.Fitted ∧ read aboutToHalve.memory 0 = 0x01 ∧
    read aboutToHalve.memory 1 = 0x80 ∧
    ∀ address, address ≠ 0 → address ≠ 1 →
      read aboutToHalve.memory address = read halvingBus address := by
  rw [aboutToHalve]
  have fitted : halvingBus.Fitted := Bus.fitted_ofMonitor _ _
  obtain ⟨low, high⟩ := List.forall_mem_cons.mp isCell_halving
  rw [List.forall_mem_singleton] at high
  have fitted' := Bus.storage.kept fitted low 0x01
  refine ⟨Bus.storage.kept fitted' high 0x80, ?_, Bus.storage.read_self fitted' high _, ?_⟩
  · rw [Bus.storage.read_other fitted' high _ (by decide), Bus.storage.read_self fitted low]
  · intro address apart apart'
    rw [Bus.storage.read_other fitted' high _ apart', Bus.storage.read_other fitted low _ apart]

theorem holdsCode_halving : HoldsCode aboutToHalve.memory aboutToHalve.registers.pc halvingCode := by
  obtain ⟨-, -, -, code⟩ := memory_halving
  have pc : aboutToHalve.registers.pc = 0xFC00 := by rw [aboutToHalve]
  have first : read halvingBus 0xFC00 = 0x77 := by decide +kernel
  have second : read halvingBus 0xFC03 = 0x76 := by decide +kernel
  rw [pc]
  refine ⟨?_, ?_, trivial⟩
  · rw [code _ (by decide) (by decide), first, OpcodeMap.decode_eq]
    rfl
  · show decode (read aboutToHalve.memory 0xFC03) = _
    rw [code _ (by decide) (by decide), second, OpcodeMap.decode_eq]
    rfl

theorem operations_halving : aboutToHalve.operations aboutToHalve.registers.pc halvingCode =
    (NumberShift.signedRight.steps [0, 1]).map fun step => (.modify step.1 .memory, step.2) := by
  obtain ⟨-, -, -, code⟩ := memory_halving
  have pc : aboutToHalve.registers.pc = 0xFC00 := by rw [aboutToHalve]
  have high : readWord aboutToHalve.memory 0xFC01 = 1 := by
    rw [readWord, code _ (by decide) (by decide), code _ (by decide) (by decide)]
    decide +kernel
  have low : readWord aboutToHalve.memory 0xFC04 = 0 := by
    rw [readWord, code _ (by decide) (by decide), code _ (by decide) (by decide)]
    decide +kernel
  rw [pc]
  show [(Operation.modify .asr .memory, readWord aboutToHalve.memory 0xFC01),
    (Operation.modify .ror .memory, readWord aboutToHalve.memory 0xFC04)] = _
  rw [high, low]
  rfl

/-- Half of -32767 is not a whole number, and the shift rounds it down. -/
theorem shift_exact_signed :
    signedOfBytes ([0, 1].map (read aboutToHalve.step.cpu.step.cpu.memory)) = -16384 ∧
      aboutToHalve.step.cpu.step.cpu.registers.ccr.carry = true := by
  obtain ⟨fitted, low, high, -⟩ := memory_halving
  have apart : ∀ address ∈ [(0 : UInt16), 1],
      address ∉ codeArea aboutToHalve.registers.pc halvingCode := by
    rw [show aboutToHalve.registers.pc = 0xFC00 by rw [aboutToHalve], List.forall_mem_cons,
      List.forall_mem_singleton]
    decide
  have shifted := (shift_exact Bus.storage fitted isCell_halving (by decide) .signedRight).2
    (by decide) (by rw [aboutToHalve]) holdsCode_halving operations_halving apart
  have before : [0, 1].map (read aboutToHalve.memory) = [0x01, 0x80] := by
    rw [List.map_cons, List.map_cons, List.map_nil, low, high]
  have twice (c : Cpu Bus) : (fun c : Cpu Bus => c.step.cpu)^[halvingCode.length] c =
      c.step.cpu.step.cpu := rfl
  obtain ⟨halved, lowest⟩ := shifted.number
  rw [before, twice] at halved lowest
  rw [halved]
  refine ⟨?_, ?_⟩
  · simp [signedOfBytes, ofBytes_cons, ofBytes_nil]
  · cases carry : aboutToHalve.step.cpu.step.cpu.registers.ccr.carry with
    | true => rfl
    | false => simp [carry, ofBytes_cons, ofBytes_nil] at lowest

end Cpu

end Trainer6800
