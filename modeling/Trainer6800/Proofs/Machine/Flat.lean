import Trainer6800.Proofs.Cpu.Correspondence
import Trainer6800.Proofs.Cpu.Interruption
import Trainer6800.Proofs.Machine.Written

/-!
# Programs that stay in memory

To a program that leaves the monitor and the keypad alone, the trainer's bus is flat memory.  It may
read anywhere, the keys and the monitor included, and write to the display; as long as it writes to
nothing but cells (`Bus.IsCell`), no step and no request tells the two apart (`Cpu.transcript_flat`).

A processor is looked at from outside by what it answers to a stimulus and by all that can be seen of
it afterwards.  Which addresses it writes on the way is known beforehand (`Cpu.writtenOn`), so it can be
said of a sequence of stimuli that the writes stay within some cells.
-/

namespace Trainer6800

/-! ## Spaces with cells in common -/

namespace AddressSpace

variable {M N : Type} [AddressSpace M] [AddressSpace N] {P : M → Prop} {Q : N → Prop}
  {cell cell' : UInt16 → Prop}

/-- Some of the cells may be left out of account. -/
theorem Storage.of_subset (hS : Storage P cell) (subset : ∀ {address}, cell' address → cell address) :
    Storage P cell' where
  kept := fun h inside value => hS.kept h (subset inside) value
  read_self := fun h inside value => hS.read_self h (subset inside) value
  read_other := fun h inside value _ apart => hS.read_other h (subset inside) value apart

/-- Two spaces that read alike go on doing so while the same bytes are written to common cells. -/
theorem Storage.correspondenceOn (hS : Storage P cell) (hT : Storage Q cell) :
    CorrespondenceOn cell fun m n =>
      P m ∧ Q n ∧ ∀ address, AddressSpace.read m address = AddressSpace.read n address where
  read := fun h address => h.2.2 address
  write := by
    rintro m n ⟨hP, hQ, same⟩ address inside value
    refine ⟨hS.kept hP inside value, hT.kept hQ inside value, fun other => ?_⟩
    by_cases here : other = address
    · rw [here, hS.read_self hP inside, hT.read_self hQ inside]
    · rw [hS.read_other hP inside value here, hT.read_other hQ inside value here, same]

end AddressSpace

open AddressSpace

/-! ## Stimuli -/

/-- What is done to a processor from outside. -/
inductive Stimulus where
  | step
  | request (r : InterruptRequest)
  deriving DecidableEq, Repr

/-- What a processor answers. -/
inductive Reply where
  | stepped (result : Except InvalidOpcode Nat)
  /-- Whether a request that can be masked is taken. -/
  | taken (yes : Bool)
  | done

/-- All that can be seen of a processor and its memory. -/
structure CpuView where
  registers : Registers
  state : ExecState
  cycles : UInt64
  read : UInt16 → UInt8

namespace Cpu

variable {M N : Type} [AddressSpace M] [AddressSpace N]

/-- What can be seen of the processor. -/
def view (c : Cpu M) : CpuView :=
  ⟨c.registers, c.state, c.cycles, read c.memory⟩

/-- The processor after a stimulus, and its answer. -/
def react (c : Cpu M) : Stimulus → Cpu M × Reply
  | .step => (c.step.cpu, .stepped c.step.result)
  | .request .irq => (c.irq, .taken c.acceptsIrq)
  | .request .nmi => (c.nmi, .done)

/-- The addresses that are written in the course of it. -/
def writtenOn (c : Cpu M) : Stimulus → List UInt16
  | .step => c.written
  | .request .irq => if c.acceptsIrq then c.writtenByInterrupt else []
  | .request .nmi => if c.isHalted then [] else c.writtenByInterrupt

/-- The answers to some stimuli, and what can be seen after each. -/
def transcript (c : Cpu M) : List Stimulus → List (Reply × CpuView)
  | [] => []
  | s :: rest => ((c.react s).2, (c.react s).1.view) :: (c.react s).1.transcript rest

/-- Nothing is written outside the cells. -/
def WritesWithin (cell : UInt16 → Prop) (c : Cpu M) : List Stimulus → Prop
  | [] => True
  | s :: rest => (∀ address ∈ c.writtenOn s, cell address) ∧ (c.react s).1.WritesWithin cell rest

/-- There are no other writes. -/
theorem writes_react (c : Cpu M) (s : Stimulus) : Writes c.memory (c.writtenOn s) (c.react s).1.memory := by
  cases s with
  | step => exact c.writes_step
  | request r =>
    cases r with
    | irq =>
      show Writes c.memory (if c.acceptsIrq then c.writtenByInterrupt else []) c.irq.memory
      unfold irq
      split
      · exact c.writes_interrupt irqVector
      · exact .nothing c.memory
    | nmi =>
      show Writes c.memory (if c.isHalted then [] else c.writtenByInterrupt) c.nmi.memory
      unfold nmi
      split
      · exact .nothing c.memory
      · exact c.writes_interrupt nmiVector

/-! ## Like processors -/

namespace Alike

variable {R : M → N → Prop} {cell : UInt16 → Prop} {c : Cpu M} {d : Cpu N}

theorem view (hR : CorrespondenceOn cell R) (h : Alike R c d) : c.view = d.view := by
  have seen : read c.memory = read d.memory := funext (hR.read h.memory)
  rw [Cpu.view, Cpu.view, h.registers, h.state, h.cycles, seen]

/-- Like processors answer a stimulus alike and stay alike, if only cells are written. -/
theorem react (hR : CorrespondenceOn cell R) (h : Alike R c d) {s : Stimulus}
    (cells : ∀ address ∈ c.writtenOn s, cell address) :
    Alike R (c.react s).1 (d.react s).1 ∧ (c.react s).2 = (d.react s).2 := by
  cases s with
  | step =>
    obtain ⟨alike, result, -⟩ := h.step_on hR cells
    exact ⟨alike, congrArg Reply.stepped result⟩
  | request r =>
    cases r with
    | irq =>
      refine ⟨?_, congrArg Reply.taken h.acceptsIrq⟩
      show Alike R c.irq d.irq
      unfold writtenOn at cells
      unfold Cpu.irq
      rw [← h.acceptsIrq]
      split
      · rename_i taken
        rw [if_pos taken] at cells
        exact h.interrupt_on hR cells irqVector
      · exact h
    | nmi =>
      refine ⟨?_, rfl⟩
      show Alike R c.nmi d.nmi
      unfold writtenOn at cells
      unfold Cpu.nmi
      rw [← h.isHalted]
      split
      · exact h
      · rename_i awake
        rw [if_neg awake] at cells
        exact h.interrupt_on hR cells nmiVector

/-- No sequence of stimuli tells them apart. -/
theorem transcript (hR : CorrespondenceOn cell R) (h : Alike R c d) {stimuli : List Stimulus}
    (within : c.WritesWithin cell stimuli) : c.transcript stimuli = d.transcript stimuli := by
  induction stimuli generalizing c d with
  | nil => rfl
  | cons s rest ih =>
    obtain ⟨cells, later⟩ := within
    obtain ⟨alike, same⟩ := h.react hR cells
    rw [Cpu.transcript, Cpu.transcript, same, alike.view hR, ih alike later]

end Alike

end Cpu

/-! ## Flat memory and the bus -/

/-- Flat memory that reads as something else does. -/
def FlatMemory.imaging (reads : UInt16 → UInt8) : FlatMemory :=
  ⟨Vector.ofFn fun i => reads (UInt16.ofNat i)⟩

theorem FlatMemory.read_imaging (reads : UInt16 → UInt8) (address : UInt16) :
    AddressSpace.read (imaging reads) address = reads address := by
  show (imaging reads).read address = reads address
  simp only [FlatMemory.read, imaging, Vector.getElem_ofFn, UInt16.ofNat_toNat]

/-- Flat memory and the bus of a trainer go on reading alike while only cells of the bus are written. -/
theorem Bus.correspondenceOn_flat :
    CorrespondenceOn Bus.IsCell fun (m : FlatMemory) (b : Bus) =>
      True ∧ b.Fitted ∧ ∀ address, AddressSpace.read m address = AddressSpace.read b address :=
  (FlatMemory.storage.of_subset fun _ => trivial).correspondenceOn Bus.storage

namespace Cpu

/-- Take a processor on flat memory and one on the bus of a trainer, in the same state and reading the
same everywhere.  For as long as the first writes neither to the monitor nor under the keypad, both
answer every step and every request alike, and after each of them they are in the same state and still
read the same everywhere. -/
theorem transcript_flat {m : Machine} (reachable : Machine.Reachable m) {c : Cpu FlatMemory}
    {d : Cpu Bus} (bus : d.memory = m.bus) (registers : c.registers = d.registers)
    (state : c.state = d.state) (cycles : c.cycles = d.cycles)
    (reads : ∀ address, read c.memory address = read d.memory address) {stimuli : List Stimulus}
    (within : c.WritesWithin Bus.IsCell stimuli) : c.transcript stimuli = d.transcript stimuli := by
  have fitted : d.memory.Fitted := by
    rw [bus]
    exact reachable.sound.bus.fitted
  refine Alike.transcript Bus.correspondenceOn_flat ?_ within
  exact ⟨registers, state, cycles, trivial, fitted, reads⟩

/-- A trainer with a program in its monitor that lights a segment of the display. -/
def segmentLighter : Machine :=
  .ofMonitor [0xB7, 0xC1, 0x16] {}

/-- A processor before the program, with a stack in the display window. -/
def beforeSegment {M : Type} (memory : M) : Cpu M :=
  { registers := { a := 1, pc := 0xFC00, sp := 0xC12F }, memory }

theorem written_beforeSegment {memory : FlatMemory}
    (reads : ∀ address, read memory address = read segmentLighter.bus address) :
    (beforeSegment memory).written = [0xC116] ∧
      (beforeSegment memory).step.cpu.writtenOn (.request .nmi) = stackArea 0xC12F 7 := by
  have running : (beforeSegment memory).state = .running := by rw [beforeSegment]
  have opcode : (beforeSegment memory).opcode = 0xB7 := by
    show read memory 0xFC00 = 0xB7
    rw [reads]
    decide +kernel
  have defined : decode (beforeSegment memory).opcode = some ⟨0xB7, .sta .a, .extended, 5⟩ := by
    rw [opcode, OpcodeMap.decode_eq]
    rfl
  have address : (beforeSegment memory).operandAddress .extended = 0xC116 := by
    show readWord memory 0xFC01 = 0xC116
    rw [readWord, reads, reads]
    decide +kernel
  constructor
  · rw [written_of_defined running defined, address]
    rfl
  · rw [(step_defined running defined).1]
    rfl

theorem within_beforeSegment {memory : FlatMemory}
    (reads : ∀ address, read memory address = read segmentLighter.bus address) :
    (beforeSegment memory).WritesWithin Bus.IsCell [.step, .request .nmi] := by
  obtain ⟨first, second⟩ := written_beforeSegment reads
  have cells : (0xC116 :: stackArea 0xC12F 7).all
      (fun a => a < romBase && inKeypadWindow a == false) := by
    decide
  have inside : ∀ a ∈ 0xC116 :: stackArea 0xC12F 7, Bus.IsCell a := by
    simpa [Bus.IsCell] using cells
  rw [List.forall_mem_cons] at inside
  simp only [WritesWithin, react]
  rw [writtenOn, first, second, List.forall_mem_singleton]
  exact ⟨inside.1, inside.2, trivial⟩

/-- The program writes to the display, and an interrupt after it to the stack. -/
theorem transcript_flat_segment :
    (beforeSegment (FlatMemory.imaging (read segmentLighter.bus))).transcript [.step, .request .nmi] =
      (beforeSegment segmentLighter.bus).transcript [.step, .request .nmi] := by
  have reads := FlatMemory.read_imaging (read segmentLighter.bus)
  have reachable : Machine.Reachable segmentLighter := .ofMonitor _ _
  have bus : (beforeSegment segmentLighter.bus).memory = segmentLighter.bus := by rw [beforeSegment]
  refine transcript_flat reachable bus ?_ ?_ ?_ ?_ (within_beforeSegment reads)
  · rw [beforeSegment, beforeSegment]
  · rw [beforeSegment, beforeSegment]
  · rw [beforeSegment, beforeSegment]
  · rw [bus]
    exact reads

end Cpu

end Trainer6800
