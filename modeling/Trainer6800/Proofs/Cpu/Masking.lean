import Trainer6800.Proofs.Cpu.Footprint
import Trainer6800.Proofs.Cpu.Interruption

/-!
# The interrupt mask

A processor that has taken an interrupt, or has been reset, refuses every further request that can be
masked until its program asks for them again.  Programs do so by three instructions: one that clears the
mask, and two that take the condition codes from a byte, if that byte has the mask clear
(`Cpu.Unmasks`).

All that an operation does to the mask is in `Cpu.maskAfter`.  From it follows what one event does to a
masked processor: it unmasks it if it is one of the three, and no other does (`Cpu.unmasks_iff`).  Events
of any number come after each other, so the mask stays as long as none of them unmasks
(`Cpu.masked_until_unmasked`).
-/

namespace Trainer6800

/-- What happens to a processor. -/
inductive CpuEvent where
  | step
  | request (r : InterruptRequest)
  | reset
  deriving DecidableEq, Repr

namespace Cpu

variable {M : Type} [AddressSpace M] {c : Cpu M}

open AddressSpace

/-- The processor after an event. -/
def undergo (c : Cpu M) : CpuEvent → Cpu M
  | .step => c.step.cpu
  | .request r => c.request r
  | .reset => c.reset

/-- The processor after some events. -/
def undergoAll (c : Cpu M) (events : List CpuEvent) : Cpu M :=
  events.foldl undergo c

/-- The next step executes the operation. -/
def Next (c : Cpu M) (op : Operation) : Prop :=
  c.state = .running ∧ ∃ i, decode c.opcode = some i ∧ i.operation = op

/-- The event is an interrupt that is taken, or a reset. -/
def Masks (c : Cpu M) : CpuEvent → Prop
  | .step => c.Next .swi
  | .request .irq => c.acceptsIrq = true
  -- a halted processor takes none
  | .request .nmi => c.isHalted = false
  | .reset => True

/-- The event is one of the instructions by which a program allows interrupts. -/
def Unmasks (c : Cpu M) : CpuEvent → Prop
  | .step =>
    c.Next .cli ∨
    c.Next .tap ∧ c.registers.a &&& 0x10 = 0 ∨
    -- the condition codes are the first byte to be pulled
    c.Next .rti ∧ read c.memory (c.registers.sp + 1) &&& 0x10 = 0
  | .request _ | .reset => False

/-- None of the events unmasks the processor when it comes. -/
def KeepsMasked (c : Cpu M) : List CpuEvent → Prop
  | [] => True
  | e :: later => ¬ c.Unmasks e ∧ (c.undergo e).KeepsMasked later

/-! ## One operation -/

/-- The mask after an operation. -/
def maskAfter (c : Cpu M) : Operation → Bool
  | .cli => false
  | .sei | .swi => true
  | .tap => c.registers.a &&& 0x10 != 0
  | .rti => read c.memory (c.registers.sp + 1) &&& 0x10 != 0
  | _ => c.registers.ccr.interruptMask

theorem mask_perform (c : Cpu M) (op : Operation) (address : UInt16) :
    (c.perform op address).registers.ccr.interruptMask = c.maskAfter op := by
  have untouched (apart : .interruptMask ∉ op.flags) :
      (c.perform op address).registers.ccr.interruptMask = c.registers.ccr.interruptMask :=
    c.sameApart_perform op address .interruptMask apart
  cases op with
  | cli | sei | tap => rfl
  | swi => simp only [perform, maskAfter]
  | rti =>
    simp only [perform, pullState_eq]
    rfl
  | modify m target =>
    apply untouched
    cases m <;> simp [Operation.flags, Modification.flags]
  | combine m acc =>
    apply untouched
    cases m <;> simp [Operation.flags, Combination.flags]
  | _ => exact untouched (by simp [Operation.flags])

/-! ## One event -/

theorem mask_step (running : c.state = .running) {i : Instruction}
    (defined : decode c.opcode = some i) :
    c.step.cpu.registers.ccr.interruptMask = c.maskAfter i.operation := by
  rw [(step_defined running defined).1]
  exact (c.jump (c.registers.pc + UInt16.ofNat i.length)).mask_perform i.operation _

theorem mask_interrupt (c : Cpu M) (vector : UInt16) :
    (c.interrupt vector).registers.ccr.interruptMask = true :=
  rfl

/-- A masked request changes nothing. -/
theorem refuses_of_masked (masked : c.registers.ccr.interruptMask = true) :
    c.acceptsIrq = false ∧ c.irq = c := by
  have refuses : c.acceptsIrq = false := by
    rw [acceptsIrq, masked]
    rfl
  exact ⟨refuses, if_neg (by rw [refuses]; exact Bool.false_ne_true)⟩

theorem takes_of_unmasked (goes : c.state ≠ .halted)
    (unmasked : c.registers.ccr.interruptMask = false) :
    c.acceptsIrq = true ∧ c.irq = c.interrupt irqVector := by
  have awake : c.isHalted = false := by simpa [isHalted] using goes
  have accepts : c.acceptsIrq = true := by
    rw [acceptsIrq, awake, unmasked]
    rfl
  exact ⟨accepts, if_pos accepts⟩

theorem mask_of_masks {e : CpuEvent} (masks : c.Masks e) :
    (c.undergo e).registers.ccr.interruptMask = true := by
  cases e with
  | step =>
    obtain ⟨running, i, defined, swi⟩ := masks
    rw [undergo, mask_step running defined, swi]
    rfl
  | request r =>
    cases r with
    | irq =>
      have accepts : c.acceptsIrq = true := masks
      rw [undergo, request, irq, if_pos accepts]
      exact c.mask_interrupt irqVector
    | nmi =>
      have awake : ¬ c.isHalted = true := by rw [masks]; exact Bool.false_ne_true
      rw [undergo, request, nmi, if_neg awake]
      exact c.mask_interrupt nmiVector
  | reset => rfl

/-- An instruction unmasks when the mask is clear after it. -/
theorem unmasks_step_iff (masked : c.registers.ccr.interruptMask = true)
    (running : c.state = .running) {i : Instruction} (defined : decode c.opcode = some i) :
    c.Unmasks .step ↔ c.maskAfter i.operation = false := by
  have next (op : Operation) : c.Next op ↔ i.operation = op := by
    constructor
    · rintro ⟨-, i', defined', rfl⟩
      rw [defined] at defined'
      cases defined'
      rfl
    · rintro rfl
      exact ⟨running, i, defined, rfl⟩
  simp only [Unmasks, next]
  cases operation : i.operation <;> simp [maskAfter, masked]

/-- What executes no instruction leaves all registers alone. -/
theorem registers_step_of_idle (idle : ¬ ∃ op, c.Next op) : c.step.cpu.registers = c.registers := by
  cases state : c.state with
  | halted => rw [step_halted state]
  | waiting => rw [step_waiting state]
  | running =>
    cases defined : decode c.opcode with
    | none => rw [(step_undefined state defined).1]
    | some i => exact absurd ⟨i.operation, state, i, defined, rfl⟩ idle

/-- A masked processor takes requests again after the instructions that unmask, and after no other
event. -/
theorem unmasks_iff (masked : c.registers.ccr.interruptMask = true) (e : CpuEvent) :
    c.Unmasks e ↔ (c.undergo e).registers.ccr.interruptMask = false := by
  cases e with
  | step =>
    by_cases executes : ∃ op, c.Next op
    · obtain ⟨op, running, i, defined, -⟩ := executes
      rw [unmasks_step_iff masked running defined, undergo, mask_step running defined]
    · have kept := registers_step_of_idle executes
      rw [not_exists] at executes
      simp [Unmasks, executes, undergo, kept, masked]
  | request r =>
    cases r with
    | irq => simp [Unmasks, undergo, request, (refuses_of_masked masked).2, masked]
    | nmi =>
      by_cases halted : c.isHalted = true
      · simp [Unmasks, undergo, request, nmi, halted, masked]
      · simp [Unmasks, undergo, request, nmi, halted, mask_interrupt]
  | reset => simp [Unmasks, undergo, reset]

/-- An instruction that unmasks leaves the processor running, so that it takes the next request. -/
theorem goes_of_unmasks {e : CpuEvent} (unmasks : c.Unmasks e) : (c.undergo e).state = .running := by
  have goes {op : Operation} (next : c.Next op) (runs : op ≠ .wai) : c.step.cpu.state = .running := by
    obtain ⟨running, i, defined, rfl⟩ := next
    exact ((footprint_step running defined).state runs).trans running
  cases e with
  | step =>
    rcases unmasks with cli | ⟨tap, -⟩ | ⟨rti, -⟩
    · exact goes cli (by simp)
    · exact goes tap (by simp)
    · exact goes rti (by simp)
  | request r => exact absurd unmasks id
  | reset => exact absurd unmasks id

/-! ## Any number of events -/

theorem masked_undergoAll {events : List CpuEvent} (masked : c.registers.ccr.interruptMask = true)
    (keeps : c.KeepsMasked events) : (c.undergoAll events).registers.ccr.interruptMask = true := by
  induction events generalizing c with
  | nil => exact masked
  | cons e later ih =>
    obtain ⟨stays, keeps⟩ := keeps
    rw [unmasks_iff masked e, Bool.not_eq_false] at stays
    exact ih stays keeps

/-- From the moment an interrupt is taken or the processor is reset, requests are refused and change
nothing, until the program unmasks them: then the next one is taken.  A request is taken whenever it is
not masked, unless the processor is halted. -/
theorem masked_until_unmasked (c : Cpu M) :
    (∀ (before : List CpuEvent) (e : CpuEvent) (later : List CpuEvent),
      (c.undergoAll before).Masks e →
      ((c.undergoAll before).undergo e).KeepsMasked later →
        let d := ((c.undergoAll before).undergo e).undergoAll later
        (d.acceptsIrq = false ∧ d.irq = d) ∧
          ∀ e', d.Unmasks e' ↔ (d.undergo e').acceptsIrq = true) ∧
    (c.state ≠ .halted → c.registers.ccr.interruptMask = false →
      c.acceptsIrq = true ∧ c.irq = c.interrupt irqVector) := by
  constructor
  · intro before e later masks keeps d
    have masked : d.registers.ccr.interruptMask = true := masked_undergoAll (mask_of_masks masks) keeps
    refine ⟨refuses_of_masked masked, fun e' => ?_⟩
    constructor
    · intro unmasks
      have goes : (d.undergo e').state ≠ .halted := by
        rw [goes_of_unmasks unmasks]
        decide
      exact (takes_of_unmasked goes ((unmasks_iff masked e').mp unmasks)).1
    · intro accepts
      rw [unmasks_iff masked e']
      simp only [acceptsIrq, Bool.and_eq_true, Bool.not_eq_true'] at accepts
      exact accepts.1
  · intro goes unmasked
    exact takes_of_unmasked goes unmasked

/-- A processor that takes requests; wherever it goes, the instruction is to unmask them. -/
def unmasking : Cpu FlatMemory :=
  { registers := { sp := 0x1F }, memory := .filled 0x0E }

theorem opcode_unmasking : (unmasking.request .irq).opcode = 0x0E := by
  have codes : unmasking.registers.ccr.IsFixed := rfl
  have opens : unmasking.CanEnter (.request .irq) := rfl
  have taken : unmasking.Returns (.request .irq) :=
    returns_of_storage FlatMemory.storage trivial rfl codes (fun _ _ => trivial) opens
  have vector : readWord unmasking.memory irqVector = 0x0E0E := by
    rw [readWord, unmasking, FlatMemory.read_filled, FlatMemory.read_filled]
    rfl
  have first := taken.opcode_eq FlatMemory.storage trivial (fun _ _ => trivial) (by decide)
    (by decide) vector (by decide)
  exact first.trans (FlatMemory.read_filled _ _)

/-- The second of two requests is refused, and the first instruction of the routine changes that. -/
theorem masked_until_unmasked_cli :
    let d := (unmasking.undergo (.request .irq)).undergoAll [.request .irq]
    (d.acceptsIrq = false ∧ d.irq = d) ∧ (d.undergo .step).acceptsIrq = true := by
  intro d
  have masks : unmasking.Masks (.request .irq) := rfl
  obtain ⟨refused, allows⟩ :=
    (masked_until_unmasked unmasking).1 [] (.request .irq) [.request .irq] masks ⟨id, trivial⟩
  refine ⟨refused, (allows .step).mp ?_⟩
  -- the request that was refused has changed nothing
  have same : d = unmasking.request .irq := (refuses_of_masked (mask_of_masks masks)).2
  have opcode : d.opcode = 0x0E := by
    rw [same]
    exact opcode_unmasking
  have running : d.state = .running := by
    rw [same]
    rfl
  have cli : decode d.opcode = some ⟨0x0E, .cli, .inherent, 2⟩ := by
    rw [opcode, OpcodeMap.decode_eq]
    rfl
  exact Or.inl ⟨running, _, cli, rfl⟩

end Cpu

end Trainer6800
