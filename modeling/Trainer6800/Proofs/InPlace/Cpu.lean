import Trainer6800.InPlace.Cpu
import Trainer6800.Proofs.Cpu.Outcome
import Trainer6800.Proofs.InPlace.AddressSpace

/-!
# The processor in place

Once a memory in place is followed (`MemoryFollows`), so is the processor that has it in its hands: its
stack, its instructions and its interrupts.  Here that is put together operation by operation, along the
definitions; the registers of the two processors are equal throughout, and only their memories differ.
-/

namespace Trainer6800

open Acting AddressSpace AddressSpaceM
open Log (Record)

variable {M : Type} {R : M → M → List Record → Prop} {note : M → List Record → M}

namespace Cpu

/-- The processor in place has the registers of the value, and a memory that goes with its memory. -/
inductive Follows (R : M → M → List Record → Prop) (c : Cpu M) : Cpu M → List Record → Prop where
  | mk {m : M} {records : List Record} (memory : R c.memory m records) :
    Follows R c { c with memory := m } records

namespace Follows

variable {c w : Cpu M} {before : List Record}

theorem registers (follows : Follows R c w before) : w.registers = c.registers := by
  cases follows
  rfl

theorem state (follows : Follows R c w before) : w.state = c.state := by
  cases follows
  rfl

end Follows

theorem tracks_onMemory {α : Type} {a : Acting M α} {f : M → α × M} (tracks : Tracks R a f) :
    Tracks (Follows R) (onMemory a) fun c =>
      ((f c.memory).1, { c with memory := (f c.memory).2 }) := by
  rintro c w before ⟨memory⟩
  obtain ⟨m, records, does, memory'⟩ := tracks _ _ _ memory
  exact .of_does (.within does) ⟨memory'⟩

/-- A change that has nothing to do with the memory. -/
theorem tracks_modifyThe {f : Cpu M → Cpu M}
    (alone : ∀ (c : Cpu M) (m : M), f { c with memory := m } = { f c with memory := m }) :
    Tracks (Follows R) (modifyThe (Cpu M) f) fun c => ((), f c) := by
  intro c w before follows
  obtain @⟨m, _, memory⟩ := follows
  have same : (f c).memory = c.memory := congrArg (·.memory) (alone c c.memory)
  refine .of_quiet (.modify f _) ?_
  rw [alone c m]
  exact ⟨same ▸ memory⟩

theorem tracks_setRegistersM (f : Registers → Registers) :
    Tracks (Follows R) (setRegistersM f) fun c => ((), { c with registers := f c.registers }) :=
  tracks_modifyThe fun _ _ => rfl

/-- The processor when something has been logged. -/
def noted (note : M → List Record → M) (c : Cpu M) (records : List Record) : Cpu M :=
  { c with memory := note c.memory records }

variable [AddressSpace M] [AddressSpaceM M] (h : MemoryFollows R note)

include h

theorem Follows.noted {c w : Cpu M} {before : List Record} (follows : Follows R c w before)
    (records : List Record) : Follows R (c.noted note records) w (before ++ records) := by
  obtain ⟨memory⟩ := follows
  exact ⟨h.notes records memory⟩

/-! ## The stack -/

theorem tracks_pushM (value : UInt8) :
    Tracks (Follows R) (pushM value) fun c => ((), c.push value) := by
  intro c w before follows
  refine .quiet (.get w) ?_
  rw [follows.registers]
  exact .bind (tracks_onMemory (h.writes _ value) c w before follows)
    (tracks_setRegistersM (fun r => { r with sp := r.sp - 1 }) _)

theorem tracks_pullM : Tracks (Follows R) pullM (pull : Cpu M → UInt8 × Cpu M) := by
  intro c w before follows
  refine .bind (tracks_setRegistersM (fun r => { r with sp := r.sp + 1 }) c w before follows) ?_
  intro w before follows
  refine .quiet (.get w) ?_
  rw [follows.registers]
  exact tracks_onMemory (h.reads _) _ w before follows

theorem tracks_pushWordM (value : UInt16) :
    Tracks (Follows R) (pushWordM value) fun c => ((), c.pushWord value) :=
  fun c w before follows =>
    .bind (tracks_pushM h (lowByte value) c w before follows) (tracks_pushM h (highByte value) _)

theorem tracks_pullWordM : Tracks (Follows R) pullWordM (pullWord : Cpu M → UInt16 × Cpu M) :=
  fun c w before follows =>
    .bind (tracks_pullM h c w before follows) fun w before follows =>
      .bind (tracks_pullM h _ w before follows) fun _ _ follows => .pure follows

theorem tracks_pushStateM :
    Tracks (Follows R) pushStateM fun c => ((), c.pushState) := by
  intro c w before follows
  -- the registers that are pushed are those at the beginning
  refine .quiet (.get w) ?_
  rw [follows.registers]
  refine .bind (tracks_pushWordM h _ c w before follows) fun w before follows => ?_
  refine .quiet (.get w) ?_
  rw [follows.registers]
  refine .bind (tracks_pushWordM h _ _ w before follows) fun w before follows => ?_
  refine .quiet (.get w) ?_
  rw [follows.registers]
  refine .bind (tracks_pushM h _ _ w before follows) fun w before follows => ?_
  refine .quiet (.get w) ?_
  rw [follows.registers]
  refine .bind (tracks_pushM h _ _ w before follows) fun w before follows => ?_
  refine .quiet (.get w) ?_
  rw [follows.registers]
  exact tracks_pushM h _ _ w before follows

theorem tracks_pullStateM :
    Tracks (Follows R) pullStateM fun c => ((), c.pullState) := by
  intro c w before follows
  refine .bind (tracks_pullM h c w before follows) fun w before follows => ?_
  refine .bind (tracks_setRegistersM _ _ w before follows) fun w before follows => ?_
  refine .bind (tracks_pullM h _ w before follows) fun w before follows => ?_
  refine .bind (tracks_setRegistersM _ _ w before follows) fun w before follows => ?_
  refine .bind (tracks_pullM h _ w before follows) fun w before follows => ?_
  refine .bind (tracks_setRegistersM _ _ w before follows) fun w before follows => ?_
  refine .bind (tracks_pullWordM h _ w before follows) fun w before follows => ?_
  refine .bind (tracks_setRegistersM _ _ w before follows) fun w before follows => ?_
  refine .bind (tracks_pullWordM h _ w before follows) fun w before follows => ?_
  exact tracks_setRegistersM _ _ w before follows

/-! ## Instructions -/

theorem tracks_operandAddressM (mode : AddressingMode) :
    Tracks (Follows R) (operandAddressM mode) fun c => (c.operandAddress mode, c) := by
  intro c w before follows
  refine .quiet (.get w) ?_
  rw [follows.registers]
  cases mode with
  | inherent | immediate | immediateWord => exact .pure follows
  | direct | indexed | relative =>
    exact .bind (tracks_onMemory (h.reads _) c w before follows) fun _ _ follows => .pure follows
  | extended => exact tracks_onMemory (h.readWord _) c w before follows

theorem tracks_originalM (op : Modification) (address : UInt16) :
    Tracks (Follows R) (originalM op address) fun c =>
      (if op = .clr then 0 else read c.memory address, c) := by
  intro c w before follows
  unfold originalM
  dsimp only
  split
  · exact .pure follows
  · exact tracks_onMemory (h.reads address) c w before follows

theorem tracks_modifyM (op : Modification) (address : UInt16) :
    Tracks (Follows R) (modifyM op address) fun c => ((), c.modify op .memory address) := by
  intro c w before follows
  -- the byte that is cleared does not matter
  have applied : op.apply (if op = .clr then 0 else read c.memory address) c.registers.ccr =
      op.apply (read c.memory address) c.registers.ccr := by
    cases op <;> rfl
  refine .bind (tracks_originalM h op address c w before follows) fun w before follows => ?_
  refine .quiet (.get w) ?_
  rw [follows.registers]
  dsimp only at follows ⊢
  rw [applied, modify]
  dsimp only
  refine .bind (tracks_setRegistersM _ c w before follows) fun w before follows => ?_
  by_cases writes : op.writes = true
  · rw [if_pos writes, if_pos writes]
    exact tracks_onMemory (h.writes _ _) _ w before follows
  · rw [if_neg writes, if_neg writes]
    exact .pure follows

theorem tracks_combineM (op : Combination) (acc : Accumulator) (address : UInt16) :
    Tracks (Follows R) (combineM op acc address) fun c => ((), c.combine op acc address) :=
  fun c w before follows =>
    .bind (tracks_onMemory (h.reads address) c w before follows) (tracks_setRegistersM _ c)

theorem tracks_storeWordM (address value : UInt16) :
    Tracks (Follows R) (storeWordM address value) fun c => ((), c.storeWord address value) :=
  fun c w before follows =>
    .bind (tracks_onMemory (h.writeWord address value) c w before follows)
      (tracks_setRegistersM (fun r => { r with ccr := r.ccr.setLogicWord value }) _)

theorem tracks_loadWordM (address : UInt16) (put : UInt16 → Registers → Registers) :
    Tracks (Follows R) (loadWordM address put) fun c =>
      let value := readWord c.memory address
      ((), { c with registers :=
        { put value c.registers with ccr := c.registers.ccr.setLogicWord value } }) :=
  fun c w before follows =>
    .bind (tracks_onMemory (h.readWord address) c w before follows) (tracks_setRegistersM _ c)

/-- What is told of the registers is noted. -/
theorem goes_log {c w : Cpu M} {before : List Record} (follows : Follows R c w before)
    (text : Cpu M → String) (same : text w = text c) :
    Goes (Follows R) (log .cpu .debug (return text (← get))) w before
      ((), c.noted note [⟨.cpu, .debug, text c⟩]) := by
  refine .of_does (.tell .cpu .debug text w) ?_
  rw [same]
  exact follows.noted h _

/-- Nothing is noted. -/
theorem goes_silent {α : Type} {x : α} {c w : Cpu M} {before : List Record} {a : Acting (Cpu M) α}
    (goes : Goes (Follows R) a w before (x, c)) :
    Goes (Follows R) a w before (x, c.noted note []) := by
  refine goes.imp fun w records follows => ?_
  rw [← List.append_nil records]
  exact follows.noted h []

theorem tracks_swi (address : UInt16) :
    Tracks (Follows R) (performM .swi address) fun c =>
      let c := c.perform .swi address
      ((), c.noted note [c.softwareInterruptRecord]) := by
  intro c w before follows
  refine .bind (tracks_pushStateM h c w before follows) fun w before follows => ?_
  refine .bind (tracks_setRegistersM _ _ w before follows) fun w before follows => ?_
  refine .bind (tracks_onMemory (h.readWord swiVector) _ w before follows)
    fun w before follows => ?_
  refine .bind (tracks_setRegistersM _ _ w before follows) fun w before follows => ?_
  refine goes_log h follows softwareInterruptText ?_
  rw [softwareInterruptText, follows.registers]
  rfl

/-- An operation that is no software interrupt has nothing to say. -/
theorem goes_performM {op : Operation} (quiet : op ≠ .swi) (address : UInt16) :
    Tracks (Follows R) (performM op address) fun c => ((), c.perform op address) := by
  intro c w before follows
  cases op with
  | swi => exact absurd rfl quiet
  | nop | tap | tpa | inx | dex | clv | sev | clc | sec | cli | sei | sba | cba | tab | tba | daa
  | aba | tsx | txs | ins | des | jmp =>
    exact tracks_modifyThe (fun _ _ => rfl) c w before follows
  | branch condition =>
    refine tracks_modifyThe (fun c m => ?_) c w before follows
    dsimp only [perform]
    split
    · rfl
    · rfl
  | modify m target =>
    cases target with
    | a | b => exact tracks_modifyThe (fun _ _ => rfl) c w before follows
    | memory => exact tracks_modifyM h m address c w before follows
  | psh acc =>
    refine .quiet (.get w) ?_
    rw [follows.registers]
    exact tracks_pushM h _ c w before follows
  | pul acc => exact .bind (tracks_pullM h c w before follows) (tracks_setRegistersM _ _)
  | rts => exact .bind (tracks_pullWordM h c w before follows) (tracks_setRegistersM _ _)
  | rti => exact tracks_pullStateM h c w before follows
  | wai =>
    exact .bind (tracks_pushStateM h c w before follows) (tracks_modifyThe (fun _ _ => rfl) _)
  | combine m acc => exact tracks_combineM h m acc address c w before follows
  | sta acc =>
    refine .quiet (.get w) ?_
    rw [follows.registers]
    exact .bind (tracks_setRegistersM _ c w before follows)
      (tracks_onMemory (h.writes address _) _)
  | cpx =>
    exact .bind (tracks_onMemory (h.readWord address) c w before follows)
      (tracks_setRegistersM _ _)
  | bsr | jsr =>
    refine .quiet (.get w) ?_
    rw [follows.registers]
    exact .bind (tracks_pushWordM h _ c w before follows) (tracks_setRegistersM _ _)
  | lds | ldx => exact tracks_loadWordM h address _ c w before follows
  | sts | stx =>
    refine .quiet (.get w) ?_
    rw [follows.registers]
    exact tracks_storeWordM h address _ c w before follows

theorem tracks_performM (op : Operation) (address : UInt16) :
    Tracks (Follows R) (performM op address) fun c =>
      let c := c.perform op address
      ((), c.noted note (if op = .swi then [c.softwareInterruptRecord] else [])) := by
  intro c w before follows
  by_cases swi : op = .swi
  · subst swi
    exact tracks_swi h address c w before follows
  · dsimp only
    rw [if_neg swi]
    exact goes_silent h (goes_performM h swi address c w before follows)

/-! ## Steps, resets and interrupts -/

theorem tracks_stepM :
    Tracks (Follows R) stepM fun c => (c.step.result, c.step.cpu.noted note c.step.records) := by
  intro c w before follows
  dsimp only
  refine .quiet (.get w) ?_
  rw [follows.state]
  cases state : c.state with
  | halted =>
    rw [step_halted state]
    exact goes_silent h (.pure follows)
  | waiting =>
    rw [step_waiting state]
    exact goes_silent h (.bind (tracks_modifyThe (fun _ _ => rfl) c w before follows)
      fun w before follows => .pure follows)
  | running =>
    refine .quiet (.get w) ?_
    rw [follows.registers]
    refine .bind (tracks_onMemory (h.reads _) c w before follows) fun w before follows => ?_
    dsimp only at follows ⊢
    rw [step, state, opcode]
    cases decode (read c.memory c.registers.pc) with
    | none =>
      refine .bind (tracks_modifyThe (fun _ _ => rfl) c w before follows)
        fun w before follows => ?_
      exact .after (.log rfl) (.pure (follows.noted h _))
    | some i =>
      refine .bind (tracks_operandAddressM h i.mode c w before follows) fun w before follows => ?_
      refine .bind (tracks_setRegistersM _ c w before follows) fun w before follows => ?_
      refine .bind (tracks_performM h i.operation _ _ w before follows)
        fun w before follows => ?_
      exact .bind (tracks_modifyThe (fun _ _ => rfl) _ w before follows)
        fun w before follows => .pure follows

theorem tracks_resetM :
    Tracks (Follows R) resetM fun c => ((), c.reset.noted note [c.reset.resetRecord]) := by
  intro c w before follows
  refine .bind (tracks_modifyThe (fun _ _ => rfl) c w before follows) fun w before follows => ?_
  refine .bind (tracks_onMemory (h.readWord resetVector) _ w before follows)
    fun w before follows => ?_
  refine .bind (tracks_setRegistersM _ _ w before follows) fun w before follows => ?_
  refine goes_log h follows resetText ?_
  rw [resetText, follows.registers]
  rfl

theorem tracks_powerOnResetM :
    Tracks (Follows R) powerOnResetM fun c =>
      ((), c.powerOnReset.noted note [c.powerOnReset.resetRecord]) :=
  fun c w before follows =>
    .bind (tracks_modifyThe (fun _ _ => rfl) c w before follows) (tracks_resetM h _)

theorem tracks_pushStateOnceM :
    Tracks (Follows R) pushStateOnceM fun c =>
      ((), if c.state = .waiting then c else c.pushState) := by
  intro c w before follows
  dsimp only
  refine .quiet (.get w) ?_
  rw [follows.state]
  by_cases waiting : c.state = .waiting
  · rw [if_neg (not_not_intro waiting), if_pos waiting]
    exact .pure follows
  · rw [if_pos waiting, if_neg waiting]
    exact tracks_pushStateM h c w before follows

theorem tracks_interruptM (vector : UInt16) :
    Tracks (Follows R) (interruptM vector) fun c =>
      let c := c.interrupt vector
      ((), c.noted note [c.interruptRecord vector]) := by
  intro c w before follows
  refine .bind (tracks_pushStateOnceM h c w before follows) fun w before follows => ?_
  refine .bind (tracks_modifyThe (fun _ _ => rfl) _ w before follows) fun w before follows => ?_
  refine .bind (tracks_onMemory (h.readWord vector) _ w before follows) fun w before follows => ?_
  refine .bind (tracks_modifyThe (fun _ _ => rfl) _ w before follows) fun w before follows => ?_
  refine goes_log h follows (·.interruptText vector) ?_
  rw [interruptText, follows.registers]
  rfl

/-- The processor when it has taken an interrupt and told so. -/
def interrupted (note : M → List Record → M) (vector : UInt16) (c : Cpu M) : Cpu M :=
  (c.interrupt vector).noted note [(c.interrupt vector).interruptRecord vector]

theorem tracks_irqM :
    Tracks (Follows R) irqM fun c =>
      (c.acceptsIrq, if c.acceptsIrq then c.interrupted note irqVector else c) := by
  intro c w before follows
  have same : w.acceptsIrq = c.acceptsIrq := by
    cases follows
    rfl
  dsimp only
  refine .quiet (.get w) ?_
  rw [same]
  cases c.acceptsIrq with
  | true =>
    exact .bind (tracks_interruptM h irqVector c w before follows) fun _ _ follows => .pure follows
  | false => exact .pure follows

theorem tracks_nmiM :
    Tracks (Follows R) nmiM fun c =>
      ((), if c.isHalted then c else c.interrupted note nmiVector) := by
  intro c w before follows
  dsimp only
  refine .quiet (.get w) ?_
  rw [isHalted, follows.state, ← isHalted]
  cases c.isHalted with
  | true => exact .pure follows
  | false => exact tracks_interruptM h nmiVector c w before follows

end Cpu

end Trainer6800
