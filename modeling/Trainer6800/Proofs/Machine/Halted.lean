import Trainer6800.Proofs.Cpu.Footprint
import Trainer6800.Proofs.Machine.AddressMap
import Trainer6800.Proofs.Machine.Off
import Trainer6800.Proofs.Machine.Sound

/-!
# Halted machines

The processor halts on an opcode that is none, and the machine keeps a record of it.  The two are in
different places: the processor has stopped, and the machine goes on being used.  A halt stays explained
all the same (`Machine.Explained`): the record is about the opcode at which the processor stands.

What is done to a machine has one of two outcomes unless it executes instructions or loads a state: it
leaves the processor and the record undisturbed, or it sets the processor running
(`Machine.undisturbed_or_running`).  From a halt, executing instructions does nothing, so that only the
actions are left that set the processor running (`Machine.EndsHalt`).
-/

namespace Trainer6800

/-- Among the events is a press of RESET while it is not held. -/
def Keypad.FreshReset (k : Keypad) : List KeyEvent → Prop
  | [] => False
  | .press key :: rest =>
    key = .reset ∧ k.isPressed key = false ∨ (k.press key).FreshReset rest
  | .release key :: rest => (k.release key).FreshReset rest

theorem Keypad.not_freshReset (k : Keypad) {events : List KeyEvent}
    (none : KeyEvent.press .reset ∉ events) : ¬ k.FreshReset events := by
  induction events generalizing k with
  | nil => exact id
  | cons event rest ih =>
    rw [List.mem_cons, not_or] at none
    cases event with
    | release key => exact ih (k.release key) none.2
    | press key =>
      rintro (⟨rfl, -⟩ | later)
      · exact none.1 rfl
      · exact ih (k.press key) none.2 later

namespace Cpu

variable {M : Type} [AddressSpace M] {c : Cpu M}

/-- What a failed step met is where the processor stands, and is no opcode. -/
theorem undefined_of_step {e : InvalidOpcode} (failed : c.step.result = .error e) :
    e.pc = c.registers.pc ∧ decode e.opcode = none := by
  cases state : c.state with
  | halted =>
    rw [step_halted state] at failed
    cases failed
  | waiting =>
    rw [step_waiting state] at failed
    cases failed
  | running =>
    cases defined : decode c.opcode with
    | none =>
      rw [(step_undefined state defined).2] at failed
      cases failed
      exact ⟨rfl, defined⟩
    | some i =>
      rw [(step_defined state defined).2] at failed
      cases failed

/-- No instruction halts the processor. -/
theorem goes_of_step (goes : c.state ≠ .halted) {n : Nat} (took : c.step.result = .ok n) :
    c.step.cpu.state ≠ .halted := by
  cases state : c.state with
  | halted => exact absurd state goes
  | waiting =>
    rw [step_waiting state]
    exact goes
  | running =>
    cases defined : decode c.opcode with
    | none =>
      rw [(step_undefined state defined).2] at took
      cases took
    | some i =>
      by_cases waits : i.operation = .wai
      · rw [(step_defined state defined).1, execute, waits]
        simp [perform]
      · rw [(footprint_step state defined).state waits]
        exact goes

end Cpu

namespace Machine

variable {m m' m'' : Machine}

/-- If the processor is halted, the last fault is the opcode at which it stands, and that is none. -/
def Explained (m : Machine) : Prop :=
  m.cpu.state = .halted →
    ∃ e, m.lastFault = some (.cpu e) ∧ e.pc = m.cpu.registers.pc ∧ decode e.opcode = none

/-- The processor is as it was, and so is the record of what went wrong, if no write has failed. -/
structure Undisturbed (m m' : Machine) : Prop where
  registers : m'.cpu.registers = m.cpu.registers
  state : m'.cpu.state = m.cpu.state
  cycles : m'.cpu.cycles = m.cpu.cycles
  fault : m.bus.fault = none → m'.bus.fault = none ∧ m'.lastFault = m.lastFault

namespace Undisturbed

theorem trans (h : Undisturbed m m') (h' : Undisturbed m' m'') : Undisturbed m m'' where
  registers := h'.registers.trans h.registers
  state := h'.state.trans h.state
  cycles := h'.cycles.trans h.cycles
  fault := by
    intro none
    obtain ⟨none', same⟩ := h.fault none
    obtain ⟨none'', same'⟩ := h'.fault none'
    exact ⟨none'', same'.trans same⟩

/-- What is behind the bus may have changed, and whatever the machine has beside the processor. -/
theorem of_same (cpu : { m'.cpu with memory := m.bus } = m.cpu) (fault : m'.bus.fault = m.bus.fault)
    (lastFault : m'.lastFault = m.lastFault) : Undisturbed m m' where
  registers := (congrArg Cpu.registers cpu :)
  state := (congrArg Cpu.state cpu :)
  cycles := (congrArg Cpu.cycles cpu :)
  fault := fun none => ⟨fault.trans none, lastFault⟩

theorem refl (m : Machine) : Undisturbed m m :=
  .of_same rfl rfl rfl

theorem explained (h : Undisturbed m m') (noFault : m.bus.fault = none) (before : m.Explained) :
    m'.Explained := by
  intro halted
  rw [h.registers, (h.fault noFault).2]
  exact before (h.state.symm.trans halted)

end Undisturbed

theorem explained_of_running (goes : m.cpu.state = .running) : m.Explained := by
  intro halted
  rw [goes] at halted
  cases halted

/-! ## Actions that execute nothing -/

/-- What ends a halt. -/
def EndsHalt (m : Machine) : Action → Prop
  | .command .reset => m.isPowered = true
  | .command (.press key) => m.isPowered = true ∧ key = .reset ∧ m.isPressed .reset = false
  | .command (.pressCode code) =>
    m.isPowered = true ∧ Key.Names code .reset ∧ m.isPressed .reset = false
  | .command .tick => m.isPowered = true ∧ m.bus.keypad.FreshReset m.keyQueue
  -- the machine is switched on
  | .command .powerButton => m.isPowered = false
  | .command (.setPc _) => True
  | .command (.loadState v) => ∃ m', m.loadState v = .ok m'
  | _ => False

/-- An action that executes instructions, or brings a processor from elsewhere. -/
def Action.Executes : Action → Prop
  | .command .step | .command (.run _) | .command .tick | .command (.loadState _) => True
  | _ => False

theorem reset_outcome (m : Machine) :
    Undisturbed m m.reset ∨ m.reset.cpu.state = .running ∧ m.isPowered = true := by
  unfold reset
  split
  · rename_i on
    exact .inr ⟨rfl, on⟩
  · exact .inl (.refl m)

theorem pressKey_reset (on : m.isPowered = true) (fresh : m.isPressed .reset = false) :
    (m.pressKey .reset).cpu.state = .running := by
  have powered : (Machine.report (m.updateBus fun b => { b with keypad := b.keypad.press .reset })
      (m.bus.keypad.pressRecords .reset)).isPowered = true := on
  simp only [pressKey, if_pos on]
  rw [if_pos (by simp [fresh]), reset, if_pos powered]
  rfl

/-- Of all presses only that of RESET does anything to the processor, and only if it is a press. -/
theorem pressKey_outcome (m : Machine) (key : Key) :
    Undisturbed m (m.pressKey key) ∨
      (m.pressKey key).cpu.state = .running ∧
        m.isPowered = true ∧ key = .reset ∧ m.isPressed .reset = false := by
  by_cases on : m.isPowered = true
  · by_cases fresh : key = .reset ∧ m.isPressed key = false
    · obtain ⟨rfl, fresh⟩ := fresh
      exact .inr ⟨pressKey_reset on fresh, on, rfl, fresh⟩
    · simp only [pressKey, if_pos on]
      rw [if_neg (by simpa using fresh)]
      exact .inl (.of_same rfl rfl rfl)
  · simp only [pressKey, if_neg on]
    exact .inl (.of_same rfl rfl rfl)

theorem releaseKey_undisturbed (m : Machine) (key : Key) : Undisturbed m (m.releaseKey key) := by
  simp only [releaseKey]
  split
  · exact .of_same rfl rfl rfl
  · exact .refl m

theorem queueKey_undisturbed (m : Machine) (event : KeyEvent) :
    Undisturbed m (m.queueKey event) := by
  unfold queueKey
  split
  · exact .of_same rfl rfl rfl
  · exact .refl m

theorem powerOff_undisturbed (m : Machine) : Undisturbed m m.powerOff := by
  simp only [powerOff]
  split
  · exact .of_same rfl rfl rfl
  · exact .of_same rfl rfl rfl

theorem changeMonitor_undisturbed (m : Machine) (image : List UInt8) (mounted : Bool) :
    Undisturbed m (m.changeMonitor image mounted) :=
  m.powerOff_undisturbed.trans (.of_same rfl rfl rfl)

theorem powerButton_outcome (m : Machine) :
    Undisturbed m m.powerButton ∨ m.powerButton.cpu.state = .running ∧ m.isPowered = false := by
  unfold powerButton
  split
  · exact .inl m.powerOff_undisturbed
  · rename_i off
    exact .inr ⟨rfl, by simpa using off⟩

theorem irq_outcome (m : Machine) :
    Undisturbed m m.irq ∨ m.irq.cpu.state = .running ∧ m.cpu.state ≠ .halted := by
  unfold irq
  split
  · rename_i accepts
    refine .inr ⟨rfl, fun halted => ?_⟩
    simp [acceptsIrq, Cpu.acceptsIrq, Cpu.isHalted, halted] at accepts
  · exact .inl (.refl m)

theorem nmi_outcome (m : Machine) :
    Undisturbed m m.nmi ∨ m.nmi.cpu.state = .running ∧ m.cpu.state ≠ .halted := by
  unfold nmi
  split
  · rename_i accepts
    refine .inr ⟨rfl, fun halted => ?_⟩
    simp [Cpu.isHalted, halted] at accepts
  · exact .inl (.refl m)

/-- The processor is left alone, or it is set running.  If it was halted, that is the end of the halt. -/
theorem undisturbed_or_running (m : Machine) {a : Action} (executes : ¬ a.Executes) :
    Undisturbed m (m.act a) ∨
      (m.act a).cpu.state = .running ∧ (m.cpu.state = .halted → m.EndsHalt a) := by
  cases a with
  | watch w => exact .inl (.of_same rfl rfl rfl)
  | writeOut => exact .inl (.of_same rfl rfl rfl)
  | command c =>
    cases c with
    | step | run _ | tick | loadState _ => exact absurd trivial executes
    | reset =>
      rcases m.reset_outcome with same | ⟨goes, on⟩
      · exact .inl same
      · exact .inr ⟨goes, fun _ => on⟩
    | press key =>
      rcases m.pressKey_outcome key with same | ⟨goes, fresh⟩
      · exact .inl same
      · exact .inr ⟨goes, fun _ => fresh⟩
    | pressCode code =>
      show Undisturbed m (m.orElse ((Key.ofText code).map m.pressKey)).1 ∨
        (m.orElse ((Key.ofText code).map m.pressKey)).1.cpu.state = .running ∧ _
      cases read : Key.ofText code with
      | error e => exact .inl (.refl m)
      | ok key =>
        rcases m.pressKey_outcome key with same | ⟨goes, on, rfl, fresh⟩
        · exact .inl same
        · exact .inr ⟨goes, fun _ => ⟨on, Key.ofText_eq_ok_iff.mp read, fresh⟩⟩
    | release key => exact .inl (m.releaseKey_undisturbed key)
    | releaseCode code =>
      exact .inl (orElse_keyCode (P := Undisturbed m) (.refl m) m.releaseKey_undisturbed code)
    | queueKey event => exact .inl (m.queueKey_undisturbed event)
    | powerButton =>
      rcases m.powerButton_outcome with same | ⟨goes, off⟩
      · exact .inl same
      · exact .inr ⟨goes, fun _ => off⟩
    | powerOff => exact .inl m.powerOff_undisturbed
    | irq =>
      rcases m.irq_outcome with same | ⟨goes, awake⟩
      · exact .inl same
      · exact .inr ⟨goes, fun halted => absurd halted awake⟩
    | nmi =>
      rcases m.nmi_outcome with same | ⟨goes, awake⟩
      · exact .inl same
      · exact .inr ⟨goes, fun halted => absurd halted awake⟩
    | setPc address => exact .inr ⟨rfl, fun _ => trivial⟩
    | clearRam => exact .inl (.of_same rfl rfl rfl)
    | loadProgram image => exact .inl (.of_same rfl (m.loadProgram_keeps image).2 rfl)
    | addBreakpoint address => exact .inl (.of_same rfl rfl rfl)
    | removeBreakpoint address => exact .inl (.of_same rfl rfl rfl)
    | mount id image =>
      refine .inl ?_
      show Undisturbed m (m.orElse (m.mount id image)).1
      unfold mount
      split
      · exact (m.changeMonitor_undisturbed image true).trans (.of_same rfl rfl rfl)
      · exact .refl m
    | unmount id =>
      refine .inl ?_
      show Undisturbed m (m.orElse (m.unmount id)).1
      unfold unmount
      split
      · exact m.changeMonitor_undisturbed [] false
      · exact .refl m

/-- What ends a halt sets the processor running.  With a tick and with a saved state it depends on what
comes next. -/
theorem running_of_endsHalt {a : Action} (executes : ¬ a.Executes) (ends : m.EndsHalt a) :
    (m.act a).cpu.state = .running := by
  cases a with
  | watch w | writeOut => exact ends.elim
  | command c =>
    cases c with
    | tick | loadState _ => exact absurd trivial executes
    | reset =>
      have on : m.isPowered = true := ends
      show m.reset.cpu.state = _
      rw [reset, if_pos on]
      rfl
    | press key =>
      obtain ⟨on, rfl, fresh⟩ := ends
      exact pressKey_reset on fresh
    | pressCode code =>
      obtain ⟨on, named, fresh⟩ := ends
      show (m.orElse ((Key.ofText code).map m.pressKey)).1.cpu.state = _
      rw [Key.ofText_eq_ok_iff.mpr named]
      exact pressKey_reset on fresh
    | powerButton =>
      have off : ¬ m.isPowered = true := by simpa [EndsHalt] using ends
      show m.powerButton.cpu.state = _
      rw [powerButton, if_neg off]
      rfl
    | setPc address => rfl
    | _ => exact ends.elim

/-! ## Executing -/

/-- A halted processor executes nothing. -/
theorem advance_of_halted (halted : m.cpu.state = .halted) :
    Undisturbed m m.advance.1 ∧ m.advance.2 = .ok 0 := by
  have idle := Cpu.step_halted halted
  refine ⟨⟨?_, ?_, ?_, fun none => ⟨rfl, ?_⟩⟩, ?_⟩
  · show m.cpu.step.cpu.registers = _
    rw [idle]
  · show m.cpu.step.cpu.state = _
    rw [idle]
  · show m.cpu.step.cpu.cycles = _
    rw [idle]
  · have none' : m.cpu.memory.fault = .none := none
    simp only [advance, idle, none']
    rfl
  · show m.cpu.step.result = _
    rw [idle]

theorem step_of_halted (halted : m.cpu.state = .halted) :
    Undisturbed m m.step.1 ∧ m.step.2 = .ok 0 := by
  unfold step
  split
  · exact advance_of_halted halted
  · exact ⟨.refl m, rfl⟩

theorem halted_of_undefined (on : m.isPowered = true) (running : m.cpu.state = .running)
    (undefined : decode m.cpu.opcode = none) : m.step.1.cpu.state = .halted := by
  rw [step, if_pos on]
  show m.cpu.step.cpu.state = .halted
  rw [(Cpu.step_undefined running undefined).1]

/-- A step is no key event. -/
theorem keyQueue_step (m : Machine) : m.step.1.keyQueue = m.keyQueue := by
  unfold step
  split
  · rfl
  · rfl

theorem run_of_halted (halted : m.cpu.state = .halted) (budget : Nat) :
    (m.run budget).1 = m ∧
      (m.isPowered = true → 0 < budget → (m.run budget).2 = summary 0 0 .halted) := by
  unfold run
  split
  · rw [runFrom_eq, halted]
    split
    · exact ⟨rfl, fun _ _ => rfl⟩
    · rename_i used
      exact ⟨rfl, fun _ positive => absurd positive used⟩
  · rename_i off
    exact ⟨rfl, fun on => absurd on off⟩

/-- A reset of the processor leaves the bus to the press that caused it. -/
theorem bus_pressKey (m : Machine) (key : Key) :
    (m.pressKey key).bus.fault = m.bus.fault ∧
      (m.isPowered = true → (m.pressKey key).bus.keypad = m.bus.keypad.press key) := by
  simp only [pressKey]
  split
  · split
    · unfold reset
      split
      · exact ⟨rfl, fun _ => rfl⟩
      · exact ⟨rfl, fun _ => rfl⟩
    · exact ⟨rfl, fun _ => rfl⟩
  · rename_i off
    exact ⟨rfl, fun on => absurd on off⟩

theorem bus_releaseKey (m : Machine) (key : Key) :
    (m.releaseKey key).bus.fault = m.bus.fault ∧
      (m.isPowered = true → (m.releaseKey key).bus.keypad = m.bus.keypad.release key) := by
  simp only [releaseKey]
  split
  · exact ⟨rfl, fun _ => rfl⟩
  · rename_i off
    exact ⟨rfl, fun on => absurd on off⟩

/-- Key events leave the processor alone unless RESET is among them. -/
theorem handleKeys_outcome (m : Machine) (events : List KeyEvent) :
    Undisturbed m (events.foldl handleKey m) ∨
      m.isPowered = true ∧ m.bus.keypad.FreshReset events := by
  -- the keypad has to be followed: whether a press of RESET is fresh depends on the events before it
  induction events generalizing m with
  | nil => exact .inl (.refl m)
  | cons event rest ih =>
    cases event with
    | press key =>
      rcases m.pressKey_outcome key with same | ⟨-, on, rfl, fresh⟩
      · rcases ih (m.pressKey key) with later | ⟨on', fresh⟩
        · exact .inl (same.trans later)
        · have on : m.isPowered = true := by rwa [isPowered, power_pressKey] at on'
          rw [(m.bus_pressKey key).2 on] at fresh
          exact .inr ⟨on, .inr fresh⟩
      · exact .inr ⟨on, .inl ⟨rfl, fresh⟩⟩
    | release key =>
      rcases ih (m.releaseKey key) with later | ⟨on', fresh⟩
      · exact .inl ((m.releaseKey_undisturbed key).trans later)
      · have on : m.isPowered = true := by rwa [isPowered, power_releaseKey] at on'
        rw [(m.bus_releaseKey key).2 on] at fresh
        exact .inr ⟨on, fresh⟩

theorem drainKeys_outcome (m : Machine) :
    Undisturbed m m.drainKeys ∨ m.isPowered = true ∧ m.bus.keypad.FreshReset m.keyQueue := by
  have emptied : Undisturbed m { m with keyQueue := [] } := .of_same rfl rfl rfl
  rcases handleKeys_outcome { m with keyQueue := [] } m.keyQueue with same | fresh
  · exact .inl (emptied.trans same)
  · exact .inr fresh

/-! ## One action -/

/-- Whatever is done to a halted machine does not disturb the processor, unless it is one of the actions
that end a halt. -/
theorem undisturbed_or_endsHalt (halted : m.cpu.state = .halted) (a : Action) :
    Undisturbed m (m.act a) ∨ m.EndsHalt a := by
  by_cases executes : a.Executes
  · cases a with
    | watch w | writeOut => exact executes.elim
    | command c =>
      cases c with
      | step => exact .inl (step_of_halted halted).1
      | run budget =>
        show Undisturbed m (m.run budget.toNat).1 ∨ _
        rw [(run_of_halted halted _).1]
        exact .inl (.refl m)
      | tick =>
        rcases m.drainKeys_outcome with same | fresh
        · show Undisturbed m (m.drainKeys.run m.config.cyclesPerTick).1 ∨ _
          rw [(run_of_halted (same.state.trans halted) _).1]
          exact .inl same
        · exact .inr fresh
      | loadState v =>
        cases loads : m.loadState v with
        | ok m' => exact .inr ⟨m', loads⟩
        | error e =>
          show Undisturbed m (m.orElse (m.loadState v)).1 ∨ _
          rw [loads]
          exact .inl (.refl m)
      | _ => exact executes.elim
  · rcases m.undisturbed_or_running executes with same | ⟨-, ends⟩
    · exact .inl same
    · exact .inr (ends halted)

theorem explained_advance (noFault : m.bus.fault = none) (before : m.Explained) :
    m.advance.1.Explained := by
  by_cases stopped : m.cpu.state = .halted
  · exact (advance_of_halted stopped).1.explained noFault before
  · intro halted
    cases result : m.cpu.step.result with
    | ok n => exact absurd halted (Cpu.goes_of_step stopped result)
    | error e =>
      obtain ⟨pc, undefined⟩ := Cpu.undefined_of_step result
      have stays : m.advance.1.cpu.registers = m.cpu.registers := by
        show m.cpu.step.cpu.registers = _
        rw [Cpu.halts_of_step result]
      refine ⟨e, ?_, by rw [stays, pc], undefined⟩
      simp only [advance, result]
      rfl

theorem Slice.explained {budget spent done : Nat} {events : List RunEvent} {s : RunSummary}
    (h : Slice budget m spent done events m' s) (noFault : m.bus.fault = none)
    (before : m.Explained) : m'.Explained := by
  induction h with
  | exhausted used => exact before
  | halted within halted => exact before
  | waiting within waiting => exact before
  | breakpoint within running later stops => exact before
  | undefined within running free failed => exact explained_advance noFault before
  | executed within running free took rest ih => exact ih rfl (explained_advance noFault before)

theorem explained_run (noFault : m.bus.fault = none) (before : m.Explained) (budget : Nat) :
    (m.run budget).1.Explained := by
  unfold run
  split
  · exact (slice_runFrom budget m 0 0).explained noFault before
  · exact before

theorem explained_drainKeys (noFault : m.bus.fault = none) (before : m.Explained) :
    m.drainKeys.bus.fault = none ∧ m.drainKeys.Explained := by
  refine drainKeys_keeps (P := fun m => m.bus.fault = none ∧ m.Explained) ?_ ?_ ⟨noFault, before⟩
  · rintro m key ⟨noFault, before⟩
    refine ⟨(m.bus_pressKey key).1.trans noFault, ?_⟩
    rcases m.pressKey_outcome key with same | ⟨goes, -⟩
    · exact same.explained noFault before
    · exact explained_of_running goes
  · rintro m key ⟨noFault, before⟩
    exact ⟨(m.bus_releaseKey key).1.trans noFault,
      (m.releaseKey_undisturbed key).explained noFault before⟩

/-- The action brings a halt from elsewhere. -/
def Action.LoadsHalt : Action → Prop
  | .command (.loadState v) => ∃ s, SavedState.ofValue v = .ok s ∧ s.cpu.state = .halted
  | _ => False

theorem explained_act (noFault : m.bus.fault = none) (before : m.Explained) {a : Action}
    (own : ¬ a.LoadsHalt) : (m.act a).Explained := by
  by_cases executes : a.Executes
  · cases a with
    | watch w | writeOut => exact executes.elim
    | command c =>
      cases c with
      | step =>
        show m.step.1.Explained
        unfold step
        split
        · exact explained_advance noFault before
        · exact before
      | run budget => exact explained_run noFault before budget.toNat
      | tick =>
        obtain ⟨noFault', drained⟩ := explained_drainKeys noFault before
        exact explained_run noFault' drained m.config.cyclesPerTick
      | loadState v =>
        show (m.orElse (m.loadState v)).1.Explained
        rcases m.loadState_cases v with ⟨e, refused⟩ | ⟨s, ram, read, -, loads⟩
        · rw [refused]
          exact before
        · rw [loads]
          intro halted
          exact absurd ⟨s, read, halted⟩ own
      | _ => exact executes.elim
  · rcases m.undisturbed_or_running executes with same | ⟨goes, -⟩
    · exact same.explained noFault before
    · exact explained_of_running goes

/-! ## Any number of actions -/

theorem Reachable.explained_actAll (reachable : Reachable m) (before : m.Explained)
    {actions : List Action} (own : ∀ a ∈ actions, ¬ a.LoadsHalt) : (m.actAll actions).Explained := by
  induction actions generalizing m with
  | nil => exact before
  | cons a rest ih =>
    rw [List.forall_mem_cons] at own
    exact ih (reachable.act a) (explained_act reachable.sound.bus.fault before own.1) own.2

theorem Start.explained (start : Start) : start.machine.Explained := by
  cases start with
  | ofMonitor image config => exact explained_of_running rfl
  | bare => exact explained_of_running rfl

/-- Actions that may be done to a halted machine without consequences for the processor: all but
switching on, a reset, a press of RESET, and setting the program counter or the state. -/
def Spares (m : Machine) : Action → Prop
  | .command .reset | .command .powerButton | .command (.setPc _) | .command (.loadState _) => False
  | .command (.press key) => key ≠ .reset
  | .command (.pressCode code) => ¬ Key.Names code .reset
  | .command .tick => KeyEvent.press .reset ∉ m.keyQueue
  | _ => True

/-- Each of the actions spares the machine when it comes. -/
def SparedBy (m : Machine) : List Action → Prop
  | [] => True
  | a :: rest => m.Spares a ∧ (m.act a).SparedBy rest

theorem Spares.not_endsHalt {a : Action} (spares : m.Spares a) : ¬ m.EndsHalt a := by
  intro ends
  cases a with
  | watch w | writeOut => exact ends
  | command c =>
    cases c with
    | reset | powerButton | setPc _ | loadState _ => exact spares
    | press key => exact spares ends.2.1
    | pressCode code => exact spares ends.2.1
    | tick => exact m.bus.keypad.not_freshReset spares ends.2
    | _ => exact ends

theorem undisturbed_actAll (halted : m.cpu.state = .halted) {actions : List Action}
    (spared : m.SparedBy actions) : Undisturbed m (m.actAll actions) := by
  induction actions generalizing m with
  | nil => exact .refl m
  | cons a rest ih =>
    obtain ⟨spares, spared⟩ := spared
    have same := (undisturbed_or_endsHalt halted a).resolve_right spares.not_endsHalt
    exact same.trans (ih (same.state.trans halted) spared)

/-- The processor has halted and stays where it is, and a machine that is asked to run says so. -/
structure StaysHalted (m m' : Machine) : Prop where
  halted : m'.cpu.state = .halted
  registers : m'.cpu.registers = m.cpu.registers
  cycles : m'.cpu.cycles = m.cpu.cycles
  /-- Nothing has come over the record, unless a write had failed before. -/
  recorded : m.bus.fault = none → m'.lastFault = m.lastFault
  stepped : m'.step.2 = .ok 0
  ran : m'.isPowered = true → ∀ budget, 0 < budget →
    m'.run budget = (m', { cycles := 0, instructions := 0, stop := .halted })

/-- A halt is explained, in every machine that has not got it from a saved state; it is stable, whatever
is done that may be done; and it ends only with a reset or a press of RESET in a machine that is on, with
switching on, or when the program counter or the state is set. -/
theorem halt_explained_and_stable :
    (∀ (start : Start) (actions : List Action), (∀ a ∈ actions, ¬ a.LoadsHalt) →
      (start.machine.actAll actions).Explained) ∧
    (∀ m : Machine, m.cpu.state = .halted → ∀ actions, m.SparedBy actions →
      StaysHalted m (m.actAll actions)) ∧
    (∀ (m : Machine) (a : Action), m.cpu.state = .halted → (m.act a).cpu.state ≠ .halted →
      m.EndsHalt a) ∧
    ∀ (m : Machine) (a : Action), ¬ a.Executes → m.EndsHalt a → (m.act a).cpu.state = .running := by
  refine ⟨fun start actions own => ?_, fun m halted actions spared => ?_, fun m a halted leaves => ?_,
    fun m a executes ends => running_of_endsHalt executes ends⟩
  · exact start.reachable.explained_actAll start.explained own
  · have same := undisturbed_actAll halted spared
    have halted' := same.state.trans halted
    have stepped := (step_of_halted halted').2
    have recorded (none : m.bus.fault = none) := (same.fault none).2
    refine ⟨halted', same.registers, same.cycles, recorded, stepped, fun on budget positive => ?_⟩
    obtain ⟨stays, summary⟩ := run_of_halted halted' budget
    exact Prod.ext stays (summary on positive)
  · rcases undisturbed_or_endsHalt halted a with same | ends
    · exact absurd (same.state.trans halted) leaves
    · exact ends

/-- A machine without a monitor that has been turned on and set to where the monitor would be. -/
def atMonitor : Machine :=
  (ofMonitor [] {}).powerOn.setPc 0xFC00

theorem atMonitor_eq : atMonitor =
    (Start.ofMonitor [] {}).machine.actAll [.command .powerButton, .command (.setPc 0xFC00)] :=
  rfl

/-- There is no such opcode as the one that it meets. -/
theorem undefined_atMonitor : decode atMonitor.cpu.opcode = none := by
  have sound := ((Start.ofMonitor [] {}).reachable.actAll
    [.command .powerButton, .command (.setPc 0xFC00)]).sound
  rw [← atMonitor_eq] at sound
  have fitted : atMonitor.bus.Fitted := ⟨sound.bus.ram, sound.bus.rom⟩
  have moved (m : Machine) (address : UInt16) : (m.setPc address).bus.rom = m.bus.rom := rfl
  have blank : atMonitor.bus.rom = (ofMonitor [] {}).bus.rom := by
    rw [atMonitor, moved]
    exact (ofMonitor [] {}).powerOn_keeps.1
  have first : (ofMonitor [] {}).bus.rom.content.getD 0 0 = 0 := by decide +kernel
  have place : (0xFC00 : UInt16).toNat - 0xFC00 = 0 := by decide
  have pc : atMonitor.cpu.registers.pc = 0xFC00 := rfl
  have opcode : atMonitor.cpu.opcode = 0 := by
    rw [Cpu.opcode, pc]
    show atMonitor.bus.read 0xFC00 = 0
    rw [fitted.read_monitor (by decide), blank, place]
    exact first
  rw [opcode, OpcodeMap.decode_eq]
  rfl

/-- The halt is explained, it lasts through a tick, a request and a key until the power goes off, and a
reset ends it. -/
theorem halt_explained_and_stable_atMonitor :
    let m := atMonitor.act (.command .step)
    m.cpu.state = .halted ∧ m.Explained ∧
      StaysHalted m (m.actAll [.command .tick, .command .irq, .command (.press (.data 3)),
        .command .powerOff]) ∧
      m.EndsHalt (.command .reset) ∧ (m.act (.command .reset)).cpu.state = .running := by
  intro m
  obtain ⟨explains, stable, only, ends⟩ := halt_explained_and_stable
  have history : m = (Start.ofMonitor [] {}).machine.actAll
      [.command .powerButton, .command (.setPc 0xFC00), .command .step] :=
    congrArg (act · (.command .step)) atMonitor_eq
  have explained : m.Explained := by
    rw [history]
    exact explains _ _ (by simp [Action.LoadsHalt])
  have halted : m.cpu.state = .halted := halted_of_undefined rfl rfl undefined_atMonitor
  have queue : m.keyQueue = [] := atMonitor.keyQueue_step
  have noKeys : KeyEvent.press .reset ∉ m.keyQueue := by
    rw [queue]
    exact List.not_mem_nil
  have spared : m.SparedBy [.command .tick, .command .irq, .command (.press (.data 3)),
      .command .powerOff] :=
    ⟨noKeys, trivial, by simp [Spares], trivial, trivial⟩
  have power : m.power = .running := atMonitor.power_obey (c := .step) trivial
  have on : m.isPowered = true := by
    rw [isPowered, power]
    rfl
  have reset := ends m (.command .reset) id on
  have leaves : (m.act (.command .reset)).cpu.state ≠ .halted := by
    rw [reset]
    decide
  exact ⟨halted, explained, stable m halted _ spared, only m _ halted leaves, reset⟩

end Machine

end Trainer6800
