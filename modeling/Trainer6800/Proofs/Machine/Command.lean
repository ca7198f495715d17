import Trainer6800.Machine.Mounts
import Trainer6800.Machine.Run
import Trainer6800.Machine.SaveState
import Trainer6800.Proofs.Display.Audience

/-!
# Commands

The machine is used through some twenty operations.  A `Command` is one of them with its arguments,
and `Machine.obey` carries it out: it gives the machine afterwards and whatever the operation
answers.  An operation that is refused leaves the machine as it was and answers why.

The machines that there can be (`Machine.Reachable`) are those that commands make out of a machine
with a monitor, or out of the bare machine, while observers of the display come and go.
-/

namespace Trainer6800

/-- An operation of the machine with its arguments. -/
inductive Command where
  | step
  | run (budget : UInt64)
  | tick
  | press (key : Key)
  | release (key : Key)
  | pressCode (code : String)
  | releaseCode (code : String)
  | queueKey (event : KeyEvent)
  | powerButton
  | powerOff
  | reset
  | irq
  | nmi
  | setPc (address : UInt16)
  | clearRam
  | loadProgram (image : ProgramImage)
  | addBreakpoint (address : UInt16)
  | removeBreakpoint (address : UInt16)
  | mount (id : String) (image : List UInt8)
  | unmount (id : String)
  | loadState (v : Json.Value)

/-- What an operation answers. -/
inductive Answer where
  | done
  | stepped (result : Except InvalidOpcode Nat)
  | ran (summary : RunSummary)
  /-- Whether there was something to do: an interrupt to take, a breakpoint to remove. -/
  | flag (yes : Bool)
  | keyed (result : Except UnknownKey Unit)
  | loaded (result : Except LoadError LoadReport)
  | mounted (result : Except UnknownMount Unit)
  | restored (result : Except StateError Unit)

namespace Machine

/-- The machine after an operation that may be refused, and how that went. -/
def orElse {ε : Type} (m : Machine) : Except ε Machine → Machine × Except ε Unit
  | .ok m' => (m', .ok ())
  | .error e => (m, .error e)

/-- A value that is no saved state is refused. -/
theorem loadState_unread {m : Machine} {v : Json.Value} {e : StateError}
    (unread : SavedState.ofValue v = .error e) : m.loadState v = .error e := by
  rw [loadState, unread]
  rfl

/-- A state whose memory cannot be loaded is refused. -/
theorem loadState_unfit {m : Machine} {v : Json.Value} {s : SavedState} {e : OutOfRange}
    (read : SavedState.ofValue v = .ok s) (fails : m.bus.ram.load 0 s.ram = .error e) :
    m.loadState v = .error (.memory e) := by
  rw [loadState, read]
  show ((m.bus.ram.load 0 s.ram).mapError StateError.memory).bind _ = _
  rw [fails]
  rfl

/-- Any other state is taken over. -/
theorem loadState_fit {m : Machine} {v : Json.Value} {s : SavedState} {ram : MemoryBlock}
    (read : SavedState.ofValue v = .ok s) (loads : m.bus.ram.load 0 s.ram = .ok ram) :
    m.loadState v = .ok (m.resume s ram) := by
  rw [loadState, read]
  show ((m.bus.ram.load 0 s.ram).mapError StateError.memory).bind _ = _
  rw [loads]
  rfl

/-- A value is refused, or the state that it stands for is taken over. -/
theorem loadState_cases (m : Machine) (v : Json.Value) :
    (∃ e, m.loadState v = .error e) ∨
      ∃ s ram, SavedState.ofValue v = .ok s ∧ m.bus.ram.load 0 s.ram = .ok ram ∧
        m.loadState v = .ok (m.resume s ram) := by
  cases read : SavedState.ofValue v with
  | error e => exact .inl ⟨e, loadState_unread read⟩
  | ok s =>
    cases loads : m.bus.ram.load 0 s.ram with
    | error e => exact .inl ⟨.memory e, loadState_unfit read loads⟩
    | ok ram => exact .inr ⟨s, ram, rfl, loads, loadState_fit read loads⟩

/-- A program is refused, or it is written byte by byte and the writing reported. -/
theorem loadProgram_cases (m : Machine) (image : ProgramImage) :
    (∃ e, image.writes = .error e ∧ m.loadProgram image = (m, .error (.overflow e))) ∨
      ∃ bytes records, image.writes = .ok bytes ∧ m.loadProgram image =
        ((m.updateBus fun b => (b.writeEach {} bytes).1).report records,
          (m.bus.writeEach {} bytes).2.mapError .unmapped) := by
  cases writes : image.writes with
  | error e =>
    refine .inl ⟨e, rfl, ?_⟩
    simp only [loadProgram, Bus.loadProgram, writes]
  | ok bytes =>
    cases written : m.cpu.memory.writeEach {} bytes with
    | mk b result =>
      cases result with
      | error e =>
        refine .inr ⟨bytes, [], rfl, ?_⟩
        simp only [loadProgram, Bus.loadProgram, writes, written, updateBus, bus]
        rfl
      | ok counts =>
        refine .inr ⟨bytes, [Bus.loadRecord counts], rfl, ?_⟩
        simp only [loadProgram, Bus.loadProgram, writes, written, updateBus, bus]
        rfl

/-- Carry out a command. -/
def obey (m : Machine) : Command → Machine × Answer
  | .step => (m.step.1, .stepped m.step.2)
  | .run budget => ((m.run budget.toNat).1, .ran (m.run budget.toNat).2)
  | .tick => (m.tick.1, .ran m.tick.2)
  | .press key => (m.pressKey key, .done)
  | .release key => (m.releaseKey key, .done)
  | .pressCode code => let r := m.orElse (m.pressKeyCode code); (r.1, .keyed r.2)
  | .releaseCode code => let r := m.orElse (m.releaseKeyCode code); (r.1, .keyed r.2)
  | .queueKey event => (m.queueKey event, .done)
  | .powerButton => (m.powerButton, .done)
  | .powerOff => (m.powerOff, .done)
  | .reset => (m.reset, .done)
  | .irq => (m.irq, .flag m.acceptsIrq)
  | .nmi => (m.nmi, .done)
  | .setPc address => (m.setPc address, .done)
  | .clearRam => (m.clearRam, .done)
  | .loadProgram image => ((m.loadProgram image).1, .loaded (m.loadProgram image).2)
  | .addBreakpoint address => (m.addBreakpoint address, .done)
  | .removeBreakpoint address =>
    (m.removeBreakpoint address, .flag (m.breakpoints.contains address))
  | .mount id image => let r := m.orElse (m.mount id image); (r.1, .mounted r.2)
  | .unmount id => let r := m.orElse (m.unmount id); (r.1, .mounted r.2)
  | .loadState v => let r := m.orElse (m.loadState v); (r.1, .restored r.2)

/-- What holds of the machine and of what becomes of it with any key, holds when the key is given by a
code that may name none. -/
theorem orElse_keyCode {P : Machine → Prop} {m : Machine} {f : Key → Machine} (start : P m)
    (each : ∀ key, P (f key)) (code : String) : P (m.orElse ((Key.ofText code).map f)).1 := by
  cases Key.ofText code with
  | error e => exact start
  | ok key => exact each key

/-- What presses and releases keep, holds when the queue has been handled. -/
theorem drainKeys_keeps {P : Machine → Prop} {m : Machine} (press : ∀ m key, P m → P (m.pressKey key))
    (release : ∀ m key, P m → P (m.releaseKey key)) (start : P { m with keyQueue := [] }) :
    P m.drainKeys := by
  unfold drainKeys
  generalize { m with keyQueue := [] } = m' at start ⊢
  induction m.keyQueue generalizing m' with
  | nil => exact start
  | cons event rest ih =>
    cases event with
    | press key => exact ih _ (press m' key start)
    | release key => exact ih _ (release m' key start)

/-! ## Reports -/

/-- Reports can be made together or one after the other. -/
theorem report_append (m : Machine) (r s : List Log.Record) :
    m.report (r ++ s) = (m.report r).report s := by
  have journal : m.bus.journal.appendList (r ++ s) =
      (m.bus.journal.appendList r).appendList s := by
    apply Array.ext'
    simp
  show { m with cpu.memory.journal := m.bus.journal.appendList (r ++ s) } = _
  rw [journal]
  rfl

/-! ## Turning on -/

/-- The machine before the processor is reset: memory cleared if it is to be, and the display dark. -/
def wiped (m : Machine) : Machine :=
  (if m.config.clearRamOnPowerOn then m.clearRam else m).blankDisplay.updateBus fun b =>
    { b with fault := none }

theorem powerOn_eq (m : Machine) :
    ∃ records, m.powerOn = Machine.report { m.wiped with
      keyQueue := []
      lastFault := none
      power := .running
      cpu := m.wiped.cpu.powerOnReset } records :=
  ⟨_, rfl⟩

theorem wiped_eq (m : Machine) :
    ∃ journal, m.wiped = m.updateBus fun b => { b with
      ram := if m.config.clearRamOnPowerOn then b.ram.clear else b.ram
      display := b.display.blank
      fault := none
      journal } := by
  unfold wiped
  by_cases clear : m.config.clearRamOnPowerOn = true
  · simp only [if_pos clear, blankDisplay, clearRam, updateBus, report, bus, Bus.report]
    exact ⟨_, rfl⟩
  · simp only [if_neg clear, blankDisplay, updateBus, report, bus, Bus.report]
    exact ⟨_, rfl⟩

/-- Neither the monitor nor the keypad is touched. -/
theorem powerOn_keeps (m : Machine) :
    m.powerOn.bus.rom = m.bus.rom ∧ m.powerOn.bus.keypad = m.bus.keypad ∧
      m.powerOn.monitorMounted = m.monitorMounted := by
  obtain ⟨records, on⟩ := m.powerOn_eq
  obtain ⟨journal, wiped⟩ := m.wiped_eq
  rw [on, wiped]
  exact ⟨rfl, rfl, rfl⟩

/-! ## Actions -/

/-- What can happen to a machine: a command, something that an observer of the display does, or that
the journal is written out. -/
inductive Action where
  | command (c : Command)
  | watch (w : Watching)
  | writeOut

/-- The machine after something has happened to it. -/
def act (m : Machine) : Action → Machine
  | .command c => (m.obey c).1
  | .watch w => m.updateBus fun b => { b with display := b.display.watch w }
  | .writeOut => m.updateBus fun b => { b with journal := #[] }

/-- The machines that can come to be. -/
inductive Reachable : Machine → Prop where
  | ofMonitor (image : List UInt8) (config : MachineConfig) : Reachable (.ofMonitor image config)
  | bare : Reachable .bare
  | act {m : Machine} (before : Reachable m) (a : Action) : Reachable (m.act a)

/-! ## Histories -/

/-- The ways to make a machine. -/
inductive Start where
  | ofMonitor (image : List UInt8) (config : MachineConfig)
  | bare

/-- The machine at the start. -/
def Start.machine : Start → Machine
  | ofMonitor image config => .ofMonitor image config
  | bare => .bare

/-- The machine after all that has happened to it. -/
def actAll (m : Machine) (actions : List Action) : Machine :=
  actions.foldl act m

theorem actAll_concat (m : Machine) (actions : List Action) (a : Action) :
    m.actAll (actions ++ [a]) = (m.actAll actions).act a := by
  rw [actAll, List.foldl_append]
  rfl

theorem Start.reachable (start : Start) : Reachable start.machine := by
  cases start with
  | ofMonitor image config => exact .ofMonitor image config
  | bare => exact .bare

theorem Reachable.actAll {m : Machine} (h : Reachable m) (actions : List Action) :
    Reachable (m.actAll actions) := by
  induction actions generalizing m with
  | nil => exact h
  | cons a rest ih => exact ih (h.act a)

/-- Every machine has a history. -/
theorem Reachable.exists_actAll {m : Machine} (h : Reachable m) :
    ∃ start actions, m = (Start.machine start).actAll actions := by
  induction h with
  | ofMonitor image config => exact ⟨.ofMonitor image config, [], rfl⟩
  | bare => exact ⟨.bare, [], rfl⟩
  | act before a ih =>
    obtain ⟨start, actions, rfl⟩ := ih
    exact ⟨start, actions ++ [a], (actAll_concat _ actions a).symm⟩

end Machine

end Trainer6800
