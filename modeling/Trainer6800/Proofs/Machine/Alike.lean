import Trainer6800.Proofs.Cpu.Correspondence
import Trainer6800.Proofs.Machine.Command
import Trainer6800.Proofs.Machine.Slice

/-!
# Machines that cannot be told apart

Two machines are alike when they agree on everything that later behaviour depends on.  Not all that a
machine holds is of that kind: who follows the display, what has been reported, how many writes a
block has refused, the last fault and whether a monitor is said to be mounted leave no trace in what
the machine does.  `Machine.Alike` leaves these out, and the lemmas of this module go through the
machine's operations and show that like machines answer each of them alike and stay alike.

For the processor this is `Cpu.Alike`, once the two buses correspond.
-/

namespace Trainer6800

/-! ## Memory -/

namespace MemoryBlock

/-- Blocks with the same bytes at the same addresses and the same access. -/
structure Alike (b c : MemoryBlock) : Prop where
  content : b.content = c.content
  base : b.base = c.base
  access : b.access = c.access

namespace Alike

variable {b c : MemoryBlock}

/-- Like blocks differ in nothing but the number of refused writes. -/
theorem exists_eq (h : b.Alike c) : ∃ n, c = { b with rejectedWrites := n } := by
  obtain ⟨content, base, access, refused⟩ := b
  obtain ⟨content', base', access', refused'⟩ := c
  obtain ⟨rfl, rfl, rfl⟩ := h
  exact ⟨refused', rfl⟩

theorem contains (h : b.Alike c) (address : UInt16) : b.contains address = c.contains address := by
  obtain ⟨n, rfl⟩ := h.exists_eq
  rfl

theorem outOfRange (h : b.Alike c) (address : UInt16) :
    b.outOfRange address = c.outOfRange address := by
  obtain ⟨n, rfl⟩ := h.exists_eq
  rfl

theorem read (h : b.Alike c) (address : UInt16) : b.read address = c.read address := by
  obtain ⟨n, rfl⟩ := h.exists_eq
  rfl

theorem store (h : b.Alike c) (address : UInt16) (bytes : List UInt8) :
    (b.store address bytes).Alike (c.store address bytes) := by
  obtain ⟨n, rfl⟩ := h.exists_eq
  dsimp only [MemoryBlock.store]
  cases access : b.access with
  | plain => exact ⟨rfl, rfl, rfl⟩
  | readOnly => exact ⟨rfl, rfl, access⟩

theorem clear (h : b.Alike c) : b.clear.Alike c.clear := by
  obtain ⟨n, rfl⟩ := h.exists_eq
  dsimp only [MemoryBlock.clear]
  cases access : b.access with
  | plain => exact ⟨rfl, rfl, rfl⟩
  | readOnly => exact ⟨rfl, rfl, access⟩

/-- A load fails on both blocks, in the same way, or on neither. -/
theorem load (h : b.Alike c) (address : UInt16) (bytes : List UInt8) :
    (∃ e, b.load address bytes = .error e ∧ c.load address bytes = .error e) ∨
      ∃ b' c', b.load address bytes = .ok b' ∧ c.load address bytes = .ok c' ∧ b'.Alike c' := by
  have fault : b.loadFault? address bytes.length = c.loadFault? address bytes.length := by
    obtain ⟨n, rfl⟩ := h.exists_eq
    rfl
  rw [MemoryBlock.load, MemoryBlock.load, fault]
  cases c.loadFault? address bytes.length with
  | some e => exact .inl ⟨e, rfl, rfl⟩
  | none =>
    refine .inr ⟨_, _, rfl, rfl, ?_⟩
    split
    · exact h
    · exact h.store address bytes

end Alike

end MemoryBlock

/-! ## The display -/

namespace DisplayLatch

variable {l k : DisplayLatch}

/-- What a write makes of the digits does not depend on the observers. -/
theorem digits_write (h : l.digits = k.digits) (offset value : UInt8) :
    (l.write offset value).digits = (k.write offset value).digits := by
  unfold write
  cases wiredDigit? offset with
  | none => exact h
  | some index =>
    simp only [h]
    split
    · exact h
    · simp only [setDigit, putDigit, broadcast, h]

theorem digits_blank (h : l.digits = k.digits) : l.blank.digits = k.blank.digits := by
  unfold blank
  generalize List.finRange 6 = indices
  induction indices generalizing l k with
  | nil => exact h
  | cons index rest ih =>
    refine ih ?_
    simp only [blankDigit, h]
    split
    · exact h
    · simp only [setDigit, putDigit, broadcast, h]

end DisplayLatch

/-! ## The bus -/

namespace Bus

/-- Buses that no access can tell apart. -/
structure Alike (b c : Bus) : Prop where
  ram : b.ram.Alike c.ram
  rom : b.rom.Alike c.rom
  keypad : b.keypad = c.keypad
  digits : b.display.digits = c.display.digits

namespace Alike

variable {b c : Bus}

theorem withRam (h : b.Alike c) {r s : MemoryBlock} (same : r.Alike s) :
    { b with ram := r }.Alike { c with ram := s } :=
  { h with ram := same }

theorem withKeypad (h : b.Alike c) {j k : Keypad} (same : j = k) :
    { b with keypad := j }.Alike { c with keypad := k } :=
  { h with keypad := same }

theorem withDisplay (h : b.Alike c) {d e : DisplayLatch} (same : d.digits = e.digits) :
    { b with display := d }.Alike { c with display := e } :=
  { h with digits := same }

theorem withFault (h : b.Alike c) (e f : Option OutOfRange) :
    { b with fault := e }.Alike { c with fault := f } :=
  { h with }

theorem report (h : b.Alike c) (r s : List Log.Record) : (b.report r).Alike (c.report s) :=
  { h with }

theorem read (h : b.Alike c) (address : UInt16) : b.read address = c.read address := by
  simp only [Bus.read, readChecked, h.keypad, h.rom.contains, h.rom.read, h.ram.read]

theorem takes (h : b.Alike c) (address : UInt16) : b.takes address = c.takes address := by
  simp only [Bus.takes, h.rom.contains, h.ram.contains]

theorem deliver (h : b.Alike c) (address : UInt16) (value : UInt8) :
    (b.deliver address value).Alike (c.deliver address value) := by
  simp only [Bus.deliver, h.rom.contains]
  split
  · exact { h with rom := h.rom.store address [value] }
  · split
    · exact { h with
        ram := h.ram.store address [value]
        digits := DisplayLatch.digits_write h.digits _ value }
    · exact { h with ram := h.ram.store address [value] }

theorem write (h : b.Alike c) (address : UInt16) (value : UInt8) :
    (b.write address value).Alike (c.write address value) := by
  simp only [Bus.write, h.takes]
  split
  · exact h.deliver address value
  · exact { h with }

/-- Like buses correspond, so the processor does the same on them. -/
theorem correspondence : AddressSpace.Correspondence Bus.Alike where
  read h address := h.read address
  write h address value := h.write address value

theorem loadMonitor (h : b.Alike c) (image : List UInt8) :
    (b.loadMonitor image).Alike (c.loadMonitor image) :=
  { h with rom := ⟨rfl, rfl, rfl⟩ }

theorem writeEach (h : b.Alike c) (counts : LoadReport) (bytes : List (UInt16 × UInt8)) :
    (b.writeEach counts bytes).1.Alike (c.writeEach counts bytes).1 ∧
      (b.writeEach counts bytes).2 = (c.writeEach counts bytes).2 := by
  induction bytes generalizing b c counts with
  | nil => exact ⟨h, rfl⟩
  | cons next rest ih =>
    obtain ⟨address, value⟩ := next
    simp only [Bus.writeEach, h.takes, h.rom.contains, h.ram.outOfRange]
    by_cases taken : c.takes address
    · rw [if_pos taken, if_pos taken]
      exact ih (h.deliver address value) _
    · rw [if_neg taken, if_neg taken]
      exact ⟨h, rfl⟩

theorem loadProgram (h : b.Alike c) (image : ProgramImage) :
    (b.loadProgram image).1.Alike (c.loadProgram image).1 ∧
      (b.loadProgram image).2 = (c.loadProgram image).2 := by
  unfold Bus.loadProgram
  cases image.writes with
  | error e => exact ⟨h, rfl⟩
  | ok writes =>
    obtain ⟨alike, same⟩ := h.writeEach {} writes
    dsimp only
    generalize b.writeEach {} writes = left at alike same ⊢
    generalize c.writeEach {} writes = right at alike same ⊢
    obtain ⟨b', result⟩ := left
    obtain ⟨c', result'⟩ := right
    cases same
    cases result with
    | error e => exact ⟨alike, rfl⟩
    | ok counts => exact ⟨{ alike with }, rfl⟩

end Alike

end Bus

/-! ## The machine -/

namespace Machine

/-- Machines that no command can tell apart. -/
structure Alike (m n : Machine) : Prop where
  cpu : Cpu.Alike Bus.Alike m.cpu n.cpu
  power : m.power = n.power
  config : m.config = n.config
  breakpoints : m.breakpoints = n.breakpoints
  keyQueue : m.keyQueue = n.keyQueue

namespace Alike

variable {m n : Machine}

open Bus.Alike (correspondence)

theorem bus (h : m.Alike n) : m.bus.Alike n.bus :=
  h.cpu.memory

theorem isPowered (h : m.Alike n) : m.isPowered = n.isPowered := by
  rw [Machine.isPowered, Machine.isPowered, h.power]

/-- The two processors may be replaced by like ones. -/
theorem withCpu (h : m.Alike n) {c d : Cpu Bus} (hc : Cpu.Alike Bus.Alike c d) :
    { m with cpu := c }.Alike { n with cpu := d } :=
  { h with cpu := hc }

/-- The two buses may be changed in the same way, if that keeps like buses alike. -/
theorem updateBus (h : m.Alike n) (f : Bus → Bus)
    (hf : ∀ {b c : Bus}, b.Alike c → (f b).Alike (f c)) : (m.updateBus f).Alike (n.updateBus f) :=
  h.withCpu { h.cpu with memory := hf h.bus }

/-- What is reported does not matter. -/
theorem report (h : m.Alike n) (r s : List Log.Record) : (m.report r).Alike (n.report s) :=
  h.withCpu { h.cpu with memory := h.bus.report r s }

/-! ### Power and reset -/

theorem clearRam (h : m.Alike n) : m.clearRam.Alike n.clearRam :=
  (h.updateBus (fun b => { b with ram := b.ram.clear }) fun hb => hb.withRam hb.ram.clear).report _ _

theorem blankDisplay (h : m.Alike n) : m.blankDisplay.Alike n.blankDisplay := by
  have blanked := h.updateBus (fun b => { b with display := b.display.blank })
    fun hb => hb.withDisplay (DisplayLatch.digits_blank hb.digits)
  exact blanked.report _ _

theorem switchedOn (h : m.Alike n) :
    Machine.Alike
      { m with keyQueue := [], lastFault := none, power := .running, cpu := m.cpu.powerOnReset }
      { n with keyQueue := [], lastFault := none, power := .running, cpu := n.cpu.powerOnReset } :=
  { h with
    cpu := h.cpu.powerOnReset correspondence
    power := rfl
    keyQueue := rfl }

theorem powerOn (h : m.Alike n) : m.powerOn.Alike n.powerOn := by
  have cleared : (if m.config.clearRamOnPowerOn then m.clearRam else m).Alike
      (if n.config.clearRamOnPowerOn then n.clearRam else n) := by
    rw [h.config]
    split
    · exact h.clearRam
    · exact h
  have blanked := cleared.blankDisplay
  have faultless := blanked.updateBus (fun b => { b with fault := none })
    fun hb => hb.withFault none none
  exact faultless.switchedOn.report _ _

theorem switchedOff (h : m.Alike n) :
    { m with power := .off, keyQueue := [] }.Alike { n with power := .off, keyQueue := [] } :=
  { h with power := rfl, keyQueue := rfl }

theorem powerOff (h : m.Alike n) : m.powerOff.Alike n.powerOff := by
  have released := h.updateBus (fun b => { b with keypad := b.keypad.releaseAll })
    fun hb => hb.withKeypad (congrArg Keypad.releaseAll hb.keypad)
  have dark := (released.report m.bus.keypad.releaseAllRecords
    n.bus.keypad.releaseAllRecords).blankDisplay
  have off := dark.switchedOff
  simp only [Machine.powerOff, h.isPowered]
  split
  · exact off.report _ _
  · exact off

theorem powerButton (h : m.Alike n) : m.powerButton.Alike n.powerButton := by
  rw [Machine.powerButton, Machine.powerButton, h.isPowered]
  split
  · exact h.powerOff
  · exact h.powerOn

theorem reset (h : m.Alike n) : m.reset.Alike n.reset := by
  simp only [Machine.reset, h.isPowered]
  split
  · exact (h.withCpu (h.cpu.reset correspondence)).report _ _
  · exact h

/-! ### Keys -/

theorem pressKey (h : m.Alike n) (key : Key) : (m.pressKey key).Alike (n.pressKey key) := by
  have pressed := h.updateBus (fun b => { b with keypad := b.keypad.press key })
    fun hb => hb.withKeypad (congrArg (Keypad.press · key) hb.keypad)
  have held : m.isPressed key = n.isPressed key := by
    rw [isPressed, isPressed, h.bus.keypad]
  simp only [Machine.pressKey, h.isPowered, held]
  split
  · split
    · exact (pressed.report _ _).reset
    · exact pressed.report _ _
  · exact h.report _ _

theorem releaseKey (h : m.Alike n) (key : Key) : (m.releaseKey key).Alike (n.releaseKey key) := by
  have released := h.updateBus (fun b => { b with keypad := b.keypad.release key })
    fun hb => hb.withKeypad (congrArg (Keypad.release · key) hb.keypad)
  simp only [Machine.releaseKey, h.isPowered]
  split
  · exact released.report _ _
  · exact h

theorem handleKey (h : m.Alike n) (event : KeyEvent) :
    (m.handleKey event).Alike (n.handleKey event) := by
  cases event with
  | press key => exact h.pressKey key
  | release key => exact h.releaseKey key

theorem queueKey (h : m.Alike n) (event : KeyEvent) :
    (m.queueKey event).Alike (n.queueKey event) := by
  simp only [Machine.queueKey, h.isPowered, h.keyQueue]
  split
  · exact { h with keyQueue := rfl }
  · exact h

theorem drainKeys (h : m.Alike n) : m.drainKeys.Alike n.drainKeys := by
  have empty : Machine.Alike { m with keyQueue := [] } { n with keyQueue := [] } :=
    { h with keyQueue := rfl }
  rw [Machine.drainKeys, Machine.drainKeys, h.keyQueue]
  generalize n.keyQueue = events
  generalize { m with keyQueue := [] } = m' at empty ⊢
  generalize { n with keyQueue := [] } = n' at empty ⊢
  induction events generalizing m' n' with
  | nil => exact empty
  | cons event rest ih => exact ih _ _ (empty.handleKey event)

/-! ### Interrupts and programs -/

theorem interrupt (h : m.Alike n) (vector : UInt16) :
    (m.interrupt vector).Alike (n.interrupt vector) :=
  (h.withCpu (h.cpu.interrupt correspondence vector)).report _ _

theorem acceptsIrq (h : m.Alike n) : m.acceptsIrq = n.acceptsIrq := by
  rw [Machine.acceptsIrq, Machine.acceptsIrq, h.isPowered, h.cpu.acceptsIrq]

theorem irq (h : m.Alike n) : m.irq.Alike n.irq := by
  rw [Machine.irq, Machine.irq, h.acceptsIrq]
  split
  · exact h.interrupt irqVector
  · exact h

theorem nmi (h : m.Alike n) : m.nmi.Alike n.nmi := by
  have takes : (m.isPowered && !m.cpu.isHalted) = (n.isPowered && !n.cpu.isHalted) := by
    rw [h.isPowered, h.cpu.isHalted]
  rw [Machine.nmi, Machine.nmi, takes]
  split
  · exact h.interrupt nmiVector
  · exact h

theorem setPc (h : m.Alike n) (address : UInt16) : (m.setPc address).Alike (n.setPc address) := by
  refine h.withCpu ⟨?_, rfl, h.cpu.cycles, h.cpu.memory⟩
  simp only [Cpu.jump, h.cpu.registers]

theorem addBreakpoint (h : m.Alike n) (address : UInt16) :
    (m.addBreakpoint address).Alike (n.addBreakpoint address) :=
  { h with breakpoints := congrArg (Breakpoints.insert · address) h.breakpoints }

theorem removeBreakpoint (h : m.Alike n) (address : UInt16) :
    (m.removeBreakpoint address).Alike (n.removeBreakpoint address) :=
  { h with breakpoints := congrArg (Breakpoints.erase · address) h.breakpoints }

theorem loadProgram (h : m.Alike n) (image : ProgramImage) :
    (m.loadProgram image).1.Alike (n.loadProgram image).1 ∧
      (m.loadProgram image).2 = (n.loadProgram image).2 := by
  obtain ⟨alike, same⟩ := h.bus.loadProgram image
  exact ⟨h.withCpu { h.cpu with memory := alike }, same⟩

/-! ### Running -/

/-- One step has the same result. -/
theorem advance (h : m.Alike n) :
    m.advance.1.Alike n.advance.1 ∧ m.advance.2 = n.advance.2 := by
  obtain ⟨cpu, result, -⟩ := h.cpu.step correspondence
  have after : Cpu.Alike Bus.Alike m.advance.1.cpu n.advance.1.cpu :=
    ⟨cpu.registers, cpu.state, cpu.cycles, { cpu.memory with }⟩
  exact ⟨{ h with cpu := after }, result⟩

theorem step (h : m.Alike n) : m.step.1.Alike n.step.1 ∧ m.step.2 = n.step.2 := by
  rw [Machine.step, Machine.step, h.isPowered]
  split
  · exact h.advance
  · exact ⟨h, rfl⟩

theorem executed (h : m.Alike n) : m.executed = n.executed := by
  funext spent cost
  have next := h.advance.1.cpu
  rw [Machine.executed, Machine.executed, h.cpu.registers, next.registers, next.state]

/-- Like machines run alike, slice by slice. -/
theorem slice (h : m.Alike n) {budget spent done : Nat} {events : List RunEvent} {m' : Machine}
    {s : RunSummary} (hs : Slice budget m spent done events m' s) :
    ∃ n', Slice budget n spent done events n' s ∧ m'.Alike n' := by
  have stopsAt {m n : Machine} (h : m.Alike n) :
      m.breakpoints.contains m.cpu.registers.pc = n.breakpoints.contains n.cpu.registers.pc := by
    rw [h.breakpoints, h.cpu.registers]
  induction hs generalizing n with
  | exhausted used => exact ⟨n, .exhausted used, h⟩
  | halted within halted => exact ⟨n, .halted within (h.cpu.state ▸ halted), h⟩
  | waiting within waiting =>
    refine ⟨_, .waiting within (h.cpu.state ▸ waiting), ?_⟩
    refine h.withCpu ⟨h.cpu.registers, h.cpu.state, ?_, h.cpu.memory⟩
    rw [h.cpu.cycles]
  | breakpoint within running later stops =>
    rw [stopsAt h] at stops
    rw [h.cpu.registers]
    exact ⟨_, .breakpoint within (h.cpu.state ▸ running) later stops, h.report _ _⟩
  | undefined within running free failed =>
    rw [stopsAt h] at free
    rw [h.executed]
    exact ⟨_, .undefined within (h.cpu.state ▸ running) free (h.advance.2 ▸ failed), h.advance.1⟩
  | executed within running free took rest ih =>
    obtain ⟨n', runs, alike⟩ := ih h.advance.1
    rw [stopsAt h] at free
    rw [h.executed]
    exact ⟨n', .executed within (h.cpu.state ▸ running) free (h.advance.2 ▸ took) runs, alike⟩

theorem run (h : m.Alike n) (budget : Nat) :
    (m.run budget).1.Alike (n.run budget).1 ∧ (m.run budget).2 = (n.run budget).2 := by
  rw [Machine.run, Machine.run, h.isPowered]
  split
  · obtain ⟨n', runs, alike⟩ := h.slice (slice_runFrom budget m 0 0)
    rw [runs.runFrom_eq]
    exact ⟨alike, rfl⟩
  · exact ⟨h, rfl⟩

theorem tick (h : m.Alike n) : m.tick.1.Alike n.tick.1 ∧ m.tick.2 = n.tick.2 := by
  rw [Machine.tick, Machine.tick, h.config]
  exact h.drainKeys.run _

/-! ### Operations that may be refused -/

/-- Refused on both machines for the same reason, or done on both. -/
def BothOrNeither {ε : Type} (left right : Except ε Machine) : Prop :=
  (∃ e, left = .error e ∧ right = .error e) ∨
    ∃ m' n', left = .ok m' ∧ right = .ok n' ∧ m'.Alike n'

theorem orElse (h : m.Alike n) {ε : Type} {left right : Except ε Machine}
    (same : BothOrNeither left right) :
    (m.orElse left).1.Alike (n.orElse right).1 ∧ (m.orElse left).2 = (n.orElse right).2 := by
  rcases same with ⟨e, rfl, rfl⟩ | ⟨m', n', rfl, rfl, alike⟩
  · exact ⟨h, rfl⟩
  · exact ⟨alike, rfl⟩

theorem keyCode {f g : Key → Machine} (h : ∀ key, (f key).Alike (g key)) (code : String) :
    BothOrNeither ((Key.ofText code).map f) ((Key.ofText code).map g) := by
  cases Key.ofText code with
  | error e => exact .inl ⟨e, rfl, rfl⟩
  | ok key => exact .inr ⟨_, _, rfl, rfl, h key⟩

theorem changeMonitor (h : m.Alike n) (image : List UInt8) (mounted : Bool) :
    (m.changeMonitor image mounted).Alike (n.changeMonitor image mounted) := by
  have changed := h.powerOff.updateBus (·.loadMonitor image) fun hb => hb.loadMonitor image
  exact { changed with }

theorem mount (h : m.Alike n) (id : String) (image : List UInt8) :
    BothOrNeither (m.mount id image) (n.mount id image) := by
  unfold Machine.mount
  split
  · exact .inr ⟨_, _, rfl, rfl, (h.changeMonitor image true).report _ _⟩
  · exact .inl ⟨_, rfl, rfl⟩

theorem unmount (h : m.Alike n) (id : String) : BothOrNeither (m.unmount id) (n.unmount id) := by
  unfold Machine.unmount
  split
  · exact .inr ⟨_, _, rfl, rfl, h.changeMonitor [] false⟩
  · exact .inl ⟨_, rfl, rfl⟩

end Alike

/-- Machines with the same monitor, configuration and breakpoints are alike once a state has been
restored on both of them, whatever they held before. -/
theorem resume_alike {m n : Machine} (rom : m.bus.rom.Alike n.bus.rom)
    (config : m.config = n.config) (breakpoints : m.breakpoints = n.breakpoints) (s : SavedState)
    {r t : MemoryBlock} (ram : r.Alike t) : (m.resume s r).Alike (n.resume s t) where
  cpu := {
    registers := rfl
    state := rfl
    cycles := rfl
    memory := {
      ram
      rom := { rom with }
      keypad := by
        show ({ s.keypad with policy := m.config.keyPolicy } : Keypad).withoutRepetitions =
          ({ s.keypad with policy := n.config.keyPolicy } : Keypad).withoutRepetitions
        rw [config]
      digits := rfl } }
  power := rfl
  config
  breakpoints
  keyQueue := rfl

namespace Alike

variable {m n : Machine}

theorem loadState (h : m.Alike n) (v : Json.Value) :
    BothOrNeither (m.loadState v) (n.loadState v) := by
  cases read : SavedState.ofValue v with
  | error e => exact .inl ⟨e, loadState_unread read, loadState_unread read⟩
  | ok s =>
    rcases h.bus.ram.load 0 s.ram with ⟨e, left, right⟩ | ⟨r, t, left, right, ram⟩
    · exact .inl ⟨.memory e, loadState_unfit read left, loadState_unfit read right⟩
    · refine .inr ⟨_, _, loadState_fit read left, loadState_fit read right, ?_⟩
      exact resume_alike h.bus.rom h.config h.breakpoints s ram

/-! ### Commands -/

/-- Like machines give the same answer to every command, and stay alike. -/
theorem obey (h : m.Alike n) (c : Command) :
    (m.obey c).1.Alike (n.obey c).1 ∧ (m.obey c).2 = (n.obey c).2 := by
  cases c with
  | step => exact ⟨h.step.1, congrArg Answer.stepped h.step.2⟩
  | run budget => exact ⟨(h.run _).1, congrArg Answer.ran (h.run _).2⟩
  | tick => exact ⟨h.tick.1, congrArg Answer.ran h.tick.2⟩
  | press key => exact ⟨h.pressKey key, rfl⟩
  | release key => exact ⟨h.releaseKey key, rfl⟩
  | pressCode code =>
    have both := h.orElse (keyCode h.pressKey code)
    exact ⟨both.1, congrArg Answer.keyed both.2⟩
  | releaseCode code =>
    have both := h.orElse (keyCode h.releaseKey code)
    exact ⟨both.1, congrArg Answer.keyed both.2⟩
  | queueKey event => exact ⟨h.queueKey event, rfl⟩
  | powerButton => exact ⟨h.powerButton, rfl⟩
  | powerOff => exact ⟨h.powerOff, rfl⟩
  | reset => exact ⟨h.reset, rfl⟩
  | irq => exact ⟨h.irq, congrArg Answer.flag h.acceptsIrq⟩
  | nmi => exact ⟨h.nmi, rfl⟩
  | setPc address => exact ⟨h.setPc address, rfl⟩
  | clearRam => exact ⟨h.clearRam, rfl⟩
  | loadProgram image =>
    have both := h.loadProgram image
    exact ⟨both.1, congrArg Answer.loaded both.2⟩
  | addBreakpoint address => exact ⟨h.addBreakpoint address, rfl⟩
  | removeBreakpoint address =>
    exact ⟨h.removeBreakpoint address,
      congrArg (fun b : Breakpoints => Answer.flag (b.contains address)) h.breakpoints⟩
  | mount id image =>
    have both := h.orElse (h.mount id image)
    exact ⟨both.1, congrArg Answer.mounted both.2⟩
  | unmount id =>
    have both := h.orElse (h.unmount id)
    exact ⟨both.1, congrArg Answer.mounted both.2⟩
  | loadState v =>
    have both := h.orElse (h.loadState v)
    exact ⟨both.1, congrArg Answer.restored both.2⟩

end Alike

end Machine

end Trainer6800
