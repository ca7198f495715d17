import Trainer6800.Proofs.Machine.Restore
import Trainer6800.Proofs.Results

/-!
# Loading, refused or not

A value that is to be loaded is read first, and what is read is then taken over.  Reading fails unless
all seven parts are there and of the right kind and the memory has the right size, and it never looks
at the machine.  Taking over is a list of changes; the first of them, copying the memory, can fail on its
own account, but on a sound machine it fails for no state that could be read.

`Machine.loadState` gives a new machine or none, so that a refused state can leave no trace in it.  That
the order of the changes is right is a matter of the machine that is changed in place, and
`Machine.loadInPlace` spells it out; `Machine.run_loadInPlace` says that the two are the same.

What was loaded has been put right on the way in: the top bits of the condition codes, repeated keys,
the key policy.  There is nothing left to put right when it is saved and loaded again.
-/

namespace Trainer6800

open Json

/-! ## Reading -/

/-- The reading of a state with its checks in order. -/
theorem SavedState.ofValue_eq (v : Value) :
    SavedState.ofValue v =
      if (v.get "version").nat? ≠ some stateVersion then .error .version
      else if (v.get "system").string? ≠ some stateSystem then .error .system
      else
        (part v "power" PowerState.codec).bind fun power =>
        (part v "cpu" CpuSnapshot.codec).bind fun cpu =>
        (part v "ram" (Codec.list Codec.byte)).bind fun ram =>
        (part v "display" DisplaySnapshot.codec).bind fun display =>
        (part v "keypad" Keypad.codec).bind fun keypad =>
        if ram.length ≠ ramSize then .error .memorySize
        else .ok { power, cpu, ram, display, keypad } :=
  rfl

/-- A state that has been read is as long as memory is. -/
theorem SavedState.length_ram {v : Value} {s : SavedState} (read : SavedState.ofValue v = .ok s) :
    s.ram.length = ramSize := by
  rw [ofValue_eq] at read
  obtain ⟨-, read⟩ := check_eq_ok_iff.mp read
  obtain ⟨-, read⟩ := check_eq_ok_iff.mp read
  obtain ⟨power, -, read⟩ := bind_eq_ok_iff.mp read
  obtain ⟨cpu, -, read⟩ := bind_eq_ok_iff.mp read
  obtain ⟨ram, -, read⟩ := bind_eq_ok_iff.mp read
  obtain ⟨display, -, read⟩ := bind_eq_ok_iff.mp read
  obtain ⟨keypad, -, read⟩ := bind_eq_ok_iff.mp read
  obtain ⟨size, read⟩ := check_eq_ok_iff.mp read
  cases read
  exact Decidable.not_not.mp size

namespace Machine

variable {m m' : Machine} {v : Value}

/-- Every state that can be read is taken over. -/
theorem Sound.loadState_of_read (h : m.Sound) {s : SavedState} (read : SavedState.ofValue v = .ok s) :
    m.loadState v = .ok (m.resume s { m.bus.ram with content := s.ram.toArray }) :=
  loadState_fit read (h.bus.ram.load_whole (by decide) (SavedState.length_ram read))

/-- A sound machine saves a state that can be read. -/
theorem Sound.ofValue_saveState (h : m.Sound) : SavedState.ofValue m.saveState = .ok m.savedState :=
  SavedState.ofValue_toValue h.length_ram

theorem act_loadState_of_read (h : m.Sound) {s : SavedState} (read : SavedState.ofValue v = .ok s) :
    m.act (.command (.loadState v)) =
      m.resume s { m.bus.ram with content := s.ram.toArray } := by
  simp only [act, obey, h.loadState_of_read read, orElse]

/-- A state is refused only because it cannot be read. -/
theorem Sound.loadState_eq_error_iff (h : m.Sound) {e : StateError} :
    m.loadState v = .error e ↔ SavedState.ofValue v = .error e := by
  constructor
  · intro refused
    cases read : SavedState.ofValue v with
    | error e' =>
      rw [loadState_unread read] at refused
      cases refused
      rfl
    | ok s =>
      rw [h.loadState_of_read read] at refused
      cases refused
  · exact loadState_unread

/-! ## Changing a machine in place -/

/-- The changes of a machine that takes over a state, one after the other, memory first. -/
def takeOver (s : SavedState) (ram : MemoryBlock) : StateM Machine Unit := do
  modify (·.updateBus fun b => { b with ram })
  modify fun m => m.updateBus fun b =>
    { b with keypad := { s.keypad with policy := m.config.keyPolicy }.withoutRepetitions }
  modify (·.updateBus fun b =>
    { b with display := b.display.restore s.display }.report b.display.broadcastRecords)
  modify fun m => { m with cpu := m.cpu.setRegisters s.cpu.registers }
  modify fun m => { m with cpu.state := s.cpu.state }
  modify fun m => { m with cpu.cycles := s.cpu.cycles }
  modify fun m => { m with power := s.power }
  modify fun m => { m with keyQueue := [] }
  modify fun m => m.report [⟨.power, .info, "state loaded, PC=" ++ m.pcText⟩]

/-- Loading a state on a machine that is changed in place. -/
def loadInPlace (v : Value) : ExceptT StateError (StateM Machine) Unit := do
  let s ← liftExcept (SavedState.ofValue v)
  -- copying the memory is the first change, and the last thing that can fail
  let ram ← liftExcept (((← get).bus.ram.load 0 s.ram).mapError StateError.memory)
  takeOver s ram

theorem run_takeOver (s : SavedState) (ram : MemoryBlock) (m : Machine) :
    (takeOver s ram).run m = ((), m.resume s ram) := by
  rw [resume, report_append]
  rfl

/-- Changed in place, the machine becomes the new machine, or stays as it is if there is none. -/
theorem run_loadInPlace (v : Value) (m : Machine) :
    (loadInPlace v).run.run m =
      ((m.orElse (m.loadState v)).2, (m.orElse (m.loadState v)).1) := by
  cases read : SavedState.ofValue v with
  | error e =>
    rw [loadState_unread read, loadInPlace, read]
    rfl
  | ok s =>
    have copies : (loadInPlace v).run.run m =
        (liftExcept ((m.bus.ram.load 0 s.ram).mapError StateError.memory) >>= fun ram =>
          (takeOver s ram : ExceptT StateError (StateM Machine) Unit)).run.run m := by
      rw [loadInPlace, read]
      rfl
    cases loads : m.bus.ram.load 0 s.ram with
    | error e =>
      rw [copies, loads, loadState_unfit read loads]
      rfl
    | ok ram =>
      rw [copies, loads, loadState_fit read loads]
      show (Except.ok (), ((takeOver s ram).run m).2) = _
      rw [run_takeOver]
      rfl

/-! ## Saving again -/

/-- What a sound machine has saved is saved again by whoever has loaded it. -/
theorem Sound.savedState_resume {a b : Machine} (ha : a.Sound)
    (policy : b.config.keyPolicy = a.config.keyPolicy) :
    (b.resume a.savedState { b.bus.ram with content := a.bus.ram.content }).savedState =
      a.savedState := by
  have registers : { a.cpu.registers with ccr := a.cpu.registers.ccr.fixed } = a.cpu.registers := by
    rw [show a.cpu.registers.ccr.fixed = a.cpu.registers.ccr from ha.codes]
  have keypad : { a.bus.keypad with policy := b.config.keyPolicy }.withoutRepetitions =
      a.bus.keypad := by
    rw [policy, ← ha.bus.policy, Keypad.withoutRepetitions_of_nodup ha.bus.held]
  show SavedState.mk a.power
      ⟨{ a.cpu.registers with ccr := a.cpu.registers.ccr.fixed }, a.cpu.state, a.cpu.cycles⟩
      a.bus.ram.content.toList a.display
      { a.bus.keypad with policy := b.config.keyPolicy }.withoutRepetitions = _
  rw [registers, keypad]
  rfl

/-- Every machine with the same key policy can load what this one saves, and then saves the same. -/
def Settled (m : Machine) : Prop :=
  ∀ b, Reachable b → b.config.keyPolicy = m.config.keyPolicy →
    ∃ b', b.loadState m.saveState = .ok b' ∧ b'.saveState = m.saveState

theorem Reachable.settled (h : Reachable m) : m.Settled := by
  intro b hb policy
  refine ⟨_, loadState_saveState h.sound hb.sound, ?_⟩
  exact congrArg SavedState.toValue (h.sound.savedState_resume policy)

/-! ## What loading does -/

/-- What a machine keeps when it takes over a state, and what can be said of the machine that it has
become. -/
structure TookOver (m m' : Machine) : Prop where
  rom : m'.bus.rom = m.bus.rom
  config : m'.config = m.config
  breakpoints : m'.breakpoints = m.breakpoints
  lastFault : m'.lastFault = m.lastFault
  mounted : m'.monitorMounted = m.monitorMounted
  keyQueue : m'.keyQueue = []
  settled : m'.Settled

theorem tookOver_of_loadState (reachable : Reachable m) (loads : m.loadState v = .ok m') :
    m.TookOver m' := by
  have next : m.act (.command (.loadState v)) = m' := by
    simp only [act, obey, loads, orElse]
  have settled : m'.Settled := (next ▸ reachable.act _).settled
  cases read : SavedState.ofValue v with
  | error e =>
    rw [loadState_unread read] at loads
    cases loads
  | ok s =>
    rw [reachable.sound.loadState_of_read read] at loads
    cases loads
    exact ⟨rfl, rfl, rfl, rfl, rfl, rfl, settled⟩

/-- Whatever value a machine is to load: if it is refused, that is because it cannot be read, and all of
the machine is as it was, what observers of the display have been sent included; if it is not, the
machine keeps what is not part of a state, and what it saves next is saved again by every machine with
its key policy. -/
theorem loadState_settles (reachable : Reachable m) (v : Value) :
    (∀ e, m.loadState v = .error e →
      SavedState.ofValue v = .error e ∧ (loadInPlace v).run.run m = (.error e, m) ∧
        m.obey (.loadState v) = (m, .restored (.error e))) ∧
      ∀ m', m.loadState v = .ok m' →
        (loadInPlace v).run.run m = (.ok (), m') ∧
          m.obey (.loadState v) = (m', .restored (.ok ())) ∧ m.TookOver m' := by
  constructor
  · intro e refused
    refine ⟨reachable.sound.loadState_eq_error_iff.mp refused, ?_, ?_⟩
    · rw [run_loadInPlace, refused, orElse]
    · simp only [obey, refused, orElse]
  · intro m' loads
    refine ⟨?_, ?_, tookOver_of_loadState reachable loads⟩
    · rw [run_loadInPlace, loads, orElse]
    · simp only [obey, loads, orElse]

/-- A state of a machine that is on, with a key that is held twice and another policy. -/
def heldTwice : SavedState :=
  { (ofMonitor [0x20, 0xFE] {}).savedState with
    power := .running
    keypad := ⟨[.reset, .reset], .multiKey⟩ }

/-- It is accepted, and `null` is not. -/
theorem loadState_settles_heldTwice :
    (ofMonitor [0x20, 0xFE] {}).obey (.loadState .null) =
        (ofMonitor [0x20, 0xFE] {}, .restored (.error .version)) ∧
      ∃ m', (ofMonitor [0x20, 0xFE] {}).loadState heldTwice.toValue = .ok m' ∧
        m'.bus.keypad = ⟨[.reset], .singleKey⟩ ∧ (ofMonitor [0x20, 0xFE] {}).TookOver m' := by
  have reachable : Reachable (ofMonitor [0x20, 0xFE] {}) := .ofMonitor _ _
  have read : SavedState.ofValue heldTwice.toValue = .ok heldTwice :=
    SavedState.ofValue_toValue reachable.sound.length_ram
  have loads := reachable.sound.loadState_of_read read
  constructor
  · exact ((loadState_settles reachable .null).1 .version rfl).2.2
  · refine ⟨_, loads, ?_, ((loadState_settles reachable heldTwice.toValue).2 _ loads).2.2⟩
    show Keypad.mk [Key.reset, .reset].eraseDups .singleKey = _
    rfl

end Machine

end Trainer6800
