import Trainer6800.Proofs.Machine.Alike
import Trainer6800.Proofs.Machine.SavedState
import Trainer6800.Proofs.Machine.Sound

/-!
# Restored machines

A saved state holds all of a machine that decides what the machine does next, apart from the monitor,
the configuration and the breakpoints, which stay those of the machine that loads it, and the key
events that wait for the next tick.  So where these agree, the restored machine cannot be told from
the one that was saved: it looks the same, and whatever is then done to both, they answer alike and
go on looking the same.

What makes loading a state undo saving it is that the saved machine is sound.  On the way in the two
top bits of the condition codes are set, repeated keys are dropped and the key policy is replaced; on
a sound machine there is nothing to put right.
-/

namespace Trainer6800

open Json

/-- All that can be seen of a machine from outside, and what it would save. -/
structure View where
  registers : Registers
  state : ExecState
  cycles : UInt64
  power : PowerState
  peek : UInt16 → UInt8
  display : DisplaySnapshot
  held : List Key
  saved : Value

namespace Machine

/-- What can be seen of the machine. -/
def view (m : Machine) : View where
  registers := m.cpu.registers
  state := m.cpu.state
  cycles := m.cpu.cycles
  power := m.power
  peek := m.peek
  display := m.display
  held := m.bus.keypad.held
  saved := m.saveState

/-- What commands answer, one after the other, and what the machine looks like after each. -/
def transcript (m : Machine) : List Command → List (Answer × View)
  | [] => []
  | c :: rest =>
    let (m, answer) := m.obey c
    (answer, m.view) :: m.transcript rest

/-! ## Like machines -/

namespace Alike

variable {m n : Machine}

theorem savedState (h : m.Alike n) : m.savedState = n.savedState := by
  have shown : m.display = n.display := congrArg DisplaySnapshot.mk h.bus.digits
  rw [Machine.savedState, Machine.savedState, Cpu.snapshot, Cpu.snapshot, h.power, h.cpu.registers,
    h.cpu.state, h.cpu.cycles, h.bus.ram.content, shown, h.bus.keypad]

/-- Like machines look the same. -/
theorem view (h : m.Alike n) : m.view = n.view := by
  have seen : m.peek = n.peek := by
    funext address
    exact h.bus.read address
  have shown : m.display = n.display := congrArg DisplaySnapshot.mk h.bus.digits
  have saved : m.saveState = n.saveState := congrArg SavedState.toValue h.savedState
  rw [Machine.view, Machine.view, h.cpu.registers, h.cpu.state, h.cpu.cycles, h.power, seen, shown,
    h.bus.keypad, saved]

/-- No sequence of commands tells like machines apart. -/
theorem transcript (h : m.Alike n) (commands : List Command) :
    m.transcript commands = n.transcript commands := by
  induction commands generalizing m n with
  | nil => rfl
  | cons c rest ih =>
    obtain ⟨alike, same⟩ := h.obey c
    show ((m.obey c).2, (m.obey c).1.view) :: (m.obey c).1.transcript rest =
      ((n.obey c).2, (n.obey c).1.view) :: (n.obey c).1.transcript rest
    rw [same, alike.view, ih alike]

end Alike

/-! ## Saving and loading -/

variable {a b : Machine}

/-- A sound machine saves as many bytes as memory has. -/
theorem Sound.length_ram (h : a.Sound) : a.savedState.ram.length = ramSize := by
  show a.bus.ram.content.toList.length = ramSize
  rw [Array.length_toList]
  exact h.bus.ram.size

/-- A state that a sound machine has saved is loaded by every sound machine. -/
theorem loadState_saveState (ha : a.Sound) (hb : b.Sound) :
    b.loadState a.saveState =
      .ok (b.resume a.savedState { b.bus.ram with content := a.bus.ram.content }) := by
  have loads : b.bus.ram.load 0 a.savedState.ram =
      .ok { b.bus.ram with content := a.bus.ram.content } := by
    rw [hb.bus.ram.load_whole (by decide) ha.length_ram]
    rfl
  exact loadState_fit (SavedState.ofValue_toValue ha.length_ram) loads

/-- What loading puts right is right on a sound machine. -/
theorem alike_restored (ha : a.Sound) (hb : b.Sound) (idle : a.keyQueue = [])
    (rom : a.bus.rom.content = b.bus.rom.content) (config : a.config = b.config)
    (breakpoints : a.breakpoints = b.breakpoints) :
    a.Alike (b.resume a.savedState { b.bus.ram with content := a.bus.ram.content }) where
  cpu := {
    registers := by
      show a.cpu.registers = { a.cpu.registers with ccr := a.cpu.registers.ccr.fixed }
      rw [show a.cpu.registers.ccr.fixed = a.cpu.registers.ccr from ha.codes]
    state := rfl
    cycles := rfl
    memory := {
      ram := ⟨rfl, ha.bus.ram.base.trans hb.bus.ram.base.symm,
        ha.bus.ram.access.trans hb.bus.ram.access.symm⟩
      rom := ⟨rom, ha.bus.rom.base.trans hb.bus.rom.base.symm,
        ha.bus.rom.access.trans hb.bus.rom.access.symm⟩
      keypad := by
        show a.bus.keypad = { a.bus.keypad with policy := b.config.keyPolicy }.withoutRepetitions
        rw [← config, ← ha.bus.policy, Keypad.withoutRepetitions_of_nodup ha.bus.held]
      digits := rfl } }
  power := rfl
  config
  breakpoints
  keyQueue := idle

/-- A saved state can be written as text and read again, and a machine with the same monitor,
configuration and breakpoints that loads it looks like the machine that saved it.  From then on every
sequence of commands has the same answers on both and leaves both looking the same after each of
them. -/
theorem restored_runs_alike (ha : Reachable a) (hb : Reachable b) (idle : a.keyQueue = [])
    (rom : a.bus.rom.content = b.bus.rom.content) (config : a.config = b.config)
    (breakpoints : a.breakpoints = b.breakpoints) :
    Value.ofText a.saveState.compactText = .ok a.saveState ∧
      Value.ofText a.saveState.prettyText = .ok a.saveState ∧
      ∃ b', b.loadState a.saveState = .ok b' ∧ b'.view = a.view ∧
        ∀ commands, b'.transcript commands = a.transcript commands := by
  have plain : a.saveState.Plain := SavedState.plain_toValue a.savedState
  have alike := alike_restored ha.sound hb.sound idle rom config breakpoints
  refine ⟨plain.ofText_compactText, plain.ofText_prettyText, _,
    loadState_saveState ha.sound hb.sound, alike.view.symm, ?_⟩
  intro commands
  exact (alike.transcript commands).symm

/-- For one, a machine that has been sent to another address, and the machine that it was before. -/
theorem restored_runs_alike_sent :
    ∃ b', ((ofMonitor [0x20, 0xFE] {}).act (.command .powerButton)).loadState
        (((ofMonitor [0x20, 0xFE] {}).act (.command .powerButton)).act
          (.command (.setPc 0x0100))).saveState = .ok b' ∧
      b'.transcript [.run 100, .press (.data 7), .step] =
        (((ofMonitor [0x20, 0xFE] {}).act (.command .powerButton)).act
          (.command (.setPc 0x0100))).transcript [.run 100, .press (.data 7), .step] := by
  have before : Reachable ((ofMonitor [0x20, 0xFE] {}).act (.command .powerButton)) :=
    .act (.ofMonitor _ _) _
  have kept (m : Machine) : (m.act (.command (.setPc 0x0100))).bus.rom.content = m.bus.rom.content ∧
      (m.act (.command (.setPc 0x0100))).config = m.config ∧
      (m.act (.command (.setPc 0x0100))).breakpoints = m.breakpoints :=
    ⟨rfl, rfl, rfl⟩
  obtain ⟨rom, config, breakpoints⟩ := kept ((ofMonitor [0x20, 0xFE] {}).act (.command .powerButton))
  obtain ⟨-, -, b', loads, -, same⟩ :=
    restored_runs_alike (before.act (.command (.setPc 0x0100))) before rfl rom config breakpoints
  exact ⟨b', loads, same _⟩

end Machine

end Trainer6800
