import Trainer6800.Proofs.Machine.HeldKeys
import Trainer6800.Proofs.Machine.Monitor

/-!
# Turning the machine on

Turning a machine on makes it forget what it has been through.  All that remains is its monitor, its
configuration and, unless the configuration has memory cleared, what is in memory; the state that it
would save is a function of these (`SavedState.turnedOn`, `Machine.savedState_powerButton`), and two
machines that agree in them cannot be told apart by it (`Machine.powerButton_forgets`).

Most of the state is written anew: the registers and the cycle counter, the display, the queue, the last
fault.  Held keys are not, so what is forgotten of them is forgotten on the way off; hence the condition
that no state has been loaded except such as machines save (`Machine.Genuine`).
-/

namespace Trainer6800

/-! ## The display -/

namespace DisplayLatch

theorem get_blankDigit (l : DisplayLatch) (index j : Fin 6) :
    (l.blankDigit index).digits.get j = if index = j then 0 else l.digits.get j := by
  unfold blankDigit
  split
  · split
    · subst index
      assumption
    · rfl
  · show (l.digits.set index 0)[j] = _
    simp only [Fin.getElem_fin, Vector.getElem_set, Fin.ext_iff]
    rfl

/-- A digit is dark once it has been turned off, and stays so while others are turned off. -/
theorem get_foldl_blankDigit {indices : List (Fin 6)} {l : DisplayLatch} {j : Fin 6}
    (dark : l.digits.get j = 0 ∨ j ∈ indices) :
    (indices.foldl blankDigit l).digits.get j = 0 := by
  induction indices generalizing l with
  | nil => exact dark.resolve_right List.not_mem_nil
  | cons index rest ih =>
    rw [List.foldl_cons]
    refine ih ?_
    rw [get_blankDigit]
    by_cases now : index = j
    · exact .inl (if_pos now)
    · rw [if_neg now]
      exact dark.imp_right fun mem => (List.mem_cons.mp mem).resolve_left (Ne.symm now)

theorem snapshot_blank (l : DisplayLatch) : l.blank.snapshot = .blank := by
  have digits : l.blank.digits = Vector.replicate 6 0 := by
    refine Vector.ext fun i inside => ?_
    rw [Vector.getElem_replicate]
    exact get_foldl_blankDigit (.inr (List.mem_finRange ⟨i, inside⟩))
  rw [snapshot, digits, DisplaySnapshot.blank]

end DisplayLatch

/-! ## The state of a machine that has just been turned on -/

/-- The address that a monitor has the processor begin at: the word in its last two bytes. -/
def resetAddress (rom : Array UInt8) : UInt16 :=
  joinBytes (rom.getD 0x3FE 0) (rom.getD 0x3FF 0)

theorem Bus.Sound.readWord_resetVector {policy : KeyPolicy} {b : Bus} (h : b.Sound policy) :
    AddressSpace.readWord b resetVector = resetAddress b.rom.content := by
  have high : b.read 0xFFFE = b.rom.content.getD 0x3FE 0 := h.read_rom (k := 0x3FE) (by decide)
  have low : b.read 0xFFFF = b.rom.content.getD 0x3FF 0 := h.read_rom (k := 0x3FF) (by decide)
  rw [resetAddress, ← high, ← low]
  rfl

/-- What a machine saves when it has just been turned on. -/
def SavedState.turnedOn (rom : Array UInt8) (policy : KeyPolicy) (ram : List UInt8) : SavedState where
  power := .running
  cpu := {
    registers := { a := 0, b := 0, x := 0, sp := 0, pc := resetAddress rom, ccr := .ofByte 0xD0 }
    state := .running
    cycles := 0 }
  ram
  display := .blank
  keypad := { held := [], policy }

namespace Machine

variable {m : Machine}

/-- The bytes that the machine has in memory once it is turned on. -/
def ramTurnedOn (m : Machine) : List UInt8 :=
  if m.config.clearRamOnPowerOn then List.replicate ramSize 0 else m.bus.ram.content.toList

theorem bus_wiped (m : Machine) :
    ∃ journal, m.wiped.bus = { m.bus with
      ram := if m.config.clearRamOnPowerOn then m.bus.ram.clear else m.bus.ram
      display := m.bus.display.blank
      fault := none
      journal } := by
  obtain ⟨journal, wiped⟩ := m.wiped_eq
  exact ⟨journal, congrArg bus wiped⟩

theorem Sound.bus_wiped (h : m.Sound) : m.wiped.bus.Sound m.config.keyPolicy := by
  obtain ⟨journal, bus_eq⟩ := m.bus_wiped
  have bus := h.bus
  rw [bus_eq]
  refine { bus with ram := ?_, fault := rfl }
  split
  · exact bus.ram.clear
  · exact bus.ram

theorem Sound.content_ram_wiped (h : m.Sound) :
    m.wiped.bus.ram.content.toList = m.ramTurnedOn := by
  obtain ⟨journal, bus_eq⟩ := m.bus_wiped
  rw [bus_eq, ramTurnedOn]
  dsimp only
  split
  · have cleared : m.bus.ram.clear.content = Array.replicate ramSize 0 := by
      rw [MemoryBlock.clear, h.bus.ram.access, ← h.bus.ram.size]
      rfl
    rw [cleared, Array.toList_replicate]
  · rfl

/-- What a machine with no keys held saves when it has been turned on depends on its monitor, its
policy for keys and its memory, and on nothing else. -/
theorem Sound.savedState_powerOn (h : m.Sound) (held : m.bus.keypad.held = []) :
    m.powerOn.savedState =
      .turnedOn m.bus.rom.content m.config.keyPolicy m.ramTurnedOn := by
  obtain ⟨records, on⟩ := m.powerOn_eq
  obtain ⟨journal, bus_eq⟩ := m.bus_wiped
  have rom : m.wiped.bus.rom = m.bus.rom := by rw [bus_eq]
  have pc : AddressSpace.readWord m.wiped.bus resetVector = resetAddress m.bus.rom.content := by
    rw [h.bus_wiped.readWord_resetVector, rom]
  have dark : m.wiped.bus.display.snapshot = .blank := by
    rw [bus_eq, DisplayLatch.snapshot_blank]
  have keypad : m.wiped.bus.keypad = { held := [], policy := m.config.keyPolicy } := by
    rw [bus_eq, ← h.bus.policy, ← held]
  have codes : ConditionCodes.ofByte 0xD0 =
      { ({} : ConditionCodes).fixed with interruptMask := true } := by
    decide
  rw [SavedState.turnedOn, codes, ← pc, ← h.content_ram_wiped, ← dark, ← keypad, on]
  -- the two sides agree whatever the machine was before the reset
  generalize m.wiped = w
  rfl

/-! ## Machines that load only what machines save -/

/-- The machines that come to be when no state is loaded but those that such machines have saved. -/
inductive Genuine : Machine → Prop where
  | ofMonitor (image : List UInt8) (config : MachineConfig) : Genuine (.ofMonitor image config)
  | bare : Genuine .bare
  | act {m : Machine} (before : Genuine m) (a : Action)
    (noLoad : ∀ v, a ≠ .command (.loadState v)) : Genuine (m.act a)
  | load {m n : Machine} (before : Genuine m) (saved : Genuine n) :
    Genuine (m.act (.command (.loadState n.saveState)))

theorem Genuine.reachable (h : Genuine m) : Reachable m := by
  induction h with
  | ofMonitor image config => exact .ofMonitor image config
  | bare => exact .bare
  | act before a noLoad ih => exact ih.act a
  | load before saved ih _ => exact ih.act _

/-- Such a machine holds no keys while it is off. -/
theorem Genuine.released (h : Genuine m) : m.Released := by
  induction h with
  | ofMonitor image config => exact Start.released (.ofMonitor image config)
  | bare => exact Start.released .bare
  | act before a noLoad ih =>
    refine (released_act_iff before.reachable ih a).mpr ?_
    cases a with
    | watch w => trivial
    | writeOut => trivial
    | command c =>
      cases c with
      | loadState v => exact absurd rfl (noLoad v)
      | _ => trivial
  | load before saved ih ih' =>
    exact (released_act_iff before.reachable ih _).mpr (orderly_saveState saved.reachable ih')

/-! ## Power-on -/

/-- The machine has its monitor and its memory, and has been through nothing. -/
structure Fresh (m : Machine) : Prop where
  a : m.cpu.registers.a = 0
  b : m.cpu.registers.b = 0
  x : m.cpu.registers.x = 0
  sp : m.cpu.registers.sp = 0
  codes : m.cpu.registers.ccr.toByte = 0xD0
  pc : m.cpu.registers.pc = resetAddress m.bus.rom.content
  state : m.cpu.state = .running
  cycles : m.cpu.cycles = 0
  display : m.display = .blank
  held : m.bus.keypad.held = []
  keyQueue : m.keyQueue = []
  lastFault : m.lastFault = none

theorem powerButton_of_off (off : m.power = .off) : m.powerButton = m.powerOn := by
  rw [powerButton, isPowered_of_off off, if_neg Bool.false_ne_true]

theorem Genuine.savedState_powerButton (h : Genuine m) (off : m.power = .off) :
    m.powerButton.savedState =
      .turnedOn m.bus.rom.content m.config.keyPolicy m.ramTurnedOn := by
  rw [powerButton_of_off off]
  exact h.reachable.sound.savedState_powerOn (h.released off)

theorem Genuine.fresh_powerButton (h : Genuine m) (off : m.power = .off) : m.powerButton.Fresh := by
  have saved := h.savedState_powerButton off
  have cpu : m.powerButton.cpu.snapshot = _ := congrArg SavedState.cpu saved
  have registers : m.powerButton.cpu.registers = _ := congrArg CpuSnapshot.registers cpu
  have rom : m.powerButton.bus.rom = m.bus.rom := by
    rw [powerButton_of_off off, m.powerOn_keeps.1]
  have keypad : m.powerButton.bus.keypad = _ := congrArg SavedState.keypad saved
  exact {
    a := congrArg Registers.a registers
    b := congrArg Registers.b registers
    x := congrArg Registers.x registers
    sp := congrArg Registers.sp registers
    codes := (congrArg (ConditionCodes.toByte ∘ Registers.ccr) registers).trans
      (ConditionCodes.toByte_ofByte 0xD0)
    pc := by
      rw [rom]
      exact congrArg Registers.pc registers
    state := congrArg CpuSnapshot.state cpu
    cycles := congrArg CpuSnapshot.cycles cpu
    display := congrArg SavedState.display saved
    held := congrArg Keypad.held keypad
    keyQueue := by
      rw [powerButton_of_off off]
      rfl
    lastFault := by
      rw [powerButton_of_off off]
      rfl }

/-- Turning a machine on erases what it has been through.  Two machines that are off, with the same
monitor and the same configuration, and with the same memory unless that is cleared, save the same state
once they are turned on, and are both as if nothing had happened to them. -/
theorem powerButton_forgets {m n : Machine} (genuine : Genuine m) (genuine' : Genuine n)
    (off : m.power = .off) (off' : n.power = .off) (rom : m.bus.rom.content = n.bus.rom.content)
    (config : m.config = n.config)
    (ram : m.config.clearRamOnPowerOn = true ∨ m.bus.ram.content = n.bus.ram.content) :
    m.powerButton.saveState = n.powerButton.saveState ∧ m.powerButton.Fresh ∧ n.powerButton.Fresh := by
  have memory : m.ramTurnedOn = n.ramTurnedOn := by
    rw [ramTurnedOn, ramTurnedOn, ← config]
    rcases ram with clear | same
    · rw [if_pos clear, if_pos clear]
    · rw [same]
  have saved : m.powerButton.savedState = n.powerButton.savedState := by
    rw [genuine.savedState_powerButton off, genuine'.savedState_powerButton off', rom, config, memory]
  exact ⟨congrArg SavedState.toValue saved, genuine.fresh_powerButton off,
    genuine'.fresh_powerButton off'⟩

/-- A machine that has been turned on, has had a key pressed, and has been turned off again. -/
def usedBefore (key : Key) : Machine :=
  (((ofMonitor [0x20, 0xFE] {}).act (.command .powerButton)).act (.command (.press key))).act
    (.command .powerOff)

/-- It is turned on like one that has never been used. -/
theorem powerButton_forgets_usedBefore :
    (usedBefore (.data 7)).power = .off ∧
      (usedBefore (.data 7)).bus.rom.content = (ofMonitor [0x20, 0xFE] {}).bus.rom.content ∧
      (usedBefore (.data 7)).powerButton.saveState =
        (ofMonitor [0x20, 0xFE] {}).powerButton.saveState := by
  have unused : Genuine (ofMonitor [0x20, 0xFE] {}) := .ofMonitor _ _
  have used : Genuine (usedBefore (.data 7)) := by
    refine ((unused.act _ ?_).act _ ?_).act _ ?_
    all_goals
      intro v same
      cases same
  have turnedOff (m : Machine) : (m.act (.command .powerOff)).power = .off ∧
      (m.act (.command .powerOff)).monitor = m.monitor :=
    ⟨m.power_powerOff, m.monitor_powerOff⟩
  have pressed (m : Machine) (key : Key) : (m.act (.command (.press key))).monitor = m.monitor :=
    m.monitor_pressKey _
  have turnedOn : ((ofMonitor [0x20, 0xFE] {}).act (.command .powerButton)).monitor =
      (ofMonitor [0x20, 0xFE] {}).monitor :=
    monitor_powerOn _
  have off : (usedBefore (.data 7)).power = .off := (turnedOff _).1
  have config : (usedBefore (.data 7)).config = (ofMonitor [0x20, 0xFE] {}).config := by decide +kernel
  have kept : (usedBefore (.data 7)).monitor = (ofMonitor [0x20, 0xFE] {}).monitor := by
    rw [usedBefore, (turnedOff _).2, pressed, turnedOn]
  rw [monitor, monitor, Prod.mk.injEq] at kept
  have rom : (usedBefore (.data 7)).bus.rom.content = (ofMonitor [0x20, 0xFE] {}).bus.rom.content := by
    rw [kept.1]
  exact ⟨off, rom, (powerButton_forgets used unused off rfl rom config (.inl rfl)).1⟩

end Machine

end Trainer6800
