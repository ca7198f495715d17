import Mathlib.Logic.Relation
import Trainer6800.Proofs.Machine.Command
import Trainer6800.Proofs.Machine.Slice

/-!
# Moves

However long a command is, it is made of moves, and each move changes the machine in one place.
`Machine.Move` lists them, and `Machine.obey_moves` says that a command does nothing else.  So whatever
every move keeps, every command keeps, and an invariant of the machine has to be checked on the list
below only: no proof about a property of the machine has to open a command.

Some moves never happen alone (a refused key press is no move at all, a cleared fault is followed by a
switch-on), and the order in which commands make them is not kept.  What depends on the order has to be
shown of the commands themselves.
-/

namespace Trainer6800

namespace Machine

/-- One move of a machine. -/
inductive Move (m : Machine) : Machine → Prop where
  | log (journal : Array Log.Record) : Move m (m.updateBus fun b => { b with journal })
  | advance : Move m m.advance.1
  /-- Time passes while the processor waits. -/
  | wait (cycles : UInt64) : Move m { m with cpu.cycles := m.cpu.cycles + cycles }
  | switchOn : Move m { m with
      keyQueue := [], lastFault := none, power := .running, cpu := m.cpu.powerOnReset }
  | switchOff : Move m { m with power := .off, keyQueue := [] }
  | reset : Move m { m with cpu := m.cpu.reset }
  | interrupt (vector : UInt16) : Move m { m with cpu := m.cpu.interrupt vector }
  | setPc (address : UInt16) : Move m (m.setPc address)
  | queue (events : List KeyEvent) : Move m { m with keyQueue := events }
  | breakpoints (breakpoints : Breakpoints) : Move m { m with breakpoints }
  | press (key : Key) : Move m (m.updateBus fun b => { b with keypad := b.keypad.press key })
  | release (key : Key) : Move m (m.updateBus fun b => { b with keypad := b.keypad.release key })
  | releaseAll : Move m (m.updateBus fun b => { b with keypad := b.keypad.releaseAll })
  | blank : Move m (m.updateBus fun b => { b with display := b.display.blank })
  | clearRam : Move m (m.updateBus fun b => { b with ram := b.ram.clear })
  | clearFault : Move m (m.updateBus fun b => { b with fault := none })
  | write (address : UInt16) (value : UInt8) : Move m (m.updateBus (·.write address value))
  | changeMonitor (image : List UInt8) (mounted : Bool) :
    Move m { m.updateBus (·.loadMonitor image) with monitorMounted := mounted }
  | resume (s : SavedState) (ram : MemoryBlock) (loads : m.bus.ram.load 0 s.ram = .ok ram) :
    Move m (m.resume s ram)

/-- Any number of moves. -/
abbrev Moves : Machine → Machine → Prop :=
  Relation.ReflTransGen Move

theorem Move.moves {m m' : Machine} (h : Move m m') : Moves m m' :=
  .single h

/-- A report is a move. -/
theorem report_moves (m : Machine) (records : List Log.Record) : Moves m (m.report records) :=
  (Move.log (m.bus.journal.appendList records)).moves

/-- What moves keep. -/
theorem Moves.keeps {P : Machine → Prop} (kept : ∀ {m m'}, P m → Move m m' → P m') {m m' : Machine}
    (h : Moves m m') (holds : P m) : P m' := by
  induction h with
  | refl => exact holds
  | tail before last ih => exact kept ih last

/-! ## Power and reset -/

theorem clearRam_moves (m : Machine) : Moves m m.clearRam :=
  Move.clearRam.moves.trans (report_moves _ _)

theorem blankDisplay_moves (m : Machine) : Moves m m.blankDisplay :=
  Move.blank.moves.trans (report_moves _ _)

theorem powerOn_moves (m : Machine) : Moves m m.powerOn := by
  have cleared : Moves m (if m.config.clearRamOnPowerOn then m.clearRam else m) := by
    split
    · exact m.clearRam_moves
    · exact .refl
  exact (cleared.trans (blankDisplay_moves _)).trans <|
    Move.clearFault.moves.trans <| Move.switchOn.moves.trans (report_moves _ _)

theorem powerOff_moves (m : Machine) : Moves m m.powerOff := by
  have off : Moves m { ((m.updateBus fun b => { b with keypad := b.keypad.releaseAll }).report
      m.bus.keypad.releaseAllRecords).blankDisplay with power := .off, keyQueue := [] } :=
    Move.releaseAll.moves.trans <| (report_moves _ _).trans <|
      (blankDisplay_moves _).trans Move.switchOff.moves
  simp only [powerOff]
  split
  · exact off.trans (report_moves _ _)
  · exact off

theorem powerButton_moves (m : Machine) : Moves m m.powerButton := by
  unfold powerButton
  split
  · exact m.powerOff_moves
  · exact m.powerOn_moves

theorem reset_moves (m : Machine) : Moves m m.reset := by
  unfold reset
  split
  · exact Move.reset.moves.trans (report_moves _ _)
  · exact .refl

/-! ## Keys -/

theorem pressKey_moves (m : Machine) (key : Key) : Moves m (m.pressKey key) := by
  have pressed : Moves m ((m.updateBus fun b => { b with keypad := b.keypad.press key }).report
      (m.bus.keypad.pressRecords key)) :=
    (Move.press key).moves.trans (report_moves _ _)
  simp only [pressKey]
  split
  · split
    · exact pressed.trans (reset_moves _)
    · exact pressed
  · exact report_moves _ _

theorem releaseKey_moves (m : Machine) (key : Key) : Moves m (m.releaseKey key) := by
  simp only [releaseKey]
  split
  · exact (Move.release key).moves.trans (report_moves _ _)
  · exact .refl

theorem queueKey_moves (m : Machine) (event : KeyEvent) : Moves m (m.queueKey event) := by
  unfold queueKey
  split
  · exact (Move.queue _).moves
  · exact .refl

theorem drainKeys_moves (m : Machine) : Moves m m.drainKeys := by
  refine drainKeys_keeps (P := Moves m) ?_ ?_ (Move.queue []).moves
  · intro m' key before
    exact before.trans (m'.pressKey_moves key)
  · intro m' key before
    exact before.trans (m'.releaseKey_moves key)

/-! ## Interrupts, programs, mounts -/

theorem interrupt_moves (m : Machine) (vector : UInt16) : Moves m (m.interrupt vector) :=
  (Move.interrupt vector).moves.trans (report_moves _ _)

theorem irq_moves (m : Machine) : Moves m m.irq := by
  unfold irq
  split
  · exact m.interrupt_moves irqVector
  · exact .refl

theorem nmi_moves (m : Machine) : Moves m m.nmi := by
  unfold nmi
  split
  · exact m.interrupt_moves nmiVector
  · exact .refl

/-- A program goes into memory byte by byte, as the processor would write it. -/
theorem writeEach_moves (m : Machine) (counts : LoadReport) (writes : List (UInt16 × UInt8)) :
    Moves m { m with cpu.memory := (m.cpu.memory.writeEach counts writes).1 } := by
  induction writes generalizing m counts with
  | nil => exact .refl
  | cons next rest ih =>
    obtain ⟨address, value⟩ := next
    simp only [Bus.writeEach]
    by_cases takes : m.cpu.memory.takes address
    · have delivered : m.cpu.memory.write address value = m.cpu.memory.deliver address value :=
        if_pos takes
      have first : Moves m { m with cpu.memory := m.cpu.memory.deliver address value } := by
        rw [← delivered]
        exact (Move.write address value).moves
      rw [if_pos takes]
      exact first.trans (ih _ _)
    · rw [if_neg takes]

theorem loadProgram_moves (m : Machine) (image : ProgramImage) :
    Moves m (m.loadProgram image).1 := by
  rcases m.loadProgram_cases image with ⟨e, -, refused⟩ | ⟨bytes, records, -, written⟩
  · rw [refused]
  · rw [written]
    exact (m.writeEach_moves {} bytes).trans (report_moves _ _)

theorem changeMonitor_moves (m : Machine) (image : List UInt8) (mounted : Bool) :
    Moves m (m.changeMonitor image mounted) :=
  m.powerOff_moves.trans (Move.changeMonitor image mounted).moves

/-! ## Running -/

theorem step_moves (m : Machine) : Moves m m.step.1 := by
  unfold step
  split
  · exact Move.advance.moves
  · exact .refl

theorem Slice.moves {budget : Nat} {m m' : Machine} {spent done : Nat} {events : List RunEvent}
    {s : RunSummary} (h : Slice budget m spent done events m' s) : Moves m m' := by
  induction h with
  | exhausted used => exact .refl
  | halted within halted => exact .refl
  | waiting within waiting => exact (Move.wait _).moves
  | breakpoint within running later stops => exact report_moves _ _
  | undefined within running free failed => exact Move.advance.moves
  | executed within running free took rest ih => exact Move.advance.moves.trans ih

theorem run_moves (m : Machine) (budget : Nat) : Moves m (m.run budget).1 := by
  unfold run
  split
  · exact (slice_runFrom budget m 0 0).moves
  · exact .refl

theorem tick_moves (m : Machine) : Moves m m.tick.1 :=
  m.drainKeys_moves.trans (run_moves _ _)

/-! ## Commands -/

/-- An operation that may be refused makes moves if it makes them when it is not. -/
theorem orElse_moves {ε : Type} {m : Machine} {r : Except ε Machine}
    (h : ∀ m', r = .ok m' → Moves m m') : Moves m (m.orElse r).1 := by
  cases r with
  | error e => exact .refl
  | ok m' => exact h m' rfl

theorem loadState_moves {m m' : Machine} {v : Json.Value} (h : m.loadState v = .ok m') :
    Moves m m' := by
  rcases m.loadState_cases v with ⟨e, refused⟩ | ⟨s, ram, -, fits, loads⟩
  · rw [refused] at h
    cases h
  · rw [loads] at h
    cases h
    exact (Move.resume s ram fits).moves

/-- A command makes moves and does nothing else. -/
theorem obey_moves (m : Machine) (c : Command) : Moves m (m.obey c).1 := by
  cases c with
  | step => exact m.step_moves
  | run budget => exact m.run_moves _
  | tick => exact m.tick_moves
  | press key => exact m.pressKey_moves key
  | release key => exact m.releaseKey_moves key
  | pressCode code => exact orElse_keyCode (P := Moves m) .refl m.pressKey_moves code
  | releaseCode code => exact orElse_keyCode (P := Moves m) .refl m.releaseKey_moves code
  | queueKey event => exact m.queueKey_moves event
  | powerButton => exact m.powerButton_moves
  | powerOff => exact m.powerOff_moves
  | reset => exact m.reset_moves
  | irq => exact m.irq_moves
  | nmi => exact m.nmi_moves
  | setPc address => exact (Move.setPc address).moves
  | clearRam => exact m.clearRam_moves
  | loadProgram image => exact m.loadProgram_moves image
  | addBreakpoint address => exact (Move.breakpoints _).moves
  | removeBreakpoint address => exact (Move.breakpoints _).moves
  | mount id image =>
    refine orElse_moves fun m' h => ?_
    unfold mount at h
    split at h
    · cases h
      exact (m.changeMonitor_moves image true).trans (report_moves _ _)
    · cases h
  | unmount id =>
    refine orElse_moves fun m' h => ?_
    unfold unmount at h
    split at h
    · cases h
      exact m.changeMonitor_moves [] false
    · cases h
  | loadState v => exact orElse_moves fun m' h => loadState_moves h

end Machine

end Trainer6800
