import Trainer6800.Proofs.Cpu.Correspondence
import Trainer6800.Proofs.Display.Mirror
import Trainer6800.Proofs.Machine.Moves

/-!
# Following the display of a machine

The latch by itself and the latch inside a machine are both display systems.  For the machine it has
to be shown that no move gets at the display behind the back of its observers: the processor and the
loader reach it through a write to the latch, switching on or off blanks it digit by digit, and a
saved state replaces it as a whole.  All other moves leave it alone.
-/

namespace Trainer6800

/-! ## The latch -/

/-- What can be done with a latch. -/
inductive LatchAction where
  | write (offset value : UInt8)
  | blank
  | restore (shown : DisplaySnapshot)
  | watch (w : Watching)

namespace DisplayLatch

/-- The latch after an action. -/
def act (l : DisplayLatch) : LatchAction → DisplayLatch
  | .write offset value => l.write offset value
  | .blank => l.blank
  | .restore shown => l.restore shown
  | .watch w => l.watch w

/-- The latch by itself. -/
def system : DisplaySystem DisplayLatch LatchAction where
  latch := id
  act := act
  watching?
    | .watch w => some w
    | _ => none

theorem system_lawful : system.Lawful where
  watch := by
    intro l a w h
    cases a with
    | watch w' =>
      cases h
      rfl
    | write offset value => cases h
    | blank => cases h
    | restore shown => cases h
  send := by
    intro l a h
    cases a with
    | watch w => cases h
    | write offset value => exact l.write_sends offset value
    | blank =>
      dsimp only [system, act, id]
      exact l.blank_sends
    | restore shown => exact ⟨_, l.restore_sends shown⟩

end DisplayLatch

/-! ## The machine -/

/-- What the display of a bus shows, a latch shows once it has sent some events. -/
def Bus.ComesAfter (l : DisplayLatch) (b : Bus) : Prop :=
  ∃ events, l.Sends events b.display

/-- A write reaches the display through the latch, or not at all. -/
theorem Bus.write_sends (b : Bus) (address : UInt16) (value : UInt8) :
    ComesAfter b.display (b.write address value) := by
  have untouched : ∃ events, b.display.Sends events b.display := ⟨[], .nothing⟩
  unfold Bus.write
  split
  · unfold deliver
    split
    · exact untouched
    · split
      · exact b.display.write_sends _ value
      · exact untouched
  · exact untouched

namespace Machine

/-- Writes only send more events. -/
theorem sends_kept {l : DisplayLatch} {b : Bus} (h : b.ComesAfter l) (address : UInt16)
    (value : UInt8) : Bus.ComesAfter l (AddressSpace.write b address value) := by
  obtain ⟨before, h1⟩ := h
  obtain ⟨last, h2⟩ := b.write_sends address value
  exact ⟨before ++ last, h1.trans h2⟩

/-- Whatever a move does to the display, it sends. -/
theorem Move.sends {m m' : Machine} (h : Move m m') : Bus.ComesAfter m.bus.display m'.bus := by
  have untouched : Bus.ComesAfter m.bus.display m.bus := ⟨[], .nothing⟩
  cases h with
  | advance =>
    have stepped : Bus.ComesAfter m.bus.display m.cpu.step.cpu.memory :=
      Cpu.step_kept sends_kept untouched
    exact stepped
  | interrupt vector =>
    have stacked : Bus.ComesAfter m.bus.display (m.cpu.interrupt vector).memory :=
      Cpu.interrupt_kept sends_kept untouched vector
    exact stacked
  | blank =>
    dsimp only [Bus.ComesAfter, updateBus, bus]
    exact m.cpu.memory.display.blank_sends
  | write address value => exact m.bus.write_sends address value
  | resume s ram loads => exact ⟨_, m.bus.display.restore_sends s.display⟩
  | log | wait | switchOn | switchOff | reset | setPc | queue | breakpoints | press | release
  | releaseAll | clearRam | clearFault | changeMonitor => exact untouched

theorem Moves.sends {m m' : Machine} (h : Moves m m') : Bus.ComesAfter m.bus.display m'.bus := by
  induction h with
  | refl => exact ⟨[], .nothing⟩
  | tail before last ih =>
    obtain ⟨first, h1⟩ := ih
    obtain ⟨others, h2⟩ := last.sends
    exact ⟨first ++ others, h1.trans h2⟩

/-- The machine as a system with a display. -/
def displaySystem : DisplaySystem Machine Action where
  latch m := m.bus.display
  act := act
  watching?
    | .watch w => some w
    | _ => none

theorem displaySystem_lawful : displaySystem.Lawful where
  watch := by
    intro m a w h
    cases a with
    | watch w' =>
      cases h
      rfl
    | command c => cases h
    | writeOut => cases h
  send := by
    intro m a h
    cases a with
    | watch w => cases h
    | command c => exact (m.obey_moves c).sends
    | writeOut => exact ⟨[], .nothing⟩

end Machine

/-- Every observer can mirror the display exactly: that of a latch, whatever is done with it, and that
of a machine, whatever commands it gets. -/
theorem display_mirrored :
    DisplayLatch.system.Mirrored {} ∧
      (∀ image config, Machine.displaySystem.Mirrored (.ofMonitor image config)) ∧
      Machine.displaySystem.Mirrored .bare := by
  refine ⟨DisplaySystem.mirrored DisplayLatch.system_lawful rfl, ?_, ?_⟩
  · intro image config
    exact DisplaySystem.mirrored Machine.displaySystem_lawful rfl
  · exact DisplaySystem.mirrored Machine.displaySystem_lawful rfl

end Trainer6800
