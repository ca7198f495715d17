import Trainer6800.Proofs.Cpu.Correspondence
import Trainer6800.Proofs.Cpu.FixedBits
import Trainer6800.Proofs.Keypad.Held
import Trainer6800.Proofs.Machine.Moves
import Trainer6800.Proofs.Memory.Shape

/-!
# Sound machines

A machine that came to be through its own operations is sound: its two memory blocks have their shape
and so cover the addresses between them, nothing has gone wrong on the bus, the two top bits of the
condition codes are set, no key is held twice, and the keypad follows the policy of the
configuration.  A saved state may claim otherwise, but it is put right on its way in.

Soundness of the bus is a property that writes keep, so the processor keeps it instruction by
instruction; and on a sound bus no access fails, which in turn is why nothing ever goes wrong on it.
-/

namespace Trainer6800

namespace Bus

/-- The memory covers all addresses, and the keypad is in order. -/
structure Sound (policy : KeyPolicy) (b : Bus) : Prop where
  ram : b.ram.HasShape .plain 0 ramSize
  rom : b.rom.HasShape .readOnly romBase romSize
  fault : b.fault = none
  held : b.keypad.held.Nodup
  policy : b.keypad.policy = policy

namespace Sound

variable {policy : KeyPolicy} {b : Bus}

/-- What the display shows, and to whom, does not matter. -/
theorem withDisplay (h : b.Sound policy) (display : DisplayLatch) :
    { b with display }.Sound policy :=
  { h with }

/-- Memory ends where the monitor begins, and the monitor ends with the last address. -/
theorem covers (h : b.Sound policy) (address : UInt16) :
    b.rom.contains address = true ∨ b.ram.contains address = true := by
  have last := address.toNat_lt
  have bottom : romBase.toNat = 0xFC00 := rfl
  rw [h.rom.contains_iff, h.ram.contains_iff, bottom, romSize, ramSize]
  show _ ∨ 0 ≤ address.toNat ∧ address.toNat - 0 < 0xFC00
  omega

theorem takes (h : b.Sound policy) (address : UInt16) : b.takes address = true := by
  rw [Bus.takes, Bool.or_eq_true]
  exact h.covers address

/-- Every address can be read. -/
theorem readChecked_ok (h : b.Sound policy) (address : UInt16) :
    ∃ value, b.readChecked address = .ok value := by
  unfold readChecked
  split
  · exact ⟨_, rfl⟩
  split
  · rename_i inRom
    exact ⟨_, if_pos inRom⟩
  · rename_i notInRom
    have inRam := (h.covers address).resolve_left notInRom
    exact ⟨_, if_pos inRam⟩

/-- Every address can be written. -/
theorem writeChecked_ok (h : b.Sound policy) (address : UInt16) (value : UInt8) :
    ∃ b', b.writeChecked address value = .ok b' :=
  ⟨_, if_pos (h.takes address)⟩

/-- A sound bus stays sound when a byte is written, wherever that is. -/
theorem write (h : b.Sound policy) (address : UInt16) (value : UInt8) :
    (b.write address value).Sound policy := by
  rw [Bus.write, if_pos (h.takes address)]
  unfold deliver
  split
  · exact { h with rom := h.rom.store address [value] }
  · split
    · exact { h with ram := h.ram.store address [value] }
    · exact { h with ram := h.ram.store address [value] }

theorem writes (h : b.Sound policy) (bytes : List (UInt16 × UInt8)) :
    (bytes.foldl (fun b w => b.write w.1 w.2) b).Sound policy := by
  induction bytes generalizing b with
  | nil => exact h
  | cons w rest ih => exact ih (h.write w.1 w.2)

/-- No byte of a program is left over for want of memory. -/
theorem writeEach_ok (h : b.Sound policy) (counts : LoadReport)
    (bytes : List (UInt16 × UInt8)) : ∃ report, (b.writeEach counts bytes).2 = .ok report := by
  induction bytes generalizing b counts with
  | nil => exact ⟨counts, rfl⟩
  | cons w rest ih =>
    obtain ⟨address, value⟩ := w
    have next : (b.deliver address value).Sound policy := by
      have written := h.write address value
      rwa [Bus.write, if_pos (h.takes address)] at written
    rw [writeEach, if_pos (h.takes address)]
    exact ih next _

end Sound

theorem sound_ofMonitor (image : List UInt8) (policy : KeyPolicy) :
    (ofMonitor image { policy }).Sound policy where
  ram := MemoryBlock.hasShape_plain ramSize
  rom := MemoryBlock.hasShape_readOnly romSize image romBase
  fault := rfl
  held := List.nodup_nil
  policy := rfl

end Bus

namespace Machine

/-- Nothing about the machine is out of order. -/
structure Sound (m : Machine) : Prop where
  bus : m.bus.Sound m.config.keyPolicy
  codes : m.cpu.registers.ccr.IsFixed
  /-- The only thing that can have gone wrong is an undefined opcode. -/
  lastFault : ∀ e, m.lastFault ≠ some (.memory e)

theorem sound_ofMonitor (image : List UInt8) (config : MachineConfig) :
    (ofMonitor image config).Sound where
  bus := Bus.sound_ofMonitor image config.keyPolicy
  codes := rfl
  lastFault := by
    intro e h
    cases h

theorem sound_bare : bare.Sound where
  bus := Bus.sound_ofMonitor [] _
  codes := rfl
  lastFault := by
    intro e h
    cases h

namespace Sound

variable {m m' : Machine}

/-- A change of the bus that keeps the bus sound keeps the machine sound. -/
theorem updateBus (h : m.Sound) {f : Bus → Bus} (kept : (f m.bus).Sound m.config.keyPolicy) :
    (m.updateBus f).Sound :=
  { h with bus := kept }

theorem advance (h : m.Sound) : m.advance.1.Sound := by
  have bus : m.cpu.step.cpu.memory.Sound m.config.keyPolicy :=
    Cpu.step_kept (fun h => h.write) h.bus
  refine ⟨{ bus with fault := rfl }, Cpu.step_isFixed h.codes, ?_⟩
  intro e
  simp only [Machine.advance, bus.fault]
  cases m.cpu.step.result with
  | error e' =>
    intro h
    cases h
  | ok n => exact h.lastFault e

theorem resume (h : m.Sound) {s : SavedState} {ram : MemoryBlock}
    (loads : m.bus.ram.load 0 s.ram = .ok ram) : (m.resume s ram).Sound where
  bus := {
    ram := h.bus.ram.load loads
    rom := { h.bus.rom with }
    fault := h.bus.fault
    held := Keypad.nodup_withoutRepetitions _
    policy := rfl }
  codes := Cpu.restore_isFixed m.cpu s.cpu
  lastFault := h.lastFault

/-- No move makes a sound machine unsound. -/
theorem move (h : m.Sound) (hm : Move m m') : m'.Sound := by
  have bus := h.bus
  cases hm with
  | log journal =>
    refine h.updateBus ?_
    exact { bus with }
  | advance => exact h.advance
  | wait cycles => exact { h with }
  | switchOn =>
    refine ⟨{ bus with }, Cpu.reset_isFixed _, ?_⟩
    intro e h
    cases h
  | switchOff => exact { h with }
  | reset => exact ⟨{ bus with }, Cpu.reset_isFixed _, h.lastFault⟩
  | interrupt vector =>
    have kept : (m.cpu.interrupt vector).memory.Sound m.config.keyPolicy :=
      Cpu.interrupt_kept (fun h => h.write) bus vector
    exact ⟨kept, Cpu.interrupt_isFixed h.codes vector, h.lastFault⟩
  | setPc address => exact { h with }
  | queue events => exact { h with }
  | breakpoints breakpoints => exact { h with }
  | press key =>
    refine h.updateBus ?_
    exact { bus with
      held := Keypad.nodup_press bus.held key
      policy := (Keypad.policy_press _ key).trans bus.policy }
  | release key =>
    refine h.updateBus ?_
    exact { bus with held := Keypad.nodup_release bus.held key }
  | releaseAll =>
    refine h.updateBus ?_
    exact { bus with held := List.nodup_nil }
  | blank => exact h.updateBus (bus.withDisplay _)
  | clearRam =>
    refine h.updateBus ?_
    exact { bus with ram := bus.ram.clear }
  | clearFault =>
    refine h.updateBus ?_
    exact { bus with fault := rfl }
  | write address value => exact h.updateBus (bus.write address value)
  | changeMonitor image mounted =>
    have changed : (m.bus.loadMonitor image).Sound m.config.keyPolicy :=
      { bus with rom := MemoryBlock.hasShape_readOnly romSize image romBase }
    exact { h with bus := changed }
  | resume s ram loads => exact h.resume loads

theorem act (h : m.Sound) (a : Action) : (m.act a).Sound := by
  cases a with
  | command c => exact (obey_moves m c).keeps (fun h hm => h.move hm) h
  | watch w =>
    have bus := h.bus.withDisplay (m.bus.display.watch w)
    exact { h with bus }
  | writeOut => exact h.move (Move.log #[])

end Sound

theorem Reachable.sound {m : Machine} (h : Reachable m) : m.Sound := by
  induction h with
  | ofMonitor image config => exact sound_ofMonitor image config
  | bare => exact sound_bare
  | act before a ih => exact ih.act a

/-- A machine that came to be through its own operations is sound, and no access to its memory fails:
not now, not after any bytes have been written on the bus, and not while a program is loaded. -/
theorem sound_of_reachable {m : Machine} (h : Reachable m) :
    m.Sound ∧
      (∀ (bytes : List (UInt16 × UInt8)) (address : UInt16) (value : UInt8),
        (∃ v, (bytes.foldl (fun b w => b.write w.1 w.2) m.bus).readChecked address = .ok v) ∧
        (∃ b, (bytes.foldl (fun b w => b.write w.1 w.2) m.bus).writeChecked address value = .ok b)) ∧
      ∀ image e, (m.loadProgram image).2 ≠ .error (.unmapped e) := by
  have sound := h.sound
  refine ⟨sound, ?_, ?_⟩
  · intro bytes address value
    have after := sound.bus.writes bytes
    exact ⟨after.readChecked_ok address, after.writeChecked_ok address value⟩
  · intro image e
    show (m.bus.loadProgram image).2 ≠ .error (.unmapped e)
    unfold Bus.loadProgram
    cases image.writes with
    | error overflow =>
      intro h
      cases h
    | ok bytes =>
      obtain ⟨report, written⟩ := sound.bus.writeEach_ok {} bytes
      dsimp only
      generalize m.bus.writeEach {} bytes = outcome at written ⊢
      obtain ⟨bus, result⟩ := outcome
      cases written
      intro h
      cases h

/-- For one, the machine that has just been turned on with a monitor that is too long for its block. -/
theorem sound_of_reachable_on :
    Reachable ((ofMonitor (List.replicate 2000 1) {}).act (.command .powerButton)) ∧
      ((ofMonitor (List.replicate 2000 1) {}).act (.command .powerButton)).Sound := by
  have reachable : Reachable ((ofMonitor (List.replicate 2000 1) {}).act (.command .powerButton)) :=
    .act (.ofMonitor _ _) _
  exact ⟨reachable, (sound_of_reachable reachable).1⟩

end Machine

end Trainer6800
