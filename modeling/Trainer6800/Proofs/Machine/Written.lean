import Trainer6800.Proofs.Cpu.Writes
import Trainer6800.Proofs.Machine.Account
import Trainer6800.Proofs.Machine.Sound

/-!
# What a command writes, and what the monitor refuses

Three things write bytes on the bus: the processor while it executes instructions, an interrupt that
stacks the machine state, and a program that is loaded.  `Machine.written` lists the addresses of the
bytes that a command writes, in order.

The monitor refuses the bytes that are addressed to it, and counts them.  Apart from the count, no
command changes anything about it (`Machine.Sound.wrote_obey`) but mounting and unmounting, which put
another block in its place.
-/

namespace Trainer6800

open AddressSpace

/-! ## The block -/

/-- The block after it has refused a number of writes. -/
def MemoryBlock.refuse (b : MemoryBlock) (count : Nat) : MemoryBlock :=
  { b with rejectedWrites := b.rejectedWrites + count }

theorem MemoryBlock.refuse_refuse (b : MemoryBlock) (first later : Nat) :
    (b.refuse first).refuse later = b.refuse (first + later) := by
  simp only [refuse, Nat.add_assoc]

/-- How many of the addresses belong to the monitor. -/
def refusals (addresses : List UInt16) : Nat :=
  addresses.countP (romBase ≤ ·)

theorem refusals_append (first later : List UInt16) :
    refusals (first ++ later) = refusals first + refusals later :=
  List.countP_append

/-- The counts after some more bytes, of which some go into memory and the monitor refuses the others. -/
def LoadReport.adding (counts : LoadReport) (bytes : List (UInt16 × UInt8)) : LoadReport where
  written := counts.written + UInt64.ofNat (bytes.countP fun w => w.1 < romBase)
  rejected := counts.rejected + UInt64.ofNat (bytes.countP fun w => romBase ≤ w.1)

theorem LoadReport.adding_cons (counts : LoadReport) (w : UInt16 × UInt8)
    (bytes : List (UInt16 × UInt8)) :
    counts.adding (w :: bytes) =
      (if romBase ≤ w.1 then { counts with rejected := counts.rejected + 1 }
        else { counts with written := counts.written + 1 } : LoadReport).adding bytes := by
  by_cases inRom : romBase ≤ w.1
  · have notBelow : ¬ w.1 < romBase := UInt16.not_lt.mpr inRom
    simp [adding, inRom, notBelow, UInt64.ofNat_add, UInt64.add_assoc, UInt64.add_comm]
  · have below : w.1 < romBase := UInt16.not_le.mp inRom
    simp [adding, inRom, below, UInt64.ofNat_add, UInt64.add_assoc, UInt64.add_comm]

namespace Bus.Sound

variable {policy : KeyPolicy} {b : Bus}

theorem fitted (h : b.Sound policy) : b.Fitted :=
  ⟨h.ram, h.rom⟩

/-- The monitor refuses the bytes that are addressed to it, and does not notice the others. -/
theorem rom_write (h : b.Sound policy) (address : UInt16) (value : UInt8) :
    (b.write address value).rom = b.rom.refuse (refusals [address]) := by
  by_cases inRom : romBase ≤ address
  · have one : refusals [address] = 1 := by simp [refusals, inRom]
    obtain ⟨journal, written⟩ := h.fitted.write_above inRom value
    rw [one, written]
    rfl
  · have none : refusals [address] = 0 := by simp [refusals, inRom]
    obtain ⟨display, journal, written⟩ := h.fitted.write_below (UInt16.not_le.mp inRom) value
    rw [none, written]
    rfl

theorem rom_of_writes (h : b.Sound policy) {addresses : List UInt16} {b' : Bus}
    (writes : Writes b addresses b') : b'.rom = b.rom.refuse (refusals addresses) := by
  obtain ⟨bytes, rfl, rfl⟩ := writes
  induction bytes generalizing b with
  | nil => rfl
  | cons w rest ih =>
    have first : (b.write w.1 w.2).rom = b.rom.refuse (refusals [w.1]) := h.rom_write w.1 w.2
    have later := ih (h.write w.1 w.2)
    rw [first, MemoryBlock.refuse_refuse, ← refusals_append] at later
    exact later

/-- A program is written byte by byte, and each byte is counted. -/
theorem writeEach_eq (h : b.Sound policy) (counts : LoadReport) (bytes : List (UInt16 × UInt8)) :
    b.writeEach counts bytes = (writeBytes b bytes, .ok (counts.adding bytes)) := by
  induction bytes generalizing b counts with
  | nil => simp [writeEach, LoadReport.adding]
  | cons w rest ih =>
    have delivered : b.write w.1 w.2 = b.deliver w.1 w.2 := if_pos (h.takes w.1)
    have next := h.write w.1 w.2
    rw [delivered] at next
    rw [writeEach, if_pos (h.takes w.1), ih next, ← delivered, LoadReport.adding_cons]
    simp only [h.fitted.rom_contains_iff]
    rfl

end Bus.Sound

/-! ## The addresses -/

/-- The addresses to which a program has bytes; a program that overflows is not written at all. -/
def ProgramImage.addresses (image : ProgramImage) : List UInt16 :=
  match image.writes with
  | .ok bytes => bytes.map Prod.fst
  | .error _ => []

namespace Machine

/-- The addresses that a step of the machine writes. -/
def writtenByStep (m : Machine) : List UInt16 :=
  if m.isPowered then m.cpu.written else []

/-- The addresses that some steps write. -/
def writtenBySteps (m : Machine) (count : Nat) : List UInt16 :=
  (List.range count).flatMap fun i => ((fun m => m.step.1)^[i] m).writtenByStep

/-- The addresses that a command writes, in the order of writing.  A run writes what the instructions
write that it says it has executed. -/
def written (m : Machine) : Command → List UInt16
  | .step => m.writtenByStep
  | .run budget => m.writtenBySteps (m.run budget.toNat).2.instructions.toNat
  | .tick => m.drainKeys.writtenBySteps m.tick.2.instructions.toNat
  | .irq => if m.acceptsIrq then m.cpu.writtenByInterrupt else []
  | .nmi => if m.isPowered && !m.cpu.isHalted then m.cpu.writtenByInterrupt else []
  | .loadProgram image => image.addresses
  | _ => []

variable {m m' m'' : Machine}

/-! ## The monitor -/

/-- The block of the monitor, and whether a monitor is mounted. -/
def monitor (m : Machine) : MemoryBlock × Bool :=
  (m.bus.rom, m.monitorMounted)

/-- Bytes have been written to the addresses, and the monitor has done nothing but refuse its own. -/
def Wrote (m : Machine) (addresses : List UInt16) (m' : Machine) : Prop :=
  m'.monitor = (m.bus.rom.refuse (refusals addresses), m.monitorMounted)

theorem Wrote.nothing (same : m'.monitor = m.monitor) : m.Wrote [] m' :=
  same

theorem Wrote.trans {first later : List UInt16} (h : m.Wrote first m') (h' : m'.Wrote later m'') :
    m.Wrote (first ++ later) m'' := by
  have rom : m'.bus.rom = m.bus.rom.refuse (refusals first) := congrArg Prod.fst h
  have mounted : m'.monitorMounted = m.monitorMounted := congrArg Prod.snd h
  rw [Wrote, h', rom, mounted, MemoryBlock.refuse_refuse, refusals_append]

/-- Bytes that have been written on the bus of a sound machine. -/
theorem Sound.wrote (h : m.Sound) {addresses : List UInt16} {b : Bus}
    (writes : Writes m.bus addresses b) (rom : m'.bus.rom = b.rom)
    (mounted : m'.monitorMounted = m.monitorMounted) : m.Wrote addresses m' := by
  rw [Wrote, Machine.monitor, rom, mounted, h.bus.rom_of_writes writes]

/-! ## Commands that write nothing -/

theorem monitor_blankDisplay (m : Machine) : m.blankDisplay.monitor = m.monitor := by
  simp only [monitor, blankDisplay, report, updateBus, bus, Bus.report]

theorem monitor_powerOn (m : Machine) : m.powerOn.monitor = m.monitor := by
  obtain ⟨rom, -, mounted⟩ := m.powerOn_keeps
  rw [monitor, monitor, rom, mounted]

theorem monitor_powerOff (m : Machine) : m.powerOff.monitor = m.monitor := by
  have released : ((m.updateBus fun b => { b with keypad := b.keypad.releaseAll }).report
      m.bus.keypad.releaseAllRecords).monitor = m.monitor :=
    rfl
  have dark := (monitor_blankDisplay _).trans released
  rw [← dark, powerOff]
  split
  · simp only [monitor, report, updateBus, bus, Bus.report]
  · simp only [monitor, bus]

theorem monitor_reset (m : Machine) : m.reset.monitor = m.monitor := by
  unfold reset
  split
  · rfl
  · rfl

theorem monitor_pressKey (m : Machine) (key : Key) : (m.pressKey key).monitor = m.monitor := by
  simp only [pressKey]
  split
  · split
    · exact monitor_reset _
    · rfl
  · rfl

theorem monitor_releaseKey (m : Machine) (key : Key) : (m.releaseKey key).monitor = m.monitor := by
  simp only [releaseKey]
  split
  · rfl
  · rfl

theorem monitor_drainKeys (m : Machine) : m.drainKeys.monitor = m.monitor := by
  refine drainKeys_keeps (P := fun m' => m'.monitor = m.monitor) ?_ ?_ rfl
  · intro m' key same
    rw [monitor_pressKey, same]
  · intro m' key same
    rw [monitor_releaseKey, same]

theorem monitor_queueKey (m : Machine) (event : KeyEvent) :
    (m.queueKey event).monitor = m.monitor := by
  unfold queueKey
  split
  · rfl
  · rfl

theorem monitor_loadState (m : Machine) (v : Json.Value) :
    (m.orElse (m.loadState v)).1.monitor = m.monitor := by
  rcases m.loadState_cases v with ⟨e, refused⟩ | ⟨s, ram, -, -, loads⟩
  · rw [refused]
    rfl
  · rw [loads]
    rfl

/-! ## Steps -/

theorem Sound.wrote_advance (h : m.Sound) : m.Wrote m.cpu.written m.advance.1 :=
  h.wrote m.cpu.writes_step rfl rfl

theorem Sound.wrote_interrupt (h : m.Sound) (vector : UInt16) :
    m.Wrote m.cpu.writtenByInterrupt (m.interrupt vector) :=
  h.wrote (m.cpu.writes_interrupt vector) rfl rfl

theorem Sound.wrote_step (h : m.Sound) : m.Wrote m.writtenByStep m.step.1 := by
  unfold writtenByStep step
  split
  · exact h.wrote_advance
  · exact .nothing rfl

/-- The first of some steps writes first. -/
theorem writtenBySteps_succ (m : Machine) (count : Nat) :
    m.writtenBySteps (count + 1) = m.writtenByStep ++ m.step.1.writtenBySteps count := by
  rw [writtenBySteps, List.range_succ_eq_map, List.flatMap_cons, List.flatMap_map]
  rfl

/-- The instructions of a slice make the writes that as many steps make.  A 64-bit number counts them:
each takes at least two cycles. -/
theorem Slice.wrote {budget : Nat} {spent done : Nat} {events : List RunEvent} {s : RunSummary}
    (h : Slice budget m spent done events m' s) (sound : m.Sound) (on : m.isPowered) :
    ∃ count, s.instructions = UInt64.ofNat (done + count) ∧ 2 * count ≤ budget - spent + 1 ∧
      m.Wrote (m.writtenBySteps count) m' := by
  induction h with
  | exhausted | halted | waiting | breakpoint => exact ⟨0, rfl, Nat.zero_le _, .nothing rfl⟩
  -- the undefined opcode is not counted as an instruction, and writes nothing
  | @undefined m spent done within running free e failed =>
    have wrote := sound.wrote_advance
    rw [Cpu.written_of_failed failed] at wrote
    exact ⟨0, rfl, Nat.zero_le _, wrote⟩
  | @executed m spent done within running free n took events m' s rest ih =>
    have atLeast := Cpu.two_le_of_step running took
    have next : m.step.1 = m.advance.1 := by rw [step, if_pos on]
    have first := sound.wrote_advance
    obtain ⟨count, instructions, few, later⟩ := ih sound.advance on
    refine ⟨count + 1, ?_, by omega, ?_⟩
    · rw [instructions, Nat.add_right_comm, Nat.add_assoc]
    · rw [writtenBySteps_succ, next, writtenByStep, if_pos on]
      exact first.trans later

theorem Sound.wrote_run (h : m.Sound) {budget : Nat} (room : budget < UInt64.size) :
    m.Wrote (m.writtenBySteps (m.run budget).2.instructions.toNat) (m.run budget).1 := by
  unfold run
  split
  · rename_i on
    obtain ⟨count, instructions, few, wrote⟩ := (slice_runFrom budget m 0 0).wrote h on
    have counted : (m.runFrom budget 0 0).2.instructions.toNat = count := by
      rw [instructions, Nat.zero_add]
      exact UInt64.toNat_ofNat_of_lt' (by omega)
    rw [counted]
    exact wrote
  · exact .nothing rfl

/-! ## Commands -/

/-- A program that runs past the last address is refused as a whole. -/
theorem loadProgram_overflow (m : Machine) {image : ProgramImage} {e : ImageOverflow}
    (overflows : image.writes = .error e) : m.loadProgram image = (m, .error (.overflow e)) := by
  simp only [loadProgram, Bus.loadProgram, overflows]

/-- Any other program is written byte by byte. -/
theorem Sound.loadProgram_ok (h : m.Sound) {image : ProgramImage} {bytes : List (UInt16 × UInt8)}
    (writes : image.writes = .ok bytes) :
    m.loadProgram image =
      (m.updateBus fun b => (writeBytes b bytes).report [Bus.loadRecord (LoadReport.adding {} bytes)],
        .ok (LoadReport.adding {} bytes)) := by
  have written : m.cpu.memory.writeEach {} bytes = _ := h.bus.writeEach_eq {} bytes
  simp only [loadProgram, Bus.loadProgram, writes, written]
  rfl

theorem Sound.wrote_loadProgram (h : m.Sound) (image : ProgramImage) :
    m.Wrote image.addresses (m.loadProgram image).1 := by
  cases writes : image.writes with
  | error e =>
    have none : image.addresses = [] := by
      simp only [ProgramImage.addresses, writes]
    rw [m.loadProgram_overflow writes, none]
    exact .nothing rfl
  | ok bytes =>
    have listed : image.addresses = bytes.map Prod.fst := by
      simp only [ProgramImage.addresses, writes]
    rw [h.loadProgram_ok writes]
    exact h.wrote ⟨bytes, listed.symm, rfl⟩ rfl rfl

end Machine

/-- What a command installs as the monitor, and whether it is then mounted, if it is a command that
installs one. -/
def Command.installs? : Command → Option (List UInt8 × Bool)
  | mount id image => if id = "Monitor" then some (image, true) else none
  | unmount id => if id = "Monitor" then some ([], false) else none
  | _ => none

namespace Machine

variable {m : Machine}

/-- Where the machine has no mount point, nothing can be mounted. -/
theorem obey_mount_of_ne {id : String} (unknown : id ≠ "Monitor") (image : List UInt8) :
    m.obey (.mount id image) = (m, .mounted (.error ⟨id⟩)) := by
  have refused : m.mount id image = .error ⟨id⟩ := if_neg unknown
  simp only [obey, refused, orElse]

theorem obey_unmount_of_ne {id : String} (unknown : id ≠ "Monitor") :
    m.obey (.unmount id) = (m, .mounted (.error ⟨id⟩)) := by
  have refused : m.unmount id = .error ⟨id⟩ := if_neg unknown
  simp only [obey, refused, orElse]

/-- A command that does not install a monitor writes what it is said to write, and the monitor refuses
what is addressed to it. -/
theorem Sound.wrote_obey (h : m.Sound) {c : Command} (keeps : c.installs? = none) :
    m.Wrote (m.written c) (m.obey c).1 := by
  cases c with
  | step => exact h.wrote_step
  | run budget => exact h.wrote_run budget.toNat_lt
  | tick =>
    have drained : m.drainKeys.Sound := m.drainKeys_moves.keeps (fun h hm => h.move hm) h
    have longest := Nat.lt_trans m.config.cyclesPerTick_lt (by decide : UInt32.size < UInt64.size)
    have wrote := (Wrote.nothing m.monitor_drainKeys).trans (drained.wrote_run longest)
    rw [List.nil_append] at wrote
    exact wrote
  | press key => exact .nothing (m.monitor_pressKey key)
  | release key => exact .nothing (m.monitor_releaseKey key)
  | pressCode code =>
    refine orElse_keyCode (P := m.Wrote []) (.nothing rfl) (fun key => ?_) code
    exact .nothing (m.monitor_pressKey key)
  | releaseCode code =>
    refine orElse_keyCode (P := m.Wrote []) (.nothing rfl) (fun key => ?_) code
    exact .nothing (m.monitor_releaseKey key)
  | queueKey event => exact .nothing (m.monitor_queueKey event)
  | powerButton =>
    show m.Wrote [] m.powerButton
    unfold powerButton
    split
    · exact .nothing m.monitor_powerOff
    · exact .nothing m.monitor_powerOn
  | powerOff => exact .nothing m.monitor_powerOff
  | reset => exact .nothing m.monitor_reset
  | irq =>
    show m.Wrote (if m.acceptsIrq then m.cpu.writtenByInterrupt else []) m.irq
    unfold irq
    split
    · exact h.wrote_interrupt irqVector
    · exact .nothing rfl
  | nmi =>
    show m.Wrote (if m.isPowered && !m.cpu.isHalted then m.cpu.writtenByInterrupt else []) m.nmi
    unfold nmi
    split
    · exact h.wrote_interrupt nmiVector
    · exact .nothing rfl
  | setPc | clearRam | addBreakpoint | removeBreakpoint => exact .nothing rfl
  | loadProgram image => exact h.wrote_loadProgram image
  | mount id image =>
    have unknown : id ≠ "Monitor" := by
      rintro rfl
      simp [Command.installs?] at keeps
    rw [obey_mount_of_ne unknown]
    exact .nothing rfl
  | unmount id =>
    have unknown : id ≠ "Monitor" := by
      rintro rfl
      simp [Command.installs?] at keeps
    rw [obey_unmount_of_ne unknown]
    exact .nothing rfl
  | loadState v => exact .nothing (m.monitor_loadState v)

end Machine

end Trainer6800
