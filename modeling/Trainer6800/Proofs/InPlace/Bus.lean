import Trainer6800.InPlace.Bus
import Trainer6800.Proofs.InPlace.AddressSpace
import Trainer6800.Proofs.InPlace.Display
import Trainer6800.Proofs.InPlace.Keypad
import Trainer6800.Proofs.InPlace.Memory
import Trainer6800.Proofs.Memory.Cells

/-!
# The bus in place

A bus in place goes with a bus that is a value when they differ in their journals only (`Bus.Follows`).
The value has no place for the report of a read that fails, and takes it for granted that memory can be
written; the trainer's own blocks do not give occasion for more (`Bus.Fitted`), and for them the journal
is what the operations in place have logged.

A write that nothing takes has already gone through the bus when it fails.  That it has touched nothing on
its way, neither a block nor the display, is `Bus.does_writeCheckedM_of_not_takes`.
-/

namespace Trainer6800.Bus

open Acting
open Log (Record)

/-- The bus `w` in place goes with the bus `b`, if the records have been logged so far. -/
inductive Follows (fit : Prop) (b : Bus) : Bus → List Record → Prop where
  | mk {journal : Array Record} {records : List Record}
    (logged : fit → b.Fitted ∧ b.journal.toList = records) : Follows fit b { b with journal } records

variable {fit : Prop} {α : Type} {b w : Bus} {before records : List Record} {x : α}

theorem toList_appendList (journal : Array Record) (records : List Record) :
    (journal.appendList records).toList = journal.toList ++ records := by
  rw [Array.appendList_eq_append, Array.toList_appendList]

/-- What is logged is put into the journal. -/
theorem Follows.report (follows : Follows fit b w before) (records : List Record) :
    Follows fit (b.report records) w (before ++ records) := by
  obtain ⟨logged⟩ := follows
  refine ⟨fun h => ⟨{ (logged h).1 with }, ?_⟩⟩
  rw [← (logged h).2]
  exact toList_appendList _ _

/-! ## Parts -/

/-- A change that has nothing to do with the journal, and leaves the blocks of a trainer its blocks. -/
theorem tracks_modify {f : Bus → Bus}
    (alone : ∀ (b : Bus) (journal : Array Record), f { b with journal } = { f b with journal })
    (fits : ∀ b : Bus, b.Fitted → (f b).Fitted) :
    Tracks (Follows fit) (modify f) fun b => (⟨⟩, f b) := by
  intro b w before follows
  obtain @⟨journal, _, logged⟩ := follows
  have same : (f b).journal = b.journal := congrArg (·.journal) (alone b b.journal)
  refine .of_quiet (.modify f _) ?_
  rw [alone b journal]
  exact ⟨fun h => ⟨fits b (logged h).1, same ▸ (logged h).2⟩⟩

/-- What the memory does, if it remains the memory of a trainer. -/
theorem tracks_onRam {a : Acting MemoryBlock α} {x : MemoryBlock → α}
    {f : MemoryBlock → MemoryBlock} {records : MemoryBlock → List Record}
    (does : ∀ block, a.Does block (x block) (f block) (records block))
    (fits : ∀ block : MemoryBlock, block.HasShape .plain 0 ramSize →
      (f block).HasShape .plain 0 ramSize) :
    Tracks (Follows fit) (onRam a) fun b =>
      (x b.ram, { b with ram := f b.ram }.report (records b.ram)) := by
  rintro b w before ⟨logged⟩
  refine .of_does (.within (does b.ram)) ?_
  exact Follows.report (b := { b with ram := f b.ram })
    ⟨fun h => ⟨⟨fits _ (logged h).1.ram, (logged h).1.rom⟩, (logged h).2⟩⟩ _

/-- Loading bytes into memory.  It has something to say only if memory cannot be written. -/
theorem tracks_loadRamM (bytes : List UInt8) :
    Tracks (Follows fit) (onRam (MemoryBlock.loadM 0 bytes)) fun b =>
      ((b.ram.load 0 bytes).map fun _ => (), { b with ram := b.ram.update (.load 0 bytes) }) := by
  rintro b w before ⟨logged⟩
  refine .of_does (.within (b.ram.does_loadM 0 bytes)) ⟨fun h => ?_⟩
  have silent : b.ram.loadRecords 0 bytes = [] := by
    refine if_neg fun refused => ?_
    rw [(logged h).1.ram.access] at refused
    cases refused.1
  rw [silent, List.append_nil]
  exact ⟨⟨(logged h).1.ram.update _, (logged h).1.rom⟩, (logged h).2⟩

/-- What the keypad does. -/
theorem tracks_onKeypad {a : Acting Keypad α} {x : Keypad → α} {f : Keypad → Keypad}
    {records : Keypad → List Record} (does : ∀ k, a.Does k (x k) (f k) (records k)) :
    Tracks (Follows fit) (onKeypad a) fun b =>
      (x b.keypad, { b with keypad := f b.keypad }.report (records b.keypad)) := by
  rintro b w before ⟨logged⟩
  refine .of_does (.within (does b.keypad)) ?_
  exact Follows.report (b := { b with keypad := f b.keypad })
    ⟨fun h => ⟨{ (logged h).1 with }, (logged h).2⟩⟩ _

/-- What the display does. -/
theorem tracks_onDisplay {a : Acting DisplayLatch α} {x : DisplayLatch → α}
    {f : DisplayLatch → DisplayLatch} {records : DisplayLatch → List Record}
    (does : ∀ l, a.Does l (x l) (f l) (records l)) :
    Tracks (Follows fit) (onDisplay a) fun b =>
      (x b.display, { b with display := f b.display }.report (records b.display)) := by
  rintro b w before ⟨logged⟩
  refine .of_does (.within (does b.display)) ?_
  exact Follows.report (b := { b with display := f b.display })
    ⟨fun h => ⟨{ (logged h).1 with }, (logged h).2⟩⟩ _

/-! ## Reading -/

/-- The blocks of a trainer answer for every address. -/
theorem Fitted.exists_readChecked (h : b.Fitted) (address : UInt16) :
    ∃ value, b.readChecked address = .ok value := by
  by_cases keys : inKeypadWindow address = true
  · exact ⟨_, if_pos keys⟩
  · by_cases below : address < romBase
    · have inRam := (h.ram_contains_iff address).mpr below
      have notInRom := mt (h.rom_contains_iff address).mp (UInt16.not_le.mpr below)
      exact ⟨_, by rw [readChecked, if_neg keys, if_neg notInRom, MemoryBlock.read, if_pos inRam]⟩
    · exact ⟨_, Monitored.readChecked h.rom (UInt16.not_lt.mp below)⟩

theorem tracks_readM (address : UInt16) :
    Tracks (Follows fit) (readM address) fun b => (b.read address, b) := by
  rintro b w before ⟨logged⟩
  rename_i journal
  have same : ({ b with journal } : Bus).readChecked address = b.readChecked address := rfl
  unfold readM read
  refine .quiet (.get _) ?_
  dsimp only
  rw [same]
  cases found : b.readChecked address with
  | ok value => exact .pure ⟨logged⟩
  | error e =>
    refine .after (.log rfl) (.pure ⟨fun h => ?_⟩)
    -- there is no such read on a trainer
    obtain ⟨value, answered⟩ := (logged h).1.exists_readChecked address
    rw [found] at answered
    cases answered

/-! ## Writing -/

/-- A write that nothing takes fails, and has done nothing. -/
theorem does_writeCheckedM_of_not_takes {address : UInt16} (nowhere : ¬ b.takes address = true)
    (value : UInt8) :
    (writeCheckedM address value).Does b (.error (b.ram.outOfRange address)) b [] := by
  rw [takes, Bool.or_eq_true, not_or] at nowhere
  have failed : b.ram.attempt (.write address value) = .error (b.ram.outOfRange address) :=
    if_neg nowhere.2
  have ram : (onRam (MemoryBlock.writeM address value)).Does b
      (.error (b.ram.outOfRange address)) b [] :=
    .within (b.ram.does_attemptM_error failed)
  unfold writeCheckedM
  refine .quiet (.get b) ?_
  rw [if_neg nowhere.1]
  exact .quiet ram (.pure _ b)

/-- All that is left of it is the fault, and a line in the log. -/
theorem does_writeM_of_not_takes {address : UInt16} (nowhere : ¬ b.takes address = true)
    (value : UInt8) :
    (writeM address value).Does b () { b with fault := some (b.ram.outOfRange address) }
      [⟨.memory, .error, writeFailure (b.ram.outOfRange address)⟩] :=
  .quiet (does_writeCheckedM_of_not_takes nowhere value) (.bind (.log rfl) (.modify _ b))

/-- A write that something takes goes to the monitor, or else to memory and the display. -/
theorem goes_writeCheckedM_of_takes (follows : Follows fit b w before) {address : UInt16}
    (somewhere : b.takes address = true) (value : UInt8) :
    Goes (Follows fit) (writeCheckedM address value) w before
      (.ok (), b.deliver address value) := by
  obtain ⟨logged⟩ := follows
  unfold writeCheckedM deliver
  refine .quiet (.get _) ?_
  by_cases inRom : b.rom.contains address = true
  · have does := b.rom.does_writeM address value
    rw [MemoryBlock.update, MemoryBlock.attempt, MemoryBlock.write, if_pos inRom] at does
    rw [if_pos inRom, if_pos inRom]
    refine .of_does (.within does) ⟨fun h => ?_⟩
    rw [← (logged h).2]
    exact ⟨⟨(logged h).1.ram, (logged h).1.rom.store _ _⟩, toList_appendList _ _⟩
  · have inRam : b.ram.contains address = true := by
      rw [takes, Bool.or_eq_true] at somewhere
      exact somewhere.resolve_left inRom
    have does := b.ram.does_writeM address value
    rw [MemoryBlock.update, MemoryBlock.attempt, MemoryBlock.write, if_pos inRam] at does
    -- memory that can be written logs nothing
    have silent (h : fit) : b.ram.writeRecords address value = [] := by
      refine if_neg fun refused => ?_
      rw [(logged h).1.ram.access] at refused
      cases refused.2
    rw [if_neg inRom, if_neg inRom]
    refine .after (.within does) ?_
    dsimp only [Except.map]
    by_cases shown : inDisplayWindow address = true
    · rw [if_pos shown, if_pos shown]
      refine .after (.within (b.display.does_writeM (lowByte address) value)) (.pure ⟨fun h => ?_⟩)
      rw [silent h, List.append_nil, ← (logged h).2]
      exact ⟨⟨(logged h).1.ram.store _ _, (logged h).1.rom⟩, toList_appendList _ _⟩
    · rw [if_neg shown, if_neg shown]
      refine .pure ⟨fun h => ?_⟩
      rw [silent h, List.append_nil]
      exact ⟨⟨(logged h).1.ram.store _ _, (logged h).1.rom⟩, (logged h).2⟩

theorem tracks_writeM (address : UInt16) (value : UInt8) :
    Tracks (Follows fit) (writeM address value) fun b => ((), b.write address value) := by
  intro b w before follows
  by_cases somewhere : b.takes address = true
  · dsimp only [write]
    rw [if_pos somewhere]
    exact .bind (goes_writeCheckedM_of_takes follows somewhere value) fun _ _ later => .pure later
  · dsimp only [write]
    rw [if_neg somewhere]
    obtain @⟨journal, _, logged⟩ := follows
    refine .of_does (does_writeM_of_not_takes (b := { b with journal }) somewhere value) ?_
    refine Follows.report (b := { b with fault := some (b.ram.outOfRange address) }) ⟨fun h => ?_⟩ _
    exact ⟨{ (logged h).1 with }, (logged h).2⟩

/-- A processor in place can be followed on the bus. -/
theorem memoryFollows : MemoryFollows (Follows fit) report where
  reads := tracks_readM
  writes := tracks_writeM
  notes records follows := follows.report records

/-! ## Images and programs -/

/-- A bus that is made in place has no journal, since what it would have in it is logged. -/
theorem does_ofMonitorM {σ : Type} (s : σ) (image : List UInt8) (keypad : Keypad) :
    (ofMonitorM image keypad).Does s { ofMonitor image keypad with journal := #[] } s
      (ofMonitor image keypad).journal.toList := by
  have reported : (ofMonitor image keypad).journal.toList =
      MemoryBlock.readOnlyRecords romSize image ++ [] := by
    rw [List.append_nil]
    exact toList_appendList _ _
  rw [reported]
  exact (MemoryBlock.does_readOnlyM s romSize image).bind (.pure _ s)

theorem tracks_loadMonitorM (image : List UInt8) :
    Tracks (Follows fit) (loadMonitorM image) fun b => ((), b.loadMonitor image) := by
  rintro b w before ⟨logged⟩
  refine .after (MemoryBlock.does_readOnlyM _ romSize image) (.of_quiet (.modify _ _) ?_)
  refine Follows.report (b := { b with rom := monitorBlock image }) ⟨fun h => ?_⟩ _
  exact ⟨⟨(logged h).1.ram, MemoryBlock.hasShape_readOnly romSize image romBase⟩, (logged h).2⟩

theorem tracks_writeEachM (counts : LoadReport) (bytes : List (UInt16 × UInt8)) :
    Tracks (Follows fit) (writeEachM counts bytes) fun b =>
      ((b.writeEach counts bytes).2, (b.writeEach counts bytes).1) := by
  induction bytes generalizing counts with
  | nil => exact fun b w before follows => .pure follows
  | cons byte rest ih =>
    obtain ⟨address, value⟩ := byte
    intro b w before follows
    have there : w.rom = b.rom := by cases follows; rfl
    unfold writeEachM writeEach
    refine .quiet (.get w) ?_
    dsimp only
    rw [there]
    by_cases somewhere : b.takes address = true
    · rw [if_pos somewhere]
      exact .bind (goes_writeCheckedM_of_takes follows somewhere value) (ih _ _)
    · rw [if_neg somewhere]
      obtain @⟨journal, _, logged⟩ := follows
      exact .quiet (does_writeCheckedM_of_not_takes (b := { b with journal }) somewhere value)
        (.pure ⟨logged⟩)

theorem tracks_loadProgramM (image : ProgramImage) :
    Tracks (Follows fit) (loadProgramM image) fun b =>
      ((b.loadProgram image).2, (b.loadProgram image).1) := by
  intro b w before follows
  unfold loadProgramM loadProgram
  cases image.writes with
  | error e => exact .pure follows
  | ok bytes =>
    refine .bind (tracks_writeEachM {} bytes b w before follows) fun w' before' follows' => ?_
    dsimp only at follows' ⊢
    generalize b.writeEach {} bytes = written at follows' ⊢
    obtain ⟨b', result⟩ := written
    cases result with
    | error e => exact .pure follows'
    | ok counts => exact .after (.log rfl) (.pure (follows'.report _))

end Trainer6800.Bus
