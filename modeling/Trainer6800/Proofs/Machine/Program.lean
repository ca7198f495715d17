import Trainer6800.Proofs.Machine.AddressMap
import Trainer6800.Proofs.Machine.Written

/-!
# Loading a program

A program is a list of bytes with their addresses (`ProgramImage.Lists`), or it runs past the last address
and is refused before anything is written.  Loaded through the bus, its bytes go where the address map
sends them: of several for one address the last one stays, those in the display window also reach the
display, in the order of the program, and the monitor counts its own and keeps none.

What a load does to the bus is what writes do (`Bus.Fitted.shows`), so this module is about the program:
which bytes it has, how many there are of each kind, and which address is the lowest.  All of it together
is `Machine.program_loaded`.
-/

namespace Trainer6800

open AddressSpace

/-! ## The bytes of a program -/

namespace ProgramImage

/-- The bytes are those of the image, in its order.  A block puts them at consecutive addresses, and the
addresses do not start over at zero. -/
def Lists : ProgramImage → List (UInt16 × UInt8) → Prop
  | pairs listed, bytes => bytes = listed
  | block start values, bytes =>
    bytes.map (·.2) = values ∧
      bytes.map (·.1.toNat) = List.range' start.toNat values.length

variable {image : ProgramImage} {bytes : List (UInt16 × UInt8)}

theorem lists_consecutive {start : UInt16} {values : List UInt8}
    (fits : start.toNat + values.length ≤ 0x10000) :
    (block start values).Lists (consecutive start values) := by
  induction values generalizing start with
  | nil => exact ⟨rfl, rfl⟩
  | cons value rest ih =>
    cases rest with
    -- behind the last byte the address may start over, but nothing is put there
    | nil => exact ⟨rfl, rfl⟩
    | cons next rest =>
      have room : start.toNat + 1 + (next :: rest).length ≤ 0x10000 := by
        rw [List.length_cons] at fits
        omega
      have following : (start + 1).toNat = start.toNat + 1 := by
        rw [List.length_cons] at room
        rw [UInt16.toNat_add, UInt16.toNat_one]
        exact Nat.mod_eq_of_lt (by omega)
      obtain ⟨others, addresses⟩ := @ih (start + 1) (by rw [following]; exact room)
      constructor
      · rw [consecutive, List.map_cons, others]
      · rw [consecutive, List.map_cons, addresses, following]
        rfl

/-- An image is refused when it is a block that runs past the last address. -/
theorem writes_eq_error_iff {e : ImageOverflow} :
    image.writes = .error e ↔ ∃ start values, image = .block start values ∧
      0x10000 < start.toNat + values.length ∧ e = ⟨start, values.length⟩ := by
  cases image with
  | pairs listed => simp [writes]
  | block start values =>
    by_cases overflows : 0x10000 < start.toNat + values.length
    · simp [writes, overflows, eq_comm]
    · simp [writes, overflows]

/-- Any other image is the list of its bytes. -/
theorem lists_of_writes (listed : image.writes = .ok bytes) : image.Lists bytes := by
  cases image with
  | pairs pairs =>
    cases listed
    rfl
  | block start values =>
    by_cases overflows : 0x10000 < start.toNat + values.length
    · rw [writes, if_pos overflows] at listed
      cases listed
    · rw [writes, if_neg overflows] at listed
      cases listed
      exact lists_consecutive (Nat.not_lt.mp overflows)

theorem Lists.length_eq (h : image.Lists bytes) : bytes.length = image.length := by
  cases image with
  | pairs listed => exact congrArg List.length h
  | block start values => rw [← List.length_map, h.1, length]

/-- The start is the lowest address that gets a byte. -/
theorem Lists.start (h : image.Lists bytes) (some : bytes ≠ []) :
    ∃ w ∈ bytes, image.start? = .some w.1 ∧ ∀ w' ∈ bytes, w.1 ≤ w'.1 := by
  cases image with
  | pairs listed =>
    cases h
    have nonempty : bytes.map (·.1) ≠ [] := mt List.map_eq_nil_iff.mp some
    obtain ⟨lowest, found⟩ := Option.isSome_iff_exists.mp (List.isSome_min?_of_ne_nil nonempty)
    obtain ⟨among, least⟩ := List.min?_eq_some_iff.mp found
    obtain ⟨w, present, rfl⟩ := List.mem_map.mp among
    exact ⟨w, present, found, fun w' present' => least w'.1 (List.mem_map_of_mem present')⟩
  | block start values =>
    obtain ⟨rfl, addresses⟩ := h
    cases bytes with
    | nil => exact absurd rfl some
    | cons w rest =>
      rw [List.map_cons, List.map_cons, List.length_cons, List.range'_succ, List.cons.injEq] at addresses
      obtain ⟨first, others⟩ := addresses
      have begins : w.1 = start := UInt16.toNat_inj.mp first
      refine ⟨w, List.mem_cons_self, ?_, fun w' present => ?_⟩
      · rw [begins]
        rfl
      · rw [UInt16.le_iff_toNat_le]
        rcases List.mem_cons.mp present with rfl | later
        · exact Nat.le_refl _
        · have listed : w'.1.toNat ∈ rest.map (·.1.toNat) := List.mem_map_of_mem later
          rw [others, List.mem_range'_1] at listed
          omega

end ProgramImage

/-! ## The counts -/

/-- A byte is counted once, as written or as rejected. -/
theorem countP_add_countP_romBase (bytes : List (UInt16 × UInt8)) :
    (bytes.countP fun w => w.1 < romBase) + (bytes.countP fun w => romBase ≤ w.1) =
      bytes.length := by
  rw [List.length_eq_countP_add_countP fun w : UInt16 × UInt8 => decide (w.1 < romBase)]
  congr 1
  refine List.countP_congr fun w _ => ?_
  simp only [decide_eq_true_eq, UInt16.not_lt]

/-- The counts of a program are those of its bytes, unless there are too many of them for a 64-bit
number. -/
theorem LoadReport.toNat_adding {bytes : List (UInt16 × UInt8)} (few : bytes.length < UInt64.size) :
    (adding {} bytes).written.toNat + (adding {} bytes).rejected.toNat = bytes.length := by
  have sum := countP_add_countP_romBase bytes
  have written : (adding {} bytes).written = UInt64.ofNat (bytes.countP fun w => w.1 < romBase) :=
    UInt64.zero_add _
  have rejected : (adding {} bytes).rejected = UInt64.ofNat (bytes.countP fun w => romBase ≤ w.1) :=
    UInt64.zero_add _
  rw [written, rejected, UInt64.toNat_ofNat_of_lt' (by omega), UInt64.toNat_ofNat_of_lt' (by omega),
    sum]

namespace Machine

variable {m : Machine} {image : ProgramImage}

/-- The second machine is the first one after some bytes have been loaded, and the counts are theirs. -/
structure Loaded (m : Machine) (bytes : List (UInt16 × UInt8)) (counts : LoadReport)
    (m' : Machine) : Prop where
  written : counts.written = UInt64.ofNat (bytes.countP fun w => w.1 < 0xFC00)
  rejected : counts.rejected = UInt64.ofNat (bytes.countP fun w => 0xFC00 ≤ w.1)
  all : bytes.length < UInt64.size → counts.written.toNat + counts.rejected.toNat = bytes.length
  size : m'.bus.ram.size = m.bus.ram.size
  /-- Of several bytes for one address the last one stays. -/
  ram : ∀ address < 0xFC00, m'.bus.ram.content.getD address.toNat 0 =
    (lastWritten? bytes address).getD (m.bus.ram.content.getD address.toNat 0)
  rom : m'.bus.rom = m.bus.rom.refuse (bytes.countP fun w => 0xFC00 ≤ w.1)
  /-- The bytes in its window have reached the display one after the other, and its observers have been
  sent what they changed. -/
  display : m'.bus.display =
    (bytes.filter fun w => 0xC100 ≤ w.1 && w.1 ≤ 0xC1FF).foldl
      (fun l w => l.write (lowByte w.1) w.2) m.bus.display
  keypad : m'.bus.keypad = m.bus.keypad
  fault : m'.bus.fault = m.bus.fault
  /-- Nothing but the bus has changed. -/
  unmoved : m' = m.updateBus fun _ => m'.bus

theorem Sound.loaded (h : m.Sound) (bytes : List (UInt16 × UInt8)) (records : List Log.Record) :
    m.Loaded bytes (LoadReport.adding {} bytes)
      (m.updateBus fun b => (writeBytes b bytes).report records) := by
  have shows : m.bus.Shows bytes (writeBytes m.bus bytes) := h.bus.fitted.shows bytes
  have fitted := (Bus.separate.writeBytes h.bus.fitted bytes).1
  have rom := h.bus.rom_of_writes ⟨bytes, rfl, rfl⟩
  rw [refusals, List.countP_map] at rom
  exact {
    written := UInt64.zero_add _
    rejected := UInt64.zero_add _
    all := LoadReport.toNat_adding
    size := fitted.ram.size.trans h.bus.ram.size.symm
    ram := shows.stored
    rom := rom
    display := shows.display
    keypad := shows.keypad
    fault := shows.fault
    unmoved := rfl }

/-- No byte of a program is left over, so all that can be wrong with it is its length. -/
theorem Sound.loadProgram_eq_error_iff (h : m.Sound) {e : LoadError} :
    (m.loadProgram image).2 = .error e ↔ ∃ overflow, image.writes = .error overflow ∧
      e = .overflow overflow := by
  cases writes : image.writes with
  | error overflow => simp [m.loadProgram_overflow writes, eq_comm]
  | ok bytes => simp [h.loadProgram_ok writes]

/-- What loading the program does to this machine. -/
structure LoadsProgram (m : Machine) (image : ProgramImage) : Prop where
  error_iff : ∀ e, (m.loadProgram image).2 = .error e ↔ ∃ start values,
    image = .block start values ∧ 0x10000 < start.toNat + values.length ∧
      e = .overflow ⟨start, values.length⟩
  refused : ∀ e, (m.loadProgram image).2 = .error e → (m.loadProgram image).1 = m
  loaded : ∀ counts, (m.loadProgram image).2 = .ok counts → ∃ bytes,
    image.writes = .ok bytes ∧ image.Lists bytes ∧ bytes.length = image.length ∧
      m.Loaded bytes counts (m.loadProgram image).1
  start : ∀ bytes, image.writes = .ok bytes → bytes ≠ [] →
    ∃ w ∈ bytes, image.start? = some w.1 ∧ ∀ w' ∈ bytes, w.1 ≤ w'.1

/-- A program is loaded as a whole or not at all, whatever has happened to the machine. -/
theorem program_loaded (reachable : Reachable m) (image : ProgramImage) : m.LoadsProgram image where
  error_iff := by
    intro e
    rw [reachable.sound.loadProgram_eq_error_iff]
    constructor
    · rintro ⟨overflow, refused, rfl⟩
      obtain ⟨start, values, block, past, rfl⟩ := ProgramImage.writes_eq_error_iff.mp refused
      exact ⟨start, values, block, past, rfl⟩
    · rintro ⟨start, values, block, past, rfl⟩
      exact ⟨_, ProgramImage.writes_eq_error_iff.mpr ⟨start, values, block, past, rfl⟩, rfl⟩
  refused := by
    intro e failed
    obtain ⟨overflow, refused, -⟩ := reachable.sound.loadProgram_eq_error_iff.mp failed
    rw [m.loadProgram_overflow refused]
  loaded := by
    intro counts succeeded
    cases writes : image.writes with
    | error overflow =>
      rw [m.loadProgram_overflow writes] at succeeded
      cases succeeded
    | ok bytes =>
      have lists := ProgramImage.lists_of_writes writes
      rw [reachable.sound.loadProgram_ok writes] at succeeded ⊢
      cases succeeded
      exact ⟨bytes, rfl, lists, lists.length_eq, reachable.sound.loaded bytes _⟩
  start := fun bytes writes => (ProgramImage.lists_of_writes writes).start

/-- A program with two bytes for one address, one for the display and one for the monitor, and a block
that is one byte too long. -/
theorem program_loaded_and_refused :
    let m := (ofMonitor [0x20, 0xFE] {}).act (.command .powerButton)
    let image := ProgramImage.pairs [(0x0010, 1), (0xC166, 1), (0xFC00, 2), (0x0010, 3)]
    let long := ProgramImage.block 0xFFFF [1, 2]
    Reachable m ∧ (m.loadProgram image).2 = .ok ⟨3, 1⟩ ∧
      (m.loadProgram image).1.bus.ram.content.getD 0x0010 0 = 3 ∧
      (m.loadProgram image).1.bus.display = m.bus.display.write 0x66 1 ∧
      image.start? = some 0x0010 ∧
      (m.loadProgram long).2 = .error (.overflow ⟨0xFFFF, 2⟩) ∧ (m.loadProgram long).1 = m := by
  intro m image long
  have reachable : Reachable m := .act (.ofMonitor _ _) _
  have whole : m.LoadsProgram image := program_loaded reachable image
  have none : m.LoadsProgram long := program_loaded reachable long
  have past : (m.loadProgram long).2 = .error (.overflow ⟨0xFFFF, 2⟩) :=
    (none.error_iff _).mpr ⟨0xFFFF, [1, 2], rfl, by decide, rfl⟩
  cases result : (m.loadProgram image).2 with
  | error e =>
    obtain ⟨start, values, block, -⟩ := (whole.error_iff e).mp result
    simp only [image, reduceCtorEq] at block
  | ok counts =>
    obtain ⟨bytes, writes, -, -, loaded⟩ := whole.loaded counts result
    cases writes
    have written : counts.written = 3 := loaded.written
    have rejected : counts.rejected = 1 := loaded.rejected
    have last : (m.loadProgram image).1.bus.ram.content.getD 0x0010 0 = 3 :=
      loaded.ram 0x0010 (by decide)
    refine ⟨reachable, ?_, last, loaded.display, rfl, past, none.refused _ past⟩
    rw [← written, ← rejected]

end Machine

end Trainer6800
