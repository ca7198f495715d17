import Trainer6800.Proofs.Cpu.Stack
import Trainer6800.Proofs.Machine.AddressMap

/-!
# Last in, first out

What lies on the stack is said by what is read above the stack pointer: `Cpu.StackHolds` lists the bytes in
the order in which they are pulled.  A push puts a byte in front of the list (`Cpu.StackHolds.push`) and a
pull takes one from there (`Cpu.StackHolds.pull`).  The bytes below are not overwritten as long as all of
them together are no more than there are addresses, wherever the stack pointer starts and whether or not
it wraps around.  A word is two bytes, of which the high one is pulled first.

So whatever has been pushed, bytes and words in any order, is pulled again in the reverse order, and then
the processor is as it was, apart from the memory in which the stack was (`Cpu.last_in_first_out`).  The
stack has to lie on cells of memory, where a byte can be read after it has been written.
-/

namespace Trainer6800

open AddressSpace

/-- The area begins at the stack pointer and goes on below it. -/
theorem stackArea_succ (sp : UInt16) (count : Nat) :
    stackArea sp (count + 1) = sp :: stackArea (sp - 1) count := by
  rw [stackArea, List.range_succ_eq_map, List.map_cons, List.map_map, stackArea]
  refine congrArg₂ List.cons (UInt16.sub_zero sp) (List.map_congr_left fun depth _ => ?_)
  show sp - UInt16.ofNat (depth + 1) = sp - 1 - UInt16.ofNat depth
  rw [Nat.add_comm depth 1, UInt16.ofNat_add]
  grind

theorem length_stackArea (sp : UInt16) (count : Nat) : (stackArea sp count).length = count := by
  simp [stackArea]

/-- The bytes that are pushed, with the addresses where they go. -/
def stackWrites (sp : UInt16) (bytes : List UInt8) : List (UInt16 × UInt8) :=
  (stackArea sp bytes.length).zip bytes

theorem addresses_stackWrites (sp : UInt16) (bytes : List UInt8) :
    (stackWrites sp bytes).map Prod.fst = stackArea sp bytes.length :=
  List.map_fst_zip (Nat.le_of_eq (length_stackArea sp bytes.length))

/-! ## Items -/

/-- What a stack takes at a time. -/
inductive StackItem where
  | byte (value : UInt8)
  | word (value : UInt16)
  deriving DecidableEq, Repr

/-- How much a stack gives at a time. -/
inductive StackWidth where
  | byte
  | word
  deriving DecidableEq, Repr

namespace StackItem

/-- How much has to be pulled to get an item back. -/
def width : StackItem → StackWidth
  | byte _ => .byte
  | word _ => .word

/-- The bytes of an item in the order in which they are pulled. -/
def bytes : StackItem → List UInt8
  | byte value => [value]
  | word value => [highByte value, lowByte value]

end StackItem

/-- How many bytes the items have. -/
def stackSize (items : List StackItem) : Nat :=
  (items.flatMap StackItem.bytes).length

/-- The bytes of items in the order in which they are pushed: of each item that one last that is pulled
first. -/
def pushedBytes (items : List StackItem) : List UInt8 :=
  items.flatMap fun item => item.bytes.reverse

theorem length_pushedBytes (items : List StackItem) : (pushedBytes items).length = stackSize items := by
  simp [pushedBytes, stackSize, List.length_flatMap]

/-- They are pulled as the bytes of the items in the reverse order. -/
theorem reverse_pushedBytes (items : List StackItem) :
    (pushedBytes items).reverse = items.reverse.flatMap StackItem.bytes := by
  simp [pushedBytes, List.reverse_flatMap, Function.comp_def]

theorem stackSize_reverse (items : List StackItem) : stackSize items.reverse = stackSize items := by
  rw [← length_pushedBytes items, ← List.length_reverse, reverse_pushedBytes, stackSize]

namespace Cpu

variable {M : Type}

/-- The processor with the stack pointer moved up. -/
def above (c : Cpu M) (count : Nat) : Cpu M :=
  { c with registers.sp := c.registers.sp + UInt16.ofNat count }

theorem above_above (c : Cpu M) (m n : Nat) : (c.above m).above n = c.above (m + n) := by
  rw [above, above, above, UInt16.ofNat_add, ← UInt16.add_assoc]

theorem above_zero (c : Cpu M) : c.above 0 = c := by
  rw [above, show UInt16.ofNat 0 = 0 from rfl, UInt16.add_zero]

variable [AddressSpace M]

/-- Push bytes one after the other. -/
def pushAll (c : Cpu M) (bytes : List UInt8) : Cpu M :=
  bytes.foldl push c

/-- Pull a number of bytes one after the other. -/
def pullMany (c : Cpu M) : Nat → List UInt8 × Cpu M
  | 0 => ([], c)
  | count + 1 =>
    let (byte, c) := c.pull
    let (bytes, c) := c.pullMany count
    (byte :: bytes, c)

/-- Push a byte or a word. -/
def pushItem (c : Cpu M) : StackItem → Cpu M
  | .byte value => c.push value
  | .word value => c.pushWord value

/-- Pull a byte or a word. -/
def pullItem (c : Cpu M) : StackWidth → StackItem × Cpu M
  | .byte =>
    let (value, c) := c.pull
    (.byte value, c)
  | .word =>
    let (value, c) := c.pullWord
    (.word value, c)

/-- Push items one after the other. -/
def pushItems (c : Cpu M) (items : List StackItem) : Cpu M :=
  items.foldl pushItem c

/-- Pull items of the given widths one after the other. -/
def pullItems (c : Cpu M) : List StackWidth → List StackItem × Cpu M
  | [] => ([], c)
  | width :: widths =>
    let (item, c) := c.pullItem width
    let (items, c) := c.pullItems widths
    (item :: items, c)

variable {c : Cpu M} {P : M → Prop} {cell : UInt16 → Prop}

/-! ## Pushing -/

/-- Pushing bytes writes them, and moves the pointer below them. -/
theorem pushAll_eq (c : Cpu M) (bytes : List UInt8) :
    c.pushAll bytes = { c with
      memory := writeBytes c.memory (stackWrites c.registers.sp bytes)
      registers.sp := c.registers.sp - UInt16.ofNat bytes.length } := by
  induction bytes generalizing c with
  | nil =>
    have start : c.registers.sp - UInt16.ofNat 0 = c.registers.sp := UInt16.sub_zero _
    rw [List.length_nil, start]
    rfl
  | cons byte rest ih =>
    have below : c.registers.sp - UInt16.ofNat (rest.length + 1) =
        c.registers.sp - 1 - UInt16.ofNat rest.length := by
      rw [Nat.add_comm rest.length 1, UInt16.ofNat_add]
      grind
    have first : stackWrites c.registers.sp (byte :: rest) =
        (c.registers.sp, byte) :: stackWrites (c.registers.sp - 1) rest := by
      rw [stackWrites, List.length_cons, stackArea_succ, List.zip_cons_cons, stackWrites]
    rw [List.length_cons, first, below]
    exact ih (c.push byte)

theorem pushItem_eq (c : Cpu M) (item : StackItem) : c.pushItem item = c.pushAll item.bytes.reverse := by
  cases item <;> rfl

theorem pushItems_eq (c : Cpu M) (items : List StackItem) :
    c.pushItems items = c.pushAll (pushedBytes items) := by
  induction items generalizing c with
  | nil => rfl
  | cons item rest ih =>
    show (c.pushItem item).pushItems rest = _
    rw [ih, pushItem_eq, pushedBytes, pushedBytes, List.flatMap_cons, pushAll, pushAll, pushAll,
      List.foldl_append]

/-- Bytes that are pushed to cells change nothing else. -/
theorem read_pushAll_of_notMem (hS : Storage P cell) (h : P c.memory) {bytes : List UInt8}
    (cells : ∀ address ∈ stackArea c.registers.sp bytes.length, cell address) {address : UInt16}
    (apart : address ∉ stackArea c.registers.sp bytes.length) :
    read (c.pushAll bytes).memory address = read c.memory address := by
  rw [← addresses_stackWrites] at cells apart
  rw [pushAll_eq]
  exact hS.read_writeBytes_of_notMem h (fun w mem => cells w.1 (List.mem_map_of_mem mem)) apart

/-! ## What lies on the stack -/

/-- The bytes lie on the stack, in the order in which they are pulled. -/
def StackHolds (c : Cpu M) (bytes : List UInt8) : Prop :=
  HoldsBytes c.memory (c.registers.sp + 1) bytes

/-- A byte that is pushed lies on top of the others.  Their addresses have to leave one free. -/
theorem StackHolds.push (hS : Storage P cell) (h : P c.memory) (inside : cell c.registers.sp)
    {kept : List UInt8} (room : kept.length < 65536) (stacked : c.StackHolds kept) (value : UInt8) :
    (c.push value).StackHolds (value :: kept) := by
  have top : c.registers.sp - 1 + 1 = c.registers.sp := by grind
  have free : ∀ i < kept.length, c.registers.sp + 1 + UInt16.ofNat i ≠ c.registers.sp := by
    intro i below same
    have distance : UInt16.ofNat (1 + i) = 0 := by
      rw [UInt16.ofNat_add]
      grind
    have none := congrArg UInt16.toNat distance
    rw [UInt16.toNat_ofNat', UInt16.toNat_zero] at none
    omega
  refine ⟨?_, ?_⟩
  · show read (write c.memory c.registers.sp value) (c.registers.sp - 1 + 1) = value
    rw [top]
    exact hS.read_self h inside value
  · show HoldsBytes (write c.memory c.registers.sp value) (c.registers.sp - 1 + 1 + 1) kept
    rw [top]
    exact HoldsBytes.write hS h inside value stacked free

/-- The byte on top is pulled, and the others are then on the stack. -/
theorem StackHolds.pull {value : UInt8} {kept : List UInt8} (stacked : c.StackHolds (value :: kept)) :
    c.pull = (value, c.above 1) ∧ (c.above 1).StackHolds kept := by
  obtain ⟨top, others⟩ := stacked
  exact ⟨congrArg (·, c.above 1) top, others⟩

/-- Bytes that are pushed lie on top of the others in the reverse order. -/
theorem StackHolds.pushAll (hS : Storage P cell) (h : P c.memory) {kept bytes : List UInt8}
    (room : kept.length + bytes.length ≤ 65536)
    (cells : ∀ address ∈ stackArea c.registers.sp bytes.length, cell address)
    (stacked : c.StackHolds kept) : (c.pushAll bytes).StackHolds (bytes.reverse ++ kept) := by
  induction bytes generalizing c kept with
  | nil => exact stacked
  | cons byte rest ih =>
    rw [List.length_cons] at room
    rw [List.length_cons, stackArea_succ, List.forall_mem_cons] at cells
    have pushed := StackHolds.push hS h cells.1 (by omega) stacked byte
    have room' : (byte :: kept).length + rest.length ≤ 65536 := by
      rw [List.length_cons]
      omega
    rw [List.reverse_cons, List.append_assoc]
    exact ih (c := c.push byte) (hS.kept h cells.1 byte) room' cells.2 pushed

/-! ## Pulling -/

theorem StackHolds.pullMany {bytes : List UInt8} (stacked : c.StackHolds bytes) :
    c.pullMany bytes.length = (bytes, c.above bytes.length) := by
  induction bytes generalizing c with
  | nil =>
    rw [List.length_nil, above_zero]
    rfl
  | cons byte rest ih =>
    obtain ⟨pulled, others⟩ := stacked.pull
    rw [List.length_cons, Cpu.pullMany, pulled]
    dsimp only
    rw [ih others, above_above, Nat.add_comm]

theorem StackHolds.pullWord {value : UInt16} {kept : List UInt8}
    (stacked : c.StackHolds (highByte value :: lowByte value :: kept)) :
    c.pullWord = (value, c.above 2) ∧ (c.above 2).StackHolds kept := by
  obtain ⟨high, afterHigh⟩ := stacked.pull
  obtain ⟨low, afterLow⟩ := afterHigh.pull
  rw [above_above] at low afterLow
  refine ⟨?_, afterLow⟩
  rw [Cpu.pullWord, high]
  dsimp only
  rw [low]
  dsimp only
  rw [joinBytes_highByte_lowByte]

/-- The item on top is pulled, and the others are then on the stack. -/
theorem StackHolds.pullItem {item : StackItem} {kept : List UInt8}
    (stacked : c.StackHolds (item.bytes ++ kept)) :
    c.pullItem item.width = (item, c.above item.bytes.length) ∧
      (c.above item.bytes.length).StackHolds kept := by
  cases item with
  | byte value =>
    obtain ⟨pulled, others⟩ := stacked.pull
    refine ⟨?_, others⟩
    rw [StackItem.width, Cpu.pullItem, pulled]
    rfl
  | word value =>
    obtain ⟨pulled, others⟩ := stacked.pullWord
    refine ⟨?_, others⟩
    rw [StackItem.width, Cpu.pullItem, pulled]
    rfl

theorem StackHolds.pullItems {items : List StackItem}
    (stacked : c.StackHolds (items.flatMap StackItem.bytes)) :
    c.pullItems (items.map StackItem.width) = (items, c.above (stackSize items)) := by
  induction items generalizing c with
  | nil =>
    rw [show stackSize [] = 0 from rfl, above_zero]
    rfl
  | cons item rest ih =>
    rw [List.flatMap_cons] at stacked
    obtain ⟨pulled, others⟩ := stacked.pullItem
    rw [List.map_cons, Cpu.pullItems, pulled]
    dsimp only
    rw [ih others, above_above, stackSize, stackSize, List.flatMap_cons, List.length_append]

/-! ## There and back -/

/-- What has been pulled from a stack on which `count` bytes had been pushed: the given value.  Nothing of
the processor has changed but the memory, and of the memory nothing but the cells of the stack. -/
structure Returned {α : Type} (c : Cpu M) (count : Nat) (value : α) (pulled : α × Cpu M) : Prop where
  value : pulled.1 = value
  cpu : pulled.2 = { c with memory := pulled.2.memory }
  elsewhere : ∀ address ∉ stackArea c.registers.sp count,
    read pulled.2.memory address = read c.memory address

/-- What is pushed is pulled in the reverse order, if no more is pushed than there are addresses and the
stack lies on cells. -/
structure LastInFirstOut (cell : UInt16 → Prop) (c : Cpu M) : Prop where
  bytes : ∀ bytes : List UInt8, bytes.length ≤ 65536 →
    (∀ address ∈ stackArea c.registers.sp bytes.length, cell address) →
    c.Returned bytes.length bytes.reverse ((c.pushAll bytes).pullMany bytes.length)
  word : ∀ value : UInt16, (∀ address ∈ stackArea c.registers.sp 2, cell address) →
    c.Returned 2 value (c.pushWord value).pullWord
  items : ∀ items : List StackItem, stackSize items ≤ 65536 →
    (∀ address ∈ stackArea c.registers.sp (stackSize items), cell address) →
    c.Returned (stackSize items) items.reverse
      ((c.pushItems items).pullItems (items.reverse.map StackItem.width))

/-- With the pointer back above what was pushed, only memory is another. -/
theorem above_pushAll (c : Cpu M) (bytes : List UInt8) :
    (c.pushAll bytes).above bytes.length = { c with memory := (c.pushAll bytes).memory } := by
  have back : c.registers.sp - UInt16.ofNat bytes.length + UInt16.ofNat bytes.length =
      c.registers.sp := by grind
  rw [pushAll_eq, above, back]

/-- However the bytes have been pulled, the pointer is back where it was. -/
theorem returned_of_pulled (hS : Storage P cell) (h : P c.memory) {bytes : List UInt8}
    (cells : ∀ address ∈ stackArea c.registers.sp bytes.length, cell address) {α : Type} {value : α}
    {pulled : α × Cpu M} (all : pulled = (value, (c.pushAll bytes).above bytes.length)) :
    c.Returned bytes.length value pulled := by
  rw [above_pushAll] at all
  rw [all]
  exact ⟨rfl, rfl, fun address apart => read_pushAll_of_notMem hS h cells apart⟩

theorem stackHolds_pushAll (hS : Storage P cell) (h : P c.memory) {bytes : List UInt8}
    (room : bytes.length ≤ 65536)
    (cells : ∀ address ∈ stackArea c.registers.sp bytes.length, cell address) :
    (c.pushAll bytes).StackHolds bytes.reverse := by
  have room' : ([] : List UInt8).length + bytes.length ≤ 65536 := by
    rw [List.length_nil]
    omega
  have empty : c.StackHolds [] := trivial
  have stacked := empty.pushAll hS h room' cells
  rwa [List.append_nil] at stacked

theorem lastInFirstOut (hS : Storage P cell) (h : P c.memory) : c.LastInFirstOut cell where
  bytes bytes room cells := by
    have pulled := (stackHolds_pushAll hS h room cells).pullMany
    rw [List.length_reverse] at pulled
    exact returned_of_pulled hS h cells pulled
  word value cells := by
    let bytes := [lowByte value, highByte value]
    have room : bytes.length ≤ 65536 := by simp [bytes]
    have cells : ∀ address ∈ stackArea c.registers.sp bytes.length, cell address := cells
    have stacked : (c.pushAll bytes).StackHolds bytes.reverse := stackHolds_pushAll hS h room cells
    have pulled : (c.pushWord value).pullWord = (value, (c.pushAll bytes).above bytes.length) :=
      stacked.pullWord.1
    exact returned_of_pulled hS h cells pulled
  items items room cells := by
    rw [← length_pushedBytes] at room cells
    have stacked := stackHolds_pushAll hS h room cells
    rw [reverse_pushedBytes] at stacked
    have pulled := stacked.pullItems
    rw [stackSize_reverse, ← length_pushedBytes, ← pushItems_eq] at pulled
    rw [← length_pushedBytes]
    exact returned_of_pulled hS h cells (by rw [pulled, pushItems_eq])

/-- **The stack is last in, first out.**  On flat memory it is so wherever the stack pointer is, and on the
trainer's bus if no part of the stack is in the monitor or under the keypad.  A stack in the display window
is as good as any other, though the display shows it; the bus takes what is pushed as it takes any
writes. -/
theorem last_in_first_out :
    (∀ c : Cpu FlatMemory, c.LastInFirstOut fun _ => True) ∧
    ∀ c : Cpu Bus, c.memory.Fitted → c.LastInFirstOut Bus.IsCell ∧
      ∀ bytes : List UInt8,
        c.memory.Shows (stackWrites c.registers.sp bytes) (c.pushAll bytes).memory := by
  refine ⟨fun c => lastInFirstOut FlatMemory.storage trivial, fun c fitted => ?_⟩
  refine ⟨lastInFirstOut Bus.storage fitted, fun bytes => ?_⟩
  rw [pushAll_eq]
  exact fitted.shows _

/-- A stack that fills all of a flat memory, and one at the lower end of the display window. -/
theorem last_in_first_out_full :
    let flat : Cpu FlatMemory := { registers := { sp := 2 }, memory := .filled 0 }
    let bytes := (List.range 65536).map UInt8.ofNat
    let trainer : Cpu Bus := { registers := { sp := 0xC103 }, memory := .ofMonitor [] {} }
    let pulled := (trainer.pushItems [.byte 1, .word 0xABCD, .byte 2]).pullItems [.byte, .word, .byte]
    bytes.length = 65536 ∧ ((flat.pushAll bytes).pullMany bytes.length).1 = bytes.reverse ∧
      trainer.memory.Fitted ∧ pulled.1 = [.byte 2, .word 0xABCD, .byte 1] ∧
      pulled.2.registers.sp = 0xC103 ∧
      read pulled.2.memory 0x00FF = read trainer.memory 0x00FF := by
  intro flat bytes trainer pulled
  have all : bytes.length = 65536 := by simp [bytes]
  have whole := (last_in_first_out.1 flat).bytes bytes (Nat.le_of_eq all) fun _ _ => trivial
  have fitted : trainer.memory.Fitted := Bus.fitted_ofMonitor [] {}
  have cells : ∀ address ∈ stackArea 0xC103 4, Bus.IsCell address := by
    simp [stackArea, List.range_succ, Bus.IsCell, inKeypadWindow, romBase]
  have mixed := (last_in_first_out.2 trainer fitted).1.items [.byte 1, .word 0xABCD, .byte 2]
    (by decide) cells
  exact ⟨all, whole.value, fitted, mixed.value, congrArg (·.registers.sp) mixed.cpu,
    mixed.elsewhere 0x00FF (by decide)⟩

end Cpu

end Trainer6800
