import Trainer6800.Proofs.Machine.Written

/-!
# The monitor is changed only by mounting

What the machine shows of its monitor is settled by the last time one was installed: when the machine
was made, or when an image was mounted or unmounted since.  Programs may store into the monitor, put
their stack there or be loaded there, the machine may be turned off and on or take over a saved state:
the bytes stay those of the installed image, and every byte that was addressed to them has been counted
as refused.

An `Installation` is the account of this that is kept beside a machine: what was installed last, and
which addresses have been written since.  `Installation.Matches` ties the two together, one action after
the other; it is carried by what a command writes (`Machine.Sound.wrote_obey`) and by what an
installation puts in place.
-/

namespace Trainer6800

/-! ## The block of an image -/

namespace Bus

/-- The monitor holds its image, cut to the size of the block or filled up with zeros. -/
theorem content_monitorBlock (image : List UInt8) :
    (monitorBlock image).content.toList = (image ++ List.replicate romSize 0).take romSize :=
  MemoryBlock.content_readOnly romSize image

/-- Bytes past the end of the image are zero. -/
theorem getD_content_monitorBlock (image : List UInt8) {k : Nat} (inside : k < romSize) :
    (monitorBlock image).content.getD k 0 = image.getD k 0 :=
  MemoryBlock.getD_of_image (content_monitorBlock image) inside

/-- The addresses of the monitor read its bytes. -/
theorem Sound.read_rom {policy : KeyPolicy} {b : Bus} (h : b.Sound policy) {k : Nat}
    (inside : k < romSize) :
    b.read (romBase + UInt16.ofNat k) = b.rom.content.getD k 0 := by
  have small : k < 0x400 := inside
  have place : (romBase + UInt16.ofNat k).toNat = 0xFC00 + k := by
    rw [UInt16.toNat_add, UInt16.toNat_ofNat_of_lt' (by omega : k < 65536)]
    show (0xFC00 + k) % 65536 = 0xFC00 + k
    omega
  have above : romBase ≤ romBase + UInt16.ofNat k := by
    rw [UInt16.le_iff_toNat_le, place]
    exact Nat.le_add_right _ _
  rw [h.fitted.read_monitor above, place, Nat.add_sub_cancel_left]

end Bus

/-! ## Installations -/

/-- The monitor as it was last installed, and the addresses written since. -/
structure Installation where
  image : List UInt8
  mounted : Bool
  written : List UInt16 := []

namespace Installation

/-- The installation after a machine has been through an action. -/
def next (i : Installation) (m : Machine) : Machine.Action → Installation
  | .command c =>
    match c.installs? with
    | some (image, mounted) => { image, mounted }
    | none => { i with written := i.written ++ m.written c }
  | .watch _ | .writeOut => i

/-- The installation after a machine has been through some actions. -/
def after (i : Installation) (m : Machine) : List Machine.Action → Installation
  | [] => i
  | a :: rest => (i.next m a).after (m.act a) rest

/-- The machine has the monitor that was installed, which has refused what was addressed to it. -/
def Matches (i : Installation) (m : Machine) : Prop :=
  m.monitor = ((Bus.monitorBlock i.image).refuse (refusals i.written), i.mounted)

/-- What a machine shows of a monitor that was installed and what was written since. -/
structure Shown (i : Installation) (m : Machine) : Prop where
  /-- Byte by byte, zero past the end of the image. -/
  peek : ∀ k < 1024, m.peek (0xFC00 + UInt16.ofNat k) = i.image.getD k 0
  /-- All of the block: what an image has beyond it is ignored. -/
  content : m.bus.rom.content.toList = (i.image ++ List.replicate 1024 0).take 1024
  mounted : ∀ id, m.isMounted id = (id == "Monitor" && i.mounted)
  rejected : m.rejectedWrites = (i.written.filter (0xFC00 ≤ ·)).length
  /-- Mounting and unmounting a monitor always succeed. -/
  known : ∀ image, (m.obey (.mount "Monitor" image)).2 = .mounted (.ok ()) ∧
    (m.obey (.unmount "Monitor")).2 = .mounted (.ok ())
  /-- There is nothing else to mount or unmount. -/
  unknown : ∀ id, id ≠ "Monitor" → ∀ image,
    m.obey (.mount id image) = (m, .mounted (.error ⟨id⟩)) ∧
      m.obey (.unmount id) = (m, .mounted (.error ⟨id⟩))

variable {i : Installation} {m : Machine}

theorem Matches.shown (h : i.Matches m) (sound : m.Sound) : i.Shown m := by
  have rom : m.bus.rom = (Bus.monitorBlock i.image).refuse (refusals i.written) := congrArg Prod.fst h
  have mounted : m.monitorMounted = i.mounted := congrArg Prod.snd h
  have content : m.bus.rom.content = (Bus.monitorBlock i.image).content := by
    rw [rom]
    rfl
  exact {
    peek := by
      intro k inside
      show m.bus.read (romBase + UInt16.ofNat k) = _
      rw [sound.bus.read_rom inside, content, Bus.getD_content_monitorBlock i.image inside]
    content := by
      rw [content]
      exact Bus.content_monitorBlock i.image
    mounted := by
      intro id
      rw [Machine.isMounted, mounted]
      rfl
    rejected := by
      show m.bus.rom.rejectedWrites = _
      rw [rom, ← List.countP_eq_length_filter]
      exact Nat.zero_add _
    known := fun image => ⟨rfl, rfl⟩
    unknown := fun id unknown image =>
      ⟨Machine.obey_mount_of_ne unknown image, Machine.obey_unmount_of_ne unknown⟩ }

end Installation

namespace Machine

variable {i : Installation} {m : Machine}

/-- Mounting and unmounting install what they are said to install. -/
theorem monitor_of_installs {c : Command} {image : List UInt8} {mounted : Bool}
    (installs : c.installs? = some (image, mounted)) :
    (m.obey c).1.monitor = (Bus.monitorBlock image, mounted) := by
  have changed (image : List UInt8) (mounted : Bool) :
      (m.changeMonitor image mounted).monitor = (Bus.monitorBlock image, mounted) :=
    rfl
  cases c with
  | mount id image' =>
    simp only [Command.installs?] at installs
    split at installs
    · rename_i known
      cases installs
      have mounts : m.mount id image = .ok (m.mountMonitor image) := if_pos known
      simp only [obey, mounts, orElse]
      exact changed image true
    · cases installs
  | unmount id =>
    simp only [Command.installs?] at installs
    split at installs
    · rename_i known
      cases installs
      have unmounts : m.unmount id = .ok (m.changeMonitor [] false) := if_pos known
      simp only [obey, unmounts, orElse]
      exact changed [] false
    · cases installs
  | _ => cases installs

end Machine

namespace Installation

variable {i : Installation} {m : Machine}

theorem Matches.next (h : i.Matches m) (sound : m.Sound) (a : Machine.Action) :
    (i.next m a).Matches (m.act a) := by
  cases a with
  | watch w => exact h
  | writeOut => exact h
  | command c =>
    cases installs : c.installs? with
    -- a new block has refused nothing yet
    | some installed =>
      obtain ⟨image, mounted⟩ := installed
      have installed := Machine.monitor_of_installs (m := m) installs
      simp only [Installation.next, installs]
      exact installed
    | none =>
      have wrote : (m.obey c).1.monitor = _ := sound.wrote_obey installs
      have rom : m.bus.rom = (Bus.monitorBlock i.image).refuse (refusals i.written) :=
        congrArg Prod.fst h
      have mounted : m.monitorMounted = i.mounted := congrArg Prod.snd h
      rw [rom, mounted, MemoryBlock.refuse_refuse, ← refusals_append] at wrote
      simp only [Installation.next, installs]
      exact wrote

theorem Matches.after (h : i.Matches m) (sound : m.Sound) (actions : List Machine.Action) :
    (i.after m actions).Matches (m.actAll actions) := by
  induction actions generalizing i m with
  | nil => exact h
  | cons a rest ih => exact ih (h.next sound a) (sound.act a)

end Installation

namespace Machine

/-- What is installed when a machine is made. -/
def Start.installation : Start → Installation
  | ofMonitor image _ => { image, mounted := true }
  | bare => { image := [], mounted := false }

theorem Start.matches_installation (start : Start) : start.installation.Matches start.machine := by
  cases start with
  | ofMonitor image config => rfl
  | bare => rfl

/-- Whatever has happened to a machine, its monitor is the one that was last installed, byte by byte; it
counts as mounted if it was given with the machine or mounted; and it has refused exactly the bytes that
have been addressed to it since.  No other mount point can be used. -/
theorem monitor_installed (start : Start) (actions : List Action) :
    (start.installation.after start.machine actions).Shown (start.machine.actAll actions) :=
  (start.matches_installation.after start.reachable.sound actions).shown
    (start.reachable.actAll actions).sound

end Machine

end Trainer6800
