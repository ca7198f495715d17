import Trainer6800.Machine.Basic

/-!
# Mounts

The trainer has one mount point, for the image of its monitor.  Mounting and unmounting turn the
machine off.
-/

namespace Trainer6800

/-- A place for media. -/
structure MountPoint where
  id : String
  name : String
  /-- The extensions of the files it takes. -/
  extensions : List String
  /-- Whether the machine cannot do without. -/
  required : Bool
  deriving DecidableEq, Repr

/-- A mount point that the machine does not have. -/
structure UnknownMount where
  id : String
  deriving DecidableEq, Repr

/-- The text of the error. -/
def UnknownMount.message (e : UnknownMount) : String :=
  "Invalid mount point: " ++ e.id

/-- The mount point of the monitor. -/
def monitorMount : MountPoint :=
  { id := "Monitor", name := "Monitor ROM", extensions := ["bin", "rom"], required := true }

namespace Machine

/-- The mount points of the machine. -/
def mountPoints : List MountPoint :=
  [monitorMount]

/-- Turn the machine off and change its monitor. -/
def changeMonitor (m : Machine) (image : List UInt8) (mounted : Bool) : Machine :=
  let m := m.powerOff.updateBus (·.loadMonitor image)
  { m with monitorMounted := mounted }

/-- What is said of mounting an image of the monitor. -/
def mountedText (image : List UInt8) : String :=
  "monitor ROM mounted (" ++ toString image.length ++ " bytes)"

/-- Mount an image of the monitor. -/
def mountMonitor (m : Machine) (image : List UInt8) : Machine :=
  (m.changeMonitor image true).report
    [⟨.memory, .info, mountedText image⟩]

/-- Mount an image. -/
def mount (m : Machine) (id : String) (image : List UInt8) : Except UnknownMount Machine :=
  if id = monitorMount.id then .ok (m.mountMonitor image) else .error ⟨id⟩

/-- Remove an image. -/
def unmount (m : Machine) (id : String) : Except UnknownMount Machine :=
  if id = monitorMount.id then .ok (m.changeMonitor [] false) else .error ⟨id⟩

/-- Whether an image is mounted. -/
def isMounted (m : Machine) (id : String) : Bool :=
  id == monitorMount.id && m.monitorMounted

end Machine

end Trainer6800
