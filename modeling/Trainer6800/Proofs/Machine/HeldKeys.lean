import Trainer6800.Proofs.Machine.Loading
import Trainer6800.Proofs.Machine.Off

/-!
# Keys held by a machine that is off

Keys are pressed only while the machine is on, and switching it off releases them.  So one expects that
a machine that is off holds no keys (`Machine.Released`), and that it finds all of them released when it
is next turned on, for turning it on does not touch the keypad.

There is one exception.  A saved state tells power and held keys independently of each other, and a
state that is off and has keys held is taken over as it is.  Nothing else makes an exception: an action
leads from a released machine to one that is not exactly when it loads such a state
(`Machine.released_act_iff`).  No machine that is itself released saves one.
-/

namespace Trainer6800

/-! ## The keypad -/

theorem eraseDups_eq_nil_iff {α : Type} [BEq α] {l : List α} : l.eraseDups = [] ↔ l = [] := by
  cases l with
  | nil => simp
  | cons a as => simp [List.eraseDups_cons]

/-- With no key held, nothing pulls a bit of the scan byte to zero. -/
theorem Keypad.scan_of_released {k : Keypad} (released : k.held = []) (select : UInt8) :
    k.scan select = 0xFF := by
  have none : k.active = [] := by
    unfold active
    rw [released]
    cases k.policy with
    | singleKey => rfl
    | multiKey => rfl
  rw [scan, none, List.foldl_nil]

/-- A saved state that is off has no keys held. -/
def SavedState.Released (s : SavedState) : Prop :=
  s.power = .off → s.keypad.held = []

namespace Machine

variable {m : Machine}

/-- A machine that is off holds no keys. -/
def Released (m : Machine) : Prop :=
  m.power = .off → m.bus.keypad.held = []

/-- What is loaded, if anything is, is no state that is off and has keys held. -/
def Action.Orderly : Action → Prop
  | .command (.loadState v) => ∀ s, SavedState.ofValue v = .ok s → s.Released
  | _ => True

/-! ## Each action -/

theorem power_resume (m : Machine) (s : SavedState) (ram : MemoryBlock) :
    (m.resume s ram).power = s.power :=
  rfl

theorem keypad_resume (m : Machine) (s : SavedState) (ram : MemoryBlock) :
    (m.resume s ram).bus.keypad = ⟨s.keypad.held.eraseDups, m.config.keyPolicy⟩ :=
  rfl

/-- A released machine stays released unless it loads a state that is not. -/
theorem released_act_iff (reachable : Reachable m) (released : m.Released) (a : Action) :
    (m.act a).Released ↔ a.Orderly := by
  constructor
  · intro kept
    cases a with
    | watch w => trivial
    | writeOut => trivial
    | command c =>
      cases c with
      | loadState v =>
        intro s read off
        rw [act_loadState_of_read reachable.sound read, Released, power_resume, keypad_resume] at kept
        exact eraseDups_eq_nil_iff.mp (kept off)
      | _ => trivial
  · intro orderly off
    cases a with
    | watch w => exact released off
    | writeOut => exact released off
    | command c =>
      cases offAfter_obey off with
      | stayed before same =>
        have unmoved := (same (reachable.keyQueue_of_off before)).1
        exact (congrArg Keypad.held unmoved).trans (released before)
      | switched held noKeys => exact held
      | resumed v s loads read off' held noKeys =>
        subst loads
        exact held.trans (eraseDups_eq_nil_iff.mpr (orderly s read off'))

theorem Start.released (start : Start) : start.machine.Released := by
  cases start with
  | ofMonitor image config => exact fun _ => rfl
  | bare => exact fun _ => rfl

/-- A machine stays released for as long as no state is loaded that is not. -/
theorem released_actAll (reachable : Reachable m) (released : m.Released) {actions : List Action}
    (orderly : ∀ a ∈ actions, a.Orderly) : (m.actAll actions).Released := by
  induction actions generalizing m with
  | nil => exact released
  | cons a rest ih =>
    have next := (released_act_iff reachable released a).mpr (orderly a List.mem_cons_self)
    exact ih (reachable.act a) next fun b hb => orderly b (List.mem_cons_of_mem a hb)

/-- What a released machine saves can be loaded without harm. -/
theorem orderly_saveState (reachable : Reachable m) (released : m.Released) :
    Action.Orderly (.command (.loadState m.saveState)) := by
  intro s read
  rw [reachable.sound.ofValue_saveState] at read
  cases read
  exact released

/-! ## Pressing keys in vain, and turning the machine on -/

/-- Turning the machine on leaves the keypad alone. -/
theorem keypad_powerOn (m : Machine) : m.powerOn.bus.keypad = m.bus.keypad :=
  m.powerOn_keeps.2.1

theorem isPressed_pressKey_of_off (off : m.power = .off) (key : Key) :
    (m.pressKey key).isPressed key = m.isPressed key :=
  congrArg (·.isPressed key) (pressKey_of_off off key)

/-- No key is pressed or waiting, or can be pressed, and the machine finds every key released when it
is turned on. -/
structure KeysReleased (m : Machine) : Prop where
  held : m.bus.keypad.held = []
  queue : m.keyQueue = []
  press : ∀ key, (m.pressKey key).isPressed key = false
  turnedOn : ∀ key, m.powerButton.isPressed key = false
  scan : ∀ select, m.powerButton.bus.keypad.scan select = 0xFF
  peek : ∀ address, inKeypadWindow address → m.powerButton.peek address = 0xFF

theorem keysReleased_of_off (reachable : Reachable m) (released : m.Released) (off : m.power = .off) :
    m.KeysReleased := by
  have held : m.bus.keypad.held = [] := released off
  have turnedOn : m.powerButton.bus.keypad.held = [] := by
    rw [powerButton, isPowered_of_off off, if_neg Bool.false_ne_true, keypad_powerOn, held]
  exact {
    held
    queue := reachable.keyQueue_of_off off
    press := by
      intro key
      rw [isPressed_pressKey_of_off off, isPressed, Keypad.isPressed, held]
      rfl
    turnedOn := by
      intro key
      rw [isPressed, Keypad.isPressed, turnedOn]
      rfl
    scan := Keypad.scan_of_released turnedOn
    peek := by
      intro address keys
      show m.powerButton.bus.read address = 0xFF
      rw [Bus.read, Bus.readChecked, if_pos keys, Keypad.scan_of_released turnedOn] }

/-- Whatever has happened to a machine, if it is off all its keys are released, unless a state was
loaded that was off and had keys held. -/
theorem off_keysReleased (start : Start) {actions : List Action} (orderly : ∀ a ∈ actions, a.Orderly)
    (off : (start.machine.actAll actions).power = .off) :
    (start.machine.actAll actions).KeysReleased :=
  keysReleased_of_off (start.reachable.actAll actions)
    (released_actAll start.reachable start.released orderly) off

/-- A machine that has been turned on and has a key held loads what it would have saved at the start:
it is off again, and the key is released. -/
theorem off_keysReleased_saved :
    ((Start.ofMonitor [0x20, 0xFE] {}).machine.actAll
      ([.command .powerButton, .command (.press (.data 7))] ++
        [.command (.loadState (Start.ofMonitor [0x20, 0xFE] {}).machine.saveState)])).KeysReleased := by
  have initial := Start.reachable (.ofMonitor [0x20, 0xFE] {})
  have harmless := orderly_saveState initial (Start.released _)
  refine off_keysReleased _ ?_ ?_
  · simp only [List.cons_append, List.nil_append, List.forall_mem_cons]
    exact ⟨trivial, trivial, harmless, List.forall_mem_nil _⟩
  · rw [actAll_concat, act_loadState_of_read (initial.actAll _).sound initial.sound.ofValue_saveState,
      power_resume]
    rfl

/-- A saved state that is off while a key is held. -/
def heldOff (key : Key) : SavedState :=
  { (ofMonitor [0x20, 0xFE] {}).savedState with keypad := ⟨[key], .singleKey⟩ }

/-- The machine that has loaded it. -/
def resumedOff (key : Key) : Machine :=
  (ofMonitor [0x20, 0xFE] {}).act (.command (.loadState (heldOff key).toValue))

/-- It is off and holds a key; a press of the key has no effect, but the key is pressed, and the program
that starts when the machine is turned on reads it from the keypad. -/
theorem resumedOff_holds :
    Reachable (resumedOff (.data 1)) ∧ (resumedOff (.data 1)).power = .off ∧
      (resumedOff (.data 1)).bus.keypad.held = [.data 1] ∧
      ((resumedOff (.data 1)).pressKey (.data 1)).isPressed (.data 1) = true ∧
      (resumedOff (.data 1)).powerButton.isPressed (.data 1) = true ∧
      (resumedOff (.data 1)).powerButton.peek 0xC006 = 0xEF := by
  have initial : Reachable (ofMonitor [0x20, 0xFE] {}) := .ofMonitor _ _
  have read (key : Key) : SavedState.ofValue (heldOff key).toValue = .ok (heldOff key) :=
    SavedState.ofValue_toValue initial.sound.length_ram
  have resumed (key : Key) : resumedOff key = (ofMonitor [0x20, 0xFE] {}).resume (heldOff key)
      { (ofMonitor [0x20, 0xFE] {}).bus.ram with content := (heldOff key).ram.toArray } := by
    rw [resumedOff, act_loadState_of_read initial.sound (read key)]
  have off (key : Key) : (resumedOff key).power = .off := by
    rw [resumed, power_resume]
    rfl
  have keypad (key : Key) : (resumedOff key).bus.keypad = ⟨[key], .singleKey⟩ := by
    rw [resumed, keypad_resume]
    rfl
  have turnedOn (key : Key) : (resumedOff key).powerButton.bus.keypad = ⟨[key], .singleKey⟩ := by
    rw [powerButton, isPowered_of_off (off key), if_neg Bool.false_ne_true, keypad_powerOn, keypad]
  refine ⟨initial.act _, off _, congrArg Keypad.held (keypad _), ?_, ?_, ?_⟩
  · rw [isPressed_pressKey_of_off (off _), isPressed, keypad]
    rfl
  · rw [isPressed, turnedOn]
    rfl
  · show (resumedOff (.data 1)).powerButton.bus.read 0xC006 = 0xEF
    rw [Bus.read, Bus.readChecked, turnedOn]
    rfl

end Machine

end Trainer6800
