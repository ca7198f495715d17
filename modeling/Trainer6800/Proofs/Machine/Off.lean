import Trainer6800.Proofs.Keypad.Code
import Trainer6800.Proofs.Machine.Command
import Trainer6800.Proofs.Machine.Slice
import Trainer6800.Proofs.Memory.Cells

/-!
# Machines that are off

Eleven of the commands need power (`Command.NeedsPower`).  Each of them looks at the power itself, and
this module says that none forgets to: given to a machine that is off, such a command does nothing and
answers that it did nothing (`Machine.off_unmoved`).  The one that could do otherwise is a tick, which
handles the queued keys before it looks; but a machine that is off has none.

That the queue is empty depends on how a machine can come to be off.  There are three ways, and
`Machine.offAfter_obey` finds them: it was off before, it has been switched off, which drops the queue,
or it has taken over a saved state that is off, which drops the queue as well.
-/

namespace Trainer6800

namespace Command

/-- The commands that a machine obeys only while it is on. -/
def NeedsPower : Command → Prop
  | step | run _ | tick | press _ | release _ | pressCode _ | releaseCode _ | queueKey _ | reset | irq
  | nmi => True
  | _ => False

/-- How it goes with a key that is given by a code: the text is refused if it names no key, and only
then. -/
def CodeResult (code : String) (result : Except UnknownKey Unit) : Prop :=
  (result = .ok () ↔ ∃ key, Key.Names code key) ∧
    (result = .error ⟨code⟩ ↔ ∀ key, ¬ Key.Names code key)

/-- What such a command answers when the machine is off. -/
def IdleAnswer : Command → Answer → Prop
  | step, answer => answer = .stepped (.ok 0)
  | run _, answer | tick, answer =>
    answer = .ran { cycles := 0, instructions := 0, stop := .poweredOff }
  | irq, answer => answer = .flag false
  | pressCode code, answer | releaseCode code, answer =>
    ∃ result, answer = .keyed result ∧ CodeResult code result
  | _, answer => answer = .done

end Command

theorem Bus.writeEach_keeps (b : Bus) (counts : LoadReport) (bytes : List (UInt16 × UInt8)) :
    (b.writeEach counts bytes).1.keypad = b.keypad ∧
      (b.writeEach counts bytes).1.fault = b.fault := by
  induction bytes generalizing b counts with
  | nil => exact ⟨rfl, rfl⟩
  | cons w rest ih =>
    simp only [writeEach]
    split
    · obtain ⟨keypad, fault⟩ := b.deliver_keeps w.1 w.2
      exact ⟨(ih _ _).1.trans keypad, (ih _ _).2.trans fault⟩
    · exact ⟨rfl, rfl⟩

namespace Machine

variable {m m' : Machine}

/-! ## Commands that need power keep it as it is -/

theorem power_reset (m : Machine) : m.reset.power = m.power := by
  unfold reset
  split
  · rfl
  · rfl

theorem power_pressKey (m : Machine) (key : Key) : (m.pressKey key).power = m.power := by
  simp only [pressKey]
  split
  · split
    · rw [power_reset]
      rfl
    · rfl
  · rfl

theorem power_releaseKey (m : Machine) (key : Key) : (m.releaseKey key).power = m.power := by
  simp only [releaseKey]
  split
  · rfl
  · rfl

theorem power_drainKeys (m : Machine) : m.drainKeys.power = m.power := by
  refine drainKeys_keeps (P := fun m' => m'.power = m.power) ?_ ?_ rfl
  · intro m' key same
    rw [power_pressKey, same]
  · intro m' key same
    rw [power_releaseKey, same]

theorem Slice.power {budget : Nat} {spent done : Nat} {events : List RunEvent} {s : RunSummary}
    (h : Slice budget m spent done events m' s) : m'.power = m.power := by
  induction h with
  | executed within running free took rest ih => exact ih
  | exhausted | halted | waiting | breakpoint | undefined => rfl

theorem power_run (m : Machine) (budget : Nat) : (m.run budget).1.power = m.power := by
  unfold run
  split
  · exact (slice_runFrom budget m 0 0).power
  · rfl

/-- No command that needs power switches it. -/
theorem power_obey (m : Machine) {c : Command} (needs : c.NeedsPower) :
    (m.obey c).1.power = m.power := by
  cases c with
  | step =>
    show m.step.1.power = m.power
    unfold step
    split
    · rfl
    · rfl
  | run budget => exact m.power_run _
  | tick => exact (power_run _ _).trans m.power_drainKeys
  | press key => exact m.power_pressKey key
  | release key => exact m.power_releaseKey key
  | pressCode code =>
    exact orElse_keyCode (P := fun m' => m'.power = m.power) rfl m.power_pressKey code
  | releaseCode code =>
    exact orElse_keyCode (P := fun m' => m'.power = m.power) rfl m.power_releaseKey code
  | queueKey event =>
    show (m.queueKey event).power = m.power
    unfold queueKey
    split
    · rfl
    · rfl
  | reset => exact m.power_reset
  | irq =>
    show m.irq.power = m.power
    unfold irq
    split
    · rfl
    · rfl
  | nmi =>
    show m.nmi.power = m.power
    unfold nmi
    split
    · rfl
    · rfl
  | _ => exact needs.elim

/-! ## Without power they do nothing -/

theorem isPowered_of_off (off : m.power = .off) : m.isPowered = false := by
  rw [isPowered, off]
  rfl

/-- A refused press is reported and nothing else. -/
theorem pressKey_of_off (off : m.power = .off) (key : Key) :
    (m.pressKey key).act .writeOut = m.act .writeOut := by
  simp only [pressKey, isPowered_of_off off, Bool.false_eq_true, if_false]
  rfl

theorem releaseKey_of_off (off : m.power = .off) (key : Key) : m.releaseKey key = m := by
  simp only [releaseKey, isPowered_of_off off, Bool.false_eq_true, if_false]

theorem run_of_off (off : m.power = .off) (budget : Nat) :
    m.run budget = (m, summary 0 0 .poweredOff) := by
  simp only [run, isPowered_of_off off, Bool.false_eq_true, if_false]

theorem tick_of_off (off : m.power = .off) (noKeys : m.keyQueue = []) :
    m.tick = (m, summary 0 0 .poweredOff) := by
  have drained : m.drainKeys = m := by
    rw [drainKeys, noKeys, List.foldl_nil, ← noKeys]
  rw [tick, drained, run_of_off off]

/-- A code is looked up even when the key is then ignored. -/
theorem keyCode_of_off {f : Key → Machine}
    (same : ∀ key, (f key).act .writeOut = m.act .writeOut) (code : String) :
    (m.orElse ((Key.ofText code).map f)).1.act .writeOut = m.act .writeOut ∧
      Command.CodeResult code (m.orElse ((Key.ofText code).map f)).2 := by
  cases read : Key.ofText code with
  | ok key =>
    have named := Key.ofText_eq_ok_iff.mp read
    refine ⟨same key, ⟨fun _ => ⟨key, named⟩, fun _ => rfl⟩, ?_, fun nameless => ?_⟩
    · intro refused
      cases refused
    · exact absurd named (nameless key)
  | error e =>
    obtain ⟨nameless, rfl⟩ := Key.ofText_eq_error_iff.mp read
    refine ⟨rfl, ⟨?_, ?_⟩, fun _ => nameless, fun _ => rfl⟩
    · intro accepted
      cases accepted
    · rintro ⟨key, named⟩
      exact absurd named (nameless key)

/-- A command that needs power leaves a machine that is off as it is, apart from a report. -/
theorem obey_of_off (off : m.power = .off) (noKeys : m.keyQueue = []) {c : Command}
    (needs : c.NeedsPower) :
    (m.obey c).1.act .writeOut = m.act .writeOut ∧ c.IdleAnswer (m.obey c).2 := by
  have unpowered := isPowered_of_off off
  cases c with
  | step => simp [obey, step, unpowered, Command.IdleAnswer]
  | run budget => simp [obey, run_of_off off, Command.IdleAnswer, summary]
  | tick => simp [obey, tick_of_off off noKeys, Command.IdleAnswer, summary]
  | press key => exact ⟨pressKey_of_off off key, rfl⟩
  | release key =>
    refine ⟨?_, rfl⟩
    show (m.releaseKey key).act .writeOut = m.act .writeOut
    rw [releaseKey_of_off off]
  | pressCode code =>
    obtain ⟨same, result⟩ := keyCode_of_off (pressKey_of_off off) code
    exact ⟨same, _, rfl, result⟩
  | releaseCode code =>
    have unmoved (key : Key) : (m.releaseKey key).act .writeOut = m.act .writeOut := by
      rw [releaseKey_of_off off]
    obtain ⟨same, result⟩ := keyCode_of_off unmoved code
    exact ⟨same, _, rfl, result⟩
  | queueKey event => simp [obey, queueKey, unpowered, Command.IdleAnswer]
  | reset => simp [obey, reset, unpowered, Command.IdleAnswer]
  | irq => simp [obey, irq, acceptsIrq, unpowered, Command.IdleAnswer]
  | nmi => simp [obey, nmi, unpowered, Command.IdleAnswer]
  | _ => exact needs.elim

/-! ## How a machine comes to be off -/

/-- The three ways to be off after a command. -/
inductive OffAfter (m : Machine) (c : Command) (m' : Machine) : Prop where
  /-- It was off before.  No key is pressed or released, unless one is queued. -/
  | stayed (off : m.power = .off)
    (same : m.keyQueue = [] → m'.bus.keypad = m.bus.keypad ∧ m'.keyQueue = [])
  /-- It has been switched off. -/
  | switched (released : m'.bus.keypad.held = []) (noKeys : m'.keyQueue = [])
  /-- It has taken over a saved state that is off. -/
  | resumed (v : Json.Value) (s : SavedState) (loads : c = .loadState v)
    (read : SavedState.ofValue v = .ok s) (off : s.power = .off)
    (held : m'.bus.keypad.held = s.keypad.held.eraseDups) (noKeys : m'.keyQueue = [])

theorem power_powerOff (m : Machine) : m.powerOff.power = .off := by
  simp only [powerOff]
  split
  · rfl
  · rfl

/-- Switching off releases the keys. -/
theorem held_powerOff (m : Machine) : m.powerOff.bus.keypad.held = [] := by
  simp only [powerOff]
  split
  · rfl
  · rfl

/-- Switching off drops the queue. -/
theorem keyQueue_powerOff (m : Machine) : m.powerOff.keyQueue = [] := by
  simp only [powerOff]
  split
  · rfl
  · rfl

/-- A state that has been taken over is the machine's from then on. -/
theorem offAfter_loadState {v : Json.Value} (off : (m.obey (.loadState v)).1.power = .off) :
    OffAfter m (.loadState v) (m.obey (.loadState v)).1 := by
  simp only [obey] at off ⊢
  rcases m.loadState_cases v with ⟨e, refused⟩ | ⟨s, ram, read, -, loads⟩
  · rw [refused] at off ⊢
    exact .stayed off fun noKeys => ⟨rfl, noKeys⟩
  · rw [loads] at off ⊢
    exact .resumed v s rfl read off rfl rfl

/-- A program is no key event, and what it cannot write is not the bus's fault. -/
theorem loadProgram_keeps (m : Machine) (image : ProgramImage) :
    (m.loadProgram image).1.bus.keypad = m.bus.keypad ∧
      (m.loadProgram image).1.bus.fault = m.bus.fault := by
  rcases m.loadProgram_cases image with ⟨e, -, refused⟩ | ⟨bytes, records, -, written⟩
  · rw [refused]
    exact ⟨rfl, rfl⟩
  · rw [written]
    exact m.bus.writeEach_keeps {} bytes

/-- There is no fourth way to be off. -/
theorem offAfter_obey {c : Command} (off : (m.obey c).1.power = .off) :
    OffAfter m c (m.obey c).1 := by
  by_cases needs : c.NeedsPower
  · have before : m.power = .off := (m.power_obey needs).symm.trans off
    refine .stayed before fun noKeys => ?_
    have unmoved := (obey_of_off before noKeys needs).1
    exact ⟨congrArg (·.bus.keypad) unmoved, (congrArg Machine.keyQueue unmoved).trans noKeys⟩
  cases c with
  | powerOff => exact .switched m.held_powerOff m.keyQueue_powerOff
  | powerButton =>
    simp only [obey, powerButton] at off ⊢
    split at off
    · rename_i on
      rw [if_pos on]
      exact .switched m.held_powerOff m.keyQueue_powerOff
    · cases off
  | setPc | clearRam | addBreakpoint | removeBreakpoint => exact .stayed off fun noKeys => ⟨rfl, noKeys⟩
  | loadProgram image => exact .stayed off fun noKeys => ⟨(m.loadProgram_keeps image).1, noKeys⟩
  | mount id image =>
    simp only [obey, mount] at off ⊢
    split at off
    · rename_i known
      rw [if_pos known]
      exact .switched m.held_powerOff m.keyQueue_powerOff
    · rename_i unknown
      rw [if_neg unknown]
      exact .stayed off fun noKeys => ⟨rfl, noKeys⟩
  | unmount id =>
    simp only [obey, unmount] at off ⊢
    split at off
    · rename_i known
      rw [if_pos known]
      exact .switched m.held_powerOff m.keyQueue_powerOff
    · rename_i unknown
      rw [if_neg unknown]
      exact .stayed off fun noKeys => ⟨rfl, noKeys⟩
  | loadState v => exact offAfter_loadState off
  | _ => exact absurd trivial needs

/-- No key event waits in a machine that is off. -/
theorem Reachable.keyQueue_of_off (h : Reachable m) : m.power = .off → m.keyQueue = [] := by
  induction h with
  | ofMonitor image config => exact fun _ => rfl
  | bare => exact fun _ => rfl
  | @act m before a ih =>
    intro off
    cases a with
    | watch w => exact ih off
    | writeOut => exact ih off
    | command c =>
      cases offAfter_obey off with
      | stayed off same => exact (same (ih off)).2
      | switched released noKeys => exact noKeys
      | resumed v s loads read off held noKeys => exact noKeys

/-! ## Nothing happens -/

/-- The machine after some commands. -/
def obeyAll (m : Machine) (commands : List Command) : Machine :=
  commands.foldl (fun m c => (m.obey c).1) m

theorem obeyAll_of_off (off : m.power = .off) (noKeys : m.keyQueue = []) {commands : List Command}
    (need : ∀ c ∈ commands, c.NeedsPower) : (m.obeyAll commands).act .writeOut = m.act .writeOut := by
  induction commands generalizing m with
  | nil => rfl
  | cons c rest ih =>
    have unmoved := (obey_of_off off noKeys (need c List.mem_cons_self)).1
    have off' : (m.obey c).1.power = .off := (congrArg Machine.power unmoved).trans off
    have noKeys' : (m.obey c).1.keyQueue = [] := (congrArg Machine.keyQueue unmoved).trans noKeys
    exact (ih off' noKeys' fun d hd => need d (List.mem_cons_of_mem c hd)).trans unmoved

/-- However many commands that need power are given to a machine that is off, after each of them all of
it is as before, the display and what its observers have been sent included, and each is answered as if
there had been nothing to do.  Only reports of ignored keys are made, so the machines are compared with
their journals written out. -/
theorem off_unmoved (reachable : Reachable m) (off : m.power = .off) {before : List Command}
    (need : ∀ d ∈ before, d.NeedsPower) {c : Command} (needs : c.NeedsPower) :
    ((m.obeyAll before).obey c).1.act .writeOut = m.act .writeOut ∧
      c.IdleAnswer ((m.obeyAll before).obey c).2 := by
  have noKeys := reachable.keyQueue_of_off off
  have before_unmoved := obeyAll_of_off off noKeys need
  have off' : (m.obeyAll before).power = .off := (congrArg Machine.power before_unmoved).trans off
  have noKeys' : (m.obeyAll before).keyQueue = [] :=
    (congrArg Machine.keyQueue before_unmoved).trans noKeys
  obtain ⟨unmoved, answer⟩ := obey_of_off off' noKeys' needs
  exact ⟨unmoved.trans before_unmoved, answer⟩

/-- A machine that has been turned on and off again, with a key that was held and one that was queued. -/
def switchedOff : Machine :=
  ((((ofMonitor [0x20, 0xFE] {}).act (.command .powerButton)).act (.command (.press (.data 7)))).act
    (.command (.queueKey (.press .reset)))).act (.command .powerOff)

/-- Asked to run, and given a key by a text that names none, it does nothing. -/
theorem off_unmoved_tick :
    Reachable switchedOff ∧ switchedOff.power = .off ∧
      ((switchedOff.obeyAll [.press (.data 7), .tick]).obey (.pressCode "G")).1.act .writeOut =
        switchedOff.act .writeOut ∧
      Command.IdleAnswer (.pressCode "G")
        ((switchedOff.obeyAll [.press (.data 7), .tick]).obey (.pressCode "G")).2 := by
  have reachable : Reachable switchedOff := .act (.act (.act (.act (.ofMonitor _ _) _) _) _) _
  have last (m : Machine) : (m.act (.command .powerOff)).power = .off := m.power_powerOff
  have off : switchedOff.power = .off := last _
  have need : ∀ d ∈ [Command.press (.data 7), .tick], d.NeedsPower := by simp [Command.NeedsPower]
  have needs : Command.NeedsPower (.pressCode "G") := trivial
  exact ⟨reachable, off, off_unmoved reachable off need needs⟩

end Machine

end Trainer6800
