import Trainer6800.Proofs.Cpu.Correspondence
import Trainer6800.Proofs.Keypad.Holds
import Trainer6800.Proofs.Machine.Account
import Trainer6800.Proofs.Machine.Calls
import Trainer6800.Proofs.Machine.Off

/-!
# Queued keys

Keys reach a machine in two ways.  A key is pressed or released at once, or the event is put into a queue,
and the next tick handles the queue before it runs.  The two ways come to the same
(`Machine.queued_as_direct`): the tick does all that the commands do one by one, in the same order, and
then a run of the same length.

A press of RESET is the only key event that reaches the processor, and it may stand anywhere in the
queue.  `Machine.Takes` says what one event does to a machine that is on; it is shown of each event at its
place, with what the events before it have left.
-/

namespace Trainer6800

namespace KeyEvent

/-- The command that does at once what the event tells. -/
def command : KeyEvent → Command
  | press key => .press key
  | release key => .release key

/-- What the event is to the keypad. -/
def action : KeyEvent → KeypadAction
  | press key => .press key
  | release key => .release key

end KeyEvent

theorem Bus.keypad_write (b : Bus) (address : UInt16) (value : UInt8) :
    (b.write address value).keypad = b.keypad := by
  unfold write
  split
  · exact (b.deliver_keeps address value).1
  · rfl

namespace Machine

/-- The event is a press of RESET, which is not held. -/
def IsReset (m : Machine) (event : KeyEvent) : Prop :=
  event = .press .reset ∧ m.isPressed .reset = false

/-- What a key event makes of a machine that is on. -/
structure Takes (m : Machine) (event : KeyEvent) (m' : Machine) : Prop where
  keypad : m'.bus.keypad = (m.bus.keypad.obey event.action).1
  /-- The processor is reset. -/
  reset : m.IsReset event → m'.cpu = { m.cpu.reset with memory := m'.bus }
  /-- Otherwise the processor is left alone. -/
  spared : ¬ m.IsReset event → m'.cpu = { m.cpu with memory := m'.bus }
  /-- A reset of the processor is among the new reports exactly if there has been one. -/
  reports : ∃ records, m'.bus.journal.toList = m.bus.journal.toList ++ records ∧
    (m'.cpu.resetRecord ∈ records ↔ m.IsReset event)
  /-- Neither memory nor the display is touched. -/
  bus : { m'.bus with keypad := m.bus.keypad, journal := m.bus.journal } = m.bus
  others : { m' with cpu := m.cpu } = m

variable {m m' : Machine}

namespace Takes

variable {event : KeyEvent}

theorem power (h : m.Takes event m') : m'.power = m.power :=
  (congrArg Machine.power h.others :)

theorem config (h : m.Takes event m') : m'.config = m.config :=
  (congrArg Machine.config h.others :)

theorem keyQueue (h : m.Takes event m') : m'.keyQueue = m.keyQueue :=
  (congrArg Machine.keyQueue h.others :)

end Takes

theorem journal_report (m : Machine) (records : List Log.Record) :
    (m.report records).bus.journal.toList = m.bus.journal.toList ++ records :=
  Array.toList_appendList

/-- No report of the keypad is one of the processor. -/
theorem resetRecord_ne (c : Cpu Bus) (level : Log.Level) (text : String) :
    c.resetRecord ≠ ⟨.keypad, level, text⟩ := by
  intro same
  cases congrArg Log.Record.category same

theorem releaseKey_takes (on : m.isPowered = true) (key : Key) :
    m.Takes (.release key) (m.releaseKey key) := by
  have noReset : ¬ m.IsReset (.release key) := fun h => nomatch h.1
  have silent (c : Cpu Bus) : c.resetRecord ∉ m.bus.keypad.releaseRecords key := by
    unfold Keypad.releaseRecords
    split
    · exact mt List.mem_singleton.mp (resetRecord_ne c _ _)
    · exact List.not_mem_nil
  simp only [releaseKey, if_pos on]
  exact {
    keypad := rfl
    reset := fun h => absurd h noReset
    spared := fun _ => rfl
    reports := ⟨_, journal_report _ _, iff_of_false (silent _) noReset⟩
    bus := rfl
    others := rfl }

theorem journal_reset (on : m.isPowered = true) :
    m.reset.bus.journal.toList = m.bus.journal.toList ++
      [m.reset.cpu.resetRecord, ⟨.power, .info, "reset, PC=" ++ m.reset.pcText⟩] := by
  rw [reset, if_pos on]
  exact journal_report _ _

theorem pressKey_takes (on : m.isPowered = true) (key : Key) :
    m.Takes (.press key) (m.pressKey key) := by
  have silent (c : Cpu Bus) : c.resetRecord ∉ m.bus.keypad.pressRecords key := by
    unfold Keypad.pressRecords
    split
    · exact List.not_mem_nil
    · exact mt List.mem_singleton.mp (resetRecord_ne c _ _)
  simp only [pressKey, if_pos on]
  by_cases fresh : m.IsReset (.press key)
  · have resets : key = .reset ∧ (!m.isPressed key) = true := by
      obtain ⟨same, released⟩ := fresh
      cases same
      simp [released]
    rw [if_pos resets]
    have down : (Machine.report (m.updateBus fun b => { b with keypad := b.keypad.press key })
      (m.bus.keypad.pressRecords key)).isPowered = true := on
    have journal := journal_reset down
    rw [journal_report, List.append_assoc] at journal
    refine ⟨?_, fun _ => ?_, fun h => absurd fresh h, ⟨_, journal, iff_of_true ?_ fresh⟩, ?_, ?_⟩
    · rw [reset, if_pos down]
      rfl
    · rw [reset, if_pos down]
      rfl
    · simp
    · rw [reset, if_pos down]
      rfl
    · rw [reset, if_pos down]
      rfl
  · have goes : ¬ (key = .reset ∧ (!m.isPressed key) = true) := by
      rintro ⟨rfl, released⟩
      exact fresh ⟨rfl, by simpa using released⟩
    rw [if_neg goes]
    exact {
      keypad := rfl
      reset := fun h => absurd h fresh
      spared := fun _ => rfl
      reports := ⟨_, journal_report _ _, iff_of_false (silent _) fresh⟩
      bus := rfl
      others := rfl }

theorem handleKey_takes (on : m.isPowered = true) (event : KeyEvent) :
    m.Takes event (m.handleKey event) := by
  cases event with
  | press key => exact pressKey_takes on key
  | release key => exact releaseKey_takes on key

/-! ## Any number of events -/

/-- The machine after key events have been queued. -/
def queueKeys (m : Machine) (events : List KeyEvent) : Machine :=
  m.obeyAll (events.map .queueKey)

/-- The machine after keys have been pressed and released at once. -/
def handleKeys (m : Machine) (events : List KeyEvent) : Machine :=
  m.obeyAll (events.map KeyEvent.command)

theorem handleKeys_eq_foldl (m : Machine) (events : List KeyEvent) :
    m.handleKeys events = events.foldl handleKey m := by
  have one (m : Machine) (event : KeyEvent) : (m.obey event.command).1 = m.handleKey event := by
    cases event with
    | press key => rfl
    | release key => rfl
  simp only [handleKeys, obeyAll, List.foldl_map, one]

theorem handleKeys_append (m : Machine) (before after : List KeyEvent) :
    m.handleKeys (before ++ after) = (m.handleKeys before).handleKeys after := by
  simp only [handleKeys_eq_foldl, List.foldl_append]

/-- Key events change neither power nor configuration, the queue stays as it is, and the keypad follows
them. -/
theorem handleKeys_keeps (on : m.isPowered = true) (events : List KeyEvent) :
    (m.handleKeys events).isPowered = true ∧ (m.handleKeys events).config = m.config ∧
      (m.handleKeys events).keyQueue = m.keyQueue ∧
      (m.handleKeys events).bus.keypad = m.bus.keypad.obeyAll (events.map KeyEvent.action) := by
  rw [handleKeys_eq_foldl]
  induction events generalizing m with
  | nil => exact ⟨on, rfl, rfl, rfl⟩
  | cons event rest ih =>
    have first := handleKey_takes on event
    have on' : (m.handleKey event).isPowered = true := by rwa [isPowered, first.power]
    obtain ⟨power, config, keyQueue, keypad⟩ := ih on'
    refine ⟨power, config.trans first.config, keyQueue.trans first.keyQueue, ?_⟩
    rw [List.foldl_cons, keypad, first.keypad]
    rfl

theorem queueKeys_eq (on : m.isPowered = true) (events : List KeyEvent) :
    m.queueKeys events = { m with keyQueue := m.keyQueue ++ events } := by
  unfold queueKeys obeyAll
  induction events generalizing m with
  | nil =>
    rw [List.append_nil]
    rfl
  | cons event rest ih =>
    have queued : (m.obey (.queueKey event)).1 = { m with keyQueue := m.keyQueue ++ [event] } :=
      if_pos on
    rw [List.map_cons, List.foldl_cons, queued, ih (m := { m with keyQueue := m.keyQueue ++ [event] }) on,
      List.append_assoc]
    rfl

/-- The queue is handled in order, event by event. -/
theorem drainKeys_eq (idle : m.keyQueue = []) (events : List KeyEvent) :
    drainKeys { m with keyQueue := events } = m.handleKeys events := by
  have same : { m with keyQueue := [] } = m := by rw [← idle]
  rw [drainKeys, handleKeys_eq_foldl]
  exact congrArg (events.foldl handleKey) same

/-! ## Running -/

/-- No instruction is a key event. -/
theorem Slice.keys {budget spent done : Nat} {events : List RunEvent} {s : RunSummary}
    (h : Slice budget m spent done events m' s) :
    m'.bus.keypad = m.bus.keypad ∧ m'.keyQueue = m.keyQueue := by
  have step (m : Machine) : m.advance.1.bus.keypad = m.bus.keypad :=
    Cpu.step_kept (P := fun b : Bus => b.keypad = m.bus.keypad)
      (fun same address value => (Bus.keypad_write _ address value).trans same) rfl
  refine ⟨?_, h.keeps_settings.2⟩
  induction h with
  | executed within running free took rest ih => exact ih.trans (step _)
  | undefined within running free failed => exact step _
  | exhausted | halted | waiting | breakpoint => rfl

theorem keys_run (m : Machine) (budget : Nat) :
    (m.run budget).1.bus.keypad = m.bus.keypad ∧ (m.run budget).1.keyQueue = m.keyQueue := by
  unfold run
  split
  · exact (slice_runFrom budget m 0 0).keys
  · exact ⟨rfl, rfl⟩

/-- A tick handles the queued events and leaves the power on. -/
theorem tick_handles (on : m.isPowered = true) (idle : m.keyQueue = []) (events : List KeyEvent) :
    (tick { m with keyQueue := events }).1.isPowered = true ∧
      (tick { m with keyQueue := events }).1.keyQueue = [] ∧
      (tick { m with keyQueue := events }).1.bus.keypad =
        m.bus.keypad.obeyAll (events.map KeyEvent.action) := by
  obtain ⟨on', -, keyQueue, keypad⟩ := handleKeys_keeps on events
  obtain ⟨keypad', keyQueue'⟩ := (m.handleKeys events).keys_run m.config.cyclesPerTick
  rw [tick, drainKeys_eq idle]
  exact ⟨by rwa [isPowered, power_run], keyQueue'.trans (keyQueue.trans idle), keypad'.trans keypad⟩

/-- A run of the length of a tick, as a command. -/
theorem obey_run_cyclesPerTick (m : Machine) (config : MachineConfig) :
    m.obey (.run (UInt64.ofNat config.cyclesPerTick)) =
      ((m.run config.cyclesPerTick).1, .ran (m.run config.cyclesPerTick).2) := by
  have fits : (UInt64.ofNat config.cyclesPerTick).toNat = config.cyclesPerTick :=
    UInt64.toNat_ofNat_of_lt (Nat.lt_trans config.cyclesPerTick_lt (by decide))
  simp only [obey, fits]

/-- Key events that are queued and handled by a tick do what they do one by one before a run of the same
length: the machine is the same, and so is the answer.  The tick handles each event once and at its
place, and leaves none in the queue.  A press of RESET at any place resets the processor there if RESET is
not held at that place, and not otherwise. -/
theorem queued_as_direct (on : m.isPowered = true) (idle : m.keyQueue = []) (events : List KeyEvent) :
    (m.queueKeys events).keyQueue = events ∧
      (m.queueKeys events).obey .tick =
        (m.handleKeys events).obey (.run (UInt64.ofNat m.config.cyclesPerTick)) ∧
      ((m.queueKeys events).obey .tick).1.keyQueue = [] ∧
      ((m.queueKeys events).obey .tick).1.bus.keypad =
        m.bus.keypad.obeyAll (events.map KeyEvent.action) ∧
      ∀ before event after, events = before ++ event :: after →
        (m.handleKeys before).bus.keypad = m.bus.keypad.obeyAll (before.map KeyEvent.action) ∧
        (m.handleKeys before).Takes event (m.handleKeys (before ++ [event])) ∧
        m.handleKeys events = (m.handleKeys (before ++ [event])).handleKeys after := by
  have queued : m.queueKeys events = { m with keyQueue := events } := by
    rw [queueKeys_eq on, idle, List.nil_append]
  have ticked : tick { m with keyQueue := events } =
      (m.handleKeys events).run m.config.cyclesPerTick := by
    rw [tick, drainKeys_eq idle]
  obtain ⟨-, keyQueue, keypad⟩ := tick_handles on idle events
  rw [queued]
  refine ⟨rfl, ?_, keyQueue, keypad, ?_⟩
  · rw [obey_run_cyclesPerTick, ← ticked]
    rfl
  · rintro before event after rfl
    obtain ⟨on', -, -, keypad'⟩ := handleKeys_keeps on before
    refine ⟨keypad', ?_, ?_⟩
    · rw [handleKeys_append, handleKeys_eq_foldl _ [event]]
      exact handleKey_takes on' event
    · rw [← handleKeys_append, List.append_assoc]
      rfl

/-- A machine that has been turned on and waits for keys. -/
def awake : Machine :=
  (ofMonitor [0x20, 0xFE] {}).powerButton

/-- Two presses of RESET with another key between them, as a tick handles them: the second one comes while
RESET is held and does not reset the processor. -/
theorem queued_as_direct_awake :
    let events : List KeyEvent := [.press .reset, .press (.data 5), .press .reset]
    awake.isPowered = true ∧ awake.keyQueue = [] ∧
      (awake.queueKeys events).obey .tick =
        (awake.handleKeys events).obey (.run (UInt64.ofNat awake.config.cyclesPerTick)) ∧
      ((awake.queueKeys events).obey .tick).1.bus.keypad.held = [.reset, .data 5] ∧
      awake.IsReset (.press .reset) ∧
      ¬ (awake.handleKeys [.press .reset, .press (.data 5)]).IsReset (.press .reset) := by
  intro events
  obtain ⟨-, ticked, -, keypad, places⟩ :=
    queued_as_direct (m := awake) rfl rfl [.press .reset, .press (.data 5), .press .reset]
  have held : ((awake.queueKeys events).obey .tick).1.bus.keypad.held = [.reset, .data 5] := by
    rw [keypad]
    rfl
  refine ⟨rfl, rfl, ticked, held, ⟨rfl, rfl⟩, ?_⟩
  have before := (places [.press .reset, .press (.data 5)] _ [] rfl).1
  rintro ⟨-, released⟩
  rw [isPressed, before] at released
  cases released

end Machine

end Trainer6800
