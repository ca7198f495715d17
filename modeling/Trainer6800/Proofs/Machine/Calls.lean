import Mathlib.Data.List.Forall2
import Trainer6800.Proofs.Machine.Slice

/-!
# Breakpoints across calls

A program is usually run in many calls, one slice after the other.  A call does not look at a
breakpoint at its first instruction, so that a machine that has stopped there can go on.  This has a
consequence that no single call shows: when the cycles of a call are used up just as the processor
arrives at a breakpoint, the call returns without a word about it, and the next call goes through.

So an instruction at a breakpoint is not always announced by a stop there.  What holds is that the call
that arrives there executes nothing more, and returns: because of the breakpoint, unless the arriving
instruction has used up the budget (`RunEvent.StopsAt`).  Hence the instruction there can only be the
very first of all, or the first of a later call (`Machine.breakpoints_resumed`).  The difference between
the two reasons is a machine that meets the second (`Machine.breakpoint_passed`).
-/

namespace Trainer6800

namespace RunEvent

/-- The event is no return of a call. -/
def IsExecuted : RunEvent → Prop
  | executed _ _ _ _ _ => True
  | returned _ _ => False

/-- The event is an instruction that has been completed.  To meet an undefined opcode takes no cycles. -/
def completes : RunEvent → Bool
  | executed _ _ cost _ _ => cost != 0
  | returned _ _ => false

/-- The event is the return of a call that has arrived at the breakpoint `p` by an instruction that began
after `spent` cycles and took `cost`.  It stops for the breakpoint, unless this instruction has just used
up the budget. -/
def StopsAt (p : UInt16) (spent cost : Nat) : RunEvent → Prop
  | executed _ _ _ _ _ => False
  | returned budget summary =>
    spent < budget ∧ summary.cycles = UInt64.ofNat (spent + cost) ∧
      summary.stop = if budget ≤ spent + cost then .budgetExhausted else .breakpoint p

/-- The event follows an arrival at the breakpoint `p`, with nothing but returns between, the first of
which has stopped for it as it should. -/
def ResumesAt (p : UInt16) (before : List RunEvent) : Prop :=
  ∃ earlier a spent cost stop returns,
    before = earlier ++ executed a spent cost .running p :: stop :: returns ∧
      stop.StopsAt p spent cost ∧ ∀ e ∈ returns, ¬ e.IsExecuted

/-- A history of calls in which no breakpoint is run through within a call. -/
structure Orderly (breakpoints : Breakpoints) (history : List RunEvent) : Prop where
  /-- Whenever the processor arrives at a breakpoint, the call returns before anything else. -/
  arrivals : ∀ before a spent cost p after,
    history = before ++ executed a spent cost .running p :: after → breakpoints.contains p →
      ∃ stop rest, after = stop :: rest ∧ stop.StopsAt p spent cost
  /-- An instruction at a breakpoint is the first of its call: either there has been no instruction at
  all, or the call that arrived there has returned as it should. -/
  instructions : ∀ before p spent cost state next after,
    history = before ++ executed p spent cost state next :: after → breakpoints.contains p →
      spent = 0 ∧ ((∀ e ∈ before, ¬ e.IsExecuted) ∨ ResumesAt p before)

/-- The history as one would wish it: whenever the processor has arrived at a breakpoint, and the
instruction there is executed later, a stop at the breakpoint has been announced between. -/
def Announced (breakpoints : Breakpoints) (history : List RunEvent) : Prop :=
  ∀ before a spent cost p between spent' cost' state next after,
    history = before ++ executed a spent cost .running p ::
      (between ++ executed p spent' cost' state next :: after) →
    breakpoints.contains p →
      ∃ budget summary, returned budget summary ∈ between ∧ summary.stop = .breakpoint p

/-! ## One event after the other -/

/-- The last event is an arrival at `p`. -/
def Arrives (p : UInt16) (spent cost : Nat) (before : List RunEvent) : Prop :=
  ∃ earlier a, before = earlier ++ [executed a spent cost .running p]

/-- What `before` must hold so that an event may follow it. -/
structure MayFollow (breakpoints : Breakpoints) (before : List RunEvent) (e : RunEvent) : Prop where
  arrival : ∀ p spent cost, Arrives p spent cost before → breakpoints.contains p → e.StopsAt p spent cost
  instruction : ∀ p spent cost state next, e = executed p spent cost state next →
    breakpoints.contains p → spent = 0 ∧ ((∀ e ∈ before, ¬ e.IsExecuted) ∨ ResumesAt p before)

/-- Each event may follow those before it. -/
def InOrder (breakpoints : Breakpoints) : List RunEvent → List RunEvent → Prop
  | _, [] => True
  | before, e :: es => e.MayFollow breakpoints before ∧ InOrder breakpoints (before ++ [e]) es

variable {breakpoints : Breakpoints} {before es fs : List RunEvent}

theorem InOrder.append (h : InOrder breakpoints before es)
    (h' : InOrder breakpoints (before ++ es) fs) : InOrder breakpoints before (es ++ fs) := by
  induction es generalizing before with
  | nil => simpa using h'
  | cons e es ih =>
    refine ⟨h.1, ih h.2 ?_⟩
    simpa using h'

theorem InOrder.mayFollow (h : InOrder breakpoints before es) {earlier : List RunEvent} {e : RunEvent}
    {later : List RunEvent} (split : es = earlier ++ e :: later) :
    e.MayFollow breakpoints (before ++ earlier) := by
  induction earlier generalizing before es with
  | nil =>
    subst split
    simpa using h.1
  | cons d earlier ih =>
    subst split
    simpa using ih h.2 rfl

/-- A history in order that does not end with an arrival at a breakpoint is orderly. -/
theorem InOrder.orderly {history : List RunEvent} (h : InOrder breakpoints [] history)
    (ends : ∀ p spent cost, Arrives p spent cost history → ¬ breakpoints.contains p) :
    Orderly breakpoints history where
  arrivals before a spent cost p after split stops := by
    cases after with
    | nil => exact absurd stops (ends p spent cost ⟨before, a, split⟩)
    | cons e rest =>
      refine ⟨e, rest, rfl, ?_⟩
      have here : history = (before ++ [executed a spent cost .running p]) ++ e :: rest := by
        simpa using split
      have next := h.mayFollow here
      rw [List.nil_append] at next
      exact next.arrival p spent cost ⟨before, a, rfl⟩ stops
  instructions before p spent cost state next after split stops :=
    (h.mayFollow split).instruction p spent cost state next rfl stops

end RunEvent

/-- A call that runs the machine. -/
inductive Call where
  | run (budget : UInt64)
  | tick
  deriving DecidableEq, Repr

namespace Machine

/-- What happens in a run. -/
def runEvents (m : Machine) (budget : Nat) : List RunEvent :=
  if m.isPowered then m.eventsFrom budget 0 0 else [.returned budget (summary 0 0 .poweredOff)]

/-- How many cycles a call is to run for. -/
def budget (m : Machine) : Call → Nat
  | .run budget => budget.toNat
  | .tick => m.config.cyclesPerTick

/-- The machine after a call, and what the call returns. -/
def call (m : Machine) : Call → Machine × RunSummary
  | .run budget => m.run budget.toNat
  | .tick => m.tick

/-- What happens in a call. -/
def callEvents (m : Machine) : Call → List RunEvent
  | .run budget => m.runEvents budget.toNat
  | .tick => m.drainKeys.runEvents m.config.cyclesPerTick

/-- What happens in each of a sequence of calls with nothing between them. -/
def records (m : Machine) : List Call → List (List RunEvent)
  | [] => []
  | c :: cs => m.callEvents c :: (m.call c).1.records cs

/-- What each of the calls is given and returns. -/
def returns (m : Machine) : List Call → List (Nat × RunSummary)
  | [] => []
  | c :: cs => (m.budget c, (m.call c).2) :: (m.call c).1.returns cs

/-- What happens in the whole sequence. -/
def history (m : Machine) (calls : List Call) : List RunEvent :=
  (m.records calls).flatten

/-- The record of a call has its instructions, as many as the call has counted, and then, once, its
return. -/
def RecordOf (record : List RunEvent) (returned : Nat × RunSummary) : Prop :=
  ∃ instructions, record = instructions ++ [.returned returned.1 returned.2] ∧
    (∀ e ∈ instructions, e.IsExecuted) ∧
    returned.2.instructions = UInt64.ofNat (instructions.countP RunEvent.completes)

/-! ## Between two calls -/

/-- The events `before` lead up to the machine, between two calls: nothing has been executed yet, or
the last instruction executed led to where the processor is, and calls have returned since.  If the
processor is at a breakpoint, then the first of them has returned as it should. -/
def LedBy (m : Machine) (before : List RunEvent) : Prop :=
  (∀ e ∈ before, ¬ e.IsExecuted) ∨
    ∃ earlier a spent cost stop returns,
      before = earlier ++ .executed a spent cost m.cpu.state m.cpu.registers.pc :: stop :: returns ∧
        (∀ e ∈ stop :: returns, ¬ e.IsExecuted) ∧
        (m.cpu.state = .running → m.breakpoints.contains m.cpu.registers.pc →
          stop.StopsAt m.cpu.registers.pc spent cost)

/-- The last of the events led to where the processor is, when the call had not yet used up its budget
and has now spent `spent` cycles. -/
def JustArrived (m : Machine) (budget spent : Nat) (before : List RunEvent) : Prop :=
  ∃ earlier a began cost,
    before = earlier ++ [.executed a began cost m.cpu.state m.cpu.registers.pc] ∧
      began + cost = spent ∧ began < budget

/-- Between two calls the last event is no instruction. -/
theorem LedBy.not_arrives {m : Machine} {before : List RunEvent} (h : m.LedBy before) (p : UInt16)
    (spent cost : Nat) : ¬ RunEvent.Arrives p spent cost before := by
  rintro ⟨earlier, a, rfl⟩
  rcases h with idle | ⟨earlier', a', spent', cost', stop, returns, same, notExecuted, -⟩
  · exact idle _ (List.mem_append_right _ (List.mem_singleton_self _)) trivial
  · have last := congrArg List.getLast? same
    rw [List.getLast?_concat, List.getLast?_append_cons, List.getLast?_cons_cons] at last
    have mem := List.mem_of_getLast? last.symm
    exact notExecuted _ mem trivial

/-- A call that executes nothing returns without harm. -/
theorem LedBy.returned {m m' : Machine} {before : List RunEvent} (h : m.LedBy before)
    (registers : m'.cpu.registers = m.cpu.registers) (state : m'.cpu.state = m.cpu.state)
    (breakpoints : m'.breakpoints = m.breakpoints) (budget : Nat) (s : RunSummary) :
    m'.LedBy (before ++ [.returned budget s]) := by
  rcases h with idle | ⟨earlier, a, spent, cost, stop, returns, rfl, notExecuted, fine⟩
  · refine .inl fun e mem => ?_
    rcases List.mem_append.mp mem with old | new
    · exact idle e old
    · rw [List.mem_singleton.mp new]
      exact id
  · refine .inr ⟨earlier, a, spent, cost, stop, returns ++ [.returned budget s], ?_, ?_, ?_⟩
    · rw [registers, state]
      simp
    · intro e mem
      rw [← List.cons_append] at mem
      rcases List.mem_append.mp mem with old | new
      · exact notExecuted e old
      · rw [List.mem_singleton.mp new]
        exact id
    · rw [registers, state, breakpoints]
      exact fine

/-- A call that returns on arrival has to give one of the two reasons, if the processor is at a
breakpoint. -/
theorem JustArrived.returned {m m' : Machine} {budget spent : Nat} {before : List RunEvent}
    (h : m.JustArrived budget spent before) (registers : m'.cpu.registers = m.cpu.registers)
    (state : m'.cpu.state = m.cpu.state) (breakpoints : m'.breakpoints = m.breakpoints) {s : RunSummary}
    (stops : ∀ began cost, began + cost = spent → began < budget → m.cpu.state = .running →
      m.breakpoints.contains m.cpu.registers.pc →
      RunEvent.StopsAt m.cpu.registers.pc began cost (.returned budget s)) :
    m'.LedBy (before ++ [.returned budget s]) := by
  obtain ⟨earlier, a, began, cost, rfl, spent, within⟩ := h
  refine .inr ⟨earlier, a, began, cost, .returned budget s, [], ?_, ?_, ?_⟩
  · rw [registers, state]
    simp
  · intro e mem
    rw [List.mem_singleton.mp mem]
    exact id
  · rw [registers, state, breakpoints]
    exact stops began cost spent within

/-- An arrival at `p` that is the last event is where the processor is. -/
theorem JustArrived.eq_of_arrives {m : Machine} {budget spent : Nat} {before : List RunEvent}
    (h : m.JustArrived budget spent before) {p : UInt16} {began cost : Nat}
    (arrives : RunEvent.Arrives p began cost before) :
    m.cpu.state = .running ∧ p = m.cpu.registers.pc ∧ began + cost = spent ∧ began < budget := by
  obtain ⟨earlier, a, rfl⟩ := arrives
  obtain ⟨earlier', a', began', cost', same, total, within⟩ := h
  have last := (List.append_inj' same rfl).2
  injection last with event
  injection event with _ began cost state pc
  exact ⟨state.symm, pc, by rw [began, cost, total], began ▸ within⟩

/-- The events before an instruction or a return: at the beginning of a call they lead up to the
machine, and after at least one instruction the last of them is the arrival. -/
structure Preceded (m : Machine) (budget spent done : Nat) (before : List RunEvent) : Prop where
  first : done = 0 → spent = 0 ∧ m.LedBy before
  later : 0 < done → m.JustArrived budget spent before

/-- A return is in order if it has the right reason. -/
theorem Preceded.returns {m m' : Machine} {budget spent done : Nat} {before : List RunEvent}
    (h : m.Preceded budget spent done before) (registers : m'.cpu.registers = m.cpu.registers)
    (state : m'.cpu.state = m.cpu.state) (breakpoints : m'.breakpoints = m.breakpoints) {s : RunSummary}
    (stops : 0 < done → ∀ began cost, began + cost = spent → began < budget →
      m.cpu.state = .running → m.breakpoints.contains m.cpu.registers.pc →
      RunEvent.StopsAt m.cpu.registers.pc began cost (.returned budget s)) :
    RunEvent.InOrder m.breakpoints before [.returned budget s] ∧
      m'.LedBy (before ++ [.returned budget s]) := by
  by_cases start : done = 0
  · have led := (h.first start).2
    refine ⟨⟨⟨fun p began cost arrives => absurd arrives (led.not_arrives p began cost), nofun⟩,
      trivial⟩, ?_⟩
    exact led.returned registers state breakpoints budget s
  · have going := Nat.pos_of_ne_zero start
    have just := h.later going
    refine ⟨⟨⟨fun p began cost arrives breakpoint => ?_, nofun⟩, trivial⟩, ?_⟩
    · obtain ⟨running, rfl, total, within⟩ := just.eq_of_arrives arrives
      exact stops going began cost total within running breakpoint
    · exact just.returned registers state breakpoints (stops going)

/-- An instruction at a breakpoint can only be the first of its call, and none follows an arrival at
one. -/
theorem Preceded.executes {m : Machine} {budget spent done : Nat} {before : List RunEvent}
    (h : m.Preceded budget spent done before) (running : m.cpu.state = .running)
    (free : 0 < done → m.breakpoints.contains m.cpu.registers.pc = false) (cost : Nat) :
    (m.executed spent cost).MayFollow m.breakpoints before := by
  by_cases start : done = 0
  · obtain ⟨rfl, led⟩ := h.first start
    refine ⟨fun p began cost arrives => absurd arrives (led.not_arrives p began cost), ?_⟩
    rintro p spent cost state next same stops
    obtain ⟨rfl, rfl, -, -, -⟩ := RunEvent.executed.inj same
    refine ⟨rfl, ?_⟩
    rcases led with idle | ⟨earlier, a, began, cost', stop, returns, rfl, notExecuted, fine⟩
    · exact .inl idle
    · rw [running]
      exact .inr ⟨earlier, a, began, cost', stop, returns, rfl, fine running stops,
        fun e mem => notExecuted e (List.mem_cons_of_mem _ mem)⟩
  · have going := Nat.pos_of_ne_zero start
    refine ⟨?_, ?_⟩
    · intro p began cost arrives stops
      obtain ⟨-, rfl, -, -⟩ := (h.later going).eq_of_arrives arrives
      rw [free going] at stops
      cases stops
    · rintro p spent cost state next same stops
      obtain ⟨rfl, -, -, -, -⟩ := RunEvent.executed.inj same
      rw [free going] at stops
      cases stops

/-- After an instruction the processor has just arrived. -/
theorem justArrived_executed {m : Machine} {budget spent : Nat} (within : spent < budget) (cost : Nat)
    (before : List RunEvent) :
    m.advance.1.JustArrived budget (spent + cost) (before ++ [m.executed spent cost]) :=
  ⟨before, _, spent, cost, rfl, rfl, within⟩

theorem Slice.inOrder {budget : Nat} {m m' : Machine} {spent done : Nat} {events : List RunEvent}
    {s : RunSummary} (h : Slice budget m spent done events m' s) {before : List RunEvent}
    (led : m.Preceded budget spent done before) :
    RunEvent.InOrder m.breakpoints before events ∧ m'.LedBy (before ++ events) := by
  induction h generalizing before with
  | exhausted used =>
    refine led.returns rfl rfl rfl fun _ began cost total within _ _ => ⟨within, ?_, ?_⟩
    · rw [total]
      rfl
    · rw [total, if_pos used]
      rfl
  | halted within halted =>
    refine led.returns rfl rfl rfl fun _ _ _ _ _ running => ?_
    rw [halted] at running
    cases running
  | waiting within waiting =>
    refine led.returns rfl rfl rfl fun _ _ _ _ _ running => ?_
    rw [waiting] at running
    cases running
  | breakpoint within running going stops =>
    refine led.returns rfl rfl rfl fun _ began cost total started _ _ => ⟨started, ?_, ?_⟩
    · rw [total]
      rfl
    · rw [total, if_neg (Nat.not_le.mpr within)]
      rfl
  | @undefined m spent done within running free e failed =>
    have halted : m.advance.1.cpu.state = .halted := Cpu.halted_of_step failed
    have arrived : m.advance.1.Preceded budget spent (done + 1) (before ++ [m.executed spent 0]) :=
      ⟨fun h => absurd h (Nat.succ_ne_zero _), fun _ => justArrived_executed within 0 before⟩
    have left := arrived.returns (s := summary spent done .halted) rfl rfl rfl
      fun _ _ _ _ _ running => by
        rw [halted] at running
        cases running
    refine ⟨⟨led.executes running free 0, left.1⟩, ?_⟩
    simpa using left.2
  | @executed m spent done within running free n took events m' s rest ih =>
    have arrived : m.advance.1.Preceded budget (spent + n) (done + 1)
        (before ++ [m.executed spent n]) :=
      ⟨fun h => absurd h (Nat.succ_ne_zero _), fun _ => justArrived_executed within n before⟩
    obtain ⟨order, left⟩ := ih arrived
    refine ⟨⟨led.executes running free n, order⟩, ?_⟩
    simpa using left

/-- The record of a slice ends with the return that the summary tells of, and everything before it is an
instruction that the summary counts, if it has been completed. -/
theorem Slice.counts {budget : Nat} {m m' : Machine} {spent done : Nat} {events : List RunEvent}
    {s : RunSummary} (h : Slice budget m spent done events m' s) :
    ∃ instructions, events = instructions ++ [.returned budget s] ∧
      (∀ e ∈ instructions, e.IsExecuted) ∧
      s.instructions = UInt64.ofNat (done + instructions.countP RunEvent.completes) := by
  have none : ∀ e ∈ ([] : List RunEvent), e.IsExecuted := List.forall_mem_nil _
  have one {m : Machine} {began cost : Nat} {rest : List RunEvent} (all : ∀ e ∈ rest, e.IsExecuted) :
      ∀ e ∈ m.executed began cost :: rest, e.IsExecuted :=
    List.forall_mem_cons.mpr ⟨trivial, all⟩
  induction h with
  | exhausted used => exact ⟨[], rfl, none, rfl⟩
  | halted within halted => exact ⟨[], rfl, none, rfl⟩
  | waiting within waiting => exact ⟨[], rfl, none, rfl⟩
  | breakpoint within running later stops => exact ⟨[], rfl, none, rfl⟩
  | @undefined m spent done within running free e failed =>
    exact ⟨[m.executed spent 0], rfl, one none, rfl⟩
  | @executed m spent done within running free n took events m' s rest ih =>
    obtain ⟨instructions, rfl, all, count⟩ := ih
    have completed : (m.executed spent n).completes = true :=
      bne_iff_ne.mpr (Nat.ne_of_gt (Nat.lt_of_lt_of_le Nat.two_pos (Cpu.two_le_of_step running took)))
    refine ⟨m.executed spent n :: instructions, rfl, one all, ?_⟩
    rw [count, List.countP_cons_of_pos completed, Nat.add_assoc, Nat.add_comm 1]

theorem Slice.recordOf {budget : Nat} {m m' : Machine} {events : List RunEvent} {s : RunSummary}
    (h : Slice budget m 0 0 events m' s) : RecordOf events (budget, s) := by
  obtain ⟨instructions, record, all, count⟩ := h.counts
  rw [Nat.zero_add] at count
  exact ⟨instructions, record, all, count⟩

/-! ## Sequences of calls -/

variable {m : Machine}

theorem records_cons (c : Call) (cs : List Call) :
    m.history (c :: cs) = m.callEvents c ++ (m.call c).1.history cs :=
  rfl

/-- A call is in order and leaves things so for the next, and it returns what it returns. -/
structure InOrderCall (m : Machine) (before : List RunEvent) (budget : Nat) (events : List RunEvent)
    (after : Machine × RunSummary) : Prop where
  order : RunEvent.InOrder m.breakpoints before events
  led : after.1.LedBy (before ++ events)
  record : RecordOf events (budget, after.2)
  breakpoints : after.1.breakpoints = m.breakpoints
  noKeys : after.1.keyQueue = []

theorem run_inOrder (noKeys : m.keyQueue = []) (budget : Nat) {before : List RunEvent}
    (led : m.LedBy before) :
    m.InOrderCall before budget (m.runEvents budget) (m.run budget) := by
  unfold runEvents run
  by_cases on : m.isPowered
  · rw [if_pos on, if_pos on]
    have slice := slice_runFrom budget m 0 0
    have start : m.Preceded budget 0 0 before :=
      ⟨fun _ => ⟨rfl, led⟩, fun h => absurd h (Nat.lt_irrefl 0)⟩
    have order := slice.inOrder start
    have kept := slice.keeps_settings
    exact ⟨order.1, order.2, slice.recordOf, kept.1, kept.2.trans noKeys⟩
  · rw [if_neg on, if_neg on]
    have order : RunEvent.InOrder m.breakpoints before [.returned budget (summary 0 0 .poweredOff)] :=
      ⟨⟨fun p spent cost arrives => absurd arrives (led.not_arrives p spent cost), nofun⟩, trivial⟩
    exact ⟨order, led.returned rfl rfl rfl _ _, ⟨[], rfl, List.forall_mem_nil _, rfl⟩, rfl, noKeys⟩

theorem call_inOrder (noKeys : m.keyQueue = []) (c : Call) {before : List RunEvent}
    (led : m.LedBy before) : m.InOrderCall before (m.budget c) (m.callEvents c) (m.call c) := by
  cases c with
  | run budget => exact run_inOrder noKeys budget.toNat led
  | tick =>
    have drained : m.drainKeys = m := by
      rw [drainKeys, noKeys, List.foldl_nil, ← noKeys]
    simp only [budget, callEvents, call, tick, drained]
    exact run_inOrder noKeys m.config.cyclesPerTick led

theorem history_inOrder (noKeys : m.keyQueue = []) (calls : List Call) {before : List RunEvent}
    (led : m.LedBy before) :
    RunEvent.InOrder m.breakpoints before (m.history calls) ∧
      (∃ after : Machine, after.LedBy (before ++ m.history calls)) ∧
      List.Forall₂ RecordOf (m.records calls) (m.returns calls) := by
  induction calls generalizing m before with
  | nil => exact ⟨trivial, ⟨m, by rwa [history, records, List.flatten_nil, List.append_nil]⟩, .nil⟩
  | cons c rest ih =>
    have first := call_inOrder noKeys c led
    obtain ⟨order, after, records⟩ := ih first.noKeys first.led
    rw [first.breakpoints] at order
    rw [records_cons, ← List.append_assoc]
    exact ⟨first.order.append order, after, .cons first.record records⟩

/-- However a run is cut into calls, a call that arrives at a breakpoint returns before anything else is
executed: because of the breakpoint, unless the arriving instruction has used up the budget.  So an
instruction at a breakpoint is executed only if it is the very first, or the first of a later call,
after the call that arrived there has returned so.  The returns are those of the calls, and the
instructions are as many as the calls have counted. -/
theorem breakpoints_resumed (m : Machine) (calls : List Call) (noKeys : m.keyQueue = []) :
    RunEvent.Orderly m.breakpoints (m.history calls) ∧
      List.Forall₂ RecordOf (m.records calls) (m.returns calls) := by
  have led : m.LedBy [] := .inl fun e mem => by cases mem
  obtain ⟨order, ⟨after, left⟩, records⟩ := history_inOrder noKeys calls led
  exact ⟨order.orderly fun p spent cost arrives => absurd arrives (left.not_arrives p spent cost),
    records⟩

/-- A machine at `FC00`, before instructions that do nothing, with a breakpoint at the second. -/
def beforeBreakpoint : Machine :=
  (((ofMonitor [1, 1, 1, 1] {}).powerButton).setPc 0xFC00).addBreakpoint 0xFC01

/-- A call that uses up its budget on arrival, and one that stops for the breakpoint. -/
theorem breakpoints_resumed_two :
    beforeBreakpoint.keyQueue = [] ∧
      RunEvent.Orderly beforeBreakpoint.breakpoints (beforeBreakpoint.history [.run 2, .run 2]) ∧
      beforeBreakpoint.returns [.run 2] = [(2, ⟨2, 1, .budgetExhausted⟩)] ∧
      RunEvent.Orderly beforeBreakpoint.breakpoints (beforeBreakpoint.history [.run 3, .tick]) ∧
      beforeBreakpoint.returns [.run 3] = [(3, ⟨2, 1, .breakpoint 0xFC01⟩)] := by
  have noKeys : beforeBreakpoint.keyQueue = [] := rfl
  exact ⟨noKeys, (breakpoints_resumed beforeBreakpoint [.run 2, .run 2] noKeys).1, by decide +kernel,
    (breakpoints_resumed beforeBreakpoint [.run 3, .tick] noKeys).1, by decide +kernel⟩

/-- The first of these two calls returns on arrival at the breakpoint, and does not announce it; the
second goes through. -/
theorem breakpoint_passed :
    beforeBreakpoint.isPowered ∧ beforeBreakpoint.keyQueue = [] ∧
      ¬ RunEvent.Announced beforeBreakpoint.breakpoints
        (beforeBreakpoint.history [.run 2, .run 2]) := by
  have events : beforeBreakpoint.history [.run 2, .run 2] =
      [.executed 0xFC00 0 2 .running 0xFC01, .returned 2 ⟨2, 1, .budgetExhausted⟩,
        .executed 0xFC01 0 2 .running 0xFC02, .returned 2 ⟨2, 1, .budgetExhausted⟩] := by
    decide +kernel
  have stops : beforeBreakpoint.breakpoints.contains 0xFC01 := by decide +kernel
  refine ⟨rfl, rfl, fun announced => ?_⟩
  obtain ⟨budget, summary, mem, stop⟩ := announced [] 0xFC00 0 2 0xFC01
    [.returned 2 ⟨2, 1, .budgetExhausted⟩] 0 2 .running 0xFC02 _ events stops
  obtain ⟨-, rfl⟩ := RunEvent.returned.inj (List.mem_singleton.mp mem)
  cases stop

end Machine

end Trainer6800
