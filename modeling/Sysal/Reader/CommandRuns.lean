import Sysal.Reader.CommandMoves

/-!
# Every run of a command

What holds of `execute_command` whatever the operating system answers.  The invariant ties the
variables of the function to the answers so far; the result of a complete run is read off it.

* `run_invariant`: the invariant of every run;
* `executeCommand_spec`: what a result says about the answers that led to it.
-/

namespace Sysal.CommandReader

open Sysal EventMachine

variable {options : CommandOptions} {s : Locals}

/-! ### What the answers said -/

/-- The bytes an answer brings on a stream. -/
def Event.bytes (stream : Stream) : Event → Bytes
  | .read stream' (.data bytes) => if stream' = stream then bytes else []
  | _ => []

/-- The bytes that were read from a stream, in order. -/
def received (stream : Stream) (history : List Event) : Bytes := history.flatMap (Event.bytes stream)

/-- An answer after which the child is not waited for again. -/
def Event.settles : Event → Bool
  | .wait answer => answer.settles
  | _ => false

/-- The reading of the clock. -/
def Event.time : Event → Option ℤ
  | .clock now => some now
  | _ => none

/-- The readings of the clock, the first of which starts the time limit. -/
def clocks (history : List Event) : List ℤ := history.filterMap Event.time

/-- The variables of the loop record what the answers said. -/
structure Recorded (options : CommandOptions) (history : List Event) (s : Locals) : Prop where
  bounded : ∀ stream, (s.bytes stream).length ≤ options.outputLimit
  kept : ∀ stream, s.bytes stream <+: received stream history
  complete : s.status ≠ .outputLimit → ∀ stream, s.bytes stream = received stream history
  closed : ∀ stream, s.isOpen stream = false ↔ .read stream .eof ∈ history
  reaped : history.countP Event.settles = s.reaped.toNat
  waitStatus : ∀ status, s.waitStatus = some status ↔ .wait (.reaped status) ∈ history

theorem received_concat (stream : Stream) (history : List Event) (event : Event) :
    received stream (history ++ [event]) = received stream history ++ event.bytes stream := by
  rw [received, received, List.flatMap_append, List.flatMap_cons, List.flatMap_nil, List.append_nil]

/-- An answer without bytes, end of stream and exit of the child leaves the record alone. -/
theorem Recorded.quiet {history : List Event} {s s' : Locals} {event : Event}
    (h : Recorded options history s) (hbytes : ∀ stream, event.bytes stream = [])
    (heof : ∀ stream, event ≠ .read stream .eof) (hsettles : event.settles = false)
    (hsame : s' = { s with deadline := s'.deadline, status := s'.status })
    (hstatus : s'.status ≠ .outputLimit → s.status ≠ .outputLimit) :
    Recorded options (history ++ [event]) s' := by
  have hevent : ∀ stream, received stream (history ++ [event]) = received stream history := by
    intro stream
    rw [received_concat, hbytes, List.append_nil]
  have hkeeps : (∀ stream, s'.bytes stream = s.bytes stream) ∧
      (∀ stream, s'.isOpen stream = s.isOpen stream) ∧ s'.reaped = s.reaped ∧
        s'.waitStatus = s.waitStatus := by
    rw [hsame]
    exact ⟨fun stream => by cases stream <;> rfl, fun stream => by cases stream <;> rfl, rfl, rfl⟩
  obtain ⟨hbytes', hopen', hreaped', hwait'⟩ := hkeeps
  constructor
  · intro stream
    rw [hbytes']
    exact h.bounded stream
  · intro stream
    rw [hbytes', hevent]
    exact h.kept stream
  · intro hne stream
    rw [hbytes', hevent]
    exact h.complete (hstatus hne) stream
  · intro stream
    rw [hopen', h.closed, List.mem_append, List.mem_singleton]
    exact ⟨Or.inl, fun hmem => hmem.resolve_right fun heq => heof stream heq.symm⟩
  · rw [List.countP_append, h.reaped, hreaped', List.countP_singleton, hsettles]
    rfl
  · intro status
    rw [hwait', h.waitStatus, List.mem_append, List.mem_singleton]
    refine ⟨Or.inl, fun hmem => hmem.resolve_right fun heq => ?_⟩
    rw [← heq] at hsettles
    cases hsettles

/-- Bytes within the limit are appended to their stream. -/
theorem Recorded.data {history : List Event} {s : Locals} (h : Recorded options history s)
    (hstatus : s.status = .success) {stream : Stream} {bytes : Bytes}
    (hlimit : bytes.length ≤ options.outputLimit - (s.bytes stream).length) :
    Recorded options (history ++ [.read stream (.data bytes)]) (s.append bytes stream) := by
  have hcomplete := h.complete (by rw [hstatus]; decide)
  have hbytes : ∀ stream', (s.append bytes stream).bytes stream' =
      received stream' (history ++ [.read stream (.data bytes)]) := by
    intro stream'
    rw [received_concat, ← hcomplete]
    cases stream <;> cases stream' <;> simp [Locals.append, Locals.bytes, Event.bytes]
  constructor
  · intro stream'
    have hother := h.bounded stream'
    by_cases hsame : stream = stream'
    · subst hsame
      have hlength : ((s.append bytes stream).bytes stream).length =
          (s.bytes stream).length + bytes.length := by
        cases stream <;> simp [Locals.append, Locals.bytes]
      omega
    · have hlength : (s.append bytes stream).bytes stream' = s.bytes stream' := by
        cases stream <;> cases stream' <;> first | exact absurd rfl hsame | rfl
      rw [hlength]
      exact hother
  · intro stream'
    exact hbytes stream' ▸ List.prefix_rfl
  · intro _ stream'
    exact hbytes stream'
  · intro stream'
    rw [isOpen_append, h.closed, List.mem_append, List.mem_singleton]
    exact ⟨Or.inl, fun hmem => hmem.resolve_right (by simp)⟩
  · rw [List.countP_append, h.reaped]
    cases stream <;> rfl
  · intro status
    have hwait : (s.append bytes stream).waitStatus = s.waitStatus := by cases stream <;> rfl
    rw [hwait, h.waitStatus, List.mem_append, List.mem_singleton]
    exact ⟨Or.inl, fun hmem => hmem.resolve_right (by simp)⟩

/-- The end of a stream closes it. -/
theorem Recorded.eof {history : List Event} {s : Locals} (h : Recorded options history s)
    (stream : Stream) : Recorded options (history ++ [.read stream .eof]) (s.close stream) := by
  have hbytes : ∀ stream', (s.close stream).bytes stream' = s.bytes stream' := by
    intro stream'
    cases stream <;> cases stream' <;> rfl
  have hreceived : ∀ stream', received stream' (history ++ [.read stream .eof]) =
      received stream' history := by
    intro stream'
    rw [received_concat, Event.bytes, List.append_nil]
    rintro _ _ ⟨⟩
  constructor
  · intro stream'
    rw [hbytes]
    exact h.bounded stream'
  · intro stream'
    rw [hbytes, hreceived]
    exact h.kept stream'
  · intro hne stream'
    rw [hbytes, hreceived]
    exact h.complete (by rwa [status_close] at hne) stream'
  · intro stream'
    rw [List.mem_append, List.mem_singleton, ← h.closed]
    cases stream <;> cases stream' <;> simp [Locals.close, Locals.isOpen]
  · rw [List.countP_append, h.reaped]
    cases stream <;> rfl
  · intro status
    have hwait : (s.close stream).waitStatus = s.waitStatus := by cases stream <;> rfl
    rw [hwait, h.waitStatus, List.mem_append, List.mem_singleton]
    exact ⟨Or.inl, fun hmem => hmem.resolve_right (by simp)⟩

/-- The answer that ends the child is the only one that does. -/
theorem Recorded.settled {history : List Event} {s : Locals} (h : Recorded options history s)
    (hreaped : s.reaped = false) {answer : WaitAnswer} (hsettles : answer.settles = true) :
    Recorded options (history ++ [.wait answer]) (s.reap answer) := by
  have hbytes : ∀ stream, (s.reap answer).bytes stream = s.bytes stream := by
    intro stream
    cases answer <;> cases stream <;> rfl
  have hopen : ∀ stream, (s.reap answer).isOpen stream = s.isOpen stream := by
    intro stream
    cases answer <;> cases stream <;> rfl
  have hreceived : ∀ stream, received stream (history ++ [.wait answer]) =
      received stream history := by
    intro stream
    rw [received_concat, Event.bytes, List.append_nil]
    rintro _ _ ⟨⟩
  have hnone : ∀ status, .wait (.reaped status) ∉ history := by
    intro status hmem
    have hcount := h.reaped
    rw [hreaped, Bool.toNat_false, List.countP_eq_zero] at hcount
    exact hcount _ hmem rfl
  constructor
  · intro stream
    rw [hbytes]
    exact h.bounded stream
  · intro stream
    rw [hbytes, hreceived]
    exact h.kept stream
  · intro hne stream
    rw [hbytes, hreceived]
    exact h.complete (by rwa [status_reap] at hne) stream
  · intro stream
    rw [hopen, h.closed, List.mem_append, List.mem_singleton]
    exact ⟨Or.inl, fun hmem => hmem.resolve_right (by simp)⟩
  · rw [List.countP_append, h.reaped, hreaped, reaped_of_settles hsettles, List.countP_singleton,
      Event.settles, hsettles]
    rfl
  · intro status
    rw [List.mem_append, List.mem_singleton]
    cases answer with
    | reaped status' => simp [Locals.reap, hnone status, eq_comm]
    | failed =>
        have hwait : s.waitStatus = none := by
          rw [Option.eq_none_iff_forall_ne_some]
          exact fun status' heq => hnone status' ((h.waitStatus status').mp heq)
        simp [Locals.reap, hwait, hnone status]
    | running => cases hsettles
    | interrupted => cases hsettles

/-- The record is kept by every move. -/
theorem recorded_step {history : List Event} {state state' : State} {event : Event}
    (hcontrol : Controlled state.locals state.phase) (h : Recorded options history state.locals)
    (hmove : Move options state event state') :
    Recorded options (history ++ [event]) state'.locals := by
  cases hmove with
  | data s stream reads bytes hlimit => exact h.data hcontrol.1 hlimit
  | eof s stream reads => exact h.eof stream
  | ended s returned answer hsettles =>
      cases returned with
      | none => exact h.settled hcontrol.2 hsettles
      | some result => exact h.settled (by rw [hcontrol.1]) hsettles
  | waited s answer hanswer =>
      cases answer with
      | reaped status => exact h.settled hcontrol.2 rfl
      | failed => exact h.settled hcontrol.2 rfl
      | running =>
          exact h.quiet (fun _ => rfl) (by simp) rfl rfl id
      | interrupted => exact absurd rfl hanswer
  | started s now s' hs' =>
      exact h.quiet (fun _ => rfl) (by simp) rfl (by rw [hs']) fun _ => by
        rw [show s = {} from hcontrol]
        decide
  | overflow s stream reads bytes hlimit =>
      have hcomplete := h.complete (by rw [show s.status = _ from hcontrol.1]; decide)
      refine ⟨fun stream' => ?_, fun stream' => ?_, fun hne => absurd rfl hne, fun stream' => ?_, ?_,
        fun status => ?_⟩
      · exact (show ({ s with status := CommandStatus.outputLimit } : Locals).bytes stream' =
          s.bytes stream' by cases stream' <;> rfl) ▸ h.bounded stream'
      · rw [received_concat, ← hcomplete]
        cases stream' <;> exact List.prefix_append _ _
      · rw [List.mem_append, List.mem_singleton]
        refine Iff.trans ?_ (Iff.trans (h.closed stream')
          ⟨Or.inl, fun hmem => hmem.resolve_right (by simp)⟩)
        cases stream' <;> rfl
      · rw [List.countP_append, h.reaped]
        cases stream <;> rfl
      · rw [List.mem_append, List.mem_singleton]
        exact (h.waitStatus status).trans ⟨Or.inl, fun hmem => hmem.resolve_right (by simp)⟩
  | timedOut s now =>
      exact h.quiet (fun _ => rfl) (by simp) rfl rfl fun _ => by
        rw [show s.status = _ from hcontrol]
        decide
  | pollFailed s wait =>
      exact h.quiet (fun _ => rfl) (by simp) rfl rfl fun _ => by
        rw [show s.status = _ from hcontrol.1]
        decide
  | readFailed s stream reads =>
      exact h.quiet (fun _ => rfl) (by simp) rfl rfl fun _ => by
        rw [show s.status = _ from hcontrol.1]
        decide
  | _ => exact h.quiet (fun _ => rfl) (by simp) rfl rfl id

/-! ### Signals and time -/

/-- The number of signals that have been sent. -/
def signals (s : Locals) : Phase → ℕ
  | .terminating _ => 1
  | .done result => if s.status ≠ .success ∧ result.status ≠ .spawnError then 1 else 0
  | _ => 0

/-- Whether the child has been started. -/
def Phase.childStarted : Phase → Bool
  | .preparing | .spawning => false
  | .done result => result.status ≠ .spawnError
  | _ => true

/-- The readings of the clock: the first one sets the deadline, and every other one was before it,
except the one a time-out was noticed by. -/
def Timed (options : CommandOptions) (history : List Event) (s : Locals) : Prop :=
  (s.status = .spawnError ∧ clocks history = []) ∨
    ∃ start rest, s.status ≠ .spawnError ∧ clocks history = start :: rest ∧
      s.deadline = start + options.timeout * 1000000 ∧
      (s.status ≠ .timedOut → ∀ now ∈ rest, 0 < remaining s now) ∧
      (s.status = .timedOut → ∃ now ∈ rest, remaining s now ≤ 0)

/-- What holds after every sequence of answers. -/
structure Invariant (options : CommandOptions) (history : List Event) (state : State) : Prop where
  control : Controlled state.locals state.phase
  record : Recorded options history state.locals
  signal : history.count .kill = signals state.locals state.phase
  child : .spawned true ∈ history ↔ state.phase.childStarted = true
  timed : Timed options history state.locals
  polls : ∀ wait answer, .poll wait answer ∈ history → 0 < wait ∧ wait ≤ 50

theorem status_finalResult (s : Locals) : (finalResult s).status = s.status ∨
    s.status = .success ∧ ((finalResult s).status = .failed ∨ (finalResult s).status = .readError) := by
  rw [finalResult]
  cases s.waitStatus with
  | none =>
      dsimp only
      split
      · rename_i h
        exact Or.inr ⟨h, Or.inr rfl⟩
      · exact Or.inl rfl
  | some status =>
      dsimp only
      split_ifs with h
      · exact Or.inr ⟨h.1, Or.inl rfl⟩
      · exact Or.inl rfl

/-- A result after the loop is not one of a child that was not started. -/
theorem finalResult_ne_spawnError (h : s.status ≠ .spawnError) :
    (finalResult s).status ≠ .spawnError := by
  rcases status_finalResult s with heq | ⟨-, heq | heq⟩
  · rwa [heq]
  · rw [heq]
    decide
  · rw [heq]
    decide

theorem Locals.Broken.ne (h : s.Broken) : s.status ≠ .success ∧ s.status ≠ .spawnError := by
  rcases h with h | h | h <;> rw [h] <;> decide

/-- While nothing has gone wrong no signal is sent, and the child is there. -/
theorem Controlled.of_success {phase : Phase} (h : Controlled s phase) (hs : s.status = .success) :
    signals s phase = 0 ∧ phase.childStarted = true := by
  have hdefault : s ≠ {} := by
    rintro rfl
    cases hs
  cases phase with
  | done result =>
      have hsignal : signals s (.done result) = 0 := by
        rw [signals, if_neg fun hne => hne.1 hs]
      refine ⟨hsignal, decide_eq_true ?_⟩
      rcases h with ⟨rfl, -⟩ | ⟨-, rfl⟩ | ⟨hbroken, -⟩ | ⟨answer, -, rfl, -⟩
      · exact absurd rfl hdefault
      · exact finalResult_ne_spawnError (by rw [hs]; decide)
      · exact absurd hs hbroken.ne.1
      · rw [status_reap] at hs
        cases hs
  | killing returned => exact ⟨rfl, rfl⟩
  | terminating returned =>
      cases returned with
      | none => exact absurd hs h.1.ne.1
      | some result => exact absurd h.1 hdefault
  | preparing => exact absurd h hdefault
  | spawning => exact absurd h hdefault
  | configuring => exact ⟨rfl, rfl⟩
  | starting => exact ⟨rfl, rfl⟩
  | timing => exact ⟨rfl, rfl⟩
  | polling wait => exact ⟨rfl, rfl⟩
  | draining stream reads => exact ⟨rfl, rfl⟩
  | reaping => exact ⟨rfl, rfl⟩

/-- Where the child has been ended, one signal was sent, and the child had been started. -/
theorem signals_done {returned : Option CommandResult} (h : Controlled s (.terminating returned))
    {s' : Locals} (hstatus : s'.status = s.status) :
    signals s' (.done (returned.getD (finalResult s'))) = 1 ∧
      Phase.childStarted (.done (returned.getD (finalResult s'))) = true := by
  cases returned with
  | none =>
      have hne := h.1.ne
      rw [← hstatus] at hne
      have hfinal := finalResult_ne_spawnError hne.2
      exact ⟨if_pos ⟨hne.1, hfinal⟩, decide_eq_true hfinal⟩
  | some result =>
      obtain ⟨rfl, rfl⟩ := h
      refine ⟨if_pos ⟨?_, (by decide : CommandStatus.readError ≠ .spawnError)⟩, rfl⟩
      rw [hstatus]
      decide

/-- Signals are counted by every move. -/
theorem signal_step {history : List Event} {state state' : State} {event : Event}
    (hcontrol : Controlled state.locals state.phase)
    (h : history.count .kill = signals state.locals state.phase)
    (hmove : Move options state event state') :
    (history ++ [event]).count .kill = signals state'.locals state'.phase := by
  have hcontrol' := controlled_step hcontrol hmove
  rw [List.count_append, h]
  cases hmove with
  | prepared s ok =>
      cases ok with
      | true => rfl
      | false => exact (if_neg fun hne => hne.2 rfl).symm
  | spawned s ok =>
      cases ok with
      | true => rfl
      | false => exact (if_neg fun hne => hne.2 rfl).symm
  | nonblocking s ok => cases ok <;> rfl
  | killed s returned =>
      cases hreaped : s.reaped with
      | false => rfl
      | true =>
          cases returned with
          | none =>
              have hne := Locals.Broken.ne hcontrol
              exact (if_pos ⟨hne.1, finalResult_ne_spawnError hne.2⟩).symm
          | some result =>
              obtain ⟨rfl, -⟩ := hcontrol
              cases hreaped
  | endInterrupted s returned => rfl
  | ended s returned answer hsettles =>
      exact (signals_done hcontrol (status_reap s answer)).1.symm
  | timedOut s now => rfl
  | pollFailed s wait => rfl
  | overflow s stream reads bytes => rfl
  | readFailed s stream reads => rfl
  | inTime s now => rfl
  | waitInterrupted s => rfl
  | started s now s' hs' => exact ((hcontrol'.of_success (by rw [hs'])).1).symm
  | polled s wait answer => exact ((hcontrol'.of_success hcontrol.1).1).symm
  | data s stream reads bytes =>
      exact ((hcontrol'.of_success ((status_append s bytes stream).trans hcontrol.1)).1).symm
  | eof s stream reads =>
      exact ((hcontrol'.of_success ((status_close s stream).trans hcontrol.1)).1).symm
  | wouldBlock s stream reads => exact ((hcontrol'.of_success hcontrol.1).1).symm
  | readInterrupted s stream reads => exact ((hcontrol'.of_success hcontrol.1).1).symm
  | waited s answer =>
      exact ((hcontrol'.of_success ((status_reap s answer).trans hcontrol.1)).1).symm

/-- The start of the child is noted by every move. -/
theorem child_step {history : List Event} {state state' : State} {event : Event}
    (hcontrol : Controlled state.locals state.phase)
    (h : .spawned true ∈ history ↔ state.phase.childStarted = true)
    (hmove : Move options state event state') :
    .spawned true ∈ history ++ [event] ↔ state'.phase.childStarted = true := by
  have hcontrol' := controlled_step hcontrol hmove
  rw [List.mem_append, List.mem_singleton, h]
  cases hmove with
  | prepared s ok => cases ok <;> simp [Phase.childStarted]
  | spawned s ok => cases ok <;> simp [Phase.childStarted]
  | nonblocking s ok => cases ok <;> simp [Phase.childStarted]
  | killed s returned =>
      refine iff_of_true (Or.inl rfl) ?_
      cases hreaped : s.reaped with
      | false => rfl
      | true =>
          cases returned with
          | none => exact decide_eq_true (finalResult_ne_spawnError (Locals.Broken.ne hcontrol).2)
          | some result =>
              obtain ⟨rfl, -⟩ := hcontrol
              cases hreaped
  | endInterrupted s returned => exact iff_of_true (Or.inl rfl) rfl
  | ended s returned answer hsettles =>
      exact iff_of_true (Or.inl rfl) (signals_done hcontrol (status_reap s answer)).2
  | timedOut s now => exact iff_of_true (Or.inl rfl) rfl
  | pollFailed s wait => exact iff_of_true (Or.inl rfl) rfl
  | overflow s stream reads bytes => exact iff_of_true (Or.inl rfl) rfl
  | readFailed s stream reads => exact iff_of_true (Or.inl rfl) rfl
  | inTime s now => exact iff_of_true (Or.inl rfl) rfl
  | waitInterrupted s => exact iff_of_true (Or.inl rfl) rfl
  | started s now s' hs' =>
      exact iff_of_true (Or.inl rfl) (hcontrol'.of_success (by rw [hs'])).2
  | polled s wait answer =>
      exact iff_of_true (Or.inl rfl) (hcontrol'.of_success hcontrol.1).2
  | data s stream reads bytes =>
      exact iff_of_true (Or.inl rfl)
        (hcontrol'.of_success ((status_append s bytes stream).trans hcontrol.1)).2
  | eof s stream reads =>
      exact iff_of_true (Or.inl rfl)
        (hcontrol'.of_success ((status_close s stream).trans hcontrol.1)).2
  | wouldBlock s stream reads =>
      exact iff_of_true (Or.inl rfl) (hcontrol'.of_success hcontrol.1).2
  | readInterrupted s stream reads =>
      exact iff_of_true (Or.inl rfl) (hcontrol'.of_success hcontrol.1).2
  | waited s answer =>
      exact iff_of_true (Or.inl rfl)
        (hcontrol'.of_success ((status_reap s answer).trans hcontrol.1)).2

/-- An answer that is no reading of the clock leaves the times alone. -/
theorem Timed.quiet {history : List Event} {s s' : Locals} {event : Event}
    (h : Timed options history s) (htime : event.time = none) (hdeadline : s'.deadline = s.deadline)
    (hspawn : s'.status = .spawnError ↔ s.status = .spawnError)
    (htimeout : s'.status = .timedOut ↔ s.status = .timedOut) :
    Timed options (history ++ [event]) s' := by
  have hclocks : clocks (history ++ [event]) = clocks history := by
    rw [clocks, List.filterMap_append, List.filterMap_cons_none htime, List.filterMap_nil,
      List.append_nil, clocks]
  have hremaining : ∀ now, remaining s' now = remaining s now := by
    intro now
    rw [remaining, hdeadline, remaining]
  rw [Timed, hclocks]
  rcases h with ⟨hstatus, hnil⟩ | ⟨start, rest, hran, hcons, hset, hintime, hlate⟩
  · exact Or.inl ⟨hspawn.mpr hstatus, hnil⟩
  · refine Or.inr ⟨start, rest, fun heq => hran (hspawn.mp heq), hcons, hdeadline.trans hset,
      fun hne now hnow => ?_, fun heq => ?_⟩
    · rw [hremaining]
      exact hintime (fun heq => hne (htimeout.mpr heq)) now hnow
    · obtain ⟨now, hnow, hpast⟩ := hlate (htimeout.mp heq)
      exact ⟨now, hnow, (hremaining now).trans_le hpast⟩

/-- The clock is recorded by every move. -/
theorem timed_step {history : List Event} {state state' : State} {event : Event}
    (hcontrol : Controlled state.locals state.phase) (h : Timed options history state.locals)
    (hmove : Move options state event state') :
    Timed options (history ++ [event]) state'.locals := by
  have hconcat : ∀ now, clocks (history ++ [.clock now]) = clocks history ++ [now] := by
    intro now
    rw [clocks, List.filterMap_append]
    rfl
  cases hmove with
  | started s now s' hs' =>
      obtain rfl : s = {} := hcontrol
      obtain ⟨-, hnil⟩ := h.resolve_right (by
        rintro ⟨_, _, hran, -⟩
        exact hran rfl)
      refine Or.inr ⟨now, [], by simp [hs'], ?_, by rw [hs'], fun _ now' hnow' => ?_, ?_⟩
      · rw [hconcat, hnil, List.nil_append]
      · exact absurd hnow' List.not_mem_nil
      · intro heq
        rw [hs'] at heq
        cases heq
  | timedOut s now hpast =>
      rcases h with ⟨hstatus, -⟩ | ⟨start, rest, -, hcons, hset, -, -⟩
      · rw [show s.status = _ from hcontrol] at hstatus
        cases hstatus
      · refine Or.inr ⟨start, rest ++ [now], by simp, ?_, hset, fun hne => absurd rfl hne,
          fun _ => ?_⟩
        · rw [hconcat, hcons, List.cons_append]
        · exact ⟨now, List.mem_append_right _ List.mem_cons_self, hpast⟩
  | inTime s now hrest =>
      have hsuccess : s.status = .success := hcontrol
      rcases h with ⟨hstatus, -⟩ | ⟨start, rest, hran, hcons, hset, hintime, -⟩
      · rw [hsuccess] at hstatus
        cases hstatus
      · refine Or.inr ⟨start, rest ++ [now], hran, ?_, hset, fun hne now' hnow' => ?_,
          fun heq => ?_⟩
        · rw [hconcat, hcons, List.cons_append]
        · rcases List.mem_append.mp hnow' with hold | hnew
          · exact hintime hne now' hold
          · rw [List.mem_singleton.mp hnew]
            exact hrest
        · rw [hsuccess] at heq
          cases heq
  | pollFailed s wait =>
      have hsuccess : s.status = .success := hcontrol.1
      exact h.quiet rfl rfl (by simp [hsuccess]) (by simp [hsuccess])
  | overflow s stream reads bytes =>
      have hsuccess : s.status = .success := hcontrol.1
      exact h.quiet rfl rfl (by simp [hsuccess]) (by simp [hsuccess])
  | readFailed s stream reads =>
      have hsuccess : s.status = .success := hcontrol.1
      exact h.quiet rfl rfl (by simp [hsuccess]) (by simp [hsuccess])
  | data s stream reads bytes => exact h.quiet rfl (by cases stream <;> rfl) (by simp) (by simp)
  | eof s stream reads => exact h.quiet rfl (by cases stream <;> rfl) (by simp) (by simp)
  | waited s answer => exact h.quiet rfl (by cases answer <;> rfl) (by simp) (by simp)
  | ended s returned answer => exact h.quiet rfl (by cases answer <;> rfl) (by simp) (by simp)
  | _ => exact h.quiet rfl rfl Iff.rfl Iff.rfl

/-! ### Complete runs -/

/-- The invariant holds of every run. -/
theorem run_invariant {events : List Event} {state : State} (h : run options events = some state) :
    Invariant options events state := by
  refine EventMachine.run_invariant (I := Invariant options) ?_ ?_ h
  · refine ⟨rfl, ?_, rfl, by simp [Phase.childStarted], Or.inl ⟨rfl, rfl⟩, by simp⟩
    refine ⟨fun stream => ?_, fun stream => ?_, fun _ stream => ?_, fun stream => ?_, rfl, by simp⟩
    · cases stream <;> exact Nat.zero_le _
    · cases stream <;> exact List.nil_prefix
    · cases stream <;> rfl
    · cases stream <;> simp [Locals.isOpen]
  · intro history state event state' hinv hstep
    have hmove := step_cases hstep
    refine ⟨controlled_step hinv.control hmove, recorded_step hinv.control hinv.record hmove,
      signal_step hinv.control hinv.signal hmove, child_step hinv.control hinv.child hmove,
      timed_step hinv.control hinv.timed hmove, fun wait answer hmem => ?_⟩
    rcases List.mem_append.mp hmem with hold | hnew
    · exact hinv.polls wait answer hold
    · obtain rfl := List.mem_singleton.mp hnew
      cases hmove with
      | pollFailed s => exact hinv.control.2
      | polled s => exact hinv.control.2

/-- **What a result says** about the answers that led to it. -/
structure Outcome (options : CommandOptions) (events : List Event) (result : CommandResult) :
    Prop where
  /-- Neither output exceeds the limit, and each is the beginning of what was read. -/
  output : result.output.length ≤ options.outputLimit ∧ result.output <+: received .output events
  error : result.error.length ≤ options.outputLimit ∧ result.error <+: received .error events
  /-- Success: both streams have ended, the child has exited with zero, and it was not killed. -/
  success : result.status = .success ↔ (∀ stream, .read stream .eof ∈ events) ∧
    .wait (.reaped (.exited 0)) ∈ events ∧ .kill ∉ events
  /-- Failure: the same with another end of the child. -/
  failed : result.status = .failed ↔ (∀ stream, .read stream .eof ∈ events) ∧
    (∃ status, status ≠ .exited 0 ∧ .wait (.reaped status) ∈ events) ∧ .kill ∉ events
  /-- A command that was not killed has its outputs in full. -/
  whole : .kill ∉ events → result.output = received .output events ∧
    result.error = received .error events
  /-- Without a child, and only then, there is a spawn error. -/
  spawnError : result.status = .spawnError ↔ .spawned true ∉ events
  /-- A child leaves nothing behind: exactly one wait for it settles (it is reaped, or `waitpid` fails
  otherwise than by an interruption), and it is killed at most once. -/
  child : .spawned true ∈ events → events.countP Event.settles = 1 ∧ events.count .kill ≤ 1
  /-- A command that takes too long or writes too much is killed. -/
  killed : result.status = .timedOut ∨ result.status = .outputLimit → .kill ∈ events
  /-- Exit code and signal are what the child ended with. -/
  exitCode : ∀ code, result.exitCode = some code → .wait (.reaped (.exited code)) ∈ events
  signal : ∀ signal, result.signal = some signal → .wait (.reaped (.signaled signal)) ∈ events
  /-- The rest is cut to whole milliseconds: a time-out is less than one millisecond early, and what is
  not one had a millisecond left at every look at the clock. -/
  timedOut : result.status = .timedOut → ∃ start rest, clocks events = start :: rest ∧
    ∃ now ∈ rest, start + options.timeout * 1000000 < now + 1000000
  inTime : ∀ start rest, clocks events = start :: rest → result.status ≠ .timedOut →
    ∀ now ∈ rest, now + 1000000 ≤ start + options.timeout * 1000000
  /-- The code never sleeps for long. -/
  polls : ∀ wait answer, .poll wait answer ∈ events → 0 < wait ∧ wait ≤ 50

/-- A rest of at least one millisecond. -/
theorem remaining_pos {now : ℤ} : 0 < remaining s now ↔ now + 1000000 ≤ s.deadline := by
  rw [remaining]
  rcases le_total 0 (s.deadline - now) with hle | hle
  · rw [Int.tdiv_eq_ediv_of_nonneg hle]
    omega
  · have hneg : (s.deadline - now).tdiv 1000000 = -((-(s.deadline - now)).tdiv 1000000) := by
      rw [Int.neg_tdiv, neg_neg]
    rw [hneg, Int.tdiv_eq_ediv_of_nonneg (by omega)]
    omega

/-- The readings of the clock in a complete run. -/
theorem timed_outcome {events : List Event} (h : Timed options events s) :
    (s.status = .timedOut → ∃ start rest, clocks events = start :: rest ∧
      ∃ now ∈ rest, start + options.timeout * 1000000 < now + 1000000) ∧
    ∀ start rest, clocks events = start :: rest → s.status ≠ .timedOut →
      ∀ now ∈ rest, now + 1000000 ≤ start + options.timeout * 1000000 := by
  rcases h with ⟨hstatus, hnil⟩ | ⟨start, rest, -, hcons, hset, hintime, hlate⟩
  · refine ⟨fun heq => ?_, fun start rest hcons => ?_⟩
    · rw [hstatus] at heq
      cases heq
    · rw [hnil] at hcons
      cases hcons
  · refine ⟨fun heq => ?_, fun start' rest' hcons' hne now hnow => ?_⟩
    · obtain ⟨now, hnow, hpast⟩ := hlate heq
      refine ⟨start, rest, hcons, now, hnow, ?_⟩
      have hrest := mt remaining_pos.mpr (not_lt.mpr hpast)
      omega
    · obtain ⟨rfl, rfl⟩ := List.cons.inj (hcons.symm.trans hcons')
      have hrest := remaining_pos.mp (hintime hne now hnow)
      omega

/-- The outputs of the final result are those of the loop. -/
theorem output_finalResult (s : Locals) :
    (finalResult s).output = s.output ∧ (finalResult s).error = s.error := by
  rw [finalResult]
  cases s.waitStatus <;> exact ⟨rfl, rfl⟩

/-- The exit code and the signal of the final result are those of the child. -/
theorem exit_finalResult (s : Locals) :
    (∀ code, (finalResult s).exitCode = some code → s.waitStatus = some (.exited code)) ∧
      ∀ signal, (finalResult s).signal = some signal → s.waitStatus = some (.signaled signal) := by
  rw [finalResult]
  cases s.waitStatus with
  | none => simp
  | some status =>
      cases status with
      | exited code => simp
      | signaled signal => simp
      | other => simp

/-- The status of a loop that has ended well is decided by the exit of the child. -/
theorem success_finalResult (h : s.status = .success) :
    ((finalResult s).status = .success ↔ s.waitStatus = some (.exited 0)) ∧
      ((finalResult s).status = .failed ↔
        ∃ status, status ≠ .exited 0 ∧ s.waitStatus = some status) := by
  rw [finalResult]
  cases s.waitStatus with
  | none => simp [h]
  | some status =>
      cases status with
      | exited code =>
          by_cases hcode : code = 0 <;> simp [h, hcode]
      | signaled signal => simp [h]
      | other => simp [h]

section Outcome

variable {events : List Event} {result : CommandResult}
  (hinv : Invariant options events ⟨s, .done result⟩)
include hinv

/-- No signal was sent exactly where nothing went wrong, or no child was started. -/
theorem Invariant.kill_iff :
    .kill ∉ events ↔ s.status = .success ∨ result.status = .spawnError := by
  rw [← List.count_eq_zero, hinv.signal, signals]
  split_ifs with hsent
  · simp [hsent.1, hsent.2]
  · simp only [not_and_or, not_not] at hsent
    simp [hsent]

theorem Invariant.spawn_iff : result.status = .spawnError ↔ .spawned true ∉ events := by
  rw [hinv.child, Phase.childStarted]
  simp

/-- A child that is gone was waited for once, and killed at most once. -/
theorem Invariant.child_once (hreaped : s.reaped = true) :
    events.countP Event.settles = 1 ∧ events.count .kill ≤ 1 := by
  refine ⟨hinv.record.reaped.trans (by rw [hreaped]; rfl), ?_⟩
  rw [hinv.signal, signals]
  split_ifs <;> omega

/-- Without any answer of the loop both streams are still open. -/
theorem Invariant.open_of_output (hopen : s.outputOpen = true) :
    ¬∀ stream, .read stream .eof ∈ events := by
  intro hall
  have hclosed : s.outputOpen = false := (hinv.record.closed .output).mpr (hall .output)
  rw [hopen] at hclosed
  cases hclosed

/-- The outcome without a child. -/
theorem outcome_notStarted (hs : s = {}) (hresult : result = {}) :
    Outcome options events result := by
  subst hs hresult
  have hnotSpawned : .spawned true ∉ events := hinv.spawn_iff.mp rfl
  have hopen := hinv.open_of_output rfl
  exact
    { output := ⟨Nat.zero_le _, List.nil_prefix⟩
      error := ⟨Nat.zero_le _, List.nil_prefix⟩
      success := iff_of_false (by decide) fun h => hopen h.1
      failed := iff_of_false (by decide) fun h => hopen h.1
      whole := fun _ => ⟨hinv.record.complete (by decide) .output,
        hinv.record.complete (by decide) .error⟩
      spawnError := hinv.spawn_iff
      child := fun hspawned => absurd hspawned hnotSpawned
      killed := by rintro (h | h) <;> cases h
      exitCode := fun _ h => by cases h
      signal := fun _ h => by cases h
      timedOut := fun h => by cases h
      inTime := fun start rest hcons _ =>
        (timed_outcome hinv.timed).2 start rest hcons CommandStatus.noConfusion
      polls := hinv.polls }

/-- The outcome of a loop that has ended well. -/
theorem outcome_finished (hs : s.Finished) (hresult : result = finalResult s) :
    Outcome options events result := by
  have hkill : .kill ∉ events := hinv.kill_iff.mpr (Or.inl hs.status)
  have heof : ∀ stream, .read stream .eof ∈ events :=
    fun stream => (hinv.record.closed stream).mp (hs.closed stream)
  have hcomplete := hinv.record.complete (by rw [hs.status]; decide)
  have hstatus : result.status ≠ .timedOut ∧ result.status ≠ .outputLimit := by
    rw [hresult]
    rcases status_finalResult s with heq | ⟨-, heq | heq⟩
    · rw [heq, hs.status]
      decide
    · rw [heq]
      decide
    · rw [heq]
      decide
  subst hresult
  have hexit := exit_finalResult s
  have houtput := output_finalResult s
  exact
    { output := houtput.1 ▸ ⟨hinv.record.bounded .output, hinv.record.kept .output⟩
      error := houtput.2 ▸ ⟨hinv.record.bounded .error, hinv.record.kept .error⟩
      success := (success_finalResult hs.status).1.trans ((hinv.record.waitStatus _).trans
        ⟨fun h => ⟨heof, h, hkill⟩, fun h => h.2.1⟩)
      failed := by
        rw [(success_finalResult hs.status).2]
        simp only [hinv.record.waitStatus]
        exact ⟨fun h => ⟨heof, h, hkill⟩, fun h => h.2.1⟩
      whole := fun _ => ⟨houtput.1.trans (hcomplete .output), houtput.2.trans (hcomplete .error)⟩
      spawnError := hinv.spawn_iff
      child := fun _ => hinv.child_once hs.reaped
      killed := fun h => h.elim (absurd · hstatus.1) (absurd · hstatus.2)
      exitCode := fun code h => (hinv.record.waitStatus _).mp (hexit.1 code h)
      signal := fun signal h => (hinv.record.waitStatus _).mp (hexit.2 signal h)
      timedOut := fun h => absurd h hstatus.1
      inTime := fun start rest hcons _ =>
        (timed_outcome hinv.timed).2 start rest hcons (by rw [hs.status]; decide)
      polls := hinv.polls }

/-- The outcome where the child had to be ended. -/
theorem outcome_stopped (hs : s.Broken) (hreaped : s.reaped = true)
    (hresult : result = finalResult s) : Outcome options events result := by
  have hstatus : result.status = s.status := by
    rw [hresult]
    exact (status_finalResult s).resolve_right fun h => hs.ne.1 h.1
  have hkill : .kill ∈ events := by
    by_contra hnot
    rcases hinv.kill_iff.mp hnot with h | h
    · exact hs.ne.1 h
    · exact hs.ne.2 (hstatus ▸ h)
  have hfailed : s.status ≠ .failed := by
    rcases hs with h | h | h <;> rw [h] <;> decide
  have hexit := exit_finalResult s
  have houtput := output_finalResult s
  rw [← hresult] at hexit houtput
  exact
    { output := houtput.1 ▸ ⟨hinv.record.bounded .output, hinv.record.kept .output⟩
      error := houtput.2 ▸ ⟨hinv.record.bounded .error, hinv.record.kept .error⟩
      success := iff_of_false (hstatus ▸ hs.ne.1) fun h => h.2.2 hkill
      failed := iff_of_false (hstatus ▸ hfailed) fun h => h.2.2 hkill
      whole := fun h => absurd hkill h
      spawnError := hinv.spawn_iff
      child := fun _ => hinv.child_once hreaped
      killed := fun _ => hkill
      exitCode := fun code h => (hinv.record.waitStatus _).mp (hexit.1 code h)
      signal := fun signal h => (hinv.record.waitStatus _).mp (hexit.2 signal h)
      timedOut := fun h => (timed_outcome hinv.timed).1 (hstatus ▸ h)
      inTime := fun start rest hcons hne =>
        (timed_outcome hinv.timed).2 start rest hcons (hstatus ▸ hne)
      polls := hinv.polls }

/-- The outcome where the pipes cannot be switched to non-blocking reads. -/
theorem outcome_returned {answer : WaitAnswer} (hsettles : answer.settles = true)
    (hs : s = Locals.reap {} answer) (hresult : result = earlyResult) :
    Outcome options events result := by
  have hstatus : s.status = .spawnError := by rw [hs, status_reap]
  subst hresult
  have hkill : .kill ∈ events := by
    by_contra hnot
    rcases hinv.kill_iff.mp hnot with h | h
    · rw [hstatus] at h
      cases h
    · cases h
  exact
    { output := ⟨Nat.zero_le _, List.nil_prefix⟩
      error := ⟨Nat.zero_le _, List.nil_prefix⟩
      success := iff_of_false (by decide) fun h => h.2.2 hkill
      failed := iff_of_false (by decide) fun h => h.2.2 hkill
      whole := fun h => absurd hkill h
      spawnError := hinv.spawn_iff
      child := fun _ => hinv.child_once (hs ▸ reaped_of_settles hsettles _)
      killed := fun _ => hkill
      exitCode := fun _ h => by cases h
      signal := fun _ h => by cases h
      timedOut := fun h => by cases h
      inTime := fun start rest hcons _ =>
        (timed_outcome hinv.timed).2 start rest hcons (by rw [hstatus]; decide)
      polls := hinv.polls }

end Outcome

/-- **Every complete run**: whatever the operating system answers, the result of a command is the one
its answers call for, and nothing is left behind. -/
theorem executeCommand_spec {events : List Event} {result : CommandResult}
    (h : executeCommand options events = some result) : Outcome options events result := by
  rw [executeCommand] at h
  split at h
  · rename_i s last hrun
    obtain rfl := Option.some.inj h
    have hinv := run_invariant hrun
    rcases hinv.control with ⟨hs, hlast⟩ | ⟨hfinished, hlast⟩ | ⟨hbroken, hreaped, hlast⟩ |
      ⟨answer, hsettles, hs, hlast⟩
    · exact outcome_notStarted hinv hs hlast
    · exact outcome_finished hinv hfinished hlast
    · exact outcome_stopped hinv hbroken hreaped hlast
    · exact outcome_returned hinv hsettles hs hlast
  · cases h

/-- A command that prints a line and exits. -/
def lineEvents : List Event :=
  [.prepared true, .spawned true, .nonblocking true, .clock 0, .clock 1000000, .poll 50 .ready,
   .read .output (.data (utf8 "ok\n")), .read .output .eof, .read .error .wouldBlock, .wait .running,
   .clock 2000000, .poll 50 .interrupted, .read .error .eof, .wait .interrupted,
   .wait (.reaped (.exited 0))]

theorem executeCommand_spec_line :
    Outcome {} lineEvents
      { status := .success, exitCode := some 0, output := utf8 "ok\n" } :=
  executeCommand_spec (by decide)

end Sysal.CommandReader
