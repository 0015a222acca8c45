import Sysal.Reader.CommandRuns

/-!
# The progress of a command

A child that writes without end, or is interrupted again and again, must not keep `execute_command`
from looking at the clock.

* `run_length`: how many calls follow each other without a look at the clock.
-/

namespace Sysal.CommandReader

open Sysal EventMachine

variable {options : CommandOptions}

/-- What each phase may still cost before the clock is read again, or the child is ended. -/
def Phase.potential : Phase → ℕ
  | .preparing => 5
  | .spawning => 4
  | .configuring => 3
  | .starting => 2
  | .timing => 0
  | .polling _ => 36
  | .draining .output reads => 35 - reads
  | .draining .error reads => 19 - reads
  | .reaping => 3
  | .killing _ => 2
  | .terminating _ => 1
  | .done _ => 0

/-- A reading of the clock pays for one round of the loop, an interrupted wait for itself. -/
def pay : Event → ℕ
  | .clock _ => 37
  | .wait .interrupted => 1
  | _ => 0

theorem potential_loopHead (s : Locals) : (loopHead s).potential ≤ 2 := by
  rw [loopHead, leaveLoop]
  split_ifs <;> simp [Phase.potential]

theorem potential_childPoll (s : Locals) : (childPoll s).potential ≤ 3 := by
  rw [childPoll]
  split_ifs
  · exact (potential_loopHead s).trans (by omega)
  · exact Nat.le_refl 3

theorem potential_drainError (s : Locals) : (drainError s).potential ≤ 19 := by
  rw [drainError]
  split_ifs
  · exact Nat.le_refl 19
  · exact (potential_childPoll s).trans (by omega)

theorem potential_drainOutput (s : Locals) : (drainOutput s).potential ≤ 35 := by
  rw [drainOutput]
  split_ifs
  · exact Nat.le_refl 35
  · exact (potential_drainError s).trans (by omega)

/-- Behind a drain there is less to pay for than during it. -/
theorem potential_afterDrain (s : Locals) (stream : Stream) {reads : ℕ}
    (h : reads < drainReads) :
    (afterDrain s stream).potential + 1 ≤ (Phase.draining stream reads).potential := by
  rw [drainReads] at h
  cases stream with
  | output =>
      have hle := potential_drainError s
      show (drainError s).potential + 1 ≤ 35 - reads
      omega
  | error =>
      have hle := potential_childPoll s
      show (childPoll s).potential + 1 ≤ 19 - reads
      omega

theorem potential_nextRead (s : Locals) (stream : Stream) {reads : ℕ} (h : reads < drainReads) :
    (nextRead s stream reads).potential + 1 ≤ (Phase.draining stream reads).potential := by
  rw [nextRead]
  split_ifs with hmore
  · rw [drainReads] at hmore
    cases stream <;> simp only [Phase.potential] <;> omega
  · exact potential_afterDrain s stream h

/-- Every move is paid for. -/
theorem potential_step {state state' : State} {event : Event}
    (hcontrol : Controlled state.locals state.phase) (hmove : Move options state event state') :
    state'.phase.potential + 1 ≤ state.phase.potential + pay event := by
  cases hmove with
  | prepared s ok => cases ok <;> simp [Phase.potential, pay]
  | spawned s ok => cases ok <;> simp [Phase.potential, pay]
  | nonblocking s ok => cases ok <;> simp [Phase.potential, pay]
  | started s now s' => exact (Nat.add_le_add_right (potential_loopHead s') 1).trans (by simp [pay])
  | timedOut s now => simp [Phase.potential, pay]
  | inTime s now => simp [Phase.potential, pay]
  | pollFailed s wait => simp [Phase.potential, pay]
  | polled s wait answer => exact Nat.add_le_add_right (potential_drainOutput s) 1
  | overflow s stream reads bytes =>
      have hreads : reads < 16 := hcontrol.2.2
      cases stream <;> simp only [Phase.potential] <;> omega
  | data s stream reads bytes => exact potential_nextRead _ stream hcontrol.2.2
  | eof s stream reads => exact potential_afterDrain _ stream hcontrol.2.2
  | wouldBlock s stream reads => exact potential_afterDrain _ stream hcontrol.2.2
  | readInterrupted s stream reads => exact potential_nextRead _ stream hcontrol.2.2
  | readFailed s stream reads =>
      have hreads : reads < 16 := hcontrol.2.2
      cases stream <;> simp only [Phase.potential] <;> omega
  | waitInterrupted s => simp [Phase.potential, pay]
  | waited s answer => exact (Nat.add_le_add_right (potential_loopHead _) 1).trans (Nat.le_add_right _ _)
  | killed s returned =>
      dsimp only
      split_ifs <;> simp [Phase.potential, pay]
  | endInterrupted s returned => simp [Phase.potential, pay]
  | ended s returned answer => simp [Phase.potential]

/-- No phase is worth more than a whole round of the loop. -/
theorem potential_le (phase : Phase) : phase.potential ≤ 36 := by
  cases phase with
  | draining stream reads =>
      cases stream <;> simp only [Phase.potential] <;> omega
  | _ => simp [Phase.potential]

/-- Without a reading of the clock, nothing pays but interrupted waits. -/
theorem sum_pay {stretch : List Event} (hclocks : clocks stretch = []) :
    (stretch.map pay).sum = stretch.count (.wait .interrupted) := by
  induction stretch with
  | nil => rfl
  | cons event stretch ih =>
      rw [clocks, List.filterMap_cons] at hclocks
      cases event with
      | clock now => cases hclocks
      | wait answer =>
          rw [List.map_cons, List.sum_cons, ih hclocks, List.count_cons]
          cases answer <;> simp [pay, Nat.add_comm]
      | _ =>
          rw [List.map_cons, List.sum_cons, ih hclocks, List.count_cons]
          simp [pay]

/-- **Progress**: wherever a command does not look at the clock, at most 36 calls follow each other, not
counting waits that are interrupted.  A child that never stops writing cannot keep the deadline from
being seen. -/
theorem run_length {events stretch : List Event} {state : State}
    (h : run options events = some state) (hstretch : stretch <:+: events)
    (hclocks : clocks stretch = []) :
    stretch.length ≤ 36 + stretch.count (.wait .interrupted) := by
  obtain ⟨history, rest, rfl⟩ := hstretch
  obtain ⟨after, hafter, -⟩ := run_append_eq_some.mp h
  obtain ⟨before, hbefore, hrun⟩ := run_append_eq_some.mp hafter
  have hlength := run_length_le (fun state => state.phase.potential) pay
    (fun history before event after hbefore hstep =>
      potential_step (run_invariant hbefore).control (step_cases hstep)) hbefore hrun
  rw [sum_pay hclocks] at hlength
  have hbound := potential_le before.phase
  omega

/-- The calls of `lineEvents` behind the last reading of its clock. -/
theorem run_length_line : (lineEvents.drop 11).length ≤
    36 + (lineEvents.drop 11).count (.wait .interrupted) :=
  @run_length {} lineEvents (lineEvents.drop 11) ((run {} lineEvents).get (by decide)) (by decide)
    (List.drop_suffix 11 lineEvents).isInfix (by decide)

end Sysal.CommandReader
