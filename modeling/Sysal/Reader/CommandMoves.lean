import Sysal.Reader.Command

/-!
# The moves of a command

What one answer of the operating system does to `execute_command`, and what the variables of the
function are in each phase.

* `step_cases`: the moves of the machine;
* `controlled_step`: inside of the loop nothing has gone wrong yet.
-/

namespace Sysal.CommandReader

open Sysal EventMachine

variable {options : CommandOptions}

/-! ### The moves -/

/-- Whether a stream is still read. -/
def Locals.isOpen (s : Locals) : Stream → Bool
  | .output => s.outputOpen
  | .error => s.errorOpen

/-- An answer that ends the child's record in the process table. -/
def WaitAnswer.settles : WaitAnswer → Bool
  | .reaped _ | .failed => true
  | .running | .interrupted => false

/-- The moves of the machine. -/
inductive Move (options : CommandOptions) : State → Event → State → Prop
  | prepared (s : Locals) (ok : Bool) :
      Move options ⟨s, .preparing⟩ (.prepared ok) ⟨s, if ok then .spawning else .done {}⟩
  | spawned (s : Locals) (ok : Bool) :
      Move options ⟨s, .spawning⟩ (.spawned ok) ⟨s, if ok then .configuring else .done {}⟩
  | nonblocking (s : Locals) (ok : Bool) :
      Move options ⟨s, .configuring⟩ (.nonblocking ok)
        ⟨s, if ok then .starting else .killing (some { status := .readError })⟩
  | started (s : Locals) (now : ℤ) (s' : Locals)
      (hs' : s' = { s with deadline := now + options.timeout * 1000000, status := .success }) :
      Move options ⟨s, .starting⟩ (.clock now) ⟨s', loopHead s'⟩
  | timedOut (s : Locals) (now : ℤ) (h : remaining s now ≤ 0) :
      Move options ⟨s, .timing⟩ (.clock now) ⟨{ s with status := .timedOut }, .killing none⟩
  | inTime (s : Locals) (now : ℤ) (h : 0 < remaining s now) :
      Move options ⟨s, .timing⟩ (.clock now) ⟨s, .polling (pollWait s (remaining s now))⟩
  | pollFailed (s : Locals) (wait : ℤ) :
      Move options ⟨s, .polling wait⟩ (.poll wait .failed)
        ⟨{ s with status := .readError }, .killing none⟩
  | polled (s : Locals) (wait : ℤ) (answer : PollAnswer) (h : answer ≠ .failed) :
      Move options ⟨s, .polling wait⟩ (.poll wait answer) ⟨s, drainOutput s⟩
  | overflow (s : Locals) (stream : Stream) (reads : ℕ) (bytes : Bytes)
      (h : options.outputLimit - (s.bytes stream).length < bytes.length) :
      Move options ⟨s, .draining stream reads⟩ (.read stream (.data bytes))
        ⟨{ s with status := .outputLimit }, .killing none⟩
  | data (s : Locals) (stream : Stream) (reads : ℕ) (bytes : Bytes)
      (h : bytes.length ≤ options.outputLimit - (s.bytes stream).length) :
      Move options ⟨s, .draining stream reads⟩ (.read stream (.data bytes))
        ⟨s.append bytes stream, nextRead (s.append bytes stream) stream reads⟩
  | eof (s : Locals) (stream : Stream) (reads : ℕ) :
      Move options ⟨s, .draining stream reads⟩ (.read stream .eof)
        ⟨s.close stream, afterDrain (s.close stream) stream⟩
  | wouldBlock (s : Locals) (stream : Stream) (reads : ℕ) :
      Move options ⟨s, .draining stream reads⟩ (.read stream .wouldBlock) ⟨s, afterDrain s stream⟩
  | readInterrupted (s : Locals) (stream : Stream) (reads : ℕ) :
      Move options ⟨s, .draining stream reads⟩ (.read stream .interrupted)
        ⟨s, nextRead s stream reads⟩
  | readFailed (s : Locals) (stream : Stream) (reads : ℕ) :
      Move options ⟨s, .draining stream reads⟩ (.read stream .failed)
        ⟨{ s with status := .readError }, .killing none⟩
  | waitInterrupted (s : Locals) : Move options ⟨s, .reaping⟩ (.wait .interrupted) ⟨s, .reaping⟩
  | waited (s : Locals) (answer : WaitAnswer) (h : answer ≠ .interrupted) :
      Move options ⟨s, .reaping⟩ (.wait answer) ⟨s.reap answer, loopHead (s.reap answer)⟩
  | killed (s : Locals) (returned : Option CommandResult) :
      Move options ⟨s, .killing returned⟩ .kill
        ⟨s, if s.reaped then .done (returned.getD (finalResult s)) else .terminating returned⟩
  | endInterrupted (s : Locals) (returned : Option CommandResult) :
      Move options ⟨s, .terminating returned⟩ (.wait .interrupted) ⟨s, .terminating returned⟩
  | ended (s : Locals) (returned : Option CommandResult) (answer : WaitAnswer)
      (h : answer.settles = true) :
      Move options ⟨s, .terminating returned⟩ (.wait answer)
        ⟨s.reap answer, .done (returned.getD (finalResult (s.reap answer)))⟩

theorem leaveLoop_of_ne {s : Locals} (h : s.status ≠ .success) : leaveLoop s = .killing none :=
  if_neg h

/-- **The moves of the machine** are all it does. -/
theorem step_cases {state state' : State} {event : Event}
    (h : step options state event = some state') : Move options state event state' := by
  obtain ⟨s, phase⟩ := state
  cases phase with
  | preparing =>
      cases event <;> simp only [step, Option.some.injEq, reduceCtorEq] at h
      exact h ▸ .prepared s _
  | spawning =>
      cases event <;> simp only [step, Option.some.injEq, reduceCtorEq] at h
      exact h ▸ .spawned s _
  | configuring =>
      cases event <;> simp only [step, Option.some.injEq, reduceCtorEq] at h
      exact h ▸ .nonblocking s _
  | starting =>
      cases event <;> simp only [step, Option.some.injEq, reduceCtorEq] at h
      exact h ▸ .started s _ _ rfl
  | timing =>
      cases event with
      | clock now =>
          simp only [step] at h
          split at h
          · rename_i hrest
            rw [leaveLoop_of_ne CommandStatus.noConfusion] at h
            exact Option.some.inj h ▸ .timedOut s now hrest
          · rename_i hrest
            exact Option.some.inj h ▸ .inTime s now (not_le.mp hrest)
      | _ => simp only [step, reduceCtorEq] at h
  | polling wait =>
      cases event with
      | poll wait' answer =>
          simp only [step] at h
          split at h
          · cases h
          · rename_i hwait
            obtain rfl := not_not.mp hwait
            split at h
            · rename_i hanswer
              rw [leaveLoop_of_ne CommandStatus.noConfusion] at h
              exact hanswer ▸ Option.some.inj h ▸ .pollFailed s wait
            · rename_i hanswer
              exact Option.some.inj h ▸ .polled s wait answer hanswer
      | _ => simp only [step, reduceCtorEq] at h
  | draining stream reads =>
      cases event with
      | read stream' answer =>
          simp only [step] at h
          split at h
          · cases h
          · rename_i hstream
            obtain rfl := not_not.mp hstream
            cases answer with
            | data bytes =>
                simp only [drainStep] at h
                split at h
                · cases h
                · split at h
                  · rename_i hlimit
                    rw [leaveLoop_of_ne CommandStatus.noConfusion] at h
                    exact Option.some.inj h ▸ .overflow s stream reads bytes hlimit
                  · rename_i hlimit
                    exact Option.some.inj h ▸ .data s stream reads bytes (not_lt.mp hlimit)
            | eof => exact Option.some.inj h ▸ .eof s stream reads
            | wouldBlock => exact Option.some.inj h ▸ .wouldBlock s stream reads
            | interrupted => exact Option.some.inj h ▸ .readInterrupted s stream reads
            | failed =>
                simp only [drainStep] at h
                rw [leaveLoop_of_ne CommandStatus.noConfusion] at h
                exact Option.some.inj h ▸ .readFailed s stream reads
      | _ => simp only [step, reduceCtorEq] at h
  | reaping =>
      cases event with
      | wait answer =>
          simp only [step] at h
          split at h
          · rename_i hanswer
            exact hanswer ▸ Option.some.inj h ▸ .waitInterrupted s
          · rename_i hanswer
            exact Option.some.inj h ▸ .waited s answer hanswer
      | _ => simp only [step, reduceCtorEq] at h
  | killing returned =>
      cases event <;> simp only [step, Option.some.injEq, reduceCtorEq] at h
      exact h ▸ .killed s returned
  | terminating returned =>
      cases event with
      | wait answer =>
          cases answer with
          | reaped status => exact Option.some.inj h ▸ .ended s returned (.reaped status) rfl
          | running => cases h
          | interrupted => exact Option.some.inj h ▸ .endInterrupted s returned
          | failed => exact Option.some.inj h ▸ .ended s returned .failed rfl
      | _ => simp only [step, reduceCtorEq] at h
  | done result => cases event <;> simp only [step, reduceCtorEq] at h

/-! ### The control state -/

/-- Something has gone wrong in the loop. -/
def Locals.Broken (s : Locals) : Prop :=
  s.status = .timedOut ∨ s.status = .outputLimit ∨ s.status = .readError

/-- The loop has ended well. -/
structure Locals.Finished (s : Locals) : Prop where
  status : s.status = .success
  closed : ∀ stream, s.isOpen stream = false
  reaped : s.reaped = true

/-- The result where the pipes cannot be switched to non-blocking reads. -/
def earlyResult : CommandResult := { status := .readError }

/-- What the variables are in each phase.  Inside of the loop nothing has gone wrong yet; where the
child is being ended something has, or the function has returned early. -/
def Controlled (s : Locals) : Phase → Prop
  | .preparing | .spawning | .configuring | .starting => s = {}
  | .timing => s.status = .success
  | .polling wait => s.status = .success ∧ 0 < wait ∧ wait ≤ 50
  | .draining stream reads => s.status = .success ∧ s.isOpen stream = true ∧ reads < drainReads
  | .reaping => s.status = .success ∧ s.reaped = false
  | .killing none => s.Broken
  | .killing (some result) => s = {} ∧ result = earlyResult
  | .terminating none => s.Broken ∧ s.reaped = false
  | .terminating (some result) => s = {} ∧ result = earlyResult
  | .done result =>
      (s = {} ∧ result = {}) ∨ (s.Finished ∧ result = finalResult s) ∨
        (s.Broken ∧ s.reaped = true ∧ result = finalResult s) ∨
          ∃ answer, WaitAnswer.settles answer = true ∧ s = Locals.reap {} answer ∧
            result = earlyResult

variable {s : Locals}

theorem controlled_loopHead (h : s.status = .success) : Controlled s (loopHead s) := by
  rw [loopHead]
  split
  · exact h
  · rename_i hcond
    simp only [Bool.or_eq_true, Bool.not_eq_true', not_or, Bool.not_eq_true,
      Bool.not_eq_false] at hcond
    rw [leaveLoop, if_pos h]
    refine Or.inr (Or.inl ⟨⟨h, fun stream => ?_, hcond.2⟩, rfl⟩)
    cases stream with
    | output => exact hcond.1.1
    | error => exact hcond.1.2

theorem controlled_childPoll (h : s.status = .success) : Controlled s (childPoll s) := by
  rw [childPoll]
  split
  · exact controlled_loopHead h
  · rename_i hreaped
    exact ⟨h, Bool.eq_false_of_not_eq_true hreaped⟩

theorem controlled_drainError (h : s.status = .success) : Controlled s (drainError s) := by
  rw [drainError]
  split
  · rename_i hopen
    exact ⟨h, hopen, by decide⟩
  · exact controlled_childPoll h

theorem controlled_drainOutput (h : s.status = .success) : Controlled s (drainOutput s) := by
  rw [drainOutput]
  split
  · rename_i hopen
    exact ⟨h, hopen, by decide⟩
  · exact controlled_drainError h

theorem controlled_afterDrain (h : s.status = .success) (stream : Stream) :
    Controlled s (afterDrain s stream) := by
  cases stream with
  | output => exact controlled_drainError h
  | error => exact controlled_childPoll h

theorem controlled_nextRead (h : s.status = .success) {stream : Stream}
    (hopen : s.isOpen stream = true) (reads : ℕ) : Controlled s (nextRead s stream reads) := by
  rw [nextRead]
  split
  · rename_i hreads
    exact ⟨h, hopen, hreads⟩
  · exact controlled_afterDrain h stream

@[simp] theorem status_append (s : Locals) (bytes : Bytes) (stream : Stream) :
    (s.append bytes stream).status = s.status := by
  cases stream <;> rfl

@[simp] theorem status_close (s : Locals) (stream : Stream) :
    (s.close stream).status = s.status := by
  cases stream <;> rfl

@[simp] theorem status_reap (s : Locals) (answer : WaitAnswer) :
    (s.reap answer).status = s.status := by
  cases answer <;> rfl

@[simp] theorem isOpen_append (s : Locals) (bytes : Bytes) (stream stream' : Stream) :
    (s.append bytes stream).isOpen stream' = s.isOpen stream' := by
  cases stream <;> cases stream' <;> rfl

theorem reaped_of_settles {answer : WaitAnswer} (h : answer.settles = true) (s : Locals) :
    (s.reap answer).reaped = true := by
  cases answer with
  | reaped status => rfl
  | failed => rfl
  | running => cases h
  | interrupted => cases h

theorem pollWait_bounds {rest : ℤ} (h : 0 < rest) (s : Locals) :
    0 < pollWait s rest ∧ pollWait s rest ≤ 50 := by
  rw [pollWait]
  split <;> omega

/-- The control state is kept by every move. -/
theorem controlled_step {state state' : State} {event : Event}
    (hstate : Controlled state.locals state.phase) (h : Move options state event state') :
    Controlled state'.locals state'.phase := by
  cases h with
  | prepared s ok =>
      cases ok with
      | true => exact hstate
      | false => exact Or.inl ⟨hstate, rfl⟩
  | spawned s ok =>
      cases ok with
      | true => exact hstate
      | false => exact Or.inl ⟨hstate, rfl⟩
  | nonblocking s ok =>
      cases ok with
      | true => exact hstate
      | false => exact ⟨hstate, rfl⟩
  | started s now s' hs' => exact controlled_loopHead (by rw [hs'])
  | timedOut s now => exact Or.inl rfl
  | inTime s now hrest => exact ⟨hstate, pollWait_bounds hrest s⟩
  | pollFailed s wait => exact Or.inr (Or.inr rfl)
  | polled s wait answer => exact controlled_drainOutput hstate.1
  | overflow s stream reads bytes => exact Or.inr (Or.inl rfl)
  | data s stream reads bytes =>
      exact controlled_nextRead ((status_append s bytes stream).trans hstate.1)
        ((isOpen_append s bytes stream stream).trans hstate.2.1) reads
  | eof s stream reads =>
      exact controlled_afterDrain ((status_close s stream).trans hstate.1) stream
  | wouldBlock s stream reads => exact controlled_afterDrain hstate.1 stream
  | readInterrupted s stream reads => exact controlled_nextRead hstate.1 hstate.2.1 reads
  | readFailed s stream reads => exact Or.inr (Or.inr rfl)
  | waitInterrupted s => exact hstate
  | waited s answer => exact controlled_loopHead ((status_reap s answer).trans hstate.1)
  | killed s returned =>
      cases returned with
      | none =>
          cases hreaped : s.reaped with
          | true => exact Or.inr (Or.inr (Or.inl ⟨hstate, hreaped, rfl⟩))
          | false => exact ⟨hstate, hreaped⟩
      | some result =>
          obtain ⟨rfl, rfl⟩ := hstate
          exact ⟨rfl, rfl⟩
  | endInterrupted s returned => exact hstate
  | ended s returned answer hsettles =>
      cases returned with
      | none =>
          refine Or.inr (Or.inr (Or.inl ⟨?_, reaped_of_settles hsettles s, rfl⟩))
          rw [Locals.Broken, status_reap]
          exact hstate.1
      | some result =>
          obtain ⟨rfl, rfl⟩ := hstate
          exact Or.inr (Or.inr (Or.inr ⟨answer, hsettles, rfl, rfl⟩))

end Sysal.CommandReader
