import Sysal.Foundation.ByteString
import Sysal.Foundation.EventMachine
import Sysal.Model.Enums

/-!
# Running a command

`command.cpp`: `execute_command` as a machine driven by the answers of the operating system.  Every
system call that can turn out in more than one way is an event, with what the call returned; a phase is
the place in the code that waits for the next one.  The signal to the child is an event as well, since
it is what the code does rather than what it is told.

Preparing the pipes and the configuration of the new process is one event, and so is switching both
pipes to non-blocking reads.  The clock is read in nanoseconds.
-/

namespace Sysal.CommandReader

open Sysal

/-! ### Results -/

inductive CommandStatus where
  | success | failed | spawnError | timedOut | outputLimit | readError
  deriving DecidableEq, Inhabited

/-- Time in milliseconds and size in bytes. -/
structure CommandOptions where
  timeout : ℕ := 3000
  outputLimit : ℕ := 16 * 1024 * 1024

structure CommandResult where
  status : CommandStatus := .spawnError
  exitCode : Option UInt8 := none
  signal : Option ℕ := none
  output : Bytes := []
  error : Bytes := []
  deriving DecidableEq, Inhabited

/-- `successful`. -/
def CommandResult.successful (result : CommandResult) : Bool := result.status = .success

/-! ### Answers of the operating system -/

/-- What `waitpid` stores: an exit, a signal, or neither. -/
inductive WaitStatus where
  | exited (code : UInt8)
  | signaled (signal : ℕ)
  | other
  deriving DecidableEq, Inhabited

/-- The two pipes. -/
inductive Stream where
  | output | error
  deriving DecidableEq, Inhabited

/-- `read`: some bytes, the end of the stream, nothing to read yet, an interruption, or an error. -/
inductive ReadAnswer where
  | data (bytes : Bytes)
  | eof
  | wouldBlock
  | interrupted
  | failed
  deriving DecidableEq, Inhabited

inductive PollAnswer where
  | ready | interrupted | failed
  deriving DecidableEq, Inhabited

/-- `waitpid`: the child is gone, it is still running, an interruption, or an error. -/
inductive WaitAnswer where
  | reaped (status : WaitStatus)
  | running
  | interrupted
  | failed
  deriving DecidableEq, Inhabited

inductive Event where
  | prepared (ok : Bool)
  | spawned (ok : Bool)
  | nonblocking (ok : Bool)
  | clock (now : ℤ)
  | poll (wait : ℤ) (answer : PollAnswer)
  | read (stream : Stream) (answer : ReadAnswer)
  | wait (answer : WaitAnswer)
  | kill
  deriving DecidableEq, Inhabited

/-! ### The state -/

/-- The places that wait for an answer.  While the child is being ended, the result is known where the
function has already returned. -/
inductive Phase where
  | preparing
  | spawning
  | configuring
  | starting
  | timing
  | polling (wait : ℤ)
  | draining (stream : Stream) (reads : ℕ)
  | reaping
  | killing (returned : Option CommandResult)
  | terminating (returned : Option CommandResult)
  | done (result : CommandResult)
  deriving DecidableEq, Inhabited

/-- The variables of the function. -/
structure Locals where
  deadline : ℤ := 0
  outputOpen : Bool := true
  errorOpen : Bool := true
  output : Bytes := []
  error : Bytes := []
  status : CommandStatus := .spawnError
  reaped : Bool := false
  waitStatus : Option WaitStatus := none
  deriving DecidableEq, Inhabited

structure State where
  locals : Locals := {}
  phase : Phase := .preparing
  deriving DecidableEq, Inhabited

/-! ### Control flow -/

/-- The result once the child is gone: its exit and signal, and a status that is a success only for
exit code zero. -/
def finalResult (s : Locals) : CommandResult :=
  match s.waitStatus with
  | some status =>
      let exitCode := match status with
        | .exited code => some code
        | _ => none
      { status := if s.status = .success ∧ exitCode ≠ some 0 then .failed else s.status
        exitCode := exitCode
        signal := match status with
          | .signaled signal => some signal
          | _ => none
        output := s.output
        error := s.error }
  | none =>
      { status := if s.status = .success then .readError else s.status
        output := s.output
        error := s.error }

/-- Behind the loop: a status other than success ends the child. -/
def leaveLoop (s : Locals) : Phase :=
  if s.status = .success then .done (finalResult s) else .killing none

/-- The condition of the loop. -/
def loopHead (s : Locals) : Phase :=
  if s.outputOpen || s.errorOpen || !s.reaped then .timing else leaveLoop s

/-- `poll` of the child, behind both drains. -/
def childPoll (s : Locals) : Phase := if s.reaped then loopHead s else .reaping

/-- The drain of the error stream, if that is still open. -/
def drainError (s : Locals) : Phase := if s.errorOpen then .draining .error 0 else childPoll s

/-- The drain of the output stream, if that is still open. -/
def drainOutput (s : Locals) : Phase := if s.outputOpen then .draining .output 0 else drainError s

/-- Behind a drain that ended well. -/
def afterDrain (s : Locals) : Stream → Phase
  | .output => drainError s
  | .error => childPoll s

/-- The number of reads of one drain. -/
def drainReads : ℕ := 16

/-- The next read of a drain, or what comes behind it. -/
def nextRead (s : Locals) (stream : Stream) (reads : ℕ) : Phase :=
  if reads + 1 < drainReads then .draining stream (reads + 1) else afterDrain s stream

/-- The bytes of a stream so far. -/
def Locals.bytes (s : Locals) : Stream → Bytes
  | .output => s.output
  | .error => s.error

/-- A stream with more bytes. -/
def Locals.append (s : Locals) (bytes : Bytes) : Stream → Locals
  | .output => { s with output := s.output ++ bytes }
  | .error => { s with error := s.error ++ bytes }

/-- A stream that has ended. -/
def Locals.close (s : Locals) : Stream → Locals
  | .output => { s with outputOpen := false }
  | .error => { s with errorOpen := false }

/-- The size of the buffer of a read. -/
def bufferSize : ℕ := 4096

/-- One read of a drain. -/
def drainStep (limit : ℕ) (s : Locals) (stream : Stream) (reads : ℕ) : ReadAnswer → Option State
  | .data bytes =>
      if bytes = [] ∨ bufferSize < bytes.length then none
      else if limit - (s.bytes stream).length < bytes.length then
        let s := { s with status := .outputLimit }
        some ⟨s, leaveLoop s⟩
      else
        let s := s.append bytes stream
        some ⟨s, nextRead s stream reads⟩
  | .eof =>
      let s := s.close stream
      some ⟨s, afterDrain s stream⟩
  | .wouldBlock => some ⟨s, afterDrain s stream⟩
  | .interrupted => some ⟨s, nextRead s stream reads⟩
  | .failed =>
      let s := { s with status := .readError }
      some ⟨s, leaveLoop s⟩

/-- What `reap` notes of an answer that ends it. -/
def Locals.reap (s : Locals) : WaitAnswer → Locals
  | .reaped status => { s with reaped := true, waitStatus := some status }
  | .failed => { s with reaped := true }
  | .running | .interrupted => s

/-- Milliseconds, cut off, until the deadline. -/
def remaining (s : Locals) (now : ℤ) : ℤ := (s.deadline - now).tdiv 1000000

/-- The timeout of `poll`: the rest of the time, at most 50 milliseconds while a pipe is open. -/
def pollWait (s : Locals) (rest : ℤ) : ℤ :=
  min rest (if s.outputOpen || s.errorOpen then 50 else 1)

/-- One answer of the operating system; none for an answer to a call that is not being made.  A
`waitpid` that blocks does not report a running child. -/
def step (options : CommandOptions) (state : State) (event : Event) : Option State :=
  let s := state.locals
  match state.phase, event with
  | .preparing, .prepared ok => some ⟨s, if ok then .spawning else .done {}⟩
  | .spawning, .spawned ok => some ⟨s, if ok then .configuring else .done {}⟩
  | .configuring, .nonblocking ok =>
      some ⟨s, if ok then .starting else .killing (some { status := .readError })⟩
  | .starting, .clock now =>
      let s := { s with deadline := now + options.timeout * 1000000, status := .success }
      some ⟨s, loopHead s⟩
  | .timing, .clock now =>
      if remaining s now ≤ 0 then
        let s := { s with status := .timedOut }
        some ⟨s, leaveLoop s⟩
      else some ⟨s, .polling (pollWait s (remaining s now))⟩
  | .polling wait, .poll wait' answer =>
      if wait ≠ wait' then none
      else if answer = .failed then
        let s := { s with status := .readError }
        some ⟨s, leaveLoop s⟩
      else some ⟨s, drainOutput s⟩
  | .draining stream reads, .read stream' answer =>
      if stream ≠ stream' then none else drainStep options.outputLimit s stream reads answer
  | .reaping, .wait answer =>
      if answer = .interrupted then some state
      else some ⟨s.reap answer, loopHead (s.reap answer)⟩
  | .killing returned, .kill =>
      some ⟨s, if s.reaped then .done (returned.getD (finalResult s)) else .terminating returned⟩
  | .terminating returned, .wait answer =>
      match answer with
      | .running => none
      | .interrupted => some state
      | answer => some ⟨s.reap answer, .done (returned.getD (finalResult (s.reap answer)))⟩
  | _, _ => none

/-- The state after a sequence of answers. -/
def run (options : CommandOptions) (events : List Event) : Option State :=
  EventMachine.run (step options) {} events

/-- `execute_command`: the result, once the answers are complete. -/
def executeCommand (options : CommandOptions) (events : List Event) : Option CommandResult :=
  match run options events with
  | some ⟨_, .done result⟩ => some result
  | _ => none

end Sysal.CommandReader
