import EngineTrials.Engine.Capture

/-!
# Supervision

A started program is looked at again and again until it has ended and its streams are closed, or
until its time is up. The supervisor is a function of what it sees: it is given one look after the
other, says what it does to the program, and at last what became of it. A program that did not end
by itself is killed and waited for before a verdict is given. What is left of its streams is thrown
away; they are waited for no longer than a moment, since others may hold them open.
-/
namespace EngineTrials
open Text

/-- A reading of a clock that never goes back, in nanoseconds. -/
structure Instant where
  nanoseconds : Nat
deriving DecidableEq, Inhabited

namespace Instant

/-- The last second that the clock can show. -/
def lastSecond : Nat := 9223372036854775807

/-- The instant a while later, if the clock gets that far. -/
def after? (i : Instant) (d : Duration) : Option Instant :=
  let n := i.nanoseconds + d.nanoseconds
  if n / nanosPerSecond ≤ lastSecond then some ⟨n⟩ else none

/-- How long it is since an earlier instant. -/
def since (now start : Instant) : Duration := ⟨now.nanoseconds - start.nanoseconds⟩

end Instant

/-- How far the writing of the input has come. -/
inductive WriterState
  | unfinished
  | complete
  /-- Nobody reads any more, which is the program's own business. -/
  | unread
  | failed (cause : String)
deriving DecidableEq, Inhabited

inductive ChildState
  | running
  | exited (code : Int)
  /-- The system does not say. -/
  | unknown (cause : String)
deriving DecidableEq, Inhabited

/-- What the supervisor can see at one instant. A stream is seen once nobody can write to it. -/
structure Look where
  now : Instant
  writer : WriterState
  child : ChildState
  stdout : Option Bytes
  stderr : Option Bytes
deriving DecidableEq, Inhabited

namespace Supervisor

/-- What is asked for: since when the program runs and for how long it may. -/
structure Watch where
  start : Instant
  limit : Duration
deriving DecidableEq, Inhabited

/-- What the supervisor waits for. -/
inductive Phase
  /-- For the program to end; `writing` until the end of the writing was seen. -/
  | running (writing : Bool)
  | awaitingWriter (code : Int) (deadline : Instant)
  | awaitingStdout (code : Int) (deadline : Instant)
  /-- `stdout` is missing if it was still open at the deadline. -/
  | awaitingStderr (code : Int) (deadline : Instant) (stdout : Option Bytes)
  /-- For the streams of a call that failed at an instant, whose contents nobody wants any more. -/
  | discardingStdout (error : EngineError) (failed : Instant)
  | discardingStderr (error : EngineError) (failed : Instant)
deriving DecidableEq, Inhabited

/-- What the supervisor does to the program. -/
inductive Act
  /-- The system told that the program ended, and forgot about it. -/
  | collect (code : Int)
  | kill
  /-- Waits for a program that was killed. -/
  | wait
deriving DecidableEq, Inhabited

inductive Verdict
  | answered (answer : Except EngineError Capture)
  /-- The program ended, but the deadline for its streams is later than the clock can show. -/
  | beyondClock

/-- What follows from a look. -/
inductive Progress
  /-- Look again at once. -/
  | again (phase : Phase)
  /-- Look again after an interval. -/
  | later (phase : Phase)
  | finished (verdict : Verdict)

/-- How long the streams of a call that failed are waited for. -/
def grace : Duration := .ofMillis 200

/-- Gives up a program that has not ended. -/
def abandon (now : Instant) (e : EngineError) : List Act × Progress :=
  ([.kill, .wait], .again (.discardingStdout e now))

/-- What follows when the program has ended; `writing` if the end of the writing was not seen. -/
def afterExit (w : Watch) (writing : Bool) (code : Int) : Progress :=
  match w.start.after? w.limit with
  | none => .finished .beyondClock
  | some deadline =>
    .again (if writing then .awaitingWriter code deadline else .awaitingStdout code deadline)

def lookAtRunning (w : Watch) (writing : Bool) (look : Look) : List Act × Progress :=
  match writing, look.writer with
  | true, .failed cause => abandon look.now (.input cause)
  | _, writer =>
    let writing := writing && decide (writer = .unfinished)
    match look.child with
    | .exited code => ([.collect code], afterExit w writing code)
    | .unknown cause => abandon look.now (.io cause)
    | .running =>
      if w.limit.nanoseconds ≤ (look.now.since w.start).nanoseconds then
        abandon look.now (.timeout w.limit)
      else ([], .later (.running writing))

/-- Waits on in a phase unless the deadline has come. -/
def untilDeadline (deadline now : Instant) (phase : Phase) (otherwise : Progress) : Progress :=
  if deadline.nanoseconds ≤ now.nanoseconds then otherwise else .later phase

/-- Goes on once a stream is closed or the grace is over. -/
def discard (failed now : Instant) (stream : Option Bytes) (phase : Phase) (next : Progress) :
    Progress :=
  if stream.isSome || grace.nanoseconds ≤ (now.since failed).nanoseconds then next
  else .later phase

/-- The verdict on a program whose streams are not waited for any longer. -/
def conclude (w : Watch) (code : Int) (now : Instant) (stdout stderr : Option Bytes) : Progress :=
  match stdout, stderr with
  | some out, some err => .finished (.answered (.ok ⟨code, out, err, some (now.since w.start)⟩))
  | _, _ => .finished (.answered (.error (.timeout w.limit)))

/-- One look. -/
def step (w : Watch) (phase : Phase) (look : Look) : List Act × Progress :=
  match phase with
  | .running writing => lookAtRunning w writing look
  | .awaitingWriter code deadline =>
    match look.writer with
    | .unfinished =>
      ([], untilDeadline deadline look.now phase
        (.again (.discardingStdout (.timeout w.limit) look.now)))
    | .failed cause => ([], .again (.discardingStdout (.input cause) look.now))
    | .complete | .unread => ([], .again (.awaitingStdout code deadline))
  | .awaitingStdout code deadline =>
    match look.stdout with
    | some out => ([], .again (.awaitingStderr code deadline (some out)))
    | none =>
      ([], untilDeadline deadline look.now phase (.again (.awaitingStderr code deadline none)))
  | .awaitingStderr code deadline stdout =>
    match look.stderr with
    | some err => ([], conclude w code look.now stdout (some err))
    | none => ([], untilDeadline deadline look.now phase (conclude w code look.now stdout none))
  | .discardingStdout error failed =>
    ([], discard failed look.now look.stdout phase (.again (.discardingStderr error failed)))
  | .discardingStderr error failed =>
    ([], discard failed look.now look.stderr phase (.finished (.answered (.error error))))

/-- The verdict on what the looks show, with all that was done to the program, or nothing if the
looks end before there is one. -/
def run (w : Watch) : Phase → List Look → List Act × Option Verdict
  | _, [] => ([], none)
  | phase, look :: rest =>
    match step w phase look with
    | (acts, .finished verdict) => (acts, some verdict)
    | (acts, .again next) | (acts, .later next) =>
      let (more, verdict) := run w next rest
      (acts ++ more, verdict)

/-- How long it is from one look to the next. -/
def interval : Duration := .ofMillis 5

/-- Supervises a program that shows `look t` at the instant `t`. `patience` bounds the number of
looks. -/
def watch (w : Watch) (look : Instant → Look) : Nat → Phase → Instant → Option Verdict
  | 0, _, _ => none
  | patience + 1, phase, now =>
    match (step w phase (look now)).2 with
    | .finished verdict => some verdict
    | .again next => watch w look patience next now
    | .later next => watch w look patience next ⟨now.nanoseconds + interval.nanoseconds⟩

/-- All phases but those after a failure wait until the deadline at most, and these for the grace;
each takes at most one look more. -/
def patienceFor (limit : Duration) : Nat :=
  limit.nanoseconds / interval.nanoseconds + grace.nanoseconds / interval.nanoseconds + 10

end Supervisor

end EngineTrials
