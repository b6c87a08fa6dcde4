import EngineTrials.Shell.Machine

/-!
# Signals

Names and numbers of signals, and what becomes of a process that gets one.
-/
namespace EngineTrials.Shell
open Text

namespace Signal

def names : List (String × Nat) :=
  [("EXIT", 0), ("HUP", 1), ("INT", 2), ("QUIT", 3), ("ILL", 4), ("TRAP", 5), ("ABRT", 6),
    ("BUS", 7),
    ("FPE", 8), ("KILL", 9), ("USR1", 10), ("SEGV", 11), ("USR2", 12), ("PIPE", 13), ("ALRM", 14),
    ("TERM", 15), ("STKFLT", 16), ("CHLD", 17), ("CONT", 18), ("STOP", 19), ("TSTP", 20),
    ("TTIN", 21), ("TTOU", 22), ("URG", 23), ("XCPU", 24), ("XFSZ", 25), ("VTALRM", 26),
    ("PROF", 27), ("WINCH", 28), ("IO", 29), ("PWR", 30), ("SYS", 31)]

/-- The number of a signal that is given by name, with or without `SIG`, or by number. -/
def number? (text : ByteText) : Option Nat :=
  match natural? 10 text with
  | some n => if n ≤ 64 then some n else none
  | none =>
    let name := String.ofList (text.map Char.toUpper)
    names.lookup (if name.startsWith "SIG" then (name.drop 3).toString else name)

/-- Signals that do nothing unless they are waited for. -/
def isHarmless (n : Nat) : Bool := [0, 17, 18, 23, 28].contains n

/-- Signals that stop a process for good, as nobody continues it. -/
def suspends (n : Nat) : Bool := [19, 20, 21, 22].contains n

/-- What a shell says of a program that a signal ended. -/
def obituary? (n : Nat) : Option String :=
  [(1, "Hangup"), (3, "Quit"), (4, "Illegal instruction"), (5, "Trace/breakpoint trap"),
    (6, "Aborted"), (7, "Bus error"), (8, "Floating point exception"), (9, "Killed"),
    (10, "User defined signal 1"), (11, "Segmentation fault"), (12, "User defined signal 2"),
    (14, "Alarm clock"), (15, "Terminated"), (16, "Stack fault"), (24, "CPU time limit exceeded"),
    (25, "File size limit exceeded"), (26, "Virtual timer expired"),
    (27, "Profiling timer expired"), (29, "I/O possible"), (30, "Power failure"),
    (31, "Bad system call")].lookup n

end Signal

namespace Action

/-- A signal to a process: to this shell, or to one of its jobs. False if there is no such
process. -/
def signal (target number : Nat) : Action Bool := do
  let p ← process
  let now ← clock
  if target = p.number then
    match p.traps.lookup number with
    | some command =>
      if number = 9 then throw (.signal target number)
      if !command.isEmpty then
        modifyProcess fun p => { p with pending := p.pending ++ [command] }
      return true
    | none =>
      if Signal.isHarmless number then return true
      if Signal.suspends number then throw .hung
      throw (.signal target number)
  else if p.jobs.any fun j => j.process == target then
    if number != 0 && !Signal.isHarmless number then
      modifyProcess fun p =>
        { p with jobs := p.jobs.map fun j =>
            if j.process = target ∧ now < j.ends then ⟨j.process, now, 128 + number⟩ else j }
      modifyMachine fun m =>
        { m with holds := m.holds.map fun h =>
            if h.process = target then { h with ends := min h.ends now } else h }
    return true
  else return false

end Action

end EngineTrials.Shell
