import EngineTrials.Shell.Command

/-!
# Pipes

What was written to a pipe and when, and what is still to be read from it. A reader waits until the
text it asks for has been written, or until nobody is left who could write. Times are nanoseconds
since the program was started.
-/
namespace EngineTrials.Shell

/-- Text that was written at one time. -/
structure Chunk where
  time : Nat
  text : ByteText
deriving Inhabited

structure Pipe where
  /-- Written but not yet open for reading, the latest first. -/
  written : List Chunk := []
  /-- To be read, the earliest first. -/
  waiting : List Chunk := []
  /-- What follows again and again after that. -/
  endless : ByteText := []
  /-- When the last writer is gone. -/
  closes : Nat := 0
deriving Inhabited

/-- What a read gave, when it was all there, and the pipe after it. -/
structure Taken where
  text : ByteText
  time : Nat
  pipe : Pipe

namespace Pipe

/-- A pipe that holds a text which nobody adds to. -/
def ofText (text : ByteText) : Pipe :=
  { waiting := if text.isEmpty then [] else [⟨0, text⟩] }

def write (time : Nat) (text : ByteText) (p : Pipe) : Pipe :=
  if text.isEmpty then p else { p with written := ⟨time, text⟩ :: p.written }

/-- All that was written, in order of time. -/
def inOrder (p : Pipe) : List Chunk :=
  p.written.reverse.mergeSort fun a b => decide (a.time ≤ b.time)

/-- Opens what was written for reading. -/
def turn (p : Pipe) : Pipe :=
  { p with written := [], waiting := p.waiting ++ p.inOrder }

def textOf (chunks : List Chunk) : ByteText := chunks.flatMap Chunk.text

/-- Time at which the last of the chunks was there. -/
def lastTime (chunks : List Chunk) : Nat :=
  chunks.foldl (fun t c => max t c.time) 0

/-- All text up to the end; an endless pipe has none. -/
def takeAll? (p : Pipe) : Option Taken :=
  if p.endless.isEmpty then
    some ⟨textOf p.waiting, max p.closes (lastTime p.waiting), { p with waiting := [] }⟩
  else none

/-- The first `n` characters of a repeated text, and the text as it goes on. -/
def repeated (text : ByteText) (n : Nat) : ByteText × ByteText :=
  let k := text.length
  let all := (List.replicate (n / k + 1) text).flatten
  (all.take n, text.drop (n % k) ++ text.take (n % k))

/-- At most `n` characters; fewer only at the end. -/
def takeFrom (p : Pipe) : Nat → List Chunk → Taken
  | n, [] =>
    if n = 0 then ⟨[], 0, { p with waiting := [] }⟩
    else if p.endless.isEmpty then ⟨[], p.closes, { p with waiting := [] }⟩
    else
      let (text, endless) := repeated p.endless n
      ⟨text, 0, { p with waiting := [], endless }⟩
  | n, c :: rest =>
    if n = 0 then ⟨[], 0, { p with waiting := c :: rest }⟩
    else
      let front := c.text.take n
      if front.length < c.text.length then
        ⟨front, c.time, { p with waiting := ⟨c.time, c.text.drop n⟩ :: rest }⟩
      else
        let more := takeFrom p (n - front.length) rest
        ⟨front ++ more.text, max c.time more.time, more.pipe⟩

def take (n : Nat) (p : Pipe) : Taken := p.takeFrom n p.waiting

/-- What is there at once: the first chunk, or nothing at the end. -/
def takeBlock (limit : Nat) (p : Pipe) : Taken :=
  match p.waiting with
  | c :: _ => p.take (min limit c.text.length)
  | [] => if p.endless.isEmpty then ⟨[], p.closes, p⟩ else p.take limit

/-- Up to and with the next line end, and whether there was one. -/
def takeLineFrom (p : Pipe) : List Chunk → Taken × Bool
  | [] =>
    let line := p.endless.takeWhile (· != '\n')
    if line.length < p.endless.length then
      (p.takeFrom (line.length + 1) [], true)
    else (⟨[], p.closes, { p with waiting := [] }⟩, false)
  | c :: rest =>
    let line := c.text.takeWhile (· != '\n')
    if line.length < c.text.length then
      let after := c.text.drop (line.length + 1)
      let waiting := if after.isEmpty then rest else ⟨c.time, after⟩ :: rest
      (⟨line ++ ['\n'], c.time, { p with waiting }⟩, true)
    else
      let (more, found) := takeLineFrom p rest
      (⟨line ++ more.text, max c.time more.time, more.pipe⟩, found)

def takeLine (p : Pipe) : Taken × Bool := p.takeLineFrom p.waiting

/-- How much can be read without waiting for anyone. -/
def size (p : Pipe) : Nat := p.waiting.foldl (fun n c => n + c.text.length) 0

end Pipe

end EngineTrials.Shell
