import EngineTrials.Engine.Scripted
import Mathlib.Data.List.Forall2
import Mathlib.Data.List.Induction

/-!
# What a scripted engine answers over time

Responses may be queued for a scripted engine at any time between two calls. What it answers is told
by a history, which knows of all responses that were ever queued and of how many were used, and says
for each call which one that was, or where else its response came from, and by what the caller sees
of a response. Of the engine itself the history knows nothing: that the queue holds the unused
responses in order is what is shown, operation by operation.
-/
namespace EngineTrials
namespace ScriptedEngine

/-- What is done to a scripted engine. -/
inductive Operation
  | push (response : Response)
  | run (call : Call)
deriving DecidableEq

/-- The responses that are queued by some operations. -/
def pushes (ops : List Operation) : List Response :=
  ops.filterMap fun
    | .push r => some r
    | .run _ => none

/-- The calls that are made by some operations. -/
def calls (ops : List Operation) : List Call :=
  ops.filterMap fun
    | .push _ => none
    | .run call => some call

/-- The answers so far, and the session after them. -/
structure Played where
  answers : List (Except EngineError Capture) := []
  session : Session (List Response) := ⟨[], []⟩

/-- One more operation. -/
def perform (e : ScriptedEngine) (p : Played) : Operation → Played
  | .push r => { p with session := push r p.session }
  | .run call =>
    let (answer, session) := e.runner.invoke call p.session
    ⟨p.answers ++ [answer], session⟩

theorem pushes_push (ops : List Operation) (r : Response) :
    pushes (ops ++ [.push r]) = pushes ops ++ [r] := List.filterMap_append

theorem calls_push (ops : List Operation) (r : Response) :
    calls (ops ++ [.push r]) = calls ops :=
  List.filterMap_append.trans (List.append_nil _)

/-- A call with the response to it, and which of all queued responses this is, if it is one. -/
structure Turn where
  call : Call
  place : Option Nat
  response : Response
deriving DecidableEq

namespace Turn

def answer (t : Turn) : Except EngineError Capture := t.response.answer t.call

/-- The places of the queued responses that were used, in the order of use. -/
def places (turns : List Turn) : List Nat := turns.filterMap Turn.place

end Turn

/-- The turns that a call can be after so many responses were queued and so many of them used. -/
inductive Responds (e : ScriptedEngine) (queued : List Response) (used : Nat) : Turn → Prop
  /-- The oldest response that was not used yet. -/
  | queue {call : Call} {r : Response} (waiting : queued[used]? = some r) :
      Responds e queued used ⟨call, some used, r⟩
  | program {call : Call} {r : Response} (empty : queued.length ≤ used)
      (fixed : e.byProgram.lookup (programName call.command) = some r) :
      Responds e queued used ⟨call, none, r⟩
  | responder {call : Call} {f : Command → String → Response} (empty : queued.length ≤ used)
      (free : e.byProgram.lookup (programName call.command) = none) (given : e.responder = some f) :
      Responds e queued used ⟨call, none, f call.command call.input⟩
  | silence {call : Call} (empty : queued.length ≤ used)
      (free : e.byProgram.lookup (programName call.command) = none) (bare : e.responder = none) :
      Responds e queued used ⟨call, none, .complete ⟨0, [], [], none⟩⟩

/-- Operations and the turns of the calls among them. -/
inductive History (e : ScriptedEngine) : List Operation → List Turn → Prop
  | start : History e [] []
  | push {ops : List Operation} {turns : List Turn} (before : History e ops turns) (r : Response) :
      History e (ops ++ [.push r]) turns
  | run {ops : List Operation} {turns : List Turn} {t : Turn} (before : History e ops turns)
      (turn : Responds e (pushes ops) (Turn.places turns).length t) :
      History e (ops ++ [.run t.call]) (turns ++ [t])

/-- How a history and an engine that was played belong together. -/
structure Matches (ops : List Operation) (turns : List Turn) (p : Played) : Prop where
  answers : p.answers = turns.map Turn.answer
  made : p.session.calls = calls ops
  called : turns.map Turn.call = calls ops
  places : Turn.places turns = List.range (Turn.places turns).length
  enough : (Turn.places turns).length ≤ (pushes ops).length
  waiting : p.session.state = (pushes ops).drop (Turn.places turns).length

theorem Matches.push {ops : List Operation} {turns : List Turn} {p : Played}
    (h : Matches ops turns p) (e : ScriptedEngine) (r : Response) :
    Matches (ops ++ [.push r]) turns (e.perform p (.push r)) where
  answers := h.answers
  made := by rw [calls_push, ← h.made]; rfl
  called := by rw [calls_push, h.called]
  places := h.places
  enough := by
    rw [pushes_push, List.length_append]
    exact Nat.le_add_right_of_le h.enough
  waiting := by
    rw [pushes_push, List.drop_append_of_le_length h.enough, ← h.waiting]
    rfl

end ScriptedEngine
end EngineTrials
