import EngineTrials.Stage.Failure
import EngineTrials.Trial.Tally

/-!
# Counters of a run

A tally for every stage seen so far, one for the outcomes of required cases, and the number of files
that could not be loaded. Workers keep counters of their own, which are merged at the end.
-/
namespace EngineTrials

/-- A value for each stage. -/
structure PerStage (α : Type) where
  lexer : α
  parser : α
  sema : α
  end2end : α
deriving DecidableEq, Inhabited

namespace PerStage

def replicate {α : Type} (a : α) : PerStage α := ⟨a, a, a, a⟩

def get {α : Type} (p : PerStage α) : Stage → α
  | .lexer => p.lexer
  | .parser => p.parser
  | .sema => p.sema
  | .end2end => p.end2end

def set {α : Type} (p : PerStage α) (s : Stage) (a : α) : PerStage α :=
  match s with
  | .lexer => { p with lexer := a }
  | .parser => { p with parser := a }
  | .sema => { p with sema := a }
  | .end2end => { p with end2end := a }

def map {α β : Type} (f : α → β) (p : PerStage α) : PerStage β :=
  ⟨f p.lexer, f p.parser, f p.sema, f p.end2end⟩

def zipWith {α : Type} (f : α → α → α) (p q : PerStage α) : PerStage α :=
  ⟨f p.lexer q.lexer, f p.parser q.parser, f p.sema q.sema, f p.end2end q.end2end⟩

@[ext] theorem ext {α : Type} {p q : PerStage α} (h : ∀ s, p.get s = q.get s) : p = q := by
  cases p; cases q
  have h₁ := h .lexer; have h₂ := h .parser; have h₃ := h .sema; have h₄ := h .end2end
  simp_all [get]

theorem get_set {α : Type} (p : PerStage α) (s t : Stage) (a : α) :
    (p.set s a).get t = if s = t then a else p.get t := by
  cases s <;> cases t <;> rfl

@[simp] theorem get_zipWith {α : Type} (f : α → α → α) (p q : PerStage α) (s : Stage) :
    (zipWith f p q).get s = f (p.get s) (q.get s) := by
  cases s <;> rfl

end PerStage

structure Counters (ν : Type := Nat) where
  /-- Nothing for a stage that no outcome was recorded for. -/
  tallies : PerStage (Option (Tally ν))
  required : Tally ν
  badFiles : ν
deriving DecidableEq, Inhabited

namespace Counters

variable {ν μ : Type}

instance [OfNat ν 0] : EmptyCollection (Counters ν) := ⟨⟨.replicate none, {}, 0⟩⟩

section Counting

variable [Add ν] [OfNat ν 0] [OfNat ν 1]

/-- Counts the outcome of a stage, under the stage and, if the case is required, once more. -/
def record (c : Counters ν) (o : StageOutcome) (required : Bool) : Counters ν :=
  { c with
    tallies := c.tallies.set o.stage (some (((c.tallies.get o.stage).getD {}).record o.passed))
    required := if required then c.required.record o.passed else c.required }

def recordAll (c : Counters ν) (outcomes : List StageOutcome) (required : Bool) : Counters ν :=
  outcomes.foldl (fun c o => c.record o required) c

end Counting

def recordBadFile [Add ν] [OfNat ν 1] (c : Counters ν) : Counters ν :=
  { c with badFiles := c.badFiles + 1 }

/-- The sum of two tallies of which either may be missing. -/
def mergeTallies [Add ν] : Option (Tally ν) → Option (Tally ν) → Option (Tally ν)
  | none, b => b
  | a, none => a
  | some a, some b => some (a.merge b)

def merge [Add ν] (a b : Counters ν) : Counters ν :=
  { tallies := .zipWith mergeTallies a.tallies b.tallies
    required := a.required.merge b.required
    badFiles := a.badFiles + b.badFiles }

/-- The tally of a stage, empty if the stage was not seen. -/
def stage [OfNat ν 0] (c : Counters ν) (s : Stage) : Tally ν := (c.tallies.get s).getD {}

/-- The stages seen, in dependency order. -/
def stages (c : Counters ν) : List (Stage × Tally ν) :=
  Stage.all.filterMap fun s => (c.tallies.get s).map fun t => (s, t)

/-- All outcomes, whether of required cases or not. -/
def total [Add ν] [OfNat ν 0] (c : Counters ν) : Tally ν :=
  c.stages.foldl (fun sum st => sum.merge st.2) {}

/-- The same counters in counts of another type. -/
def map (f : ν → μ) (c : Counters ν) : Counters μ :=
  ⟨c.tallies.map (Option.map (Tally.map f)), c.required.map f, f c.badFiles⟩

end Counters

end EngineTrials
