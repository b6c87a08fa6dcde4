import EngineTrials.Proofs.DistinctWalk
import EngineTrials.Proofs.EscapedRoot
import EngineTrials.Proofs.PathOrder

/-!
# Which files are discovered twice

The files discovered are sorted, but nothing takes a file out that the walk has met before. None is
there twice if the pattern has one elastic place at most, whatever the root is. With two of them, a
file can be listed once for each way to share the names above it out among them.
-/
namespace EngineTrials

namespace Glob
open EngineTrials.Path Location

theorem isRecursive_literally (name : List Char) : isRecursive (literally name) = false := by
  cases name with
  | nil => rfl
  | cons c cs =>
    rw [literally_cons, isRecursive, beq_eq_false_iff_ne]
    intro h
    have hhead := (List.cons.inj h).1
    split at hhead <;> cases hhead

theorem matchesTokens_literally_nil {name : List Char} (h : name ≠ []) :
    matchesTokens (literally name) [] = false := by
  obtain ⟨c, cs, rfl⟩ := List.exists_cons_of_ne_nil h
  rw [literally_cons]
  cases isMeta c <;> rfl

/-- Only a name of one character can match `.`, and `.` itself needs no wildcard for it. -/
theorem meetsPoint_literally (name : List Char) : meetsPoint (literally name) = false := by
  cases name with
  | nil => rfl
  | cons c cs =>
    by_cases hcs : cs = []
    · subst hcs
      rw [literally_cons]
      cases isMeta c <;> rfl
    · have hmatches : matchesName (literally (c :: cs)) "." = false := by
        have hone : ".".toList = ['.'] := rfl
        rw [matchesName, hone, literally_cons]
        cases isMeta c <;>
          simp only [Bool.false_eq_true, if_true, if_false, matchesTokens,
            matchesTokens_literally_nil hcs, Bool.and_false]
      rw [meetsPoint, hmatches, Bool.and_false]

/-- The root of a discovery adds no elastic place. -/
theorem elasticity_literally_append (names : List (List Char)) (cs : List Component) :
    elasticity (names.map literally ++ cs) = elasticity cs := by
  induction names with
  | nil => rfl
  | cons name names ih =>
    rw [List.map_cons, List.cons_append, elasticity_cons (isRecursive_literally name),
      meetsPoint_literally, if_neg Bool.false_ne_true, Nat.zero_add, ih]

/-- Where a walk through a file system begins. -/
def start (p : Pattern) (fs : FileSystem) : Location :=
  let trail := if p.absolute then [] else fs.currentTrail
  let above := trail.tail.map Prod.snd ++ (if trail.isEmpty then [] else [fs.root])
  ⟨if p.absolute then ⟨"/"⟩ else ⟨"."⟩, fs.nodeAt trail, above⟩

theorem select_eq (p : Pattern) (fs : FileSystem) :
    p.select fs =
      (walk p.components (start p fs)).filter fun l => !p.directoriesOnly || l.node.isDirectory :=
  rfl

theorem isSound_start (p : Pattern) (fs : FileSystem) : (start p fs).IsSound := by
  have htrail := fs.isTrail_from p.absolute
  rw [start]
  generalize (if p.absolute then [] else fs.currentTrail) = trail at htrail ⊢
  have habove : trail.tail.map Prod.snd ++ (if trail.isEmpty then [] else [fs.root]) =
      (fs.lineage trail).tail := by
    cases trail <;> rfl
  rw [habove]
  exact
    { path := by
        have hchars : (if p.absolute then (⟨"/"⟩ : Path) else ⟨"."⟩).chars ≠ [] := by
          cases p.absolute <;> decide
        exact hchars
      node := htrail.nodeAt_wellFormed
      above := fun node hmem =>
        ⟨htrail.wellFormed node (List.mem_of_mem_tail hmem), htrail.isDirectory node hmem⟩ }

theorem apart_select {p : Pattern} (hp : elasticity p.components ≤ 1) (fs : FileSystem) :
    Apart (p.select fs) := by
  have hstart := isSound_start p fs
  rw [select_eq]
  refine Apart.filter ?_ _
  cases hcomponents : p.components with
  | nil => exact List.Pairwise.nil
  | cons c rest =>
    rw [hcomponents] at hp
    exact apart_onward hstart (c :: rest) hp

end Glob

namespace Discovery
open Glob

theorem caseFiles_of_read {root : Path} {pattern : String} {p : Pattern}
    (hp : Pattern.read (fullPattern root pattern) = .ok p) (fs : FileSystem) :
    caseFiles fs root pattern = .ok (Path.sort
      (((p.select fs).filter fun l => l.node.isRegular && !isSchema l.path).map
        Glob.Location.path)) := by
  rw [caseFiles, hp]
  rfl

/-- A file system with the files `t/a/0.yml` and `t/a/a/x.yml` and nothing else. -/
def nested : FileSystem :=
  let file := FileNode.file [] false
  let inner := FileNode.directory (.cons "x.yml" file .nil)
  let outer := FileNode.directory (.cons "0.yml" file (.cons "a" inner .nil))
  ⟨.directory (.cons "t" (.directory (.cons "a" outer .nil)) .nil), [], by decide +kernel⟩

/-- A pattern with one elastic place at most lists no file twice. -/
theorem caseFiles_strictly_ascending (fs : FileSystem) {root : Path} {pattern : String}
    {p : Pattern} {cs : List Component} (hp : Pattern.read (fullPattern root pattern) = .ok p)
    (hcs : readComponents (componentTexts pattern.toList) = .ok cs) (hplaces : elasticity cs ≤ 1) :
    ∃ files, caseFiles fs root pattern = .ok files ∧
      files.Pairwise fun a b => Path.compare a b = .lt := by
  obtain ⟨names, cs', hcs', hcomponents, -⟩ := read_fullPattern hp
  have helasticity : elasticity p.components ≤ 1 := by
    rw [hcs] at hcs'
    cases hcs'
    rw [hcomponents, elasticity_literally_append]
    exact hplaces
  have hapart := (apart_select helasticity fs).filter
    fun l => l.node.isRegular && !isSchema l.path
  refine ⟨_, caseFiles_of_read hp fs, Path.sort_strictly_ascending ?_⟩
  refine List.pairwise_map.mpr (hapart.imp fun hne hsame => hne ?_)
  rw [Path.steps, hsame, Path.steps]

/-- The pattern that is built in has one `**`, and nothing else in it is elastic. -/
theorem caseFiles_strictly_ascending_default :
    let cs : List Component := [[.anyDirectories], [.noneOf [.single '_'], .anySequence, .char '.',
      .char 'y', .char 'm', .char 'l']]
    Pattern.read (fullPattern ⟨"t"⟩ defaultPattern) = .ok ⟨false, [.char 't'] :: cs, false⟩ ∧
    readComponents (componentTexts defaultPattern.toList) = .ok cs ∧ elasticity cs = 1 ∧
    ∃ files, caseFiles nested ⟨"t"⟩ defaultPattern = .ok files ∧
      files.Pairwise fun a b => Path.compare a b = .lt := by
  intro cs
  have hp : Pattern.read (fullPattern ⟨"t"⟩ defaultPattern) =
      .ok ⟨false, [.char 't'] :: cs, false⟩ := by decide +kernel
  have hcs : readComponents (componentTexts defaultPattern.toList) = .ok cs := by decide +kernel
  have hplaces : elasticity cs = 1 := by decide +kernel
  exact ⟨hp, hcs, hplaces,
    caseFiles_strictly_ascending nested hp hcs (Nat.le_of_eq hplaces)⟩

/-- For `t/a/a/x.yml` the `**` can be nothing and then the second `a`, or the first `a` and then
nothing. -/
theorem caseFiles_lists_twice :
    let files : List Path := [⟨"t/a/0.yml"⟩, ⟨"t/a/a/x.yml"⟩, ⟨"t/a/a/x.yml"⟩]
    caseFiles nested ⟨"t"⟩ "**/a/**/*.yml" = .ok files ∧
      ¬ files.Pairwise fun a b => Path.compare a b = .lt := by
  intro files
  let p : Pattern := ⟨false, [[.char 't'], [.anyDirectories], [.char 'a'], [.anyDirectories],
    [.anySequence, .char '.', .char 'y', .char 'm', .char 'l']], false⟩
  have hp : Pattern.read (fullPattern ⟨"t"⟩ "**/a/**/*.yml") = .ok p := by decide +kernel
  have hmet : ((p.select nested).filter fun l => l.node.isRegular && !isSchema l.path).map
      Glob.Location.path = files := by decide +kernel
  have hsort : Path.sort files = files := List.mergeSort_of_pairwise (by decide +kernel)
  have hsame : Path.compare ⟨"t/a/a/x.yml"⟩ ⟨"t/a/a/x.yml"⟩ = .eq := Path.compare_eq_iff.mpr rfl
  refine ⟨?_, fun h => ?_⟩
  · rw [caseFiles_of_read hp, hmet, hsort]
  · have hless := List.pairwise_pair.mp (List.pairwise_cons.mp h).2
    rw [hsame] at hless
    cases hless

end Discovery

end EngineTrials
