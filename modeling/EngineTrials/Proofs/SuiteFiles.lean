import EngineTrials.Proofs.Lines
import EngineTrials.Proofs.NamedDirectory
import Mathlib.Data.List.Pairwise

/-!
# Which suites list a file twice

The files of a suite are the case files below the directory that its name leads to, each of them
once. Suites are told apart by their names, and names that differ can lead to one directory, or to
one within the other; then the files of the inner one are listed for both.
-/
namespace EngineTrials

namespace Glob
open EngineTrials.Path Location

theorem path_start (p : Pattern) (fs : FileSystem) :
    (start p fs).path.isAbsolute = p.absolute ∧ (start p fs).path.steps = [] := by
  have hpath : (start p fs).path = if p.absolute then ⟨"/"⟩ else ⟨"."⟩ := rfl
  rw [hpath]
  cases p.absolute <;> decide +kernel

/-- A walk begins where paths start from. -/
theorem start_stands {p : Pattern} {q : Path} (h : q.isAbsolute = p.absolute) (fs : FileSystem) :
    (start p fs).Stands fs (fs.startOf q) := by
  obtain ⟨habsolute, hsteps⟩ := path_start p fs
  have hstart : fs.startOf (start p fs).path = fs.startOf q := by
    rw [FileSystem.startOf, habsolute, ← h, FileSystem.startOf]
  have htrail : (if p.absolute then [] else fs.currentTrail) = fs.startOf q := by
    rw [FileSystem.startOf, h]
  have hplace : fs.place (start p fs).path = (fs.startOf q).map Prod.fst := by
    rw [FileSystem.place, hsteps, hstart]
    rfl
  rw [start, htrail] at hplace ⊢
  exact
    { valid := fs.isTrail_from q.isAbsolute
      node := rfl
      above := by cases fs.startOf q <;> rfl
      place := hplace }

/-- The place of a location below another one tells the steps to it. -/
theorem steps_of_place {fs : FileSystem} {l r : Location}
    {trail front : Trail} (h : l.Stands fs trail) (hl : l.IsSound) (hr : r ∈ l.below)
    (htrail : fs.IsTrail (front ++ trail))
    (hplace : fs.place r.path = (front ++ trail).map Prod.fst) :
    r.path.steps = l.path.steps ++ stepsDown front := by
  obtain ⟨front', -, hstands, hsteps⟩ := below_stands h hl r hr
  rw [hstands.place] at hplace
  rw [hsteps, List.append_cancel_right (hstands.valid.eq_of_names htrail hplace)]

/-- No two locations below one are at the same place. -/
theorem pairwise_place_below {fs : FileSystem} {l : Location}
    {trail : Trail} (h : l.Stands fs trail) (hl : l.IsSound) :
    l.below.Pairwise fun a b => fs.place a.path ≠ fs.place b.path := by
  refine (below_spec hl).2.imp_of_mem fun {a b} ha hb hne hsame => hne ?_
  obtain ⟨front, -, hstands, hsteps⟩ := below_stands h hl a ha
  rw [hsteps, steps_of_place h hl hb hstands.valid (hsame ▸ hstands.place)]

end Glob

namespace Discovery
open Text Glob EngineTrials.Path Location

/-- Whether an entry of a directory is a case file. -/
def isCase (entry : String × FileNode) : Bool :=
  (entry.2.isRegular && !(entry.1.toList.head? == some '_')) && matchesName caseName entry.1

/-- The place of a case file below the end of a trail. -/
def IsCaseBelow (fs : FileSystem) (trail : Trail) (place : List String) : Prop :=
  ∃ entry front, fs.IsTrail (entry :: front ++ trail) ∧ isCase entry = true ∧
    place = (entry :: front ++ trail).map Prod.fst

/-- Whether a location is listed. -/
def isListed (r : Location) : Bool :=
  (r.node.isRegular && !isSchema r.path) && matchesName caseName r.name

theorem walk_default (base : Location) : walk [[.anyDirectories], caseName] base =
    base.below.filter fun r => matchesName caseName r.name := by
  have hname : isRecursive caseName = false := by decide
  rw [walk_recursive_cons hname]
  exact List.flatMap_singleton' _

theorem isListed_eq_isCase {fs : FileSystem} {r : Location} {entry : String × FileNode}
    {trail : Trail} (h : r.Stands fs (entry :: trail)) {s : List Path.Component}
    (hsteps : r.path.steps = s ++ [.name entry.1]) : isListed r = isCase entry := by
  have hnode : r.node = entry.2 := h.node
  rw [isListed, name_of_steps hsteps, hnode, isSchema, fileName?_of_steps hsteps, isCase]

theorem mem_cases_iff {fs : FileSystem} {base : Location}
    {trail : Trail} (h : base.Stands fs trail) (hbase : base.IsSound) (place : List String) :
    (∃ r ∈ base.below.filter isListed, fs.place r.path = place) ↔ IsCaseBelow fs trail place := by
  have hlast (entry : String × FileNode) (front : Trail) :
      base.path.steps ++ stepsDown (entry :: front) =
        (base.path.steps ++ stepsDown front) ++ [.name entry.1] := by
    rw [← List.singleton_append, stepsDown_append, ← List.append_assoc]
    rfl
  constructor
  · rintro ⟨r, hr, rfl⟩
    obtain ⟨hmem, hlisted⟩ := List.mem_filter.mp hr
    obtain ⟨front, hfront, hstands, hsteps⟩ := below_stands h hbase r hmem
    obtain ⟨entry, front, rfl⟩ := List.exists_cons_of_ne_nil hfront
    rw [hlast] at hsteps
    rw [isListed_eq_isCase hstands hsteps] at hlisted
    exact ⟨entry, front, hstands.valid, hlisted, hstands.place⟩
  · rintro ⟨entry, front, htrail, hcase, rfl⟩
    obtain ⟨r, hr, hstands⟩ := below_complete h hbase (List.cons_ne_nil entry front) htrail
    have hsteps := steps_of_place h hbase hr htrail hstands.place
    rw [hlast] at hsteps
    have hlisted : isListed r = true := by rw [isListed_eq_isCase hstands hsteps, hcase]
    exact ⟨r, List.mem_filter.mpr ⟨hr, hlisted⟩, hstands.place⟩

/-- What a walk that comes to a base lists, in order. -/
def casesBelow (base : Location) : List Path :=
  Path.sort ((base.below.filter isListed).map Glob.Location.path)

theorem casesBelow_spec {fs : FileSystem} {base : Location}
    {trail : Trail} (h : base.Stands fs trail) (hbase : base.IsSound) :
    ((casesBelow base).map fs.place).Nodup ∧
      ∀ place, place ∈ (casesBelow base).map fs.place ↔ IsCaseBelow fs trail place := by
  have hperm := (Path.sort_perm ((base.below.filter isListed).map Glob.Location.path)).map fs.place
  rw [List.map_map] at hperm
  constructor
  · refine hperm.nodup_iff.mpr (List.pairwise_map.mpr ?_)
    exact (pairwise_place_below h hbase).filter _
  · intro place
    rw [← mem_cases_iff h hbase place]
    exact hperm.mem_iff.trans List.mem_map

/-- The case files of a root are those below the directory that is searched, each of them once, or
there are none since there is no such directory. -/
theorem caseFiles_default (fs : FileSystem) (root : Path) :
    ∃ files, caseFiles fs root defaultPattern = .ok files ∧ (files.map fs.place).Nodup ∧
      (files = [] ∨ ∃ trail, fs.IsTrail trail ∧
        trail.map Prod.fst = fs.place (searched root) ∧
        ∀ place, place ∈ files.map fs.place ↔ IsCaseBelow fs trail place) := by
  obtain ⟨names, hnames, hnamesSteps, hread⟩ := read_default root
  let p : Pattern := ⟨(searched root).isAbsolute,
    names.map literally ++ [[.anyDirectories], caseName], false⟩
  have hfiles : caseFiles fs root defaultPattern = .ok (Path.sort
      (((p.select fs).filter fun l => l.node.isRegular && !isSchema l.path).map
        Glob.Location.path)) := caseFiles_of_read hread fs
  obtain ⟨o, hwalk, hbases⟩ := walk_literally hnames (isSound_start p fs)
  have hselect : p.select fs = o.toList.flatMap (walk [[.anyDirectories], caseName]) := by
    rw [← hwalk]
    exact List.filter_eq_self.mpr fun _ _ => rfl
  rw [hselect] at hfiles
  cases o with
  | none =>
    exact ⟨[], hfiles.trans (congrArg Except.ok List.mergeSort_nil), List.nodup_nil, .inl rfl⟩
  | some base =>
    have harrives := hbases base rfl
    obtain ⟨trail, hstands⟩ := harrives.stands fs _ (start_stands rfl fs)
    have hplace : trail.map Prod.fst = fs.place (searched root) := by
      obtain ⟨hstartAbsolute, hstartSteps⟩ := path_start p fs
      have hsteps : base.path.steps = (searched root).steps := by
        rw [harrives.steps, hstartSteps, hnamesSteps, List.nil_append]
      rw [← hstands.place]
      exact FileSystem.place_of_steps (harrives.absolute.trans hstartAbsolute)
        (hsteps.trans (List.append_nil _).symm)
    obtain ⟨hnodup, hmem⟩ := casesBelow_spec hstands harrives.sound
    refine ⟨casesBelow base, hfiles.trans ?_, hnodup, .inr ⟨trail, hstands.valid, hplace, hmem⟩⟩
    rw [Option.toList_some, List.flatMap_singleton, walk_default, List.filter_filter]
    rfl

/-- Of names in ascending order, each is kept once. -/
theorem eraseReps_loop (first : String) (rest earlier : List String)
    (h : (first :: rest).Pairwise (· ≤ ·)) : ∃ kept : List String,
      List.eraseRepsBy.loop (· == ·) first rest earlier = earlier.reverse ++ kept ∧
      kept.Pairwise (· < ·) ∧ ∀ name, name ∈ kept ↔ name ∈ first :: rest := by
  induction rest generalizing first earlier with
  | nil =>
    exact ⟨[first], List.reverse_cons, List.pairwise_singleton _ first, fun _ => Iff.rfl⟩
  | cons next rest ih =>
    obtain ⟨hfirst, hrest⟩ := List.pairwise_cons.mp h
    rw [List.eraseRepsBy.loop]
    by_cases hsame : first = next
    · subst hsame
      obtain ⟨kept, hloop, hascending, hmem⟩ := ih first earlier hrest
      refine ⟨kept, ?_, hascending, fun name => ?_⟩
      · rw [beq_self_eq_true]
        exact hloop
      · rw [hmem, List.mem_cons, List.mem_cons, List.mem_cons, or_self_left]
    · obtain ⟨kept, hloop, hascending, hmem⟩ := ih next (first :: earlier) hrest
      refine ⟨first :: kept, ?_, List.pairwise_cons.mpr ⟨fun name hname => ?_, hascending⟩,
        fun name => ?_⟩
      · rw [beq_eq_false_iff_ne.mpr hsame]
        exact hloop.trans (by rw [List.reverse_cons, List.append_assoc]; rfl)
      · have hnext : next ≤ name := by
          obtain rfl | hlater := List.mem_cons.mp ((hmem name).mp hname)
          · exact String.le_refl name
          · exact (List.pairwise_cons.mp hrest).1 name hlater
        refine String.not_le.mp fun hle => hsame ?_
        exact String.le_antisymm (hfirst next List.mem_cons_self) (String.le_trans hnext hle)
      · rw [List.mem_cons, hmem, List.mem_cons (b := first)]

theorem distinctSorted_ascending (names : List String) :
    (distinctSorted names).Pairwise (· < ·) ∧
      ∀ name, name ∈ distinctSorted names ↔ name ∈ names := by
  have hperm := List.mergeSort_perm names fun a b => decide (a ≤ b)
  have hascending := ascending_mergeSort names
  rw [distinctSorted]
  cases hsorted : names.mergeSort fun a b => decide (a ≤ b) with
  | nil =>
    rw [hsorted] at hperm
    exact ⟨List.Pairwise.nil, fun _ => hperm.mem_iff⟩
  | cons first rest =>
    rw [hsorted] at hperm hascending
    obtain ⟨kept, hkept, hkeptAscending, hmem⟩ := eraseReps_loop first rest [] hascending
    rw [List.eraseReps, List.eraseRepsBy, hkept]
    exact ⟨hkeptAscending, fun name => (hmem name).trans hperm.mem_iff⟩

theorem nodup_of_ascending {names : List String} (h : names.Pairwise (· < ·)) : names.Nodup := by
  refine List.Pairwise.imp (fun {a b} hlt => ?_) h
  rintro rfl
  exact String.lt_irrefl a hlt

theorem distinctSorted_spec (names : List String) :
    (distinctSorted names).Nodup ∧ ∀ name, name ∈ distinctSorted names ↔ name ∈ names :=
  (distinctSorted_ascending names).imp_left nodup_of_ascending

/-- The case files of a suite, which there always is a list of. -/
def filesOf (fs : FileSystem) (root : Path) (suite : String) : List Path :=
  (caseFiles fs (root.join ⟨suite⟩) defaultPattern).toOption.getD []

theorem caseFiles_suite (fs : FileSystem) (root : Path)
    (suite : String) :
    caseFiles fs (root.join ⟨suite⟩) defaultPattern = .ok (filesOf fs root suite) := by
  obtain ⟨files, hfiles, -⟩ := caseFiles_default fs (root.join ⟨suite⟩)
  rw [filesOf, hfiles]
  rfl

theorem suiteFiles_eq (fs : FileSystem) (root : Path)
    (suites : List String) :
    suiteFiles fs root suites = .ok (suites.flatMap (filesOf fs root)) := by
  induction suites with
  | nil => rfl
  | cons suite rest ih =>
    rw [suiteFiles, caseFiles_suite fs, ih]
    rfl

/-- The place of the directory that the name of a suite leads to. -/
def suitePlace (fs : FileSystem) (root : Path) (suite : String) : List String :=
  fs.place (searched (root.join ⟨suite⟩))

theorem filesOf_spec (fs : FileSystem) (root : Path)
    (suite : String) :
    ((filesOf fs root suite).map fs.place).Nodup ∧
      (filesOf fs root suite ≠ [] → ∃ trail, fs.IsTrail trail ∧
        trail.map Prod.fst = suitePlace fs root suite ∧
        ∀ place, place ∈ (filesOf fs root suite).map fs.place ↔ IsCaseBelow fs trail place) := by
  obtain ⟨files, hfiles, hnodup, hplaces⟩ := caseFiles_default fs (root.join ⟨suite⟩)
  obtain rfl := Except.ok.inj (hfiles.symm.trans (caseFiles_suite fs root suite))
  exact ⟨hnodup, hplaces.resolve_left⟩

theorem filesOf_ne_nil {fs : FileSystem} {root : Path} {suite : String} {place : List String}
    (h : place ∈ (filesOf fs root suite).map fs.place) : filesOf fs root suite ≠ [] :=
  List.map_eq_nil_iff.not.mp (List.ne_nil_of_mem h)

theorem IsCaseBelow.of_suffix {fs : FileSystem} {inner outer : Trail} {place : List String}
    (h : IsCaseBelow fs inner place) (hsuffix : outer <:+ inner) :
    IsCaseBelow fs outer place := by
  obtain ⟨between, rfl⟩ := hsuffix
  obtain ⟨entry, front, htrail, hcase, rfl⟩ := h
  refine ⟨entry, front ++ between, ?_, hcase, ?_⟩
  · rw [List.cons_append, List.append_assoc]
    exact htrail
  · rw [List.cons_append, List.cons_append, List.append_assoc]

/-- A suite lists the files of those that lead into its directory. -/
theorem mem_filesOf_of_nested {fs : FileSystem} {root : Path}
    {a b : String} (ha : filesOf fs root a ≠ [])
    (hnested : suitePlace fs root a <:+ suitePlace fs root b) {place : List String}
    (hplace : place ∈ (filesOf fs root b).map fs.place) :
    place ∈ (filesOf fs root a).map fs.place := by
  obtain ⟨outer, houter, houterPlace, houterFiles⟩ := (filesOf_spec fs root a).2 ha
  obtain ⟨inner, hinner, hinnerPlace, hinnerFiles⟩ := (filesOf_spec fs root b).2 (filesOf_ne_nil hplace)
  rw [← houterPlace, ← hinnerPlace] at hnested
  have hsuffix := houter.suffix_of_names hinner hnested
  exact (houterFiles place).mpr (((hinnerFiles place).mp hplace).of_suffix hsuffix)

/-- Only of suites that lead one into the directory of the other can both list a file. -/
theorem nested_of_mem_filesOf {fs : FileSystem} {root : Path}
    {a b : String} {place : List String} (ha : place ∈ (filesOf fs root a).map fs.place)
    (hb : place ∈ (filesOf fs root b).map fs.place) :
    suitePlace fs root a <:+ suitePlace fs root b ∨
      suitePlace fs root b <:+ suitePlace fs root a := by
  have hsome {suite : String} (h : place ∈ (filesOf fs root suite).map fs.place) :
      ∃ trail front, fs.IsTrail (front ++ trail) ∧ place = (front ++ trail).map Prod.fst ∧
        trail.map Prod.fst = suitePlace fs root suite := by
    obtain ⟨trail, -, htrailPlace, hfiles⟩ :=
      (filesOf_spec fs root suite).2 (filesOf_ne_nil h)
    obtain ⟨entry, front, htrail, -, hplace⟩ := (hfiles place).mp h
    exact ⟨trail, entry :: front, htrail, hplace, htrailPlace⟩
  obtain ⟨trail, front, htrail, hplace, hfirst⟩ := hsome ha
  obtain ⟨trail', front', htrail', hplace', hsecond⟩ := hsome hb
  have hsame : front ++ trail = front' ++ trail' :=
    htrail.eq_of_names htrail' (hplace.symm.trans hplace')
  rw [← hfirst, ← hsecond]
  have hsuffix : trail <:+ front' ++ trail' := hsame ▸ List.suffix_append front trail
  obtain h | h := List.suffix_or_suffix_of_suffix hsuffix (List.suffix_append front' trail')
  · exact .inl (h.map Prod.fst)
  · exact .inr (h.map Prod.fst)

/-- Suites list no file in common exactly if none leads into the directory of the other, or one of
the two has no files. -/
theorem disjoint_filesOf_iff (fs : FileSystem) (root : Path)
    (a b : String) :
    ((filesOf fs root a).map fs.place).Disjoint ((filesOf fs root b).map fs.place) ↔
      (suitePlace fs root a <:+ suitePlace fs root b ∨
        suitePlace fs root b <:+ suitePlace fs root a →
      filesOf fs root a = [] ∨ filesOf fs root b = []) := by
  constructor
  · intro hdisjoint hnested
    by_contra hnone
    obtain ⟨ha, hb⟩ := not_or.mp hnone
    obtain hnested | hnested := hnested
    · obtain ⟨place, hplace⟩ := List.exists_mem_of_ne_nil _ (List.map_eq_nil_iff.not.mpr hb)
      exact hdisjoint (mem_filesOf_of_nested ha hnested hplace) hplace
    · obtain ⟨place, hplace⟩ := List.exists_mem_of_ne_nil _ (List.map_eq_nil_iff.not.mpr ha)
      exact hdisjoint hplace (mem_filesOf_of_nested hb hnested hplace)
  · intro hempty place ha hb
    obtain hnil | hnil := hempty (nested_of_mem_filesOf ha hb)
    · exact filesOf_ne_nil ha hnil
    · exact filesOf_ne_nil hb hnil

/-- A file system with the files `t/a/q.yml` and `t/b/q.yml` and nothing else. -/
def twins : FileSystem :=
  let suite := FileNode.directory (.cons "q.yml" (.file [] false) .nil)
  ⟨.directory (.cons "t" (.directory (.cons "a" suite (.cons "b" suite .nil))) .nil), [],
    by decide⟩

/-- No file is listed twice exactly if no suite that has files leads into the directory of another
one, which then has files as well. -/
theorem benchmarkFiles_nodup_iff (fs : FileSystem) (root : Path) (suites : List String) :
    ∃ files, benchmarkFiles fs root suites = .ok files ∧
      ((files.map fs.place).Nodup ↔
        ∀ a ∈ suites, ∀ b ∈ suites, a ≠ b → suitePlace fs root a <:+ suitePlace fs root b →
          caseFiles fs (root.join ⟨a⟩) defaultPattern = .ok [] ∨
          caseFiles fs (root.join ⟨b⟩) defaultPattern = .ok []) := by
  cases suites with
  | nil =>
    obtain ⟨files, hfiles, hnodup, -⟩ := caseFiles_default fs root
    exact ⟨files, hfiles, fun _ a ha => (nomatch ha), fun _ => hnodup⟩
  | cons suite rest =>
    obtain ⟨hdistinct, hmem⟩ := distinctSorted_spec (suite :: rest)
    refine ⟨_, suiteFiles_eq fs root _, ?_⟩
    rw [List.map_flatMap, List.nodup_flatMap]
    simp only [caseFiles_suite fs, Except.ok.injEq]
    constructor
    · rintro ⟨-, hpairwise⟩ a ha b hb hne hnested
      have : Std.Symm (Function.onFun List.Disjoint fun suite =>
          (filesOf fs root suite).map fs.place) := ⟨fun _ _ => List.disjoint_symm⟩
      have hdisjoint := hpairwise.forall ((hmem a).mpr ha) ((hmem b).mpr hb) hne
      exact (disjoint_filesOf_iff fs root a b).mp hdisjoint (.inl hnested)
    · intro hempty
      refine ⟨fun a _ => (filesOf_spec fs root a).1, ?_⟩
      refine hdistinct.pairwise_of_forall_ne fun a ha b hb hne => ?_
      refine (disjoint_filesOf_iff fs root a b).mpr fun hnested => ?_
      obtain hnested | hnested := hnested
      · exact hempty a ((hmem a).mp ha) b ((hmem b).mp hb) hne hnested
      · exact (hempty b ((hmem b).mp hb) a ((hmem a).mp ha) hne.symm hnested).symm

/-- Two directories side by side. -/
theorem benchmarkFiles_nodup_twins :
    ∃ files, benchmarkFiles twins ⟨"t"⟩ ["a", "b"] = .ok files ∧
      (files.map twins.place).Nodup := by
  obtain ⟨files, hfiles, hnodup⟩ := benchmarkFiles_nodup_iff twins ⟨"t"⟩ ["a", "b"]
  have hapart : ∀ a ∈ ["a", "b"], ∀ b ∈ ["a", "b"], a ≠ b →
      ¬ suitePlace twins ⟨"t"⟩ a <:+ suitePlace twins ⟨"t"⟩ b := by decide +kernel
  exact ⟨files, hfiles, hnodup.mpr fun a ha b hb hne hnested =>
    absurd hnested (hapart a ha b hb hne)⟩

/-- The suites `a` and `a/` are two names of one directory. -/
theorem benchmarkFiles_lists_twice :
    let files : List Path := [⟨"t/a/q.yml"⟩, ⟨"t/a/q.yml"⟩]
    benchmarkFiles twins ⟨"t"⟩ ["a", "a/"] = .ok files ∧
      ¬ (files.map twins.place).Nodup := by
  intro files
  let p : Pattern := ⟨false, [[.char 't'], [.char 'a'], [.anyDirectories], caseName], false⟩
  let q : Pattern := ⟨false, [[.char 't'], [.char 'a'], [], [.anyDirectories], caseName], false⟩
  have hp : Pattern.read (fullPattern ⟨"t/a"⟩ defaultPattern) = .ok p := by decide +kernel
  have hq : Pattern.read (fullPattern ⟨"t/a/"⟩ defaultPattern) = .ok q := by decide +kernel
  have hmet : ((p.select twins).filter fun l => l.node.isRegular && !isSchema l.path).map
      Glob.Location.path = [⟨"t/a/q.yml"⟩] := by decide +kernel
  have hmet' : ((q.select twins).filter fun l => l.node.isRegular && !isSchema l.path).map
      Glob.Location.path = [⟨"t/a/q.yml"⟩] := by decide +kernel
  have hsort (path : Path) : Path.sort [path] = [path] := List.mergeSort_singleton path
  have hdistinct : distinctSorted ["a", "a/"] = ["a", "a/"] := by
    rw [distinctSorted, List.mergeSort_of_pairwise (by decide +kernel)]
    decide
  have hjoin : (⟨"t"⟩ : Path).join ⟨"a"⟩ = ⟨"t/a"⟩ := by decide +kernel
  have hjoin' : (⟨"t"⟩ : Path).join ⟨"a/"⟩ = ⟨"t/a/"⟩ := by decide +kernel
  refine ⟨?_, by decide +kernel⟩
  have hfiles : suiteFiles twins ⟨"t"⟩ (distinctSorted ["a", "a/"]) = .ok files := by
    rw [hdistinct, suiteFiles, suiteFiles, suiteFiles, hjoin, hjoin', caseFiles_of_read hp,
      caseFiles_of_read hq, hmet, hmet', hsort]
    rfl
  exact hfiles

end Discovery
end EngineTrials
