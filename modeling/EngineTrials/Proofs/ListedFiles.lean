import EngineTrials.Proofs.ReadPattern
import EngineTrials.Proofs.SuiteFiles
import EngineTrials.Proofs.WalkedFiles

/-!
# Which files are listed

What a discovery lists is told by the tree below its root: the regular files whose names match the
pattern, in the order of their names, schemas left out. Where the root is only shows in the paths,
each of which is the root joined with the names.
-/
namespace EngineTrials

/-- A root made of names alone. -/
def Path.IsOrdinary (root : Path) : Prop := ∀ name ∈ FileSystem.namesOf root, IsEntryName name

namespace FileSystem

/-- What the names of a path lead to, if there is anything. -/
def tree? (fs : FileSystem) (p : Path) : Option FileNode :=
  (fs.nodeAt (fs.startOf p)).descend? (namesOf p)

theorem wellFormed_of_tree? {fs : FileSystem} {p : Path} {node : FileNode}
    (hnode : fs.tree? p = some node) : node.WellFormed := by
  have htrail : fs.IsTrail (fs.startOf p) := fs.isTrail_from p.isAbsolute
  exact (htrail.nodeAt_wellFormed.descend hnode).2

end FileSystem

namespace Path
open Text

theorem glue_segments {root : Path} : glue ['/'] root.segments =
    if root.isAbsolute then root.chars.tail else root.chars := glue_pieces '/' _

theorem chars_ofNames_namesOf (root : Path) :
    (ofNames (FileSystem.namesOf root)).chars =
      if root.isAbsolute then root.chars.tail else root.chars := by
  have hback : (FileSystem.namesOf root).map String.toList = root.segments := by
    rw [FileSystem.namesOf, List.map_map]
    exact (List.map_congr_left fun s _ => String.toList_ofList).trans (List.map_id _)
  rw [chars_ofNames, hback, glue_segments]

/-- A relative root is its names, one after the other. -/
theorem ofNames_namesOf {root : Path} (h : root.isAbsolute = false) :
    ofNames (FileSystem.namesOf root) = root := by
  refine eq_of_chars ?_
  rw [chars_ofNames_namesOf, h, if_neg Bool.false_ne_true]

/-- An absolute root is its names behind a slash. -/
theorem join_ofNames_namesOf {root : Path} (hordinary : root.IsOrdinary)
    (h : root.isAbsolute = true) : join ⟨"/"⟩ (ofNames (FileSystem.namesOf root)) = root := by
  obtain ⟨rest, hrest⟩ := List.head?_eq_some_iff.mp (eq_of_beq h)
  refine eq_of_chars ?_
  rw [chars_join (by decide) (isAbsolute_ofNames hordinary), chars_ofNames_namesOf, h, if_pos rfl,
    hrest]
  rfl

theorem descend_name {name : String} {rest : List String}
    (h : ∀ n ∈ name :: rest, IsEntryName n) : descend ⟨name⟩ rest = ofNames (name :: rest) := by
  obtain ⟨hname, hrest⟩ := List.forall_mem_cons.mp h
  cases rest with
  | nil => exact (ofNames_single name).symm
  | cons next rest =>
    have hchars : chars ⟨name⟩ ≠ [] := fun hnil => hname.ne_empty (String.toList_eq_nil_iff.mp hnil)
    have hslashed : slashed ⟨name⟩ = name.toList ++ ['/'] :=
      if_neg fun hlast => hname.slash_not_mem (List.mem_of_getLast? hlast)
    rw [descend_eq_join hchars hrest (List.cons_ne_nil _ _), ofNames_cons_cons]
    refine eq_of_chars ?_
    rw [chars_join hchars (isAbsolute_ofNames hrest), chars_behind, hslashed, List.append_assoc]
    rfl

theorem exists_namesOf (root : Path) : ∃ name rest, FileSystem.namesOf root = name :: rest := by
  refine List.exists_cons_of_ne_nil fun hnil => ?_
  exact pieces_ne_nil _ _ (List.map_eq_nil_iff.mp hnil)

theorem isOrdinary_name {name : String} (h : IsEntryName name) : IsOrdinary ⟨name⟩ := by
  have hsegments : segments ⟨name⟩ = [name.toList] := by
    rw [segments, isAbsolute_name h.slash_not_mem, if_neg Bool.false_ne_true]
    exact cut_of_not_mem h.slash_not_mem
  intro n hmem
  rw [FileSystem.namesOf, hsegments, List.map_singleton, String.ofList_toList] at hmem
  exact List.mem_singleton.mp hmem ▸ h

theorem IsOrdinary.chars_ne_nil {root : Path} (h : root.IsOrdinary) : root.chars ≠ [] := by
  intro hnil
  have hroot : root = ⟨""⟩ := eq_of_chars hnil
  subst hroot
  exact (h "" List.mem_cons_self).ne_empty rfl

theorem IsOrdinary.steps_ne_nil {root : Path} (h : root.IsOrdinary) : root.steps ≠ [] := by
  obtain ⟨name, rest, hnames⟩ := exists_namesOf root
  have hname : IsEntryName name := h name (hnames ▸ List.mem_cons_self)
  rw [steps_eq_flatMap, hnames, List.flatMap_cons, Glob.stepsOf_entry hname]
  exact List.cons_ne_nil _ _

end Path

namespace Glob
open Text EngineTrials.Path Location

theorem strays_literally {name : String} (hname : IsEntryName name) :
    strays (literally name.toList) = false := by
  have hnone {s : String} (hs : name ≠ s) : matchesName (literally name.toList) s = false := by
    rw [Bool.eq_false_iff]
    exact fun hmatches => hs (String.toList_inj.mp (matchesTokens_literally.mp hmatches)).symm
  rw [strays, hnone hname.ne_current, hnone hname.ne_parent, Bool.or_false, Bool.and_false]

theorem entered_name {name : String} (hname : IsEntryName name) {l : Location} (hl : l.IsSound) :
    entered (literally name.toList) l = ((l.node.child? name).map fun child =>
      ⟨l.pathOf name, child, l.node :: l.above⟩).toList := by
  have hne : literally name.toList ≠ [] := fun hnil =>
    hname.ne_empty (String.toList_eq_nil_iff.mp (List.map_eq_nil_iff.mp hnil))
  have hmatches (s : String) : matchesName (literally name.toList) s = true ↔ s = name :=
    matchesTokens_literally.trans String.toList_inj
  rw [entered_eq hne (strays_literally hname) hl, matched_eq hmatches hl]

theorem walk_name {name : String} (hname : IsEntryName name) {cs : List Component} (hcs : cs ≠ [])
    {l : Location} (hl : l.IsSound) : walk (literally name.toList :: cs) l =
      ((l.node.child? name).map fun child =>
        ⟨l.pathOf name, child, l.node :: l.above⟩).toList.flatMap (walk cs) := by
  obtain ⟨c, rest, rfl⟩ := List.exists_cons_of_ne_nil hcs
  rw [walk_cons (isRecursive_literally name.toList), entered_name hname hl]
  rfl

theorem not_atCurrent_of_steps {l : Location} (h : l.path.steps ≠ []) : l.atCurrent = false := by
  rw [atCurrent, beq_eq_false_iff_ne]
  intro hcurrent
  rw [steps, hcurrent] at h
  exact h rfl

/-- The path to the end of names, of which the first one may be bare. -/
def along (l : Location) : List String → Path
  | [] => l.path
  | name :: rest => (l.pathOf name).descend rest

/-- By names a walk comes to what they lead down to. -/
theorem walk_names {names : List String} (hnames : ∀ name ∈ names, IsEntryName name)
    {l : Location} (hl : l.IsSound) : ∃ o : Option Location,
      (∀ c cs, walk (names.map (fun name => literally name.toList) ++ c :: cs) l =
        o.toList.flatMap (walk (c :: cs))) ∧
      o.map (·.node) = l.node.descend? names ∧
      ∀ base ∈ o, base.IsSound ∧ base.path = along l names := by
  induction names generalizing l with
  | nil =>
    refine ⟨some l, fun c cs => (List.append_nil _).symm, rfl, fun base hbase => ?_⟩
    rw [← Option.mem_some_iff.mp hbase]
    exact ⟨hl, rfl⟩
  | cons name rest ih =>
    obtain ⟨hname, hrest⟩ := List.forall_mem_cons.mp hnames
    have hwalk (c : Component) (cs : List Component) :=
      walk_name hname (List.append_ne_nil_of_right_ne_nil
        (rest.map fun name => literally name.toList) (List.cons_ne_nil c cs)) hl
    cases hchild : l.node.child? name with
    | none =>
      refine ⟨none, fun c cs => ?_, ?_, fun _ h => (nomatch h)⟩
      · rw [List.map_cons, List.cons_append, hwalk, hchild]
        rfl
      · rw [FileNode.descend?, hchild]
        rfl
    | some child =>
      let next : Location := ⟨l.pathOf name, child, l.node :: l.above⟩
      have hnext : next.IsSound := (extends_entry hl (FileNode.mem_children_of_child? hchild)).sound
      have hcurrent : next.atCurrent = false := by
        refine not_atCurrent_of_steps ?_
        rw [steps_pathOf hl hname.slash_not_mem, stepsOf_entry hname]
        exact List.append_ne_nil_of_right_ne_nil _ (List.cons_ne_nil _ _)
      obtain ⟨o, ho, hnode, hbases⟩ := ih hrest hnext
      refine ⟨o, fun c cs => ?_, ?_, fun base hbase => ⟨(hbases base hbase).1, ?_⟩⟩
      · rw [List.map_cons, List.cons_append, hwalk, hchild, ← ho]
        exact List.append_nil _
      · rw [hnode, FileNode.descend?, hchild]
        rfl
      · rw [(hbases base hbase).2]
        cases rest with
        | nil => rfl
        | cons m rest =>
          rw [along, pathOf, hcurrent]
          rfl

theorem pathOf_start (p : Pattern) (fs : FileSystem) (name : String) :
    (start p fs).pathOf name = if p.absolute then join ⟨"/"⟩ ⟨name⟩ else ⟨name⟩ := by
  have hpath : (start p fs).path = if p.absolute then ⟨"/"⟩ else ⟨"."⟩ := rfl
  rw [pathOf, atCurrent, hpath]
  cases p.absolute with
  | true =>
    have hroot : (components ⟨"/"⟩ == [.current]) = false := by decide +kernel
    rw [if_pos rfl, if_pos rfl, hroot, if_neg Bool.false_ne_true]
  | false =>
    have hcurrent : (components ⟨"."⟩ == [.current]) = true := by decide +kernel
    rw [if_neg Bool.false_ne_true, if_neg Bool.false_ne_true, hcurrent, if_pos rfl]

/-- From where a walk begins, the names of a root make this root. -/
theorem along_start {root : Path} (hroot : root.IsOrdinary) (fs : FileSystem) {p : Pattern}
    (hp : p.absolute = root.isAbsolute) :
    along (start p fs) (FileSystem.namesOf root) = root := by
  obtain ⟨name, rest, hnames⟩ := exists_namesOf root
  have hentries : ∀ n ∈ name :: rest, IsEntryName n := hnames ▸ hroot
  rw [hnames, along, pathOf_start, hp]
  cases habsolute : root.isAbsolute with
  | true =>
    have hdescend : descend ⟨"/"⟩ (name :: rest) = join ⟨"/"⟩ (ofNames (name :: rest)) :=
      descend_eq_join (by decide) hentries (List.cons_ne_nil _ _)
    rw [← hnames, join_ofNames_namesOf hroot habsolute, hnames] at hdescend
    rw [if_pos rfl]
    exact hdescend
  | false =>
    rw [if_neg Bool.false_ne_true, descend_name hentries, ← hnames, ofNames_namesOf habsolute]

/-- By the names of a root a walk comes to what they lead to. -/
theorem walk_root {root : Path} (hroot : root.IsOrdinary) (fs : FileSystem)
    {p : Pattern} (hp : p.absolute = root.isAbsolute) :
    ∃ o : Option Location,
      (∀ c cs, walk (root.segments.map literally ++ c :: cs) (start p fs) =
        o.toList.flatMap (walk (c :: cs))) ∧
      o.map (·.node) = fs.tree? root ∧
      ∀ base ∈ o, base.IsSound ∧ base.atCurrent = false ∧ base.path = root := by
  have hsegments : root.segments.map literally =
      (FileSystem.namesOf root).map fun name => literally name.toList := by
    rw [FileSystem.namesOf, List.map_map]
    exact List.map_congr_left fun s _ => congrArg literally String.toList_ofList.symm
  have hnode : (start p fs).node = fs.nodeAt (fs.startOf root) := by
    rw [start, FileSystem.startOf, hp]
  obtain ⟨o, hwalk, hnodes, hbases⟩ := walk_names hroot (isSound_start p fs)
  refine ⟨o, ?_, ?_, fun base hbase => ?_⟩
  · rw [hsegments]
    exact hwalk
  · rw [hnodes, hnode, FileSystem.tree?]
  · obtain ⟨hsound, hpath⟩ := hbases base hbase
    rw [along_start hroot fs hp] at hpath
    exact ⟨hsound, not_atCurrent_of_steps (hpath ▸ hroot.steps_ne_nil), hpath⟩

end Glob

namespace Discovery
open Glob EngineTrials.Path

/-- Whether what was reached is a regular file and no schema. -/
def isCaseFile (e : List String × FileNode) : Bool :=
  e.2.isRegular && !((e.1.getLastD "").toList.head? == some '_')

/-- The names of the case files that components lead to in a tree, in ascending order. -/
def listed (cs : List Glob.Component) (tree : Option FileNode) : List (List String) :=
  (((tree.toList.flatMap (reached cs)).filter isCaseFile).map Prod.fst).mergeSort leNames

/-- The names listed are those of the regular files that match, without the schemas. -/
theorem mem_listed_iff {cs : List Glob.Component} {tree : Option FileNode}
    (htree : ∀ node ∈ tree, node.WellFormed) {names : List String} :
    names ∈ listed cs tree ↔ ∃ file, (tree.bind fun node => node.descend? names) = some file ∧
      file.isRegular = true ∧ matchesNames cs names = true ∧
      (names.getLastD "").toList.head? ≠ some '_' := by
  have hperm := List.mergeSort_perm
    (((tree.toList.flatMap (reached cs)).filter isCaseFile).map Prod.fst) leNames
  rw [listed, hperm.mem_iff, List.mem_map]
  cases tree with
  | none => exact ⟨fun ⟨_, hmem, _⟩ => (nomatch hmem), fun ⟨_, hfile, _⟩ => (nomatch hfile)⟩
  | some node =>
    have hnode : node.WellFormed := htree node rfl
    rw [Option.toList_some, List.flatMap_singleton]
    constructor
    · rintro ⟨⟨names, file⟩, hmem, rfl⟩
      obtain ⟨hreached, hcase⟩ := List.mem_filter.mp hmem
      rw [isCaseFile, Bool.and_eq_true, Bool.not_eq_true', beq_eq_false_iff_ne] at hcase
      obtain ⟨hfile, hmatches⟩ := (mem_reached_iff hnode hcase.1 cs).mp hreached
      exact ⟨file, hfile, hcase.1, hmatches, hcase.2⟩
    · rintro ⟨file, hfile, hregular, hmatches, hschema⟩
      refine ⟨(names, file), List.mem_filter.mpr ⟨?_, ?_⟩, rfl⟩
      · exact (mem_reached_iff hnode hregular cs).mpr ⟨hfile, hmatches⟩
      · rw [isCaseFile, hregular, Bool.true_and, Bool.not_eq_true', beq_eq_false_iff_ne]
        exact hschema

theorem filter_and {α : Type} (p q : α → Bool) (as : List α) :
    (as.filter fun a => p a && q a) = (as.filter p).filter q := by
  rw [List.filter_filter]
  exact List.filter_congr fun a _ => Bool.and_comm (p a) (q a)

theorem names_of_forall₂ {p : Path} {rs : List Location} {es : List (List String × FileNode)}
    (h : List.Forall₂ (IsBelow p) rs es) :
    ∀ e ∈ es, e.1 ≠ [] ∧ ∀ name ∈ e.1, IsEntryName name := by
  induction h with
  | nil => exact fun _ hmem => (nomatch hmem)
  | cons h _ ih => exact List.forall_mem_cons.mpr ⟨⟨h.ne_nil, h.names⟩, ih⟩

theorem paths_of_forall₂ {p : Path} {rs : List Location} {es : List (List String × FileNode)}
    (h : List.Forall₂ (IsBelow p) rs es) :
    rs.map Location.path = (es.map Prod.fst).map p.descend := by
  induction h with
  | nil => rfl
  | cons h _ ih => rw [List.map_cons, List.map_cons, List.map_cons, h.path, ih]

/-- What is sorted by paths behind one root is sorted by names. -/
theorem sort_descend {p : Path} (hp : p.chars ≠ []) {names : List (List String)}
    (hnames : ∀ ns ∈ names, ∀ name ∈ ns, IsEntryName name) :
    Path.sort (names.map p.descend) = (names.mergeSort leNames).map p.descend := by
  refine (List.map_mergeSort fun a ha b hb => ?_).symm
  exact (le_descend hp (hnames a ha) (hnames b hb)).symm

/-- Where the root is only shows in the paths. -/
theorem caseFiles_eq (fs : FileSystem) {root : Path} {pattern : String} {p : Pattern}
    (hroot : root.IsOrdinary)
    (hread : Pattern.read pattern.toList = .ok p) (hpieces : [] ∉ cut pattern.toList)
    (hkeeps : keepsBelow p.components = true) :
    caseFiles fs root pattern = .ok ((listed p.components (fs.tree? root)).map fun names =>
      root.join (ofNames names)) := by
  obtain ⟨-, -, hne, hempty⟩ := read_pieces hread hpieces
  have hfiles := caseFiles_of_read (read_behind_root hroot.chars_ne_nil hread hpieces) fs
  obtain ⟨o, hwalk, hnodes, hbases⟩ := walk_root hroot fs (p := ⟨root.isAbsolute,
    root.segments.map literally ++ p.components, false⟩) rfl
  obtain ⟨c, cs, hcs⟩ := List.exists_cons_of_ne_nil hne
  have hselect : Pattern.select ⟨root.isAbsolute, root.segments.map literally ++ p.components,
      false⟩ fs = o.toList.flatMap (walk p.components) := by
    rw [hcs, ← hwalk]
    exact List.filter_eq_self.mpr fun _ _ => rfl
  rw [hfiles, hselect, listed, ← hnodes]
  refine congrArg Except.ok ?_
  cases o with
  | none =>
    have hpaths : Path.sort [] = [] := List.mergeSort_nil
    have hnames : ([] : List (List String)).mergeSort leNames = [] := List.mergeSort_nil
    exact hpaths.trans (congrArg (List.map fun names => root.join (ofNames names)) hnames).symm
  | some base =>
    obtain ⟨hsound, hcurrent, hpath⟩ := hbases base rfl
    have hmet := forall₂_files hne hempty hkeeps hsound hcurrent
    rw [hpath] at hmet
    have hschema (r : Location) (e : List String × FileNode) (h : IsBelow root r e) :
        (!isSchema r.path) = true ↔ (!((e.1.getLastD "").toList.head? == some '_')) = true := by
      rw [isSchema, h.fileName? hroot.chars_ne_nil]
    have hkept := List.rel_filter hschema hmet
    rw [← filter_and, ← filter_and] at hkept
    change List.Forall₂ _ _ ((reached p.components base.node).filter isCaseFile) at hkept
    have hnames : ∀ ns ∈ ((reached p.components base.node).filter isCaseFile).map Prod.fst,
        ns ≠ [] ∧ ∀ name ∈ ns, IsEntryName name :=
      List.forall_mem_map.mpr (names_of_forall₂ hkept)
    rw [Option.toList_some, List.flatMap_singleton, Option.map_some, Option.toList_some,
      List.flatMap_singleton, paths_of_forall₂ hkept,
      sort_descend hroot.chars_ne_nil fun ns hmem => (hnames ns hmem).2]
    refine List.map_congr_left fun ns hmem => ?_
    obtain ⟨hsome, hentries⟩ := hnames ns ((List.mergeSort_perm _ leNames).mem_iff.mp hmem)
    exact descend_eq_join hroot.chars_ne_nil hentries hsome

end Discovery

end EngineTrials
