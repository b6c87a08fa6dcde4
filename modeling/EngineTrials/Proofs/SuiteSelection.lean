import EngineTrials.Proofs.ListedFiles

/-!
# Suites one by one and all at once

The suites that are named are a set: their files are listed suite by suite, in the order of the
names. A suite that is a directory of the root lists what is listed of this directory where no suite
is named.
-/
namespace EngineTrials

/-- Whether a path leads to something below another one. -/
def Path.isBelow (base p : Path) : Bool :=
  base.components.isPrefixOf p.components && base.components != p.components

namespace Glob

/-- Whether names lead into the entry of a name, and not just to it. -/
def inside (name : String) : List String → Bool
  | first :: _ :: _ => first == name
  | _ => false

end Glob

namespace Entries
open Glob

/-- What is inside an entry is below it. -/
theorem filter_under {entries : Entries} (h : entries.WellFormed) (name : String) :
    entries.under.filter (fun e => inside name e.1) =
      (entries.find? name).toList.flatMap fun child => child.under.map (behind [name]) := by
  induction entries with
  | nil => rfl
  | cons n node rest ih =>
    obtain ⟨-, hfresh, hnode, hrest⟩ := h
    have hfirst : (node.under.map (behind [n])).filter (fun e => inside name e.1) =
        if n = name then node.under.map (behind [n]) else [] := by
      have hinside : ∀ e ∈ node.under, inside name (behind [n] e).1 = (n == name) := by
        intro e hmem
        obtain ⟨hne, -⟩ := (FileNode.mem_under_iff node hnode).mp hmem
        obtain ⟨next, others, hnames⟩ := List.exists_cons_of_ne_nil hne
        rw [behind, hnames]
        rfl
      rw [List.filter_map, Function.comp_def, List.filter_congr hinside]
      by_cases hn : n = name
      · rw [if_pos hn, beq_iff_eq.mpr hn, List.filter_true]
      · rw [if_neg hn, beq_eq_false_iff_ne.mpr hn, List.filter_false, List.map_nil]
    have hunder : (Entries.cons n node rest).under =
        ([n], node) :: (node.under.map (behind [n]) ++ rest.under) := rfl
    rw [hunder, List.filter_cons_of_neg Bool.false_ne_true, List.filter_append, hfirst, ih hrest,
      find?]
    by_cases hn : n = name
    · subst hn
      have hnone : rest.find? n = none :=
        Option.eq_none_iff_forall_not_mem.mpr fun child hchild =>
          hfresh _ (mem_of_find? hchild) rfl
      rw [if_pos rfl, if_pos rfl, hnone]
      rfl
    · rw [if_neg hn, if_neg hn, List.nil_append]

end Entries

theorem FileNode.filter_under {node : FileNode} (h : node.WellFormed) (name : String) :
    node.under.filter (fun e => Glob.inside name e.1) =
      (node.child? name).toList.flatMap fun child => child.under.map (Glob.behind [name]) := by
  cases node with
  | directory entries => exact Entries.filter_under h name
  | _ => rfl

namespace Discovery
open Glob EngineTrials.Path

theorem eq_of_ascending {names others : List String} (hnames : names.Pairwise (· < ·))
    (hothers : others.Pairwise (· < ·)) (h : ∀ name, name ∈ names ↔ name ∈ others) :
    names = others := by
  have hperm := (List.perm_ext_iff_of_nodup (nodup_of_ascending hnames)
    (nodup_of_ascending hothers)).mpr h
  refine hperm.eq_of_pairwise (fun a b _ _ hab hba => ?_) hnames hothers
  exact absurd (String.lt_trans hab hba) (String.lt_irrefl a)

theorem distinctSorted_congr {suites others : List String}
    (h : ∀ suite, suite ∈ suites ↔ suite ∈ others) :
    distinctSorted suites = distinctSorted others := by
  obtain ⟨hsuites, hmem⟩ := distinctSorted_ascending suites
  obtain ⟨hothers, hmem'⟩ := distinctSorted_ascending others
  exact eq_of_ascending hsuites hothers fun suite => by rw [hmem, hmem', h]

theorem benchmarkFiles_of_ne_nil (fs : FileSystem) (root : Path)
    {suites : List String} (h : suites ≠ []) : benchmarkFiles fs root suites =
      .ok ((distinctSorted suites).flatMap (filesOf fs root)) := by
  rw [benchmarkFiles, if_neg fun hnil => h (List.isEmpty_iff.mp hnil), suiteFiles_eq fs]

theorem benchmarkFiles_single (fs : FileSystem) (root : Path)
    (suite : String) : benchmarkFiles fs root [suite] = .ok (filesOf fs root suite) := by
  have hsingle : distinctSorted [suite] = [suite] := by
    obtain ⟨hascending, hmem⟩ := distinctSorted_ascending [suite]
    exact eq_of_ascending hascending (List.pairwise_singleton _ suite) hmem
  rw [benchmarkFiles_of_ne_nil fs root (List.cons_ne_nil _ _), hsingle, List.flatMap_singleton]

/-- The components that the built-in pattern is read as. -/
def defaultComponents : List Glob.Component := [[.anyDirectories], caseName]

theorem caseFiles_default_eq (fs : FileSystem) {root : Path} (hroot : root.IsOrdinary) :
    caseFiles fs root defaultPattern =
      .ok ((listed defaultComponents (fs.tree? root)).map fun names =>
        root.join (ofNames names)) := by
  have hread : Pattern.read defaultPattern.toList = .ok ⟨false, defaultComponents, false⟩ := by
    decide +kernel
  have hpieces : [] ∉ cut defaultPattern.toList := by decide +kernel
  -- Stated first, so that the components are taken from `hread` and not searched for in the goal.
  have hfiles := caseFiles_eq fs hroot hread hpieces (by decide +kernel)
  exact hfiles

/-- Whether the built-in pattern lists what is below. -/
def isDefault (e : List String × FileNode) : Bool :=
  isCaseFile e && matchesName caseName (e.1.getLastD "")

/-- The names of the files that the built-in pattern lists, not yet in order. -/
def caseNames (tree : Option FileNode) : List (List String) :=
  ((tree.toList.flatMap FileNode.under).filter isDefault).map Prod.fst

theorem listed_default (tree : Option FileNode) :
    listed defaultComponents tree = (caseNames tree).mergeSort leNames := by
  have hreached : reached defaultComponents = fun node =>
      node.under.filter fun e => matchesName caseName (e.1.getLastD "") := by
    funext node
    have hself : (fun e : List String × FileNode => (reached [] e.2).map (behind e.1)) =
        fun e => [e] := by
      funext e
      rw [reached, List.map_singleton, behind, List.append_nil]
    have hname : isRecursive caseName = false := by decide
    rw [defaultComponents, reached_recursive_cons hname, hself, List.flatMap_singleton']
  rw [listed, hreached, ← List.filter_flatMap, List.filter_filter]
  rfl

/-- The names in front do not matter to what the built-in pattern lists. -/
theorem isDefault_behind (name : String) {e : List String × FileNode} (h : e.1 ≠ []) :
    isDefault (behind [name] e) = isDefault e := by
  have hlast : (name :: e.1).getLastD "" = e.1.getLastD "" := by
    obtain ⟨front, last, hnames⟩ := List.eq_nil_or_concat e.1 |>.resolve_left h
    rw [hnames, List.concat_eq_append, ← List.cons_append, List.getLastD_concat,
      List.getLastD_concat]
  rw [isDefault, isDefault, isCaseFile, isCaseFile, behind, List.singleton_append, hlast]

theorem filter_isDefault_behind {node : FileNode} (h : node.WellFormed) (name : String) :
    (node.under.map (behind [name])).filter isDefault =
      (node.under.filter isDefault).map (behind [name]) := by
  have hsame : ∀ e ∈ node.under, isDefault (behind [name] e) = isDefault e := by
    intro e hmem
    exact isDefault_behind name ((FileNode.mem_under_iff node h).mp hmem).1
  rw [List.filter_map, Function.comp_def, List.filter_congr hsame]

theorem filter_caseNames {tree : Option FileNode} (htree : ∀ node ∈ tree, node.WellFormed)
    (name : String) : (caseNames tree).filter (inside name) =
      (caseNames (tree.bind fun node => node.child? name)).map (name :: ·) := by
  cases tree with
  | none => rfl
  | some node =>
    have hnode : node.WellFormed := htree node rfl
    rw [caseNames, Option.toList_some, List.flatMap_singleton, List.filter_map, Function.comp_def,
      List.filter_comm, FileNode.filter_under hnode, Option.bind_some]
    cases hchild : node.child? name with
    | none => rfl
    | some child =>
      have hwell := (hnode.of_mem_children (FileNode.mem_children_of_child? hchild)).2
      rw [caseNames, Option.toList_some, List.flatMap_singleton, List.flatMap_singleton,
        filter_isDefault_behind hwell, List.map_map, List.map_map]
      rfl

theorem names_of_mem_listed {tree : Option FileNode} (htree : ∀ node ∈ tree, node.WellFormed)
    {names : List String} (hmem : names ∈ listed defaultComponents tree) :
    (∀ name ∈ names, IsEntryName name) ∧ names ≠ [] := by
  obtain ⟨file, hfile, -, hmatches, -⟩ := (mem_listed_iff htree).mp hmem
  obtain ⟨node, hnode, hfile⟩ := Option.bind_eq_some_iff.mp hfile
  refine ⟨((htree node hnode).descend hfile).1, ?_⟩
  rintro rfl
  exact absurd hmatches (by decide)

/-- Of what is listed in a tree, that inside an entry is what is listed in the entry. -/
theorem filter_listed {tree : Option FileNode} (htree : ∀ node ∈ tree, node.WellFormed)
    (name : String) : (listed defaultComponents tree).filter (inside name) =
      (listed defaultComponents (tree.bind fun node => node.child? name)).map (name :: ·) := by
  have hsorted (names : List (List String)) :
      (names.mergeSort leNames).Pairwise fun a b => leNames a b = true :=
    List.pairwise_mergeSort leNames_trans leNames_total names
  have hperm (names : List (List String)) := List.mergeSort_perm names leNames
  rw [listed_default, listed_default]
  have hinner : ((caseNames tree).mergeSort leNames).filter (inside name) |>.Pairwise
      fun a b => leNames a b = true := (hsorted _).filter _
  have houter : (((caseNames (tree.bind fun node => node.child? name)).mergeSort leNames).map
      (name :: ·)).Pairwise fun a b => leNames a b = true := by
    refine List.pairwise_map.mpr ((hsorted _).imp fun hle => ?_)
    rw [leNames_cons]
    exact hle
  -- Two lists in this order that hold the same names are one list: the order is antisymmetric.
  have hsame := ((hperm (caseNames tree)).filter (inside name)).trans
    (filter_caseNames htree name ▸ ((hperm _).map (name :: ·)).symm)
  exact hsame.eq_of_pairwise (fun _ _ _ _ => leNames_antisymm) hinner houter

theorem segments_eq_cut (root : Path) :
    root.segments = cut (if root.isAbsolute then root.chars.tail else root.chars) := rfl

/-- Behind its last name a root has no slash. -/
theorem getLast?_of_isOrdinary {root : Path} (hroot : root.IsOrdinary) :
    root.chars.getLast? ≠ some '/' := by
  have hsome : [] ∉ root.segments := fun hmem =>
    (hroot "" (List.mem_map_of_mem hmem)).ne_empty rfl
  rw [segments_eq_cut] at hsome
  cases habsolute : root.isAbsolute with
  | true =>
    obtain ⟨rest, hrest⟩ := List.head?_eq_some_iff.mp (eq_of_beq habsolute)
    rw [habsolute, if_pos rfl, hrest, List.tail_cons] at hsome
    have hne : rest ≠ [] := by
      rintro rfl
      exact hsome List.mem_cons_self
    rw [hrest, List.getLast?_cons_of_ne_nil hne]
    exact getLast?_ne_slash hsome
  | false =>
    rw [habsolute, if_neg Bool.false_ne_true] at hsome
    exact getLast?_ne_slash hsome

theorem namesOf_join {root : Path} (hroot : root.IsOrdinary) {name : String}
    (hname : IsEntryName name) : FileSystem.namesOf (root.join ⟨name⟩) =
      FileSystem.namesOf root ++ [name] := by
  have hne : root.chars ≠ [] := hroot.chars_ne_nil
  have hslash : '/' ∉ name.toList := hname.slash_not_mem
  have hchars : (root.join ⟨name⟩).chars = root.chars ++ '/' :: name.toList := by
    rw [chars_join hne (isAbsolute_name hslash), slashed, if_neg (getLast?_of_isOrdinary hroot),
      List.append_assoc]
    rfl
  have hsegments : (root.join ⟨name⟩).segments = root.segments ++ [name.toList] := by
    rw [segments_eq_cut, segments_eq_cut, isAbsolute_join hne hslash, hchars,
      List.tail_append_of_ne_nil hne, ← apply_ite (· ++ '/' :: name.toList), cut_append_slash,
      cut_of_not_mem hslash]
  rw [FileSystem.namesOf, hsegments, List.map_append, List.map_singleton, String.ofList_toList,
    FileSystem.namesOf]

theorem isOrdinary_join {root : Path} (hroot : root.IsOrdinary) {name : String}
    (hname : IsEntryName name) : (root.join ⟨name⟩).IsOrdinary := by
  intro n hmem
  rw [namesOf_join hroot hname] at hmem
  exact (List.mem_append.mp hmem).elim (hroot n) fun hn => List.mem_singleton.mp hn ▸ hname

theorem tree?_join (fs : FileSystem) {root : Path} (hroot : root.IsOrdinary) {name : String}
    (hname : IsEntryName name) :
    fs.tree? (root.join ⟨name⟩) = (fs.tree? root).bind fun node => node.child? name := by
  have hstart : fs.startOf (root.join ⟨name⟩) = fs.startOf root := by
    rw [FileSystem.startOf, isAbsolute_join hroot.chars_ne_nil hname.slash_not_mem,
      FileSystem.startOf]
  have hsingle (node : FileNode) : node.descend? [name] = node.child? name := by
    rw [FileNode.descend?]
    cases node.child? name <;> rfl
  rw [FileSystem.tree?, hstart, namesOf_join hroot hname, FileNode.descend?_append,
    FileSystem.tree?]
  simp only [hsingle]

theorem inside_iff (name : String) {names : List String} (hne : names ≠ []) :
    inside name names = true ↔ [Path.Component.name name] <+: names.map .name ∧
      ¬ [Path.Component.name name] = names.map .name := by
  cases names with
  | nil => exact absurd rfl hne
  | cons first rest =>
    cases rest with
    | nil =>
      refine ⟨fun hfalse => (nomatch hfalse), fun ⟨hstarts, hother⟩ => ?_⟩
      exact absurd (hstarts.eq_of_length rfl) hother
    | cons next rest =>
      rw [inside, beq_iff_eq, List.map_cons, List.cons_prefix_cons, Path.Component.name.injEq]
      constructor
      · rintro rfl
        exact ⟨⟨rfl, List.nil_prefix⟩, fun hnil => (nomatch (List.cons.inj hnil).2)⟩
      · rintro ⟨⟨hsame, -⟩, -⟩
        exact hsame.symm

/-- What lies below an entry of a root is told by the names. -/
theorem isBelow_join {root : Path} (hroot : root.IsOrdinary) {name : String}
    (hname : IsEntryName name) {names : List String} (hnames : ∀ n ∈ names, IsEntryName n)
    (hne : names ≠ []) :
    (root.join ⟨name⟩).isBelow (root.join (ofNames names)) = inside name names := by
  have hbase : (root.join ⟨name⟩).components = root.components ++ [.name name] := by
    rw [components_join hroot.chars_ne_nil hname.slash_not_mem, stepsOf_entry hname]
  have hpath : (root.join (ofNames names)).components = root.components ++ names.map .name := by
    rw [← descend_eq_join hroot.chars_ne_nil hnames hne,
      components_descend hroot.chars_ne_nil hnames]
  rw [isBelow, hbase, hpath, Bool.eq_iff_iff, Bool.and_eq_true, List.isPrefixOf_iff_prefix,
    List.prefix_append_right_inj, bne_iff_ne, Ne, List.append_cancel_left_eq]
  exact (inside_iff name hne).symm

theorem join_ofNames_cons {root : Path} (hroot : root.IsOrdinary) {name : String}
    (hname : IsEntryName name) {names : List String} (hnames : ∀ n ∈ names, IsEntryName n)
    (hne : names ≠ []) :
    (root.join ⟨name⟩).join (ofNames names) = root.join (ofNames (name :: names)) := by
  have hjoin := Location.chars_join_ne_nil hroot.chars_ne_nil hname.slash_not_mem
  rw [← descend_eq_join hjoin hnames hne, ← descend_eq_join hroot.chars_ne_nil
    (List.forall_mem_cons.mpr ⟨hname, hnames⟩) (List.cons_ne_nil _ _)]
  rfl

/-- The files of a suite that is an entry of the root are those that lie below it. -/
theorem filesOf_eq_filter (fs : FileSystem) {root : Path}
    (hroot : root.IsOrdinary) {suite : String} (hsuite : IsEntryName suite) :
    ∃ all, caseFiles fs root defaultPattern = .ok all ∧
      filesOf fs root suite = all.filter (root.join ⟨suite⟩).isBelow := by
  have hsame := tree?_join fs hroot hsuite
  have hfiles := caseFiles_default_eq fs (isOrdinary_join hroot hsuite)
  have hwell : ∀ node ∈ fs.tree? root, node.WellFormed :=
    fun _ hnode => FileSystem.wellFormed_of_tree? hnode
  refine ⟨_, caseFiles_default_eq fs hroot, ?_⟩
  have hin : ∀ names ∈ listed defaultComponents (fs.tree? root),
      (root.join ⟨suite⟩).isBelow (root.join (ofNames names)) = inside suite names := by
    intro names hmem
    obtain ⟨hnames, hne⟩ := names_of_mem_listed hwell hmem
    exact isBelow_join hroot hsuite hnames hne
  rw [filesOf, hfiles, hsame, List.filter_map, Function.comp_def, List.filter_congr hin,
    filter_listed hwell, List.map_map]
  refine List.map_congr_left fun names hmem => ?_
  have hinner : ∀ node ∈ (fs.tree? root).bind fun node => node.child? suite,
      node.WellFormed := by
    rw [← hsame]
    exact fun _ hnode => FileSystem.wellFormed_of_tree? hnode
  obtain ⟨hnames, hne⟩ := names_of_mem_listed hinner hmem
  exact join_ofNames_cons hroot hsuite hnames hne

/-- Suites that are named are a set. Their files are listed one suite after the other, in the order
of the names, and those of a suite that is an entry of the root are what is listed below it where no
suite is named. -/
theorem benchmarkFiles_by_suites (fs : FileSystem) {root : Path}
    (hroot : root.IsOrdinary) :
    (∀ suites others : List String, suites ≠ [] →
      (∀ suite, suite ∈ suites ↔ suite ∈ others) →
      benchmarkFiles fs root suites = benchmarkFiles fs root others) ∧
    (∀ suites : List String, suites ≠ [] → ∃ (names : List String) (files : String → List Path),
      names.Pairwise (· < ·) ∧ (∀ name, name ∈ names ↔ name ∈ suites) ∧
      (∀ name, benchmarkFiles fs root [name] = .ok (files name)) ∧
      benchmarkFiles fs root suites = .ok (names.flatMap files)) ∧
    ∀ suite, IsEntryName suite → ∃ all, benchmarkFiles fs root [] = .ok all ∧
      benchmarkFiles fs root [suite] = .ok (all.filter (root.join ⟨suite⟩).isBelow) := by
  refine ⟨fun suites others hne hsame => ?_, fun suites hne => ?_, fun suite hsuite => ?_⟩
  · have hne' : others ≠ [] := by
      rintro rfl
      obtain ⟨suite, rest, rfl⟩ := List.exists_cons_of_ne_nil hne
      exact List.not_mem_nil ((hsame suite).mp List.mem_cons_self)
    rw [benchmarkFiles_of_ne_nil fs root hne, benchmarkFiles_of_ne_nil fs root hne',
      distinctSorted_congr hsame]
  · obtain ⟨hascending, hmem⟩ := distinctSorted_ascending suites
    exact ⟨distinctSorted suites, filesOf fs root, hascending, hmem,
      benchmarkFiles_single fs root, benchmarkFiles_of_ne_nil fs root hne⟩
  · obtain ⟨all, hall, hfiles⟩ := filesOf_eq_filter fs hroot hsuite
    refine ⟨all, hall, ?_⟩
    rw [benchmarkFiles_single fs, hfiles]

/-- Of two suites the one is named twice, and after the other. -/
theorem benchmarkFiles_by_suites_twins :
    IsOrdinary ⟨"t"⟩ ∧
    benchmarkFiles twins ⟨"t"⟩ ["b", "a", "b"] = benchmarkFiles twins ⟨"t"⟩ ["a", "b"] ∧
    ∃ all, benchmarkFiles twins ⟨"t"⟩ [] = .ok all ∧
      benchmarkFiles twins ⟨"t"⟩ ["a"] = .ok (all.filter (Path.isBelow ⟨"t/a"⟩)) := by
  have hroot : IsOrdinary ⟨"t"⟩ := isOrdinary_name (by decide)
  obtain ⟨hset, -, hentry⟩ := benchmarkFiles_by_suites twins hroot
  have hjoin : (⟨"t"⟩ : Path).join ⟨"a"⟩ = ⟨"t/a"⟩ := by decide +kernel
  have hsame : ∀ suite, suite ∈ ["b", "a", "b"] ↔ suite ∈ ["a", "b"] := by simp
  refine ⟨hroot, hset _ _ (List.cons_ne_nil _ _) hsame, ?_⟩
  rw [← hjoin]
  exact hentry "a" (by decide)

end Discovery
end EngineTrials
