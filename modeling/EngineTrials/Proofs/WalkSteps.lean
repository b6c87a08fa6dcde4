import EngineTrials.Glob.Walk
import EngineTrials.Proofs.PathSteps
import EngineTrials.Proofs.Trails

/-!
# Steps of a walk

In a well-formed tree everything that a walk comes to from a location is some steps further, and
the paths tell these steps. Whatever leads on to several locations leads to each of them by other
steps: the entries of a directory by their names, and all that is below by the names passed.
-/
namespace EngineTrials.Glob
open EngineTrials.Path

theorem stepsOf_entry {name : String} (h : IsEntryName name) : stepsOf name = [.name name] :=
  stepsOf_of_ne h.ne_empty h.ne_current h.ne_parent

namespace Location

/-- A directory in a well-formed tree. -/
structure IsFolder (node : FileNode) : Prop where
  wellFormed : node.WellFormed
  isDirectory : node.isDirectory = true

/-- A location that a walk through a well-formed tree can come to. -/
structure IsSound (l : Location) : Prop where
  path : l.path.chars ≠ []
  node : l.node.WellFormed
  above : ∀ node ∈ l.above, IsFolder node

/-- A location that is reached from another one by so many steps. -/
structure Extends (l : Location) (n : Nat) (r : Location) : Prop where
  sound : r.IsSound
  steps : ∃ s, s.length = n ∧ r.path.steps = l.path.steps ++ s

theorem Extends.refl {l : Location} (h : l.IsSound) : l.Extends 0 l :=
  ⟨h, [], rfl, (List.append_nil _).symm⟩

theorem Extends.trans {l m r : Location} {i j : Nat} (hm : l.Extends i m) (hr : m.Extends j r) :
    l.Extends (i + j) r := by
  obtain ⟨s, hs, hm⟩ := hm.steps
  obtain ⟨t, ht, hmr⟩ := hr.steps
  refine ⟨hr.sound, s ++ t, by rw [List.length_append, hs, ht], ?_⟩
  rw [hmr, hm, List.append_assoc]

theorem steps_pathOf {l : Location} (hl : l.IsSound) {name : String} (h : '/' ∉ name.toList) :
    (l.pathOf name).steps = l.path.steps ++ stepsOf name := by
  rw [pathOf]
  by_cases hcurrent : l.atCurrent = true
  · have hnone : l.path.steps = [] := by rw [steps, eq_of_beq hcurrent]; rfl
    rw [if_pos hcurrent, steps_name h, hnone, List.nil_append]
  · rw [if_neg hcurrent, steps_join hl.path h]

theorem chars_join_ne_nil {p : Path} (hp : p.chars ≠ []) {name : String} (h : '/' ∉ name.toList) :
    (p.join ⟨name⟩).chars ≠ [] := by
  obtain ⟨front, -, hjoin⟩ := exists_chars_join hp (isAbsolute_name h)
  rw [hjoin]
  exact List.append_ne_nil_of_right_ne_nil _ (List.cons_ne_nil _ _)

theorem chars_pathOf_ne_nil {l : Location} (hl : l.IsSound) {name : String}
    (h : '/' ∉ name.toList) (hname : name ≠ "" ∨ l.atCurrent = false) :
    (l.pathOf name).chars ≠ [] := by
  rw [pathOf]
  by_cases hcurrent : l.atCurrent = true
  · rw [if_pos hcurrent]
    obtain hname | hname := hname
    · exact fun hnil => hname (String.toList_eq_nil_iff.mp hnil)
    · exact absurd hcurrent (Bool.eq_false_iff.mp hname)
  · rw [if_neg hcurrent]
    exact chars_join_ne_nil hl.path h

/-- Every entry of a directory is one step further. -/
theorem extends_entry {l : Location} (hl : l.IsSound) {entry : String × FileNode}
    (h : entry ∈ l.node.children) :
    l.Extends 1 ⟨l.pathOf entry.1, entry.2, l.node :: l.above⟩ := by
  obtain ⟨hname, hnode⟩ := hl.node.of_mem_children h
  exact
    { sound :=
        { path := chars_pathOf_ne_nil hl hname.slash_not_mem (.inl hname.ne_empty)
          node := hnode
          above := List.forall_mem_cons.mpr
            ⟨⟨hl.node, FileNode.isDirectory_of_mem_children h⟩, hl.above⟩ }
      steps := ⟨[.name entry.1], rfl, by
        rw [steps_pathOf hl hname.slash_not_mem, stepsOf_entry hname]⟩ }

theorem path_special (l : Location) (name : String) (p : Path) : (l.special name p).path = p := by
  rw [special]
  split
  · split <;> rfl
  · rfl

theorem isSound_special {l : Location} (hl : l.IsSound) (name : String) {p : Path}
    (hp : p.chars ≠ []) : (l.special name p).IsSound := by
  have hwell : (l.special name p).node.WellFormed ∧
      ∀ node ∈ (l.special name p).above, IsFolder node := by
    rw [special]
    split
    · split
      case h_1 parent above habove =>
        obtain ⟨hparent, habove⟩ := List.forall_mem_cons.mp (habove ▸ hl.above)
        exact ⟨hparent.wellFormed, habove⟩
      case h_2 => exact ⟨hl.node, hl.above⟩
    · exact ⟨hl.node, hl.above⟩
  exact ⟨by rw [path_special]; exact hp, hwell.1, hwell.2⟩

/-- Neither the directory itself nor the one above it is a file. -/
theorem isDirectory_special {l : Location} (hl : l.IsSound) (hfolder : l.node.isDirectory = true)
    (name : String) (p : Path) : (l.special name p).node.isDirectory = true := by
  rw [special]
  split
  · split
    case h_1 parent above habove =>
      exact (hl.above parent (habove ▸ List.mem_cons_self)).isDirectory
    case h_2 => exact hfolder
  · exact hfolder

theorem extends_special {l : Location} (hl : l.IsSound) (up : String) {p : Path} {name : String}
    (hp : p.chars ≠ []) (hsteps : p.steps = l.path.steps ++ stepsOf name) :
    l.Extends (stepsOf name).length (l.special up p) :=
  ⟨isSound_special hl up hp, stepsOf name, rfl, by rw [path_special, hsteps]⟩

theorem extends_of_mem_children {l r : Location} (hl : l.IsSound) (h : r ∈ l.children) :
    l.Extends 1 r := by
  obtain ⟨entry, hentry, rfl⟩ := List.mem_map.mp h
  exact extends_entry hl hentry

/-- Where a component without wildcards leads: nowhere else or up, or to an entry. -/
theorem lookup?_cases {l r : Location} {name : String} (h : l.lookup? name = some r) :
    (name = "." ∨ name = ".." ∨ name = "" ∧ l.atCurrent = false) ∧
      r = l.special name (l.pathOf name) ∨
    ∃ node, (name, node) ∈ l.node.children ∧
      r = ⟨l.pathOf name, node, l.node :: l.above⟩ := by
  rw [lookup?] at h
  by_cases hdirectory : (!l.node.isDirectory) = true
  · rw [if_pos hdirectory] at h
    cases h
  rw [if_neg hdirectory] at h
  by_cases hpoints : name = "." ∨ name = ".."
  · rw [if_pos hpoints] at h
    cases h
    exact .inl ⟨hpoints.imp_right .inl, rfl⟩
  rw [if_neg hpoints] at h
  by_cases hempty : name = ""
  · rw [if_pos hempty] at h
    by_cases hcurrent : l.atCurrent = true
    · rw [if_pos hcurrent] at h
      cases h
    · rw [if_neg hcurrent] at h
      cases h
      subst hempty
      exact .inl ⟨.inr (.inr ⟨rfl, Bool.eq_false_iff.mpr hcurrent⟩), rfl⟩
  · rw [if_neg hempty] at h
    obtain ⟨node, hchild, rfl⟩ := Option.map_eq_some_iff.mp h
    exact .inr ⟨node, FileNode.mem_children_of_child? hchild, rfl⟩

theorem isDirectory_of_lookup? {l r : Location} {name : String} (h : l.lookup? name = some r) :
    l.node.isDirectory = true := by
  rw [lookup?] at h
  cases hdirectory : l.node.isDirectory with
  | true => rfl
  | false => rw [hdirectory] at h; cases h

theorem extends_of_lookup? {l r : Location} (hl : l.IsSound) {name : String}
    (h : l.lookup? name = some r) : l.Extends (stepsOf name).length r := by
  obtain ⟨hname, rfl⟩ | ⟨node, hmem, rfl⟩ := lookup?_cases h
  · have hslash : '/' ∉ name.toList := by
      obtain rfl | rfl | ⟨rfl, -⟩ := hname <;> decide
    have hsome : name ≠ "" ∨ l.atCurrent = false := by
      obtain rfl | rfl | ⟨-, hcurrent⟩ := hname
      · exact .inl (by decide)
      · exact .inl (by decide)
      · exact .inr hcurrent
    exact extends_special hl name (chars_pathOf_ne_nil hl hslash hsome) (steps_pathOf hl hslash)
  · have hone : (stepsOf name).length = 1 := by
      rw [stepsOf_entry (hl.node.of_mem_children hmem).1]
      rfl
    have hentry := extends_entry hl hmem
    rw [hone]
    exact hentry

/-- No two of the locations are reached by the same steps. -/
def Apart (ls : List Location) : Prop :=
  ls.Pairwise fun a b => a.path.steps ≠ b.path.steps

theorem Apart.filter {ls : List Location} (h : Apart ls) (keep : Location → Bool) :
    Apart (ls.filter keep) :=
  h.sublist List.filter_sublist

/-- If where a location was reached from can be told from its steps. -/
theorem Apart.flatMap {ls : List Location} (hls : Apart ls) {f : Location → List Location}
    (hf : ∀ l ∈ ls, Apart (f l))
    (htell : ∀ a ∈ ls, ∀ b ∈ ls, ∀ r ∈ f a, ∀ t ∈ f b, r.path.steps = t.path.steps →
      a.path.steps = b.path.steps) :
    Apart (ls.flatMap f) := by
  refine List.pairwise_flatMap.mpr ⟨hf, hls.imp_of_mem ?_⟩
  intro a b ha hb hne r hr t ht hsame
  exact hne (htell a ha b hb r hr t ht hsame)

/-- The steps behind are as many for each. -/
theorem Apart.flatMap_of_behind {ls : List Location} (hls : Apart ls)
    {f : Location → List Location} {n : Nat} (hf : ∀ l ∈ ls, Apart (f l))
    (hbehind : ∀ l ∈ ls, ∀ r ∈ f l, l.Extends n r) : Apart (ls.flatMap f) := by
  refine hls.flatMap hf fun a ha b hb r hr t ht hsame => ?_
  obtain ⟨s, hs, hr⟩ := (hbehind a ha r hr).steps
  obtain ⟨u, hu, ht⟩ := (hbehind b hb t ht).steps
  rw [hr, ht] at hsame
  exact (List.append_inj' hsame (hs.trans hu.symm)).1

/-- The steps in front are as many for each. -/
theorem Apart.flatMap_of_front {l : Location} {ls : List Location} (hls : Apart ls)
    {f : Location → List Location} {n : Nat} (hfront : ∀ m ∈ ls, l.Extends n m)
    (hf : ∀ m ∈ ls, Apart (f m)) (hbehind : ∀ m ∈ ls, ∀ r ∈ f m, ∃ k, m.Extends k r) :
    Apart (ls.flatMap f) := by
  refine hls.flatMap hf fun a ha b hb r hr t ht hsame => ?_
  obtain ⟨i, hr⟩ := hbehind a ha r hr
  obtain ⟨j, ht⟩ := hbehind b hb t ht
  obtain ⟨s, -, hr⟩ := hr.steps
  obtain ⟨u, -, ht⟩ := ht.steps
  obtain ⟨v, hv, ha⟩ := (hfront a ha).steps
  obtain ⟨w, hw, hb⟩ := (hfront b hb).steps
  have hlength : a.path.steps.length = b.path.steps.length := by
    rw [ha, hb, List.length_append, List.length_append, hv, hw]
  rw [hr, ht] at hsame
  exact (List.append_inj hsame hlength).1

theorem apart_children {l : Location} (hl : l.IsSound) : Apart l.children := by
  refine List.pairwise_map.mpr (hl.node.children_distinct.imp_of_mem ?_)
  intro a b ha hb hne hsame
  have hname := (hl.node.of_mem_children ha).1
  have hother := (hl.node.of_mem_children hb).1
  rw [steps_pathOf hl hname.slash_not_mem, steps_pathOf hl hother.slash_not_mem,
    stepsOf_entry hname, stepsOf_entry hother] at hsame
  exact hne (Component.name.inj (List.singleton_inj.mp (List.append_cancel_left hsame)))

/-- A path that names are put behind, or, if it is bare, that is left out in front of them. -/
structure IsBase (p : Path) (bare : Bool) : Prop where
  nonempty : p.chars ≠ []
  no_steps : bare = true → p.steps = []

/-- The path of an entry as it is put together on the way down. -/
def entryPath (p : Path) (bare : Bool) (name : String) : Path :=
  if bare then ⟨name⟩ else p.join ⟨name⟩

theorem steps_entryPath {p : Path} {bare : Bool} (hp : IsBase p bare) {name : String}
    (hname : IsEntryName name) : (entryPath p bare name).steps = p.steps ++ [.name name] := by
  rw [entryPath, ← stepsOf_entry hname]
  cases bare with
  | true => rw [if_pos rfl, steps_name hname.slash_not_mem, hp.no_steps rfl, List.nil_append]
  | false => rw [if_neg Bool.false_ne_true, steps_join hp.nonempty hname.slash_not_mem]

theorem isBase_entryPath {p : Path} {bare : Bool} (hp : IsBase p bare) {name : String}
    (hname : IsEntryName name) : IsBase (entryPath p bare name) false where
  nonempty := by
    rw [entryPath]
    cases bare with
    | true =>
      rw [if_pos rfl]
      exact fun hnil => hname.ne_empty (String.toList_eq_nil_iff.mp hnil)
    | false =>
      rw [if_neg Bool.false_ne_true]
      exact chars_join_ne_nil hp.nonempty hname.slash_not_mem
  no_steps := fun htrue => absurd htrue Bool.false_ne_true

mutual

/-- Every location below a node is at least one step further. -/
theorem descendants_spec {p : Path} {bare : Bool} {above : List FileNode} (node : FileNode)
    (hp : IsBase p bare) (hnode : node.WellFormed) (habove : ∀ n ∈ above, IsFolder n) :
    (∀ r ∈ descendants p bare above node,
      r.IsSound ∧ ∃ c s, r.path.steps = p.steps ++ c :: s) ∧
    Apart (descendants p bare above node) := by
  cases node with
  | directory entries =>
    obtain ⟨hpasses, hapart⟩ :=
      descendantEntries_spec entries hp hnode (List.forall_mem_cons.mpr ⟨⟨hnode, rfl⟩, habove⟩)
    refine ⟨fun r hr => ?_, hapart⟩
    obtain ⟨hsound, entry, -, s, hs⟩ := hpasses r hr
    exact ⟨hsound, .name entry.1, s, hs⟩
  | file _ _ => exact ⟨fun _ hr => (nomatch hr), List.Pairwise.nil⟩
  | device => exact ⟨fun _ hr => (nomatch hr), List.Pairwise.nil⟩

/-- Every location below a directory is reached by the name of an entry and then any steps. -/
theorem descendantEntries_spec {p : Path} {bare : Bool} {above : List FileNode}
    (entries : Entries) (hp : IsBase p bare) (hentries : entries.WellFormed)
    (habove : ∀ n ∈ above, IsFolder n) :
    (∀ r ∈ descendantEntries p bare above entries,
      r.IsSound ∧ ∃ entry ∈ entries.toList, ∃ s, r.path.steps = p.steps ++ .name entry.1 :: s) ∧
    Apart (descendantEntries p bare above entries) := by
  cases entries with
  | nil => exact ⟨fun _ hr => (nomatch hr), List.Pairwise.nil⟩
  | cons name node rest =>
    obtain ⟨hname, hfresh, hnode, hrest⟩ := hentries
    let here : Location := ⟨entryPath p bare name, node, above⟩
    have hhere : IsBase here.path false := isBase_entryPath hp hname
    have hsteps : here.path.steps = p.steps ++ [.name name] := steps_entryPath hp hname
    obtain ⟨hbelow, hbelowApart⟩ := descendants_spec node hhere hnode habove
    obtain ⟨hothers, hothersApart⟩ := descendantEntries_spec rest hp hrest habove
    have hfirst : ∀ r ∈ here :: descendants here.path false above node,
        r.IsSound ∧ ∃ s, r.path.steps = p.steps ++ .name name :: s := by
      refine List.forall_mem_cons.mpr ⟨⟨⟨hhere.nonempty, hnode, habove⟩, [], hsteps⟩, ?_⟩
      intro r hr
      obtain ⟨hsound, c, s, hs⟩ := hbelow r hr
      exact ⟨hsound, c :: s, by rw [hs, hsteps, List.append_assoc]; rfl⟩
    have hfirstApart : Apart (here :: descendants here.path false above node) := by
      refine List.pairwise_cons.mpr ⟨fun r hr hsame => ?_, hbelowApart⟩
      obtain ⟨-, c, s, hs⟩ := hbelow r hr
      have hnil := List.self_eq_append_right.mp (hsame.trans hs)
      cases hnil
    constructor
    · intro r hr
      obtain hr | hr := List.mem_append.mp (show r ∈ (here :: _) ++ _ from hr)
      · obtain ⟨hsound, hs⟩ := hfirst r hr
        exact ⟨hsound, (name, node), List.mem_cons_self, hs⟩
      · obtain ⟨hsound, entry, hentry, hs⟩ := hothers r hr
        exact ⟨hsound, entry, List.mem_cons_of_mem _ hentry, hs⟩
    · refine List.pairwise_append.mpr ⟨hfirstApart, hothersApart, fun a ha b hb hsame => ?_⟩
      obtain ⟨-, s, hs⟩ := hfirst a ha
      obtain ⟨-, entry, hentry, u, hu⟩ := hothers b hb
      rw [hs, hu] at hsame
      have hheads := (List.cons.inj (List.append_cancel_left hsame)).1
      exact hfresh entry hentry (Component.name.inj hheads).symm

end

theorem below_spec {l : Location} (hl : l.IsSound) :
    (∀ r ∈ l.below, ∃ n, l.Extends n r) ∧ Apart l.below := by
  have hbase : IsBase l.path l.atCurrent :=
    ⟨hl.path, fun hcurrent => by rw [steps, eq_of_beq hcurrent]; rfl⟩
  obtain ⟨hall, hapart⟩ := descendants_spec l.node hbase hl.node hl.above
  refine ⟨fun r hr => ?_, hapart⟩
  obtain ⟨hsound, c, s, hs⟩ := hall r hr
  exact ⟨(c :: s).length, hsound, c :: s, rfl, hs⟩

end Location

end EngineTrials.Glob
