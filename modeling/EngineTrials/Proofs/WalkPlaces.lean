import EngineTrials.Proofs.TreePlaces
import EngineTrials.Proofs.WalkSteps

/-!
# Places of a walk

A location holds a path, the node there and the nodes above it. That these belong together, and to
the tree, is kept by every step of a walk. Everything below a location is met from there, each node
by the one trail that leads to it.
-/
namespace EngineTrials

theorem FileSystem.place_of_steps {fs : FileSystem} {p q : Path} {s : List Path.Component}
    (habsolute : q.isAbsolute = p.isAbsolute) (hsteps : q.steps = p.steps ++ s) :
    fs.place q = s.foldl climb (fs.place p) := by
  rw [place, place, startOf, startOf, habsolute, hsteps, List.foldl_append]

namespace Glob
open EngineTrials.Path

namespace Location

/-- The location is where a trail ends: its path leads to the place, and its nodes are those of the
trail. -/
structure Stands (fs : FileSystem) (l : Location) (trail : Trail) : Prop where
  valid : fs.IsTrail trail
  node : l.node = fs.nodeAt trail
  above : l.above = (fs.lineage trail).tail
  place : fs.place l.path = trail.map Prod.fst

theorem isAbsolute_of_atCurrent {l : Location} (h : l.atCurrent = true) :
    l.path.isAbsolute = false := by
  have hcomponents : l.path.components = [.current] := eq_of_beq h
  rw [components] at hcomponents
  cases habsolute : l.path.isAbsolute with
  | false => rfl
  | true =>
    rw [habsolute, if_pos rfl] at hcomponents
    cases hcomponents

theorem isAbsolute_pathOf {l : Location} (hl : l.path.chars ≠ []) {name : String}
    (h : '/' ∉ name.toList) : (l.pathOf name).isAbsolute = l.path.isAbsolute := by
  rw [pathOf]
  by_cases hcurrent : l.atCurrent = true
  · rw [if_pos hcurrent, isAbsolute_name h, isAbsolute_of_atCurrent hcurrent]
  · rw [if_neg hcurrent, isAbsolute_join hl h]

theorem place_pathOf {fs : FileSystem} {l : Location} (hl : l.IsSound) {name : String}
    (h : '/' ∉ name.toList) :
    fs.place (l.pathOf name) = (stepsOf name).foldl FileSystem.climb (fs.place l.path) :=
  FileSystem.place_of_steps (isAbsolute_pathOf hl.path h) (steps_pathOf hl h)

/-- An entry stands one step behind its directory, if its path does. -/
theorem Stands.entry {fs : FileSystem} {l : Location} {trail : Trail} (h : l.Stands fs trail)
    {entry : String × FileNode} (hentry : entry ∈ l.node.children) {p : Path}
    (hp : fs.place p = entry.1 :: fs.place l.path) :
    Stands fs ⟨p, entry.2, l.node :: l.above⟩ (entry :: trail) where
  valid := ⟨h.node ▸ hentry, h.valid⟩
  node := rfl
  above := by
    rw [h.node, h.above]
    exact (fs.lineage_eq trail).symm
  place := by rw [hp, h.place, List.map_cons]

/-- `.` and an empty name stay where they are, `..` goes up. -/
theorem Stands.special {fs : FileSystem} {l : Location} {trail : Trail} (h : l.Stands fs trail)
    {name : String} (hname : name = "" ∨ name = "." ∨ name = "..") {p : Path}
    (hp : fs.place p = (stepsOf name).foldl FileSystem.climb (fs.place l.path)) :
    ∃ trail', (l.special name p).Stands fs trail' := by
  have hstay (hsteps : stepsOf name = []) (hup : name ≠ "..") :
      (l.special name p).Stands fs trail := by
    rw [Location.special, if_neg hup]
    exact ⟨h.valid, h.node, h.above, by rw [hp, hsteps, ← h.place]; rfl⟩
  obtain rfl | rfl | rfl := hname
  · exact ⟨trail, hstay rfl (by decide)⟩
  · exact ⟨trail, hstay stepsOf_current (by decide)⟩
  · refine ⟨trail.tail, ?_⟩
    rw [stepsOf_parent] at hp
    have hplace : fs.place p = trail.tail.map Prod.fst := by
      rw [hp, h.place, List.map_tail]
      rfl
    have habove := h.above
    cases trail with
    | nil =>
      -- The directory above the root is the root.
      rw [Location.special, if_pos rfl, habove]
      exact ⟨h.valid, h.node, rfl, hplace⟩
    | cons entry trail =>
      have hlineage : l.above = fs.nodeAt trail :: (fs.lineage trail).tail :=
        habove.trans (fs.lineage_eq trail)
      rw [Location.special, if_pos rfl, hlineage]
      exact ⟨h.valid.2, rfl, rfl, hplace⟩

theorem path_of_lookup? {l r : Location} {name : String} (h : l.lookup? name = some r) :
    r.path = l.pathOf name := by
  obtain ⟨-, rfl⟩ | ⟨node, -, rfl⟩ := lookup?_cases h
  · exact path_special l name _
  · rfl

/-- What is looked up stands somewhere. -/
theorem Stands.lookup? {fs : FileSystem} {l r : Location} {trail : Trail} (h : l.Stands fs trail)
    (hl : l.IsSound) {name : String} (hname : '/' ∉ name.toList) (hr : l.lookup? name = some r) :
    ∃ trail', r.Stands fs trail' := by
  have hplace : fs.place (l.pathOf name) = _ := place_pathOf hl hname
  obtain ⟨hstays, rfl⟩ | ⟨node, hmem, rfl⟩ := lookup?_cases hr
  · have hspecial : name = "" ∨ name = "." ∨ name = ".." := by
      obtain hpoint | hup | ⟨hempty, -⟩ := hstays
      · exact .inr (.inl hpoint)
      · exact .inr (.inr hup)
      · exact .inl hempty
    exact h.special hspecial hplace
  · rw [stepsOf_entry (hl.node.of_mem_children hmem).1] at hplace
    exact ⟨_, h.entry hmem hplace⟩

/-- A base for paths to what is below; if it is bare, then because it is the current directory. -/
structure IsFooting (p : Path) (bare : Bool) : Prop extends IsBase p bare where
  relative : bare = true → p.isAbsolute = false

theorem isFooting_entryPath {p : Path} {bare : Bool} (hp : IsBase p bare) {name : String}
    (hname : IsEntryName name) : IsFooting (entryPath p bare name) false :=
  { isBase_entryPath hp hname with relative := fun h => absurd h Bool.false_ne_true }

theorem place_entryPath {fs : FileSystem} {p : Path} {bare : Bool} (hp : IsFooting p bare)
    {name : String} (hname : IsEntryName name) :
    fs.place (entryPath p bare name) = name :: fs.place p := by
  have habsolute : (entryPath p bare name).isAbsolute = p.isAbsolute := by
    rw [entryPath]
    cases bare with
    | true => rw [if_pos rfl, isAbsolute_name hname.slash_not_mem, hp.relative rfl]
    | false => rw [if_neg Bool.false_ne_true, isAbsolute_join hp.nonempty hname.slash_not_mem]
  exact FileSystem.place_of_steps habsolute (steps_entryPath hp.toIsBase hname)

/-- The steps that lead down a trail. -/
def stepsDown (front : Trail) : List Path.Component :=
  (front.map fun entry => .name entry.1).reverse

theorem stepsDown_append (front trail : Trail) :
    stepsDown (front ++ trail) = stepsDown trail ++ stepsDown front := by
  rw [stepsDown, List.map_append, List.reverse_append, stepsDown, stepsDown]

/-- Where a location stands that is reached from the end of a trail by going down some way. -/
def StandsBelow (fs : FileSystem) (p : Path) (trail : Trail) (r : Location) : Prop :=
  ∃ front, front ≠ [] ∧ r.Stands fs (front ++ trail) ∧ r.path.steps = p.steps ++ stepsDown front

theorem standsBelow_entry {fs : FileSystem} {p q : Path} {trail : Trail}
    {entry : String × FileNode} {r : Location} (hq : q.steps = p.steps ++ [.name entry.1])
    (h : StandsBelow fs q (entry :: trail) r) : StandsBelow fs p trail r := by
  obtain ⟨front, -, hstands, hsteps⟩ := h
  refine ⟨front ++ [entry], List.append_ne_nil_of_right_ne_nil _ (List.cons_ne_nil _ _), ?_, ?_⟩
  · rw [List.append_assoc]
    exact hstands
  · rw [stepsDown_append, ← List.append_assoc]
    exact hq ▸ hsteps

mutual

/-- All that is met below a node stands below it. -/
theorem descendants_stand {fs : FileSystem} {p : Path} {bare : Bool} {above : List FileNode}
    {trail : Trail} (node : FileNode) (h : Stands fs ⟨p, node, above⟩ trail)
    (hp : IsFooting p bare) (hnode : node.WellFormed) :
    ∀ r ∈ descendants p bare above node, StandsBelow fs p trail r := by
  cases node with
  | directory entries =>
    exact descendantEntries_stand entries h (List.Subset.refl _) hp hnode
  | file _ _ => exact fun _ hr => (nomatch hr)
  | device => exact fun _ hr => (nomatch hr)

theorem descendantEntries_stand {fs : FileSystem} {p : Path} {bare : Bool}
    {above : List FileNode} {node : FileNode} {trail : Trail} (entries : Entries)
    (h : Stands fs ⟨p, node, above⟩ trail) (hsub : entries.toList ⊆ node.children)
    (hp : IsFooting p bare) (hnode : node.WellFormed) :
    ∀ r ∈ descendantEntries p bare (node :: above) entries, StandsBelow fs p trail r := by
  cases entries with
  | nil => exact fun _ hr => (nomatch hr)
  | cons name child rest =>
    obtain ⟨hmem, hrest⟩ := List.cons_subset.mp hsub
    obtain ⟨hname, hchild⟩ := hnode.of_mem_children hmem
    let here : Location := ⟨entryPath p bare name, child, node :: above⟩
    have hhere : here.Stands fs ((name, child) :: trail) := h.entry hmem (place_entryPath hp hname)
    have hsteps : here.path.steps = p.steps ++ [.name name] := steps_entryPath hp.toIsBase hname
    have hfooting : IsFooting here.path false := isFooting_entryPath hp.toIsBase hname
    intro r hr
    obtain hr | hr := List.mem_append.mp (show r ∈ (here :: _) ++ _ from hr)
    · obtain rfl | hr := List.mem_cons.mp hr
      · exact ⟨[(name, child)], List.cons_ne_nil _ _, hhere, hsteps⟩
      · exact standsBelow_entry hsteps (descendants_stand child hhere hfooting hchild r hr)
    · exact descendantEntries_stand rest h hrest hp hnode r hr

end

mutual

/-- Every trail below a node is met. -/
theorem descendants_complete {fs : FileSystem} {p : Path} {bare : Bool} {above : List FileNode}
    {trail front : Trail} {entry : String × FileNode} (node : FileNode)
    (h : Stands fs ⟨p, node, above⟩ trail) (hp : IsFooting p bare) (hnode : node.WellFormed)
    (htrail : fs.IsTrail (front ++ entry :: trail)) :
    ∃ r ∈ descendants p bare above node, r.Stands fs (front ++ entry :: trail) := by
  have hmem : entry ∈ node.children := by
    rw [show node = fs.nodeAt trail from h.node]
    exact htrail.of_append.1
  cases node with
  | directory entries =>
    exact descendantEntries_complete entries h (List.Subset.refl _) hp hnode hmem htrail
  | file _ _ => cases hmem
  | device => cases hmem

theorem descendantEntries_complete {fs : FileSystem} {p : Path} {bare : Bool}
    {above : List FileNode} {node : FileNode} {trail front : Trail} {entry : String × FileNode}
    (entries : Entries) (h : Stands fs ⟨p, node, above⟩ trail)
    (hsub : entries.toList ⊆ node.children) (hp : IsFooting p bare) (hnode : node.WellFormed)
    (hmem : entry ∈ entries.toList) (htrail : fs.IsTrail (front ++ entry :: trail)) :
    ∃ r ∈ descendantEntries p bare (node :: above) entries,
      r.Stands fs (front ++ entry :: trail) := by
  cases entries with
  | nil => cases hmem
  | cons name child rest =>
    obtain ⟨hfirst, hrest⟩ := List.cons_subset.mp hsub
    obtain ⟨hname, hchild⟩ := hnode.of_mem_children hfirst
    let here : Location := ⟨entryPath p bare name, child, node :: above⟩
    have hhere : here.Stands fs ((name, child) :: trail) :=
      h.entry hfirst (place_entryPath hp hname)
    have hfooting : IsFooting here.path false := isFooting_entryPath hp.toIsBase hname
    obtain rfl | hmem := List.mem_cons.mp hmem
    · -- The trail goes on below this entry, or ends there.
      obtain rfl | ⟨front, next, rfl⟩ := List.eq_nil_or_concat front
      · exact ⟨here, List.mem_cons_self, hhere⟩
      · rw [List.concat_eq_append, List.append_assoc] at htrail ⊢
        obtain ⟨r, hr, hstands⟩ := descendants_complete child hhere hfooting hchild htrail
        exact ⟨r, List.mem_cons_of_mem _ (List.mem_append_left _ hr), hstands⟩
    · obtain ⟨r, hr, hstands⟩ := descendantEntries_complete rest h hrest hp hnode hmem htrail
      exact ⟨r, List.mem_cons_of_mem _ (List.mem_append_right _ hr), hstands⟩

end

theorem isFooting_path {l : Location} (hl : l.path.chars ≠ []) : IsFooting l.path l.atCurrent where
  nonempty := hl
  no_steps := fun hcurrent => by rw [steps, eq_of_beq hcurrent]; rfl
  relative := isAbsolute_of_atCurrent

/-- What is below a location is what the trails below it end at. -/
theorem below_stands {fs : FileSystem} {l : Location} {trail : Trail} (h : l.Stands fs trail)
    (hl : l.IsSound) : ∀ r ∈ l.below, StandsBelow fs l.path trail r :=
  descendants_stand l.node h (isFooting_path hl.path) hl.node

theorem below_complete {fs : FileSystem} {l : Location} {trail front : Trail}
    (h : l.Stands fs trail) (hl : l.IsSound) (hfront : front ≠ [])
    (htrail : fs.IsTrail (front ++ trail)) : ∃ r ∈ l.below, r.Stands fs (front ++ trail) := by
  obtain rfl | ⟨front, entry, rfl⟩ := List.eq_nil_or_concat front
  · exact absurd rfl hfront
  · rw [List.concat_eq_append, List.append_assoc] at htrail ⊢
    exact descendants_complete l.node h (isFooting_path hl.path) hl.node htrail

end Location
end Glob
end EngineTrials
