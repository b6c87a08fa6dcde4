import EngineTrials.Proofs.MatchedNames
import Mathlib.Data.List.Forall2

/-!
# Which files a walk meets

A component may match `.` or `..`, and then a walk strays from the entries of a directory. As long
as it goes on from entries alone, the files that it meets are those whose names match, and only
their paths tell where it began.
-/
namespace EngineTrials.Glob
open Text EngineTrials.Path Location

/-- Whether a component matches `.` or `..`, which are not listed among the entries of a directory.
Without a point in front it cannot. -/
def strays (c : Component) : Bool :=
  c.head? == some (.char '.') && (matchesName c "." || matchesName c "..")

/-- Whether a walk goes on from no component that strays. One behind `**` is matched with entries
alone and may. -/
def goesDown : List Component → Bool
  | [] | [_] => true
  | c :: next :: rest =>
    if isRecursive c then
      if isRecursive next then goesDown (next :: rest) else goesDown rest
    else !strays c && goesDown (next :: rest)

/-- Whether the files that the components lead to are all below. There are none if `**` is the last
component. The last one may stray, for what it strays to is no file. -/
def keepsBelow (cs : List Component) : Bool :=
  cs.getLast? == some [.anyDirectories] || goesDown cs

theorem goesDown_cons {c : Component} (hc : isRecursive c = false) {rest : List Component}
    (h : goesDown (c :: rest) = true) : (rest = [] ∨ strays c = false) ∧ goesDown rest = true := by
  cases rest with
  | nil => exact ⟨.inl rfl, rfl⟩
  | cons next rest =>
    rw [goesDown, hc, if_neg Bool.false_ne_true, Bool.and_eq_true, Bool.not_eq_true'] at h
    exact ⟨.inr h.1, h.2⟩

/-- A location is met by going down from a path along these names. -/
structure IsAt (p : Path) (r : Location) (e : List String × FileNode) : Prop where
  sound : r.IsSound
  names : ∀ name ∈ e.1, IsEntryName name
  path : r.path = p.descend e.1
  node : r.node = e.2

theorem IsAt.refl {l : Location} (hl : l.IsSound) : IsAt l.path l ([], l.node) :=
  ⟨hl, fun _ hmem => (nomatch hmem), rfl, rfl⟩

theorem IsAt.trans {p : Path} {m r : Location} {e e' : List String × FileNode} (h : IsAt p m e)
    (h' : IsAt m.path r e') : IsAt p r (behind e.1 e') where
  sound := h'.sound
  names := fun name hmem => (List.mem_append.mp hmem).elim (h.names name) (h'.names name)
  path := by
    rw [h'.path, h.path, behind, Path.descend, Path.descend, Path.descend, List.foldl_append]
  node := h'.node

/-- The names that lead to a location are at least one. -/
structure IsBelow (p : Path) (r : Location) (e : List String × FileNode) : Prop
    extends IsAt p r e where
  ne_nil : e.1 ≠ []

theorem IsBelow.trans {p : Path} {m r : Location} {e e' : List String × FileNode}
    (h : IsBelow p m e) (h' : IsAt m.path r e') : IsBelow p r (behind e.1 e') :=
  { h.toIsAt.trans h' with ne_nil := List.append_ne_nil_of_left_ne_nil h.ne_nil _ }

theorem IsBelow.forall₂_behind {p : Path} {m : Location} {e : List String × FileNode}
    (h : IsBelow p m e) {rs : List Location} {es : List (List String × FileNode)}
    (hrs : List.Forall₂ (IsAt m.path) rs es) : List.Forall₂ (IsBelow p) rs (es.map (behind e.1)) :=
  List.forall₂_map_right_iff.mpr (hrs.imp fun _ _ h' => h.trans h')

/-- The path of a location that is further down ends in the last name. -/
theorem IsBelow.components {p : Path} (hp : p.chars ≠ []) {r : Location}
    {e : List String × FileNode} (h : IsBelow p r e) :
    r.path.components.getLast? = some (.name (e.1.getLastD "")) := by
  obtain ⟨front, name, hnames⟩ := List.eq_nil_or_concat e.1 |>.resolve_left h.ne_nil
  rw [List.concat_eq_append] at hnames
  rw [h.path, components_descend hp h.names, hnames, List.map_append, List.map_singleton,
    ← List.append_assoc, List.getLast?_concat, List.getLastD_concat]

theorem IsBelow.fileName? {p : Path} (hp : p.chars ≠ []) {r : Location}
    {e : List String × FileNode} (h : IsBelow p r e) :
    r.path.fileName? = some (e.1.getLastD "") := by
  rw [Path.fileName?, h.components hp]

theorem IsBelow.name {p : Path} (hp : p.chars ≠ []) {r : Location} {e : List String × FileNode}
    (h : IsBelow p r e) : r.name = e.1.getLastD "" := by
  rw [Location.name, h.fileName? hp]
  rfl

theorem IsBelow.not_atCurrent {p : Path} (hp : p.chars ≠ []) {r : Location}
    {e : List String × FileNode} (h : IsBelow p r e) : r.atCurrent = false := by
  have hlast := h.components hp
  rw [atCurrent, beq_eq_false_iff_ne]
  intro hcurrent
  rw [hcurrent] at hlast
  cases hlast

/-- An entry is one name further down. -/
theorem isBelow_entry {l : Location} (hl : l.IsSound) (hcurrent : l.atCurrent = false)
    {entry : String × FileNode} (hentry : entry ∈ l.node.children) :
    IsBelow l.path ⟨l.pathOf entry.1, entry.2, l.node :: l.above⟩ ([entry.1], entry.2) where
  sound := (extends_entry hl hentry).sound
  names := fun name hmem => List.mem_singleton.mp hmem ▸ (hl.node.of_mem_children hentry).1
  path := by rw [pathOf, hcurrent]; rfl
  node := rfl
  ne_nil := List.cons_ne_nil _ _

mutual

/-- All that is below a node is met where the names lead. -/
theorem descendants_below {p : Path} {above : List FileNode} (node : FileNode)
    (hp : p.chars ≠ []) (hnode : node.WellFormed) (habove : ∀ n ∈ above, IsFolder n) :
    List.Forall₂ (IsBelow p) (descendants p false above node) node.under := by
  cases node with
  | directory entries =>
    exact descendantEntries_below entries hp hnode
      (List.forall_mem_cons.mpr ⟨⟨hnode, rfl⟩, habove⟩)
  | _ => exact .nil

theorem descendantEntries_below {p : Path} {above : List FileNode} (entries : Entries)
    (hp : p.chars ≠ []) (hentries : entries.WellFormed) (habove : ∀ n ∈ above, IsFolder n) :
    List.Forall₂ (IsBelow p) (descendantEntries p false above entries) entries.under := by
  cases entries with
  | nil => exact .nil
  | cons name node rest =>
    obtain ⟨hname, -, hnode, hrest⟩ := hentries
    have hpath : (p.join ⟨name⟩).chars ≠ [] := chars_join_ne_nil hp hname.slash_not_mem
    have hhere : IsBelow p ⟨p.join ⟨name⟩, node, above⟩ ([name], node) :=
      { sound := ⟨hpath, hnode, habove⟩
        names := fun _ hmem => List.mem_singleton.mp hmem ▸ hname
        path := rfl
        node := rfl
        ne_nil := List.cons_ne_nil _ _ }
    have hinner := (descendants_below node hpath hnode habove).imp fun _ _ h => h.toIsAt
    exact .cons hhere (List.rel_append (hhere.forall₂_behind hinner)
      (descendantEntries_below rest hp hrest habove))

end

theorem forall₂_below {l : Location} (hl : l.IsSound) (hcurrent : l.atCurrent = false) :
    List.Forall₂ (IsBelow l.path) l.below l.node.under := by
  rw [below, hcurrent]
  exact descendants_below l.node hl.path hl.node hl.above

theorem eq_of_literal? {c : Component} {name : List Char} (h : literal? c = some name) :
    c = name.map .char := by
  induction c generalizing name with
  | nil => rw [← Option.some.inj h]; rfl
  | cons t rest ih =>
    cases t with
    | char d =>
      obtain ⟨tail, htail, rfl⟩ := Option.map_eq_some_iff.mp h
      rw [List.map_cons, ← ih htail]
    | _ => cases h

theorem matchesTokens_chars {name cs : List Char} :
    matchesTokens (name.map .char) cs = true ↔ cs = name := by
  induction name generalizing cs with
  | nil => exact List.isEmpty_iff
  | cons c name ih =>
    cases cs with
    | nil =>
      refine ⟨fun h => ?_, fun h => ?_⟩
      · cases h
      · cases h
    | cons d cs =>
      have hstep : matchesTokens ((c :: name).map .char) (d :: cs) =
          (d == c && matchesTokens (name.map .char) cs) := by
        simp [matchesTokens, Token.accepts]
      rw [hstep, Bool.and_eq_true, beq_iff_eq, ih, List.cons.injEq]

theorem matchesName_of_literal? {c : Component} {name : List Char} (h : literal? c = some name)
    (s : String) : matchesName c s = true ↔ s = String.ofList name := by
  rw [matchesName, eq_of_literal? h, matchesTokens_chars, ← String.toList_inj,
    String.toList_ofList]

/-- The entries that a component matches. -/
def matched (c : Component) (l : Location) : List Location :=
  (l.node.children.filter fun entry => matchesName c entry.1).map fun entry =>
    ⟨l.pathOf entry.1, entry.2, l.node :: l.above⟩

theorem matched_eq {c : Component} {name : String} (h : ∀ s, matchesName c s = true ↔ s = name)
    {l : Location} (hl : l.IsSound) : matched c l = ((l.node.child? name).map fun child =>
      ⟨l.pathOf name, child, l.node :: l.above⟩).toList := by
  rw [matched, FileNode.filter_children hl.node h]
  cases l.node.child? name <;> rfl

theorem filter_children_eq_matched (c : Component) {l : Location} (hl : l.IsSound) :
    (l.children.filter fun r => matchesName c r.name) = matched c l := by
  rw [Location.children, List.filter_map]
  refine congrArg (List.map _) (List.filter_congr fun entry hentry => ?_)
  have hname := (hl.node.of_mem_children hentry).1
  have hsteps := steps_pathOf hl hname.slash_not_mem
  rw [stepsOf_entry hname] at hsteps
  exact congrArg (matchesName c) (name_of_steps hsteps)

theorem isDirectory_of_mem_specials {c : Component} {l r : Location} (hl : l.IsSound)
    (h : r ∈ specials c l) : r.node.isDirectory = true := by
  rw [specials] at h
  split at h
  case isTrue hpoint =>
    obtain ⟨s, -, hs⟩ := List.mem_filterMap.mp h
    obtain ⟨-, hspecial⟩ := Option.ite_none_right_eq_some.mp hs
    rw [← Option.some.inj hspecial]
    exact isDirectory_special hl (Bool.and_eq_true_iff.mp hpoint).1 s _
  case isFalse => cases h

theorem specials_of_strays {c : Component} (h : strays c = false) (l : Location) :
    specials c l = [] := by
  rw [specials]
  split
  case isTrue hpoint =>
    rw [strays, (Bool.and_eq_true_iff.mp hpoint).2, Bool.true_and, Bool.or_eq_false_iff] at h
    simp only [List.filterMap_cons, List.filterMap_nil, h, Bool.false_eq_true, if_false]
  case isFalse => rfl

theorem strays_of_literal? {c : Component} {name : List Char} (h : literal? c = some name)
    (hname : String.ofList name = "." ∨ String.ofList name = "..") : strays c = true := by
  have hchars : name = ['.'] ∨ name = ['.', '.'] := by
    rwa [← String.ofList_toList (s := "."), ← String.ofList_toList (s := ".."),
      String.ofList_inj, String.ofList_inj] at hname
  obtain rfl | rfl := hchars <;> rw [eq_of_literal? h] <;> rfl

/-- A name other than the special ones is that of an entry. -/
theorem lookup?_eq {l : Location} {name : String} (hempty : name ≠ "")
    (hpoints : ¬ (name = "." ∨ name = "..")) : l.lookup? name =
      (l.node.child? name).map fun child => ⟨l.pathOf name, child, l.node :: l.above⟩ := by
  rw [lookup?]
  cases hnode : l.node with
  | directory entries => exact (if_neg hpoints).trans (if_neg hempty)
  | _ => rfl

/-- Besides the entries that it matches, a component leads to directories only, and nowhere if it
does not stray. -/
theorem entered_cases {c : Component} (hempty : c ≠ []) {l : Location} (hl : l.IsSound) :
    ∃ aside, entered c l = matched c l ++ aside ∧ (∀ r ∈ aside, r.node.isDirectory = true) ∧
      (strays c = false → aside = []) := by
  rw [entered]
  cases hliteral : literal? c with
  | none =>
    exact ⟨specials c l, congrArg (· ++ _) (filter_children_eq_matched c hl),
      fun _ hr => isDirectory_of_mem_specials hl hr, fun h => specials_of_strays h l⟩
  | some name =>
    simp only [matched_eq (matchesName_of_literal? hliteral) hl]
    have hname : String.ofList name ≠ "" := by
      intro hnil
      rw [eq_of_literal? hliteral, String.ofList_eq_empty_iff.mp hnil] at hempty
      exact hempty rfl
    by_cases hpoints : String.ofList name = "." ∨ String.ofList name = ".."
    · have hchild : l.node.child? (String.ofList name) = none := by
        refine Option.eq_none_iff_forall_not_mem.mpr fun child hchild => ?_
        have hentry := (hl.node.child hchild).1
        exact hpoints.elim hentry.ne_current hentry.ne_parent
      refine ⟨(l.lookup? (String.ofList name)).toList, by rw [hchild]; rfl, fun r hr => ?_,
        fun hstrays => ?_⟩
      · have hlookup := Option.mem_toList.mp hr
        obtain ⟨-, rfl⟩ | ⟨child, hmem, -⟩ := lookup?_cases hlookup
        · exact isDirectory_special hl (isDirectory_of_lookup? hlookup) _ _
        · have hentry := (hl.node.of_mem_children hmem).1
          exact (hpoints.elim hentry.ne_current hentry.ne_parent).elim
      · rw [strays_of_literal? hliteral hpoints] at hstrays
        cases hstrays
    · refine ⟨[], ?_, fun _ hr => (List.not_mem_nil hr).elim, fun _ => rfl⟩
      rw [List.append_nil, lookup?_eq hname hpoints]

/-- A component that does not stray leads to the entries that it matches. -/
theorem entered_eq {c : Component} (hempty : c ≠ []) (hstrays : strays c = false) {l : Location}
    (hl : l.IsSound) : entered c l = matched c l := by
  obtain ⟨aside, hentered, -, hnone⟩ := entered_cases hempty hl
  rw [hentered, hnone hstrays, List.append_nil]

theorem filter_eq_nil_of_isDirectory {rs : List Location}
    (h : ∀ r ∈ rs, r.node.isDirectory = true) : (rs.filter fun r => r.node.isRegular) = [] := by
  refine List.filter_eq_nil_iff.mpr fun r hr => ?_
  rw [FileNode.not_isRegular_of_isDirectory (h r hr)]
  exact Bool.false_ne_true

/-- A file that a component leads to is among the entries that it matches. -/
theorem filter_entered {c : Component} (hempty : c ≠ []) {l : Location} (hl : l.IsSound) :
    ((entered c l).filter fun r => r.node.isRegular) =
      (matched c l).filter fun r => r.node.isRegular := by
  obtain ⟨aside, hentered, hfolders, -⟩ := entered_cases hempty hl
  rw [hentered, List.filter_append, filter_eq_nil_of_isDirectory hfolders, List.append_nil]

/-- If the walk ends there or goes on from entries alone, the files are found by way of entries. -/
theorem filter_flatMap_entered {c : Component} (hempty : c ≠ []) {rest : List Component}
    (hends : rest = [] ∨ strays c = false) {l : Location} (hl : l.IsSound) :
    (((entered c l).flatMap (onward rest)).filter fun r => r.node.isRegular) =
      ((matched c l).flatMap (onward rest)).filter fun r => r.node.isRegular := by
  obtain rfl | hstrays := hends
  · have hself (ls : List Location) : ls.flatMap (onward []) = ls := List.flatMap_singleton' ls
    rw [hself, hself, filter_entered hempty hl]
  · rw [entered_eq hempty hstrays hl]

theorem filter_map_behind (passed : List String) (es : List (List String × FileNode)) :
    ((es.map (behind passed)).filter fun e => e.2.isRegular) =
      (es.filter fun e => e.2.isRegular).map (behind passed) :=
  List.filter_map

/-- What is met by some components is further down. -/
def IsMet (cs : List Component) (p : Path) (r : Location) (e : List String × FileNode) : Prop :=
  IsAt p r e ∧ (cs ≠ [] → e.1 ≠ [])

theorem IsBelow.isMet {cs : List Component} {p : Path} {r : Location}
    {e : List String × FileNode} (h : IsBelow p r e) : IsMet cs p r e :=
  ⟨h.toIsAt, fun _ => h.ne_nil⟩

theorem IsAt.isRegular {p : Path} {r : Location} {e : List String × FileNode} (h : IsAt p r e) :
    r.node.isRegular = true ↔ e.2.isRegular = true := by
  rw [h.node]

/-- The files that a walk meets are those that the components lead to, wherever the node is. -/
theorem forall₂_onward : (cs : List Component) → [] ∉ cs → goesDown cs = true →
    {l : Location} → l.IsSound → l.atCurrent = false →
    List.Forall₂ (IsMet cs l.path) ((onward cs l).filter fun r => r.node.isRegular)
      ((reached cs l.node).filter fun e => e.2.isRegular)
  | [], _, _, l, hl, _ =>
    List.rel_filter (fun _ _ h => h.1.isRegular)
      (.cons ⟨.refl hl, fun hne => absurd rfl hne⟩ .nil)
  | c :: rest, hempty, hdown, l, hl, hcurrent => by
    obtain ⟨hc, hrest⟩ := List.ne_and_not_mem_of_not_mem_cons hempty
    refine List.Forall₂.imp (R := IsBelow l.path) (fun _ _ h => h.isMet) ?_
    rw [onward_cons]
    cases hrecursive : isRecursive c with
    | false =>
      obtain ⟨hends, hdownRest⟩ := goesDown_cons hrecursive hdown
      rw [walk_cons hrecursive, reached_cons hrecursive, filter_flatMap_entered hc.symm hends hl,
        matched, List.flatMap_map, List.filter_flatMap, List.filter_flatMap]
      refine List.rel_flatten (List.forall₂_map_left_iff.mpr (List.forall₂_map_right_iff.mpr
        (List.forall₂_same.mpr fun entry hentry => ?_)))
      have hentry := isBelow_entry hl hcurrent (List.mem_of_mem_filter hentry)
      have honward := forall₂_onward rest hrest hdownRest hentry.sound
        (hentry.not_atCurrent hl.path)
      rw [filter_map_behind]
      exact hentry.forall₂_behind (honward.imp fun _ _ h => h.1)
    | true =>
      obtain rfl := isRecursive_iff.mp hrecursive
      have hbelow := forall₂_below hl hcurrent
      match rest with
      | [] =>
        rw [walk_recursive_last, reached_recursive_last]
        have hsame (r : Location) (e : List String × FileNode) (h : IsBelow l.path r e) :
            r.node.isDirectory = true ↔ e.2.isDirectory = true := by rw [h.node]
        exact List.rel_filter (fun _ _ h => h.isRegular) (List.rel_filter hsame hbelow)
      | next :: rest =>
        cases hnext : isRecursive next with
        | true =>
          rw [goesDown, if_pos hrecursive, if_pos hnext] at hdown
          rw [walk_recursive_recursive hnext, reached_recursive_recursive hnext]
          have honward := forall₂_onward (next :: rest) hrest hdown hl hcurrent
          exact honward.imp fun _ _ h => { h.1 with ne_nil := h.2 (List.cons_ne_nil _ _) }
        | false =>
          -- What follows `**` is matched in the same step, with entries that were found already.
          -- It may stray, and the induction is on what comes behind both.
          rw [goesDown, if_pos hrecursive, if_neg (Bool.eq_false_iff.mp hnext)] at hdown
          rw [walk_recursive_cons hnext, reached_recursive_cons hnext, List.filter_flatMap,
            List.filter_flatMap]
          have hsame (r : Location) (e : List String × FileNode) (h : IsBelow l.path r e) :
              matchesName next r.name = true ↔ matchesName next (e.1.getLastD "") = true := by
            rw [h.name hl.path]
          refine List.rel_flatMap (List.rel_filter hsame hbelow) fun r e h => ?_
          have honward := forall₂_onward rest (List.not_mem_of_not_mem_cons hrest) hdown h.sound
            (h.not_atCurrent hl.path)
          rw [h.node] at honward
          rw [filter_map_behind]
          exact h.forall₂_behind (honward.imp fun _ _ h' => h'.1)

/-- With `**` at its end, a walk comes to directories only. -/
theorem isDirectory_of_mem_onward : (cs : List Component) →
    cs.getLast? = some [.anyDirectories] → {l r : Location} → r ∈ onward cs l →
    r.node.isDirectory = true
  | [], hlast, _, _, _ => by cases hlast
  | c :: rest, hlast, l, r, hr => by
    rw [onward_cons] at hr
    cases hc : isRecursive c with
    | false =>
      rw [walk_cons hc] at hr
      obtain ⟨_, -, hr⟩ := List.mem_flatMap.mp hr
      exact isDirectory_of_mem_onward rest (getLast?_of_cons hc hlast) hr
    | true =>
      obtain rfl := isRecursive_iff.mp hc
      match rest with
      | [] =>
        rw [walk_recursive_last] at hr
        exact (List.mem_filter.mp hr).2
      | next :: rest =>
        rw [List.getLast?_cons_cons] at hlast
        cases hnext : isRecursive next with
        | true =>
          rw [walk_recursive_recursive hnext] at hr
          exact isDirectory_of_mem_onward (next :: rest) hlast hr
        | false =>
          rw [walk_recursive_cons hnext] at hr
          obtain ⟨_, -, hr⟩ := List.mem_flatMap.mp hr
          exact isDirectory_of_mem_onward rest (getLast?_of_cons hnext hlast) hr

/-- The files that a walk meets are those below whose names match. -/
theorem forall₂_files {cs : List Component} (hcs : cs ≠ []) (hempty : [] ∉ cs)
    (hkeeps : keepsBelow cs = true) {l : Location} (hl : l.IsSound)
    (hcurrent : l.atCurrent = false) :
    List.Forall₂ (IsBelow l.path) ((walk cs l).filter fun r => r.node.isRegular)
      ((reached cs l.node).filter fun e => e.2.isRegular) := by
  have hwalk : walk cs l = onward cs l := by
    rw [onward, if_neg fun hnil => hcs (List.isEmpty_iff.mp hnil)]
  rw [hwalk]
  obtain hlast | hdown := Bool.or_eq_true_iff.mp hkeeps
  · have hlast := eq_of_beq hlast
    have hreached : ((reached cs l.node).filter fun e => e.2.isRegular) = [] := by
      refine List.filter_eq_nil_iff.mpr fun e he hregular => ?_
      have hmatches := ((mem_reached_iff hl.node hregular cs).mp he).2
      rw [matchesNames_of_getLast? hlast] at hmatches
      cases hmatches
    rw [hreached, filter_eq_nil_of_isDirectory fun _ hr => isDirectory_of_mem_onward cs hlast hr]
    exact .nil
  · have honward := forall₂_onward cs hempty hdown hl hcurrent
    exact honward.imp fun _ _ h => { h.1 with ne_nil := h.2 hcs }

end EngineTrials.Glob
