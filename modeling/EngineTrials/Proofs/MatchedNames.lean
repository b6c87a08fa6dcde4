import EngineTrials.Proofs.NamesBelow
import Mathlib.Data.List.Infix

/-!
# Names that a pattern matches

A pattern matches names one component at a time, except that `**` matches any number of directories.
What its components lead to in a tree, a directory at a time, are the files whose names match.
-/
namespace EngineTrials.Glob

/-- Whether names match components one by one, `**` any number of them. It passes directories only,
so that something has to follow it where a file is looked for. -/
def matchesNames : List Component → List String → Bool
  | [], names => names.isEmpty
  | c :: rest, names =>
    if isRecursive c then !rest.isEmpty && names.tails.any (matchesNames rest)
    else
      match names with
      | [] => false
      | name :: names => matchesName c name && matchesNames rest names

/-- What is below, as it is seen from above the names that lead there. -/
def behind (names : List String) (below : List String × FileNode) : List String × FileNode :=
  (names ++ below.1, below.2)

/-- What the components lead to from a node, with the names that were passed. -/
def reached : List Component → FileNode → List (List String × FileNode)
  | [], node => [([], node)]
  | c :: rest, node =>
    if isRecursive c then
      match rest with
      | [] => node.under.filter fun e => e.2.isDirectory
      | next :: rest =>
        if isRecursive next then reached (next :: rest) node
        else (node.under.filter fun e => matchesName next (e.1.getLastD "")).flatMap fun e =>
          (reached rest e.2).map (behind e.1)
    else (node.children.filter fun entry => matchesName c entry.1).flatMap fun entry =>
      (reached rest entry.2).map (behind [entry.1])

theorem reached_cons {c : Component} (hc : isRecursive c = false) (rest : List Component)
    (node : FileNode) : reached (c :: rest) node =
      (node.children.filter fun entry => matchesName c entry.1).flatMap fun entry =>
        (reached rest entry.2).map (behind [entry.1]) := by
  rw [reached.eq_def]
  simp only [hc]
  rfl

theorem reached_recursive_last (node : FileNode) :
    reached [[.anyDirectories]] node = node.under.filter fun e => e.2.isDirectory := rfl

theorem reached_recursive_recursive {c : Component} (hc : isRecursive c = true)
    (rest : List Component) (node : FileNode) :
    reached ([.anyDirectories] :: c :: rest) node = reached (c :: rest) node := by
  rw [reached.eq_def]
  simp only [hc]
  rfl

theorem reached_recursive_cons {c : Component} (hc : isRecursive c = false)
    (rest : List Component) (node : FileNode) : reached ([.anyDirectories] :: c :: rest) node =
      (node.under.filter fun e => matchesName c (e.1.getLastD "")).flatMap fun e =>
        (reached rest e.2).map (behind e.1) := by
  rw [reached.eq_def]
  simp only [hc]
  rfl

theorem getLast?_of_cons {c : Component} (hc : isRecursive c = false) {rest : List Component}
    (h : (c :: rest).getLast? = some [.anyDirectories]) :
    rest.getLast? = some [.anyDirectories] := by
  cases rest with
  | nil =>
    obtain rfl : c = [.anyDirectories] := Option.some.inj h
    cases hc
  | cons next rest => rwa [List.getLast?_cons_cons] at h

theorem matchesNames_cons {c : Component} (hc : isRecursive c = false) (rest : List Component)
    (name : String) (names : List String) :
    matchesNames (c :: rest) (name :: names) = (matchesName c name && matchesNames rest names) := by
  rw [matchesNames, if_neg (by rw [hc]; exact Bool.false_ne_true)]

theorem matchesNames_cons_nil {c : Component} (hc : isRecursive c = false)
    (rest : List Component) : matchesNames (c :: rest) [] = false := by
  rw [matchesNames, if_neg (by rw [hc]; exact Bool.false_ne_true)]

theorem matchesNames_recursive_last (names : List String) :
    matchesNames [[.anyDirectories]] names = false := rfl

theorem matchesNames_recursive_cons (c : Component) (rest : List Component)
    (names : List String) : matchesNames ([.anyDirectories] :: c :: rest) names = true ↔
      ∃ front tail, names = front ++ tail ∧ matchesNames (c :: rest) tail = true := by
  have hsome : matchesNames ([.anyDirectories] :: c :: rest) names =
      names.tails.any (matchesNames (c :: rest)) := by
    cases names <;> rfl
  rw [hsome, List.any_eq_true]
  constructor
  · rintro ⟨tail, htail, hmatches⟩
    obtain ⟨front, hnames⟩ := (List.mem_tails _ _).mp htail
    exact ⟨front, tail, hnames.symm, hmatches⟩
  · rintro ⟨front, tail, rfl, hmatches⟩
    exact ⟨tail, (List.mem_tails _ _).mpr (List.suffix_append front tail), hmatches⟩

/-- One `**` behind another adds nothing. -/
theorem matchesNames_recursive_recursive (rest : List Component) (names : List String) :
    matchesNames ([.anyDirectories] :: [.anyDirectories] :: rest) names = true ↔
      matchesNames ([.anyDirectories] :: rest) names = true := by
  rw [matchesNames_recursive_cons]
  refine ⟨?_, fun hmatches => ⟨[], names, rfl, hmatches⟩⟩
  rintro ⟨front, tail, rfl, hmatches⟩
  cases rest with
  | nil => exact absurd hmatches Bool.false_ne_true
  | cons c rest =>
    obtain ⟨between, tail, rfl, htail⟩ := (matchesNames_recursive_cons c rest tail).mp hmatches
    exact (matchesNames_recursive_cons c rest _).mpr
      ⟨front ++ between, tail, (List.append_assoc _ _ _).symm, htail⟩

/-- No file is matched with `**` at the end. -/
theorem matchesNames_of_getLast? {cs : List Component}
    (h : cs.getLast? = some [.anyDirectories]) (names : List String) :
    matchesNames cs names = false := by
  induction cs generalizing names with
  | nil => cases h
  | cons c rest ih =>
    cases hc : isRecursive c with
    | false =>
      cases names with
      | nil => exact matchesNames_cons_nil hc rest
      | cons name names =>
        rw [matchesNames_cons hc, ih (getLast?_of_cons hc h), Bool.and_false]
    | true =>
      obtain rfl := isRecursive_iff.mp hc
      cases rest with
      | nil => exact matchesNames_recursive_last names
      | cons next rest =>
        rw [List.getLast?_cons_cons] at h
        rw [Bool.eq_false_iff, Ne, matchesNames_recursive_cons]
        rintro ⟨_, tail, -, hmatches⟩
        rw [ih h] at hmatches
        cases hmatches

theorem mem_map_behind {names front : List String} {below : FileNode}
    {es : List (List String × FileNode)} : (names, below) ∈ es.map (behind front) ↔
      ∃ tail, names = front ++ tail ∧ (tail, below) ∈ es := by
  rw [List.mem_map]
  constructor
  · rintro ⟨⟨tail, below⟩, hmem, heq⟩
    obtain ⟨rfl, rfl⟩ := Prod.mk.inj heq
    exact ⟨tail, rfl, hmem⟩
  · rintro ⟨tail, rfl, hmem⟩
    exact ⟨(tail, below), hmem, rfl⟩

theorem mem_reached_cons_iff {node : FileNode} (h : node.WellFormed) {c : Component}
    (hc : isRecursive c = false) {rest : List Component} {names : List String}
    {below : FileNode} : (names, below) ∈ reached (c :: rest) node ↔
      ∃ name tail child, names = name :: tail ∧ node.child? name = some child ∧
        matchesName c name = true ∧ (tail, below) ∈ reached rest child := by
  rw [reached_cons hc, List.mem_flatMap]
  constructor
  · rintro ⟨⟨name, child⟩, hentry, hmem⟩
    obtain ⟨hentry, hname⟩ := List.mem_filter.mp hentry
    obtain ⟨tail, rfl, htail⟩ := mem_map_behind.mp hmem
    exact ⟨name, tail, child, rfl, (FileNode.child?_eq_some_iff h).mpr hentry, hname, htail⟩
  · rintro ⟨name, tail, child, rfl, hchild, hname, htail⟩
    have hentry := (FileNode.child?_eq_some_iff h).mp hchild
    exact ⟨(name, child), List.mem_filter.mpr ⟨hentry, hname⟩,
      mem_map_behind.mpr ⟨tail, rfl, htail⟩⟩

/-- `**` passes some directories, and what is behind it goes on from there. -/
theorem mem_reached_recursive_iff {node : FileNode} (h : node.WellFormed) {c : Component}
    (hc : isRecursive c = false) {rest : List Component} {names : List String}
    {below : FileNode} : (names, below) ∈ reached ([.anyDirectories] :: c :: rest) node ↔
      ∃ front tail inner, names = front ++ tail ∧ node.descend? front = some inner ∧
        (tail, below) ∈ reached (c :: rest) inner := by
  rw [reached_recursive_cons hc, List.mem_flatMap]
  constructor
  · rintro ⟨⟨passed, child⟩, hpassed, hmem⟩
    obtain ⟨hunder, hname⟩ := List.mem_filter.mp hpassed
    obtain ⟨tail, rfl, htail⟩ := mem_map_behind.mp hmem
    obtain ⟨hne, hdescend⟩ := (FileNode.mem_under_iff node h).mp hunder
    obtain ⟨front, name, rfl⟩ := List.eq_nil_or_concat passed |>.resolve_left hne
    rw [List.concat_eq_append] at hdescend hname ⊢
    rw [List.getLastD_concat] at hname
    rw [FileNode.descend?_append] at hdescend
    obtain ⟨inner, hinner, hchild⟩ := Option.bind_eq_some_iff.mp hdescend
    rw [FileNode.descend?, Option.bind_eq_some_iff] at hchild
    obtain ⟨_, hchild, hsame⟩ := hchild
    obtain rfl := Option.some.inj hsame
    exact ⟨front, name :: tail, inner, List.append_assoc _ _ _, hinner,
      (mem_reached_cons_iff (h.descend hinner).2 hc).mpr
        ⟨name, tail, _, rfl, hchild, hname, htail⟩⟩
  · rintro ⟨front, tail, inner, rfl, hinner, hmem⟩
    obtain ⟨name, tail, child, rfl, hchild, hname, htail⟩ :=
      (mem_reached_cons_iff (h.descend hinner).2 hc).mp hmem
    have hdescend : node.descend? (front ++ [name]) = some child := by
      rw [FileNode.descend?_append, hinner, Option.bind_some, FileNode.descend?, hchild]
      rfl
    have hunder := (FileNode.mem_under_iff node h).mpr
      ⟨List.append_ne_nil_of_right_ne_nil front (List.cons_ne_nil name []), hdescend⟩
    refine ⟨(front ++ [name], child), List.mem_filter.mpr ⟨hunder, ?_⟩, ?_⟩
    · rw [List.getLastD_concat]
      exact hname
    · exact mem_map_behind.mpr ⟨tail, (List.append_assoc front [name] tail).symm, htail⟩

/-- A file is reached by the names that match, and by no others. -/
theorem mem_reached_iff {node below : FileNode} (h : node.WellFormed)
    (hregular : below.isRegular = true) :
    (cs : List Component) → {names : List String} → ((names, below) ∈ reached cs node ↔
      node.descend? names = some below ∧ matchesNames cs names = true)
  | [], names => by
    rw [reached, List.mem_singleton, Prod.mk.injEq, matchesNames, List.isEmpty_iff]
    constructor
    · rintro ⟨rfl, rfl⟩
      exact ⟨rfl, rfl⟩
    · rintro ⟨hbelow, rfl⟩
      exact ⟨rfl, (Option.some.inj hbelow).symm⟩
  | c :: rest, names => by
    cases hc : isRecursive c with
    | false =>
      rw [mem_reached_cons_iff h hc]
      constructor
      · rintro ⟨name, tail, child, rfl, hchild, hname, htail⟩
        have hwell := (h.of_mem_children (FileNode.mem_children_of_child? hchild)).2
        rw [mem_reached_iff hwell hregular rest] at htail
        rw [FileNode.descend?, hchild, matchesNames_cons hc, hname]
        exact htail
      · rintro ⟨hbelow, hmatches⟩
        cases names with
        | nil => rw [matchesNames_cons_nil hc] at hmatches; cases hmatches
        | cons name tail =>
          rw [matchesNames_cons hc, Bool.and_eq_true] at hmatches
          obtain ⟨child, hchild, hbelow⟩ := Option.bind_eq_some_iff.mp hbelow
          have hwell := (h.of_mem_children (FileNode.mem_children_of_child? hchild)).2
          exact ⟨name, tail, child, rfl, hchild, hmatches.1,
            (mem_reached_iff hwell hregular rest).mpr ⟨hbelow, hmatches.2⟩⟩
    | true =>
      obtain rfl := isRecursive_iff.mp hc
      match rest with
      | [] =>
        rw [reached_recursive_last, List.mem_filter, matchesNames_recursive_last]
        refine ⟨fun ⟨_, hdirectory⟩ => ?_, fun ⟨_, hfalse⟩ => (nomatch hfalse)⟩
        rw [FileNode.not_isRegular_of_isDirectory hdirectory] at hregular
        cases hregular
      | next :: rest =>
        cases hnext : isRecursive next with
        | true =>
          rw [reached_recursive_recursive hnext, mem_reached_iff h hregular (next :: rest)]
          obtain rfl := isRecursive_iff.mp hnext
          rw [matchesNames_recursive_recursive]
        | false =>
          rw [mem_reached_recursive_iff h hnext, matchesNames_recursive_cons]
          constructor
          · rintro ⟨front, tail, inner, rfl, hinner, hmem⟩
            obtain ⟨hbelow, hmatches⟩ :=
              (mem_reached_iff (h.descend hinner).2 hregular (next :: rest)).mp hmem
            rw [FileNode.descend?_append, hinner]
            exact ⟨hbelow, front, tail, rfl, hmatches⟩
          · rintro ⟨hbelow, front, tail, rfl, hmatches⟩
            rw [FileNode.descend?_append] at hbelow
            obtain ⟨inner, hinner, hbelow⟩ := Option.bind_eq_some_iff.mp hbelow
            exact ⟨front, tail, inner, rfl, hinner,
              (mem_reached_iff (h.descend hinner).2 hregular (next :: rest)).mpr
                ⟨hbelow, hmatches⟩⟩

end EngineTrials.Glob
