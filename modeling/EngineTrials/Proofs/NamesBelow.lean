import EngineTrials.Proofs.NamedDirectory

/-!
# What is below a node

Below a node are those that names lead down to, one entry after the other. What there is does not
depend on the path to the node; put behind this path, the names are the paths to all of them, and
these paths are ordered as the names are.
-/
namespace EngineTrials

mutual

/-- All that is below a node, with the names that lead there, a directory before what it holds. -/
def FileNode.under : FileNode → List (List String × FileNode)
  | .directory entries => entries.under
  | _ => []

def Entries.under : Entries → List (List String × FileNode)
  | .nil => []
  | .cons name node rest =>
    ([name], node) :: (node.under.map (fun below => (name :: below.1, below.2)) ++ rest.under)

end

namespace FileNode

theorem descend?_append (node : FileNode) (names others : List String) :
    node.descend? (names ++ others) =
      (node.descend? names).bind fun below => below.descend? others := by
  induction names generalizing node with
  | nil => rfl
  | cons name names ih =>
    rw [List.cons_append, descend?, descend?]
    cases node.child? name with
    | none => rfl
    | some child => exact ih child

end FileNode

namespace Entries

theorem find?_eq_some_iff {entries : Entries} (h : entries.WellFormed) {name : String}
    {node : FileNode} : entries.find? name = some node ↔ (name, node) ∈ entries.toList := by
  refine ⟨mem_of_find?, fun hmem => ?_⟩
  induction entries with
  | nil => cases hmem
  | cons n first rest ih =>
    obtain ⟨-, hfresh, -, hrest⟩ := h
    rw [find?]
    obtain hfirst | hmem := List.mem_cons.mp hmem
    · obtain ⟨rfl, rfl⟩ := Prod.mk.inj hfirst
      rw [if_pos rfl]
    · rw [if_neg fun hsame => hfresh _ hmem hsame.symm]
      exact ih hrest hmem

/-- One entry at most has a given name. -/
theorem filter_toList {entries : Entries} (h : entries.WellFormed) {name : String}
    {p : String → Bool} (hp : ∀ s, p s = true ↔ s = name) :
    entries.toList.filter (fun entry => p entry.1) =
      ((entries.find? name).map fun node => (name, node)).toList := by
  induction entries with
  | nil => rfl
  | cons n first rest ih =>
    obtain ⟨-, hfresh, -, hrest⟩ := h
    rw [toList, find?]
    by_cases hn : n = name
    · subst hn
      have hnone : rest.toList.filter (fun entry => p entry.1) = [] :=
        List.filter_eq_nil_iff.mpr fun entry hmem hentry =>
          hfresh entry hmem ((hp entry.1).mp hentry)
      have hfirst : p n = true := (hp n).mpr rfl
      rw [List.filter_cons, if_pos hfirst, hnone, if_pos rfl]
      rfl
    · have hother : ¬ p n = true := fun hfirst => hn ((hp n).mp hfirst)
      rw [List.filter_cons, if_neg hother, if_neg hn, ih hrest]

end Entries

namespace FileNode

theorem child?_eq_some_iff {node child : FileNode} (h : node.WellFormed) {name : String} :
    node.child? name = some child ↔ (name, child) ∈ node.children := by
  cases node with
  | directory entries => exact Entries.find?_eq_some_iff h
  | _ => exact ⟨fun hchild => (nomatch hchild), fun hmem => (nomatch hmem)⟩

theorem filter_children {node : FileNode} (h : node.WellFormed) {name : String}
    {p : String → Bool} (hp : ∀ s, p s = true ↔ s = name) :
    node.children.filter (fun entry => p entry.1) =
      ((node.child? name).map fun child => (name, child)).toList := by
  cases node with
  | directory entries => exact Entries.filter_toList h hp
  | _ => rfl

mutual

/-- Below a node is what some names lead down to. -/
theorem mem_under_iff (node : FileNode) (h : node.WellFormed) {names : List String}
    {below : FileNode} :
    (names, below) ∈ node.under ↔ names ≠ [] ∧ node.descend? names = some below := by
  cases node with
  | directory entries =>
    rw [under, mem_entriesUnder_iff entries h]
    constructor
    · rintro ⟨name, rest, child, rfl, hmem, hbelow⟩
      have hchild : (directory entries).child? name = some child := (child?_eq_some_iff h).mpr hmem
      exact ⟨List.cons_ne_nil _ _, by rw [descend?, hchild]; exact hbelow⟩
    · rintro ⟨hne, hbelow⟩
      obtain ⟨name, rest, rfl⟩ := List.exists_cons_of_ne_nil hne
      obtain ⟨child, hchild, hbelow⟩ := Option.bind_eq_some_iff.mp hbelow
      exact ⟨name, rest, child, rfl, (child?_eq_some_iff h).mp hchild, hbelow⟩
  | _ =>
    refine ⟨fun hmem => (nomatch hmem), fun ⟨hne, hbelow⟩ => ?_⟩
    obtain ⟨name, rest, rfl⟩ := List.exists_cons_of_ne_nil hne
    cases hbelow

theorem mem_entriesUnder_iff (entries : Entries) (h : entries.WellFormed) {names : List String}
    {below : FileNode} :
    (names, below) ∈ entries.under ↔ ∃ name rest child, names = name :: rest ∧
      (name, child) ∈ entries.toList ∧ child.descend? rest = some below := by
  cases entries with
  | nil => exact ⟨fun hmem => (nomatch hmem), fun ⟨_, _, _, _, hmem, _⟩ => (nomatch hmem)⟩
  | cons n node others =>
    obtain ⟨-, -, hnode, hothers⟩ := h
    have hfirst : (names, below) ∈ node.under.map (fun e => (n :: e.1, e.2)) ↔
        ∃ rest, names = n :: rest ∧ rest ≠ [] ∧ node.descend? rest = some below := by
      rw [List.mem_map]
      constructor
      · rintro ⟨⟨rest, inner⟩, hmem, heq⟩
        obtain ⟨rfl, rfl⟩ := Prod.mk.inj heq
        exact ⟨rest, rfl, (mem_under_iff node hnode).mp hmem⟩
      · rintro ⟨rest, rfl, hbelow⟩
        exact ⟨(rest, below), (mem_under_iff node hnode).mpr hbelow, rfl⟩
    have hrest : (names, below) ∈ others.under ↔ ∃ name rest child, names = name :: rest ∧
        (name, child) ∈ others.toList ∧ child.descend? rest = some below :=
      mem_entriesUnder_iff others hothers
    rw [Entries.under, List.mem_cons, List.mem_append, hfirst, hrest, Entries.toList]
    constructor
    · rintro (hhere | ⟨rest, rfl, -, hbelow⟩ | ⟨name, rest, child, rfl, hmem, hbelow⟩)
      · obtain ⟨rfl, rfl⟩ := Prod.mk.inj hhere
        exact ⟨n, [], below, rfl, List.mem_cons_self, rfl⟩
      · exact ⟨n, rest, node, rfl, List.mem_cons_self, hbelow⟩
      · exact ⟨name, rest, child, rfl, List.mem_cons_of_mem _ hmem, hbelow⟩
    · rintro ⟨name, rest, child, rfl, hmem, hbelow⟩
      obtain hhere | hmem := List.mem_cons.mp hmem
      · obtain ⟨rfl, rfl⟩ := Prod.mk.inj hhere
        by_cases hrest : rest = []
        · subst hrest
          cases hbelow
          exact .inl rfl
        · exact .inr (.inl ⟨rest, rfl, hrest, hbelow⟩)
      · exact .inr (.inr ⟨name, rest, child, rfl, hmem, hbelow⟩)

end

end FileNode

namespace Path
open Text

/-- The path that names one after the other make. -/
def ofNames (names : List String) : Path := ofChars (glue ['/'] (names.map String.toList))

/-- The path to the end of names that lead down from another one, as it is put together on the
way. -/
def descend (p : Path) (names : List String) : Path :=
  names.foldl (fun p name => p.join ⟨name⟩) p

theorem chars_ofNames (names : List String) :
    (ofNames names).chars = glue ['/'] (names.map String.toList) := String.toList_ofList

theorem ofNames_single (name : String) : ofNames [name] = ⟨name⟩ := by
  rw [ofNames, ofChars, List.map_singleton, glue, String.ofList_toList]

theorem eq_of_chars {p q : Path} (h : p.chars = q.chars) : p = q :=
  congrArg Path.mk (String.toList_inj.mp h)

theorem chars_behind (name : String) (q : Path) :
    chars ⟨name ++ "/" ++ q.text⟩ = name.toList ++ '/' :: q.chars := by
  rw [chars, String.toList_append, String.toList_append, List.append_assoc]
  rfl

theorem ofNames_cons_cons (name next : String) (rest : List String) :
    ofNames (name :: next :: rest) = ⟨name ++ "/" ++ (ofNames (next :: rest)).text⟩ := by
  refine eq_of_chars ?_
  rw [chars_behind, chars_ofNames, chars_ofNames, List.map_cons, List.map_cons, glue,
    List.append_assoc]
  rfl

/-- A path that begins with the name of an entry is relative. -/
theorem isAbsolute_of_entry {p : Path} {name : String} (hname : IsEntryName name)
    {rest : List Char} (hp : p.chars = name.toList ++ rest) : p.isAbsolute = false := by
  have hne : name.toList ≠ [] := fun hnil => hname.ne_empty (String.toList_eq_nil_iff.mp hnil)
  rw [isAbsolute, hp, List.head?_append_of_ne_nil _ hne, beq_eq_false_iff_ne]
  intro hhead
  exact hname.slash_not_mem (List.mem_of_head? hhead)

theorem isAbsolute_ofNames {names : List String} (h : ∀ name ∈ names, IsEntryName name) :
    (ofNames names).isAbsolute = false := by
  match names, h with
  | [], _ => rfl
  | [name], h =>
    rw [ofNames_single]
    exact isAbsolute_name (h name List.mem_cons_self).slash_not_mem
  | name :: next :: rest, h =>
    rw [ofNames_cons_cons]
    exact isAbsolute_of_entry (h name List.mem_cons_self) (chars_behind name _)

/-- The text that a relative path is put behind. -/
def slashed (p : Path) : List Char :=
  if p.chars.getLast? = some '/' then p.chars else p.chars ++ ['/']

theorem chars_join {p q : Path} (hp : p.chars ≠ []) (hq : q.isAbsolute = false) :
    (p.join q).chars = slashed p ++ q.chars := by
  have hempty : p.chars.isEmpty = false := List.isEmpty_eq_false_iff.mpr hp
  rw [join, hq, if_neg Bool.false_ne_true, hempty, Bool.false_or, slashed]
  by_cases hslash : p.chars.getLast? = some '/'
  · rw [if_pos (beq_iff_eq.mpr hslash), if_pos hslash]
    exact String.toList_append
  · rw [if_neg fun h => hslash (eq_of_beq h), if_neg hslash, List.append_assoc]
    exact chars_behind p.text q

theorem slashed_join {p : Path} (hp : p.chars ≠ []) {name : String} (hname : IsEntryName name) :
    slashed (p.join ⟨name⟩) = slashed p ++ name.toList ++ ['/'] := by
  have hne : name.toList ≠ [] := fun hnil => hname.ne_empty (String.toList_eq_nil_iff.mp hnil)
  have hchars : (p.join ⟨name⟩).chars = slashed p ++ name.toList :=
    chars_join hp (isAbsolute_name hname.slash_not_mem)
  have hlast : (p.join ⟨name⟩).chars.getLast? ≠ some '/' := by
    rw [hchars, List.getLast?_append_of_ne_nil _ hne]
    exact fun hlast => hname.slash_not_mem (List.mem_of_getLast? hlast)
  rw [slashed, if_neg hlast, hchars]

/-- It does not matter whether a name is put behind a path or in front of what follows. -/
theorem join_join {p q : Path} (hp : p.chars ≠ []) {name : String} (hname : IsEntryName name)
    (hq : q.isAbsolute = false) : (p.join ⟨name⟩).join q = p.join ⟨name ++ "/" ++ q.text⟩ := by
  have hrelative : isAbsolute ⟨name ++ "/" ++ q.text⟩ = false :=
    isAbsolute_of_entry hname (chars_behind name q)
  refine eq_of_chars ?_
  rw [chars_join (Glob.Location.chars_join_ne_nil hp hname.slash_not_mem) hq,
    chars_join hp hrelative, slashed_join hp hname, chars_behind, List.append_assoc,
    List.append_assoc]
  rfl

theorem descend_eq_join {p : Path} (hp : p.chars ≠ []) {names : List String}
    (hnames : ∀ name ∈ names, IsEntryName name) (hne : names ≠ []) :
    p.descend names = p.join (ofNames names) := by
  induction names generalizing p with
  | nil => exact absurd rfl hne
  | cons name rest ih =>
    obtain ⟨hname, hrest⟩ := List.forall_mem_cons.mp hnames
    cases rest with
    | nil => rw [ofNames_single]; rfl
    | cons next rest =>
      rw [ofNames_cons_cons, ← join_join hp hname (isAbsolute_ofNames hrest)]
      exact ih (Glob.Location.chars_join_ne_nil hp hname.slash_not_mem) hrest (List.cons_ne_nil _ _)

theorem components_descend {p : Path} (hp : p.chars ≠ []) {names : List String}
    (hnames : ∀ name ∈ names, IsEntryName name) :
    (p.descend names).components = p.components ++ names.map .name := by
  induction names generalizing p with
  | nil => exact (List.append_nil _).symm
  | cons name rest ih =>
    obtain ⟨hname, hrest⟩ := List.forall_mem_cons.mp hnames
    have hjoin : (p.join ⟨name⟩).components = p.components ++ [.name name] := by
      rw [components_join hp hname.slash_not_mem, Glob.stepsOf_entry hname]
    have hdescend := ih (Glob.Location.chars_join_ne_nil hp hname.slash_not_mem) hrest
    rw [hjoin, List.append_assoc] at hdescend
    exact hdescend

/-- Names in the order of the paths that they make. -/
def leNames (a b : List String) : Bool :=
  (compareComponents (a.map .name) (b.map .name)).isLE

theorem compareComponents_append (cs as bs : List Component) :
    compareComponents (cs ++ as) (cs ++ bs) = compareComponents as bs := by
  induction cs with
  | nil => rfl
  | cons c cs ih =>
    have hself : Component.compare c c = .eq := Std.ReflCmp.compare_self
    rw [List.cons_append, List.cons_append, compareComponents, hself, ih]
    rfl

theorem le_descend {p : Path} (hp : p.chars ≠ []) {a b : List String}
    (ha : ∀ name ∈ a, IsEntryName name) (hb : ∀ name ∈ b, IsEntryName name) :
    le (p.descend a) (p.descend b) = leNames a b := by
  rw [le, compare, components_descend hp ha, components_descend hp hb, compareComponents_append,
    leNames]

theorem leNames_trans (a b c : List String) (hab : leNames a b = true)
    (hbc : leNames b c = true) : leNames a c = true :=
  Std.TransCmp.isLE_trans hab hbc

theorem leNames_total (a b : List String) : (leNames a b || leNames b a) = true := by
  have hswap : compareComponents (b.map .name) (a.map .name) =
      (compareComponents (a.map .name) (b.map .name)).swap := Std.OrientedCmp.eq_swap
  rw [leNames, leNames, hswap]
  cases compareComponents (a.map .name) (b.map .name) <;> rfl

theorem leNames_antisymm {a b : List String} (hab : leNames a b = true)
    (hba : leNames b a = true) : a = b := by
  have hinjective : Function.Injective Component.name := fun _ _ => Component.name.inj
  have hsame : compareComponents (a.map .name) (b.map .name) = .eq :=
    Std.OrientedCmp.isLE_antisymm hab hba
  rw [compareComponents_eq_compareLex] at hsame
  exact hinjective.list_map (Std.LawfulEqCmp.eq_of_compare hsame)

theorem leNames_cons (name : String) (a b : List String) :
    leNames (name :: a) (name :: b) = leNames a b :=
  congrArg Ordering.isLE (compareComponents_append [.name name] _ _)

end Path

end EngineTrials
