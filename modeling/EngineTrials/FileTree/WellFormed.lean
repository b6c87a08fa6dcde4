import EngineTrials.FileTree.Basic

/-!
# Well-formed trees

What holds of every tree of files: an entry has a name that can stand between slashes and leads
down, and no directory has two entries of one name. It is kept by whatever is done to a tree.
-/
namespace EngineTrials

/-- A name that an entry of a directory can have. -/
structure IsEntryName (name : String) : Prop where
  ne_empty : name ≠ ""
  ne_current : name ≠ "."
  ne_parent : name ≠ ".."
  slash_not_mem : '/' ∉ name.toList

instance (name : String) : Decidable (IsEntryName name) :=
  decidable_of_iff (name ≠ "" ∧ name ≠ "." ∧ name ≠ ".." ∧ '/' ∉ name.toList)
    ⟨fun ⟨hempty, hcurrent, hparent, hslash⟩ => ⟨hempty, hcurrent, hparent, hslash⟩,
      fun h => ⟨h.ne_empty, h.ne_current, h.ne_parent, h.slash_not_mem⟩⟩

mutual

def FileNode.WellFormed : FileNode → Prop
  | .file _ _ | .device => True
  | .directory entries => entries.WellFormed

def Entries.WellFormed : Entries → Prop
  | .nil => True
  | .cons name node rest =>
    IsEntryName name ∧ (∀ entry ∈ rest.toList, entry.1 ≠ name) ∧ node.WellFormed ∧ rest.WellFormed

end

mutual

def FileNode.decidableWellFormed : (node : FileNode) → Decidable node.WellFormed
  | .file _ _ | .device => .isTrue trivial
  | .directory entries => entries.decidableWellFormed

def Entries.decidableWellFormed : (entries : Entries) → Decidable entries.WellFormed
  | .nil => .isTrue trivial
  | .cons name node rest =>
    haveI := node.decidableWellFormed
    haveI := rest.decidableWellFormed
    inferInstanceAs (Decidable (IsEntryName name ∧ (∀ entry ∈ rest.toList, entry.1 ≠ name) ∧
      node.WellFormed ∧ rest.WellFormed))

end

instance (node : FileNode) : Decidable node.WellFormed := node.decidableWellFormed

namespace Entries

/-- Induction on the entries alone, whatever is below them. -/
@[elab_as_elim, induction_eliminator]
theorem inductionOn {motive : Entries → Prop} (nil : motive .nil)
    (cons : ∀ name node rest, motive rest → motive (.cons name node rest)) :
    ∀ entries, motive entries
  | .nil => nil
  | .cons name node rest => cons name node rest (inductionOn nil cons rest)

theorem WellFormed.of_mem {entries : Entries} (h : entries.WellFormed)
    {entry : String × FileNode} (hentry : entry ∈ entries.toList) :
    IsEntryName entry.1 ∧ entry.2.WellFormed := by
  induction entries with
  | nil => cases hentry
  | cons name node rest ih =>
    obtain ⟨hname, -, hnode, hrest⟩ := h
    obtain rfl | hentry := List.mem_cons.mp hentry
    · exact ⟨hname, hnode⟩
    · exact ih hrest hentry

theorem WellFormed.names_distinct {entries : Entries} (h : entries.WellFormed) :
    entries.toList.Pairwise fun a b => a.1 ≠ b.1 := by
  induction entries with
  | nil => exact List.Pairwise.nil
  | cons name node rest ih =>
    obtain ⟨-, hfresh, -, hrest⟩ := h
    exact List.pairwise_cons.mpr ⟨fun entry hentry => (hfresh entry hentry).symm, ih hrest⟩

theorem mem_of_find? {entries : Entries} {name : String} {node : FileNode}
    (h : entries.find? name = some node) : (name, node) ∈ entries.toList := by
  induction entries with
  | nil => cases h
  | cons n first rest ih =>
    rw [find?] at h
    split at h
    case isTrue heq =>
      rw [← heq, Option.some.inj h]
      exact List.mem_cons_self
    case isFalse => exact List.mem_cons_of_mem _ (ih h)

theorem erase_sublist (name : String) (entries : Entries) :
    (entries.erase name).toList.Sublist entries.toList := by
  induction entries with
  | nil => exact List.Sublist.refl _
  | cons n node rest ih =>
    rw [erase]
    split
    · exact List.sublist_cons_self _ _
    · exact ih.cons_cons _

theorem WellFormed.erase {entries : Entries} (h : entries.WellFormed) (name : String) :
    (entries.erase name).WellFormed := by
  induction entries with
  | nil => exact h
  | cons n node rest ih =>
    obtain ⟨hname, hfresh, hnode, hrest⟩ := h
    rw [Entries.erase]
    split
    · exact hrest
    · have hleft := (erase_sublist name rest).subset
      exact ⟨hname, fun entry hentry => hfresh entry (hleft hentry), hnode, ih hrest⟩

theorem WellFormed.not_mem_erase {entries : Entries} (h : entries.WellFormed) {name : String} :
    ∀ entry ∈ (entries.erase name).toList, entry.1 ≠ name := by
  induction entries with
  | nil => exact fun _ hentry => (nomatch hentry)
  | cons n node rest ih =>
    obtain ⟨-, hfresh, -, hrest⟩ := h
    rw [Entries.erase]
    split
    case isTrue hsame => exact fun entry hentry => hsame ▸ hfresh entry hentry
    case isFalse hother => exact List.forall_mem_cons.mpr ⟨hother, ih hrest⟩

theorem mem_of_mem_insertNew {entries : Entries} {name : String} {node : FileNode}
    {entry : String × FileNode} (h : entry ∈ (entries.insertNew name node).toList) :
    entry = (name, node) ∨ entry ∈ entries.toList := by
  induction entries with
  | nil => exact .inl (List.mem_singleton.mp h)
  | cons n other rest ih =>
    rw [insertNew] at h
    split at h
    · exact List.mem_cons.mp h
    · obtain rfl | h := List.mem_cons.mp h
      · exact .inr List.mem_cons_self
      · exact (ih h).imp_right (List.mem_cons_of_mem _)

theorem WellFormed.insertNew {entries : Entries} (h : entries.WellFormed) {name : String}
    {node : FileNode} (hname : IsEntryName name) (hnode : node.WellFormed)
    (hnew : ∀ entry ∈ entries.toList, entry.1 ≠ name) :
    (entries.insertNew name node).WellFormed := by
  induction entries with
  | nil => exact ⟨hname, hnew, hnode, trivial⟩
  | cons n other rest ih =>
    obtain ⟨hn, hfresh, hother, hrest⟩ := h
    obtain ⟨hfirst, hnew'⟩ := List.forall_mem_cons.mp hnew
    rw [Entries.insertNew]
    split
    · exact ⟨hname, hnew, hnode, hn, hfresh, hother, hrest⟩
    · refine ⟨hn, fun entry hentry => ?_, hother, ih hrest hnew'⟩
      obtain rfl | hentry := mem_of_mem_insertNew hentry
      · exact fun hsame => hfirst hsame.symm
      · exact hfresh entry hentry

theorem WellFormed.insert {entries : Entries} (h : entries.WellFormed) {name : String}
    {node : FileNode} (hname : IsEntryName name) (hnode : node.WellFormed) :
    (entries.insert name node).WellFormed :=
  (h.erase name).insertNew hname hnode h.not_mem_erase

end Entries

namespace FileNode

theorem WellFormed.of_mem_children {node : FileNode} (h : node.WellFormed)
    {entry : String × FileNode} (hentry : entry ∈ node.children) :
    IsEntryName entry.1 ∧ entry.2.WellFormed := by
  cases node with
  | directory entries => exact Entries.WellFormed.of_mem h hentry
  | _ => cases hentry

theorem not_isRegular_of_isDirectory {node : FileNode} (h : node.isDirectory = true) :
    node.isRegular = false := by
  cases node with
  | directory _ => rfl
  | _ => cases h

theorem isDirectory_of_mem_children {node : FileNode} {entry : String × FileNode}
    (hentry : entry ∈ node.children) : node.isDirectory = true := by
  cases node with
  | directory _ => rfl
  | _ => cases hentry

theorem WellFormed.children_distinct {node : FileNode} (h : node.WellFormed) :
    node.children.Pairwise fun a b => a.1 ≠ b.1 := by
  cases node with
  | directory entries => exact Entries.WellFormed.names_distinct h
  | _ => exact List.Pairwise.nil

theorem mem_children_of_child? {node child : FileNode} {name : String}
    (h : node.child? name = some child) : (name, child) ∈ node.children := by
  cases node with
  | directory entries => exact Entries.mem_of_find? h
  | _ => cases h

theorem WellFormed.child {node child : FileNode} (h : node.WellFormed) {name : String}
    (hchild : node.child? name = some child) : IsEntryName name ∧ child.WellFormed :=
  h.of_mem_children (mem_children_of_child? hchild)

theorem WellFormed.descend {node below : FileNode} (h : node.WellFormed) {names : List String}
    (hbelow : node.descend? names = some below) :
    (∀ name ∈ names, IsEntryName name) ∧ below.WellFormed := by
  induction names generalizing node with
  | nil =>
    cases hbelow
    exact ⟨fun _ hmem => (nomatch hmem), h⟩
  | cons name names ih =>
    obtain ⟨child, hchild, hbelow⟩ := Option.bind_eq_some_iff.mp hbelow
    obtain ⟨hname, hnode⟩ := h.child hchild
    obtain ⟨hnames, hwell⟩ := ih hnode hbelow
    exact ⟨List.forall_mem_cons.mpr ⟨hname, hnames⟩, hwell⟩

theorem WellFormed.place {tree node : FileNode} (h : tree.WellFormed) {names : List String}
    (hnames : ∀ name ∈ names, IsEntryName name) (hnode : node.WellFormed) :
    (tree.place names node).WellFormed := by
  induction names generalizing tree with
  | nil => exact hnode
  | cons name rest ih =>
    obtain ⟨hname, hrest⟩ := List.forall_mem_cons.mp hnames
    cases tree with
    | directory entries =>
      refine Entries.WellFormed.insert h hname (ih ?_ hrest)
      cases hchild : entries.find? name with
      | none => exact trivial
      | some child => exact (Entries.WellFormed.of_mem h (Entries.mem_of_find? hchild)).2
    | _ => exact h

theorem WellFormed.takeOut {tree : FileNode} (h : tree.WellFormed) (names : List String) :
    (tree.takeOut names).WellFormed := by
  induction names generalizing tree with
  | nil => exact h
  | cons name rest ih =>
    cases tree with
    | directory entries =>
      rw [FileNode.takeOut]
      by_cases hlast : rest.isEmpty = true
      · rw [if_pos hlast]
        exact Entries.WellFormed.erase h name
      · rw [if_neg hlast]
        cases hchild : entries.find? name with
        | none => exact h
        | some child =>
          obtain ⟨hname, hnode⟩ := Entries.WellFormed.of_mem h (Entries.mem_of_find? hchild)
          exact Entries.WellFormed.insert h hname (ih hnode)
    | _ => exact h

end FileNode

end EngineTrials
