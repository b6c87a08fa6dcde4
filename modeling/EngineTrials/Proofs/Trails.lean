import EngineTrials.FileTree.System
import Mathlib.Data.List.Nodup

/-!
# Trails through a tree

A trail leads from the root past one entry after the other. All that it leads past is well formed,
and no directory has two entries of one name, so that the names passed tell which nodes these are.
-/
namespace EngineTrials

namespace FileSystem

/-- Where a name leads: nowhere else, up, or down to an entry. -/
theorem enter_cases {fs : FileSystem} {trail trail' : Trail} {name : String}
    (h : fs.enter trail name = .ok trail') :
    (name = "" ∨ name = ".") ∧ trail' = trail ∨
    name = ".." ∧ trail' = trail.tail ∨
    (name ≠ "" ∧ name ≠ "." ∧ name ≠ "..") ∧
      ∃ node, (name, node) ∈ (fs.nodeAt trail).children ∧ trail' = (name, node) :: trail := by
  rw [enter] at h
  split at h
  case h_2 => cases h
  case h_1 entries hnode =>
    by_cases hstay : name = "" ∨ name = "."
    · rw [if_pos hstay] at h
      cases h
      exact .inl ⟨hstay, rfl⟩
    rw [if_neg hstay] at h
    by_cases hup : name = ".."
    · rw [if_pos hup] at h
      cases h
      exact .inr (.inl ⟨hup, rfl⟩)
    rw [if_neg hup] at h
    by_cases hlong : name.utf8ByteSize > nameLimit
    · rw [if_pos hlong] at h
      cases h
    rw [if_neg hlong] at h
    cases hfind : entries.find? name with
    | none => rw [hfind] at h; cases h
    | some node =>
      rw [hfind] at h
      cases h
      obtain ⟨hempty, hcurrent⟩ := not_or.mp hstay
      have hmem : (name, node) ∈ (fs.nodeAt trail).children := by
        rw [hnode]
        exact Entries.mem_of_find? hfind
      exact .inr (.inr ⟨⟨hempty, hcurrent, hup⟩, node, hmem, rfl⟩)

/-- Every node of a trail is an entry of the one before it. -/
def IsTrail (fs : FileSystem) : Trail → Prop
  | [] => True
  | entry :: trail => entry ∈ (fs.nodeAt trail).children ∧ fs.IsTrail trail

theorem IsTrail.tail {fs : FileSystem} {trail : Trail} (h : fs.IsTrail trail) :
    fs.IsTrail trail.tail := by
  cases trail with
  | nil => exact h
  | cons entry trail => exact h.2

theorem IsTrail.of_append {fs : FileSystem} {front trail : Trail}
    (h : fs.IsTrail (front ++ trail)) : fs.IsTrail trail := by
  induction front with
  | nil => exact h
  | cons entry front ih => exact ih h.2

theorem IsTrail.enter {fs : FileSystem} {trail trail' : Trail} {name : String}
    (h : fs.IsTrail trail) (henter : fs.enter trail name = .ok trail') : fs.IsTrail trail' := by
  obtain ⟨-, rfl⟩ | ⟨-, rfl⟩ | ⟨-, node, hmem, rfl⟩ := enter_cases henter
  · exact h
  · exact h.tail
  · exact ⟨hmem, h⟩

theorem IsTrail.follow {fs : FileSystem} {names : List String} {trail trail' : Trail}
    (h : fs.IsTrail trail) (hfollow : fs.follow trail names = .ok trail') :
    fs.IsTrail trail' := by
  induction names generalizing trail with
  | nil =>
    cases hfollow
    exact h
  | cons name names ih =>
    rw [FileSystem.follow] at hfollow
    cases henter : fs.enter trail name with
    | error e => rw [henter] at hfollow; cases hfollow
    | ok next =>
      rw [henter] at hfollow
      exact ih (h.enter henter) hfollow

theorem isTrail_nil (fs : FileSystem) : fs.IsTrail [] := trivial

theorem isTrail_currentTrail (fs : FileSystem) : fs.IsTrail fs.currentTrail := by
  rw [currentTrail]
  cases hfollow : fs.follow [] fs.current with
  | ok trail => exact fs.isTrail_nil.follow hfollow
  | error e => exact fs.isTrail_nil

/-- Absolute or not, a path starts from the end of a trail. -/
theorem isTrail_from (fs : FileSystem) (absolute : Bool) :
    fs.IsTrail (if absolute then [] else fs.currentTrail) := by
  cases absolute with
  | true => exact fs.isTrail_nil
  | false => exact fs.isTrail_currentTrail

/-- The nodes from one on to the root. -/
def lineage (fs : FileSystem) (trail : Trail) : List FileNode :=
  trail.map Prod.snd ++ [fs.root]

theorem lineage_eq (fs : FileSystem) (trail : Trail) :
    fs.lineage trail = fs.nodeAt trail :: (fs.lineage trail).tail := by
  cases trail <;> rfl

/-- All that a trail leads past is well formed. -/
theorem IsTrail.wellFormed {fs : FileSystem} {trail : Trail} (h : fs.IsTrail trail) :
    ∀ node ∈ fs.lineage trail, node.WellFormed := by
  induction trail with
  | nil => exact fun node hmem => List.mem_singleton.mp hmem ▸ fs.wellFormed
  | cons entry trail ih =>
    have habove := ih h.2
    have hhere : (fs.nodeAt trail).WellFormed :=
      habove _ (fs.lineage_eq trail ▸ List.mem_cons_self)
    exact List.forall_mem_cons.mpr ⟨(hhere.of_mem_children h.1).2, habove⟩

/-- All that a trail leads through, its end apart, is a directory. -/
theorem IsTrail.isDirectory {fs : FileSystem} {trail : Trail} (h : fs.IsTrail trail) :
    ∀ node ∈ (fs.lineage trail).tail, node.isDirectory = true := by
  induction trail with
  | nil => exact fun _ hmem => (List.not_mem_nil hmem).elim
  | cons entry trail ih =>
    have htail : (fs.lineage (entry :: trail)).tail =
        fs.nodeAt trail :: (fs.lineage trail).tail := fs.lineage_eq trail
    rw [htail]
    exact List.forall_mem_cons.mpr ⟨FileNode.isDirectory_of_mem_children h.1, ih h.2⟩

theorem IsTrail.nodeAt_wellFormed {fs : FileSystem} {trail : Trail} (h : fs.IsTrail trail) :
    (fs.nodeAt trail).WellFormed :=
  h.wellFormed _ (fs.lineage_eq trail ▸ List.mem_cons_self)

/-- No two trails pass the same names. -/
theorem IsTrail.eq_of_names {fs : FileSystem} {trail other : Trail}
    (h : fs.IsTrail trail) (hother : fs.IsTrail other)
    (hnames : trail.map Prod.fst = other.map Prod.fst) : trail = other := by
  induction trail generalizing other with
  | nil => exact (List.map_eq_nil_iff.mp hnames.symm).symm
  | cons entry trail ih =>
    cases other with
    | nil => cases hnames
    | cons entry' other =>
      obtain ⟨hname, hnames⟩ := List.cons.inj hnames
      obtain rfl := ih h.2 hother.2 hnames
      have hdistinct : ((fs.nodeAt trail).children.map Prod.fst).Nodup :=
        List.pairwise_map.mpr (h.2.nodeAt_wellFormed).children_distinct
      rw [List.inj_on_of_nodup_map hdistinct h.1 hother.1 hname]

/-- A trail to a place passes the places that lead to it by their trails. -/
theorem IsTrail.suffix_of_names {fs : FileSystem}
    {trail other : Trail} (h : fs.IsTrail trail) (hother : fs.IsTrail other)
    (hnames : trail.map Prod.fst <:+ other.map Prod.fst) : trail <:+ other := by
  have hdrop := List.suffix_iff_eq_drop.mp hnames
  rw [← List.map_drop] at hdrop
  have hrest : fs.IsTrail
      (other.drop ((other.map Prod.fst).length - (trail.map Prod.fst).length)) :=
    IsTrail.of_append ((List.take_append_drop _ other).symm ▸ hother)
  rw [h.eq_of_names hrest hdrop]
  exact List.drop_suffix _ other

end FileSystem

end EngineTrials
