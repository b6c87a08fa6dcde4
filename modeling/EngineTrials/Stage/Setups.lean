import EngineTrials.Path

/-!
# Setup files by database

The setup files that there are, in ascending order of the databases that they are for. A database
has one at most, since whatever puts a file in keeps the order.
-/
namespace EngineTrials

structure Setups where
  /-- The databases with their files. -/
  entries : List (String × Path)
  ascending : (entries.map Prod.fst).Pairwise (· < ·)
deriving DecidableEq

namespace Setups

/-- Puts a file where its database belongs, in place of the one that was there. -/
def insertEntry (db : String) (path : Path) : List (String × Path) → List (String × Path)
  | [] => [(db, path)]
  | (k, v) :: rest =>
    if db < k then (db, path) :: (k, v) :: rest
    else if db = k then (db, path) :: rest
    else (k, v) :: insertEntry db path rest

theorem mem_insertEntry {db other : String} {path : Path} {entries : List (String × Path)}
    (h : other ∈ (insertEntry db path entries).map Prod.fst) :
    other = db ∨ other ∈ entries.map Prod.fst := by
  fun_induction insertEntry db path entries with
  | case1 => exact .inl (List.mem_singleton.mp h)
  | case2 k v rest hlt => exact List.mem_cons.mp h
  | case3 v rest hlt =>
    exact (List.mem_cons.mp h).imp_right fun hrest => List.mem_cons_of_mem _ hrest
  | case4 k v rest hlt hne ih =>
    obtain hk | hrest := List.mem_cons.mp h
    · exact .inr (hk ▸ List.mem_cons_self)
    · exact (ih hrest).imp_right fun hrest => List.mem_cons_of_mem _ hrest

theorem ascending_insertEntry (db : String) (path : Path) {entries : List (String × Path)}
    (h : (entries.map Prod.fst).Pairwise (· < ·)) :
    ((insertEntry db path entries).map Prod.fst).Pairwise (· < ·) := by
  fun_induction insertEntry db path entries with
  | case1 => exact List.pairwise_singleton _ _
  | case2 k v rest hlt =>
    have hfirst := (List.pairwise_cons.mp h).1
    refine List.pairwise_cons.mpr ⟨fun other hother => ?_, h⟩
    obtain rfl | hrest := List.mem_cons.mp hother
    · exact hlt
    · exact String.lt_trans hlt (hfirst other hrest)
  | case3 v rest hlt => exact h
  | case4 k v rest hlt hne ih =>
    obtain ⟨hfirst, hrest⟩ := List.pairwise_cons.mp h
    have hgt : k < db := Std.lt_of_le_of_ne (String.not_lt.mp hlt) (Ne.symm hne)
    refine List.pairwise_cons.mpr ⟨fun other hother => ?_, ih hrest⟩
    obtain rfl | hrest := mem_insertEntry hother
    · exact hgt
    · exact hfirst other hrest

instance : EmptyCollection Setups := ⟨⟨[], .nil⟩⟩

instance : Inhabited Setups := ⟨{}⟩

def insert (setups : Setups) (db : String) (path : Path) : Setups :=
  ⟨insertEntry db path setups.entries, ascending_insertEntry db path setups.ascending⟩

/-- Where a database comes twice, the later file is kept. -/
def ofList (entries : List (String × Path)) : Setups :=
  entries.foldl (fun setups (db, path) => setups.insert db path) {}

/-- The databases that there are setup files for. -/
def databases (setups : Setups) : List String :=
  setups.entries.map Prod.fst

def find? (setups : Setups) (db : String) : Option Path :=
  setups.entries.lookup db

/-- Other files for the same databases. -/
def map (setups : Setups) (f : Path → Path) : Setups where
  entries := setups.entries.map fun (db, path) => (db, f path)
  ascending := by
    rw [List.map_map]
    exact setups.ascending

theorem databases_map (setups : Setups) (f : Path → Path) :
    (setups.map f).databases = setups.databases :=
  List.map_map

/-- Every setup file is found by its database. -/
theorem find?_of_mem {setups : Setups} {db : String} {path : Path}
    (hmem : (db, path) ∈ setups.entries) : setups.find? db = some path := by
  obtain ⟨entries, hascending⟩ := setups
  rw [find?]
  induction entries with
  | nil => exact absurd hmem List.not_mem_nil
  | cons first rest ih =>
    obtain ⟨hfirst, hrest⟩ := List.pairwise_cons.mp hascending
    obtain rfl | hmem := List.mem_cons.mp hmem
    · exact List.lookup_cons_self
    · have hlt : first.1 < db := hfirst db (List.mem_map_of_mem hmem)
      have hne : (db == first.1) = false :=
        beq_eq_false_iff_ne.mpr fun heq => String.lt_irrefl db (heq ▸ hlt)
      rw [List.lookup_cons, hne]
      exact ih hrest hmem

theorem mem_databases_of_find? {setups : Setups} {db : String} {path : Path}
    (h : setups.find? db = some path) : db ∈ setups.databases := by
  obtain ⟨front, rest, hsetups, -⟩ := List.lookup_eq_some_iff.mp h
  rw [databases, hsetups]
  exact List.mem_map_of_mem (List.mem_append_right _ List.mem_cons_self)

theorem isSome_find?_iff {setups : Setups} {db : String} :
    (setups.find? db).isSome ↔ db ∈ setups.databases := by
  rw [Option.isSome_iff_exists]
  constructor
  · rintro ⟨_, hfind⟩
    exact mem_databases_of_find? hfind
  · intro hdb
    obtain ⟨entry, hentry, rfl⟩ := List.mem_map.mp hdb
    exact ⟨entry.2, find?_of_mem hentry⟩

end Setups

end EngineTrials
