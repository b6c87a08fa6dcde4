import EngineTrials.Proofs.DiscoveredFiles
import EngineTrials.Proofs.WalkPlaces

/-!
# The directory that is searched

The names of a root are components of the pattern that match one name each, so a walk comes to one
location by them at most, and this stands where the root leads. From there the built-in pattern
meets everything below.
-/
namespace EngineTrials

namespace Path
open Text

theorem slash_not_mem_of_mem_cut {cs s : List Char} (h : s ∈ cut cs) : '/' ∉ s := by
  rw [cut] at h
  induction cs generalizing s with
  | nil =>
    rw [List.mem_singleton.mp h]
    exact List.not_mem_nil
  | cons c cs ih =>
    rw [pieces] at h
    cases hrest : pieces (· == '/') cs with
    | nil => exact absurd hrest (pieces_ne_nil _ _)
    | cons p ps =>
      rw [hrest] at h ih
      simp only at h
      by_cases hc : (c == '/') = true
      · rw [if_pos hc] at h
        obtain rfl | h := List.mem_cons.mp h
        · exact List.not_mem_nil
        · exact ih h
      · rw [if_neg hc] at h
        obtain rfl | h := List.mem_cons.mp h
        · have hslash : '/' ≠ c := fun heq => hc (beq_iff_eq.mpr heq.symm)
          exact List.not_mem_cons_of_ne_of_not_mem hslash (ih List.mem_cons_self)
        · exact ih (List.mem_cons_of_mem _ h)

/-- A path that ends in a name has this file name. -/
theorem fileName?_of_steps {p : Path} {s : List Component} {name : String}
    (h : p.steps = s ++ [.name name]) : p.fileName? = some name := by
  rw [steps_eq_passed] at h
  have hlast : p.components.getLast? = some (.name name) := by
    rw [components_eq, h, ← List.append_assoc, List.getLast?_append_of_ne_nil _ (by simp)]
    rfl
  rw [fileName?, hlast]

end Path

namespace Glob
open Text EngineTrials.Path Location

theorem matchesTokens_literally {name cs : List Char} :
    matchesTokens (literally name) cs = true ↔ cs = name := by
  induction name generalizing cs with
  | nil => exact List.isEmpty_iff
  | cons c name ih =>
    cases cs with
    | nil =>
      rw [matchesTokens_literally_nil (List.cons_ne_nil c name)]
      exact ⟨fun h => (nomatch h), fun h => (nomatch h)⟩
    | cons d cs =>
      have hstep : matchesTokens (literally (c :: name)) (d :: cs) =
          (d == c && matchesTokens (literally name) cs) := by
        rw [literally_cons]
        cases isMeta c with
        | true => simp [matchesTokens, Token.accepts, ClassItem.contains]
        | false => simp [matchesTokens, Token.accepts]
      rw [hstep, Bool.and_eq_true, beq_iff_eq, ih, List.cons.injEq]

theorem literal?_literally {name : List Char} (h : ∀ c ∈ name, isMeta c = false) :
    literal? (literally name) = some name := by
  induction name with
  | nil => rfl
  | cons c name ih =>
    obtain ⟨hc, hname⟩ := List.forall_mem_cons.mp h
    rw [literally_cons, hc, if_neg Bool.false_ne_true, literal?, ih hname]
    rfl

theorem literal?_literally_of_meta {name : List Char} {c : Char} (hmem : c ∈ name)
    (hc : isMeta c = true) : literal? (literally name) = none := by
  induction name with
  | nil => cases hmem
  | cons d name ih =>
    rw [literally_cons]
    cases hd : isMeta d with
    | true => rfl
    | false =>
      have hmem : c ∈ name := (List.mem_cons.mp hmem).resolve_left fun heq => by
        rw [← heq, hc] at hd
        cases hd
      rw [if_neg Bool.false_ne_true, literal?, ih hmem]
      rfl

/-- Neither `.` nor `..` has a character that is put into brackets. -/
theorem specials_literally {name : List Char} {c : Char} (hmem : c ∈ name)
    (hc : isMeta c = true) (l : Location) : specials (literally name) l = [] := by
  have hnone {s : String} (hs : c ∉ s.toList) : matchesName (literally name) s = false := by
    rw [Bool.eq_false_iff]
    intro hmatches
    exact hs (matchesTokens_literally.mp hmatches ▸ hmem)
  have hpoint : c ∉ ".".toList := by
    intro h
    rw [List.mem_singleton.mp h] at hc
    exact absurd hc (by decide)
  have hpoints : c ∉ "..".toList := by
    intro h
    obtain rfl | h := List.mem_cons.mp h
    · exact absurd hc (by decide)
    · rw [List.mem_singleton.mp h] at hc
      exact absurd hc (by decide)
  rw [specials]
  split
  · simp only [List.filterMap_cons, List.filterMap_nil, hnone hpoint, hnone hpoints,
      Bool.false_eq_true, if_false]
  · rfl

theorem name_of_steps {l : Location} {s : List Path.Component} {name : String}
    (h : l.path.steps = s ++ [.name name]) : l.name = name := by
  rw [Location.name, fileName?_of_steps h]
  rfl

/-- Of locations apart, one at most has a given path. -/
theorem exists_eq_toList {p : Path} :
    (ls : List Location) → Apart ls → (∀ r ∈ ls, r.path = p) → ∃ o : Option Location, ls = o.toList
  | [], _, _ => ⟨none, rfl⟩
  | [r], _, _ => ⟨some r, rfl⟩
  | r :: r' :: _, hapart, hpath => by
    have hne := (List.pairwise_cons.mp hapart).1 r' List.mem_cons_self
    rw [hpath r List.mem_cons_self, hpath r' (List.mem_cons_of_mem _ List.mem_cons_self)] at hne
    exact absurd rfl hne

theorem name_of_mem_children {l r : Location} (hl : l.IsSound) (h : r ∈ l.children) :
    ∃ entry ∈ l.node.children, r = ⟨l.pathOf entry.1, entry.2, l.node :: l.above⟩ ∧
      r.name = entry.1 := by
  obtain ⟨entry, hentry, rfl⟩ := List.mem_map.mp h
  have hname := (hl.node.of_mem_children hentry).1
  have hsteps := steps_pathOf hl hname.slash_not_mem
  rw [stepsOf_entry hname] at hsteps
  exact ⟨entry, hentry, rfl, name_of_steps hsteps⟩

/-- An entry that a name of the root matches has this name. -/
theorem entry_of_matches_literally {l r : Location} (hl : l.IsSound) {name : List Char}
    (h : r ∈ l.children) (hmatches : matchesName (literally name) r.name = true) :
    ∃ entry ∈ l.node.children, entry.1 = String.ofList name ∧
      r = ⟨l.pathOf entry.1, entry.2, l.node :: l.above⟩ := by
  obtain ⟨entry, hentry, hr, hname⟩ := name_of_mem_children hl h
  refine ⟨entry, hentry, ?_, hr⟩
  rw [hname] at hmatches
  rw [← matchesTokens_literally.mp hmatches, String.ofList_toList]

/-- A location that a walk comes to from another one by some steps. -/
structure Arrives (l : Location) (s : List Path.Component) (r : Location) : Prop where
  sound : r.IsSound
  absolute : r.path.isAbsolute = l.path.isAbsolute
  steps : r.path.steps = l.path.steps ++ s
  stands : ∀ fs trail, l.Stands fs trail → ∃ trail', r.Stands fs trail'

theorem Arrives.refl {l : Location} (hl : l.IsSound) : Arrives l [] l where
  sound := hl
  absolute := rfl
  steps := (List.append_nil _).symm
  stands := fun _ trail h => ⟨trail, h⟩

theorem Arrives.trans {l next r : Location} {s s' : List Path.Component} (h : Arrives l s next)
    (h' : Arrives next s' r) : Arrives l (s ++ s') r where
  sound := h'.sound
  absolute := h'.absolute.trans h.absolute
  steps := by rw [h'.steps, h.steps, List.append_assoc]
  stands := fun fs trail hstands =>
    let ⟨trail', hnext⟩ := h.stands fs trail hstands
    h'.stands fs trail' hnext

/-- By a name of the root a walk comes to one location at most. -/
theorem entered_literally {l : Location} (hl : l.IsSound) {name : List Char} (hname : '/' ∉ name) :
    ∃ o : Option Location, entered (literally name) l = o.toList ∧
      ∀ r ∈ o, Arrives l (stepsOf (String.ofList name)) r := by
  have hslash : '/' ∉ (String.ofList name).toList := by
    rw [String.toList_ofList]
    exact hname
  have harrives {r : Location} (hr : r ∈ entered (literally name) l)
      (hpath : r.path = l.pathOf (String.ofList name))
      (hstands : ∀ fs trail, l.Stands fs trail → ∃ trail', r.Stands fs trail') :
      Arrives l (stepsOf (String.ofList name)) r := by
    obtain ⟨_, hextends, -⟩ := extends_of_mem_entered hl hr
    exact
      { sound := hextends.sound
        absolute := hpath ▸ isAbsolute_pathOf hl.path hslash
        steps := hpath ▸ steps_pathOf hl hslash
        stands := hstands }
  by_cases hplain : ∀ c ∈ name, isMeta c = false
  · have hentered : entered (literally name) l = (l.lookup? (String.ofList name)).toList := by
      rw [entered, literal?_literally hplain]
    refine ⟨_, hentered, fun r hr => harrives ?_ (path_of_lookup? hr) ?_⟩
    · rw [hentered]
      exact Option.mem_toList.mpr hr
    · exact fun fs trail h => h.lookup? hl hslash hr
  · obtain ⟨c, hmem, hc⟩ : ∃ c ∈ name, isMeta c = true := by
      by_contra hnone
      exact hplain fun c hmem => Bool.eq_false_iff.mpr fun hc => hnone ⟨c, hmem, hc⟩
    have hentered : entered (literally name) l =
        l.children.filter fun r => matchesName (literally name) r.name := by
      rw [entered, literal?_literally_of_meta hmem hc, specials_literally hmem hc]
      exact List.append_nil _
    obtain ⟨o, ho⟩ := exists_eq_toList (p := l.pathOf (String.ofList name)) _
      ((apart_children hl).filter fun r => matchesName (literally name) r.name) fun r hr => by
        obtain ⟨hmem, hmatches⟩ := List.mem_filter.mp hr
        obtain ⟨entry, -, hnamed, rfl⟩ := entry_of_matches_literally hl hmem hmatches
        rw [hnamed]
    refine ⟨o, hentered.trans ho, fun r hr => ?_⟩
    have hr : r ∈ entered (literally name) l := by
      rw [hentered, ho]
      exact Option.mem_toList.mpr hr
    obtain ⟨hmem, hmatches⟩ := List.mem_filter.mp (hentered ▸ hr)
    obtain ⟨entry, hentry, hnamed, rfl⟩ := entry_of_matches_literally hl hmem hmatches
    refine harrives hr (by rw [hnamed]) fun fs trail h => ⟨entry :: trail, h.entry hentry ?_⟩
    have hvalid := (hl.node.of_mem_children hentry).1
    rw [place_pathOf hl hvalid.slash_not_mem, stepsOf_entry hvalid]
    rfl

/-- The steps that names stand for. -/
def stepsOfNames (names : List (List Char)) : List Path.Component :=
  names.flatMap fun name => stepsOf (String.ofList name)

/-- By the names of the root a walk comes to one location at most, and goes on from there. -/
theorem walk_literally {names : List (List Char)} (hnames : ∀ name ∈ names, '/' ∉ name)
    {l : Location} (hl : l.IsSound) : ∃ o : Option Location,
      (∀ c cs, walk (names.map literally ++ c :: cs) l = o.toList.flatMap (walk (c :: cs))) ∧
      ∀ base ∈ o, Arrives l (stepsOfNames names) base := by
  induction names generalizing l with
  | nil =>
    refine ⟨some l, fun c cs => (List.append_nil _).symm, fun base hbase => ?_⟩
    rw [← Option.mem_some_iff.mp hbase]
    exact .refl hl
  | cons name names ih =>
    obtain ⟨hname, hrest⟩ := List.forall_mem_cons.mp hnames
    obtain ⟨o, ho, harrives⟩ := entered_literally hl hname
    have hwalk (c : Component) (cs : List Component) :
        walk ((name :: names).map literally ++ c :: cs) l =
          o.toList.flatMap (walk (names.map literally ++ c :: cs)) := by
      rw [List.map_cons, List.cons_append, walk_cons (isRecursive_literally name), ho]
      cases names <;> rfl
    cases o with
    | none => exact ⟨none, hwalk, fun _ h => (nomatch h)⟩
    | some next =>
      have hnext : Arrives l (stepsOf (String.ofList name)) next := harrives next rfl
      obtain ⟨o', hwalk', hbases⟩ := ih hrest hnext.sound
      refine ⟨o', fun c cs => ?_, fun base hbase => hnext.trans (hbases base hbase)⟩
      rw [hwalk]
      exact (List.append_nil _).trans (hwalk' c cs)

end Glob

namespace Discovery
open Text Glob EngineTrials.Path

/-- What the last component of the built-in pattern is read as. -/
def caseName : Glob.Component :=
  [.noneOf [.single '_'], .anySequence, .char '.', .char 'y', .char 'm', .char 'l']

/-- The directory that is searched for a root. No text at all stands for the root of the tree. -/
def searched (root : Path) : Path := ⟨root.text ++ "/"⟩

theorem chars_searched (root : Path) : (searched root).chars = root.chars ++ ['/'] :=
  String.toList_append

theorem steps_searched (root : Path) : (searched root).steps = root.steps := by
  rw [steps_eq_passed, steps_eq_passed, chars_searched, passed, cut_append_slash,
    List.filter_append, List.map_append]
  exact List.append_nil _

theorem isAbsolute_searched {root : Path} (h : root.chars ≠ []) :
    (searched root).isAbsolute = root.isAbsolute := by
  rw [isAbsolute, chars_searched, List.head?_append_of_ne_nil _ h, isAbsolute]

theorem steps_eq_stepsOfNames (root : Path) : root.steps = stepsOfNames root.segments := by
  rw [steps_eq_flatMap, FileSystem.namesOf, List.flatMap_map, stepsOfNames]

theorem slash_not_mem_of_mem_segments {root : Path} {name : List Char}
    (h : name ∈ root.segments) : '/' ∉ name :=
  slash_not_mem_of_mem_cut h

theorem tokensFrom_defaultPattern (fuel position : Nat) (before : Option Char)
    (hfuel : ('/' :: defaultPattern.toList).length < fuel) :
    tokensFrom fuel position before ('/' :: defaultPattern.toList) =
      .ok (.char '/' :: .anyDirectories :: caseName) := by
  have hlength : ('/' :: defaultPattern.toList).length = 13 := by decide +kernel
  obtain ⟨fuel, rfl⟩ : ∃ n, fuel = n + 14 := ⟨fuel - 14, by omega⟩
  rfl

theorem readComponents_default :
    readComponents (componentTexts defaultPattern.toList) = .ok [[.anyDirectories], caseName] := by
  decide +kernel

/-- The built-in pattern is sound behind any root. -/
theorem read_default (root : Path) : ∃ names, (∀ name ∈ names, '/' ∉ name) ∧
    stepsOfNames names = (searched root).steps ∧
    Pattern.read (fullPattern root defaultPattern) = .ok ⟨(searched root).isAbsolute,
      names.map literally ++ [[.anyDirectories], caseName], false⟩ := by
  by_cases hroot : root.chars = []
  · have htext : root = ⟨""⟩ := by
      rw [← String.toList_eq_nil_iff.mp hroot]
    subst htext
    exact ⟨[], fun _ h => (nomatch h), by decide +kernel, by decide +kernel⟩
  · refine ⟨root.segments, fun name => slash_not_mem_of_mem_segments, ?_, ?_⟩
    · rw [steps_searched, steps_eq_stepsOfNames]
    · have htokens : tokens (escape root.chars ++ '/' :: defaultPattern.toList) = .ok _ :=
        tokensFrom_escape_append tokensFrom_defaultPattern root.chars _ 0 none
          (Nat.lt_succ_self _)
      have hlast : ((escape root.chars ++ '/' :: defaultPattern.toList).getLast? == some '/') =
          false := by
        rw [List.getLast?_append_of_ne_nil _ (List.cons_ne_nil _ _)]
        decide +kernel
      have hhead : ((escape root.chars ++ '/' :: defaultPattern.toList).head? == some '/') =
          (searched root).isAbsolute := by
        rw [isAbsolute_searched hroot]
        exact head?_escape_append hroot _
      obtain ⟨names, hsegments, hrest⟩ := exists_names_of_root hroot defaultPattern.toList
      have hcomponents : readComponents
          (componentTexts (escape names ++ '/' :: defaultPattern.toList)) =
          .ok (root.segments.map literally ++ [[.anyDirectories], caseName]) := by
        rw [componentTexts_append, readComponents_append, readComponents_escape,
          readComponents_default, hsegments]
        rfl
      have hnonempty : (escape names ++ '/' :: defaultPattern.toList).isEmpty = false := by
        cases escape names <;> rfl
      rw [hhead] at hrest
      rw [fullPattern_eq, Pattern.read, htokens]
      simp only [hhead, hrest, hcomponents, hnonempty, hlast, Bool.and_false]
      rfl

end Discovery
end EngineTrials
