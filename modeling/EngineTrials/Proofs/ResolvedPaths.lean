import EngineTrials.Config.Settings
import EngineTrials.Proofs.NamesBelow

/-!
# Resolved paths

The `~` of a path is looked for among its components, but paths are put together as texts. What
follows a prefix is written anew and begins with a name, so it is relative however many slashes
stood there, and the home directory is kept in front of it, whatever it says itself. A path that
was resolved is absolute and has nothing to expand.
-/
namespace EngineTrials

namespace Path
open Text

theorem cut_glue {ss : List (List Char)} (hss : ∀ s ∈ ss, '/' ∉ s) (hne : ss ≠ []) :
    cut (glue ['/'] ss) = ss := by
  induction ss with
  | nil => exact absurd rfl hne
  | cons s ss ih =>
    obtain ⟨hs, hrest⟩ := List.forall_mem_cons.mp hss
    cases ss with
    | nil => exact cut_of_not_mem hs
    | cons next ss =>
      rw [glue, List.append_assoc, List.singleton_append, cut_append_slash, cut_of_not_mem hs,
        ih hrest (List.cons_ne_nil _ _)]
      rfl

/-- Trivial segments at both ends, and no others, are dropped. -/
def trimmed (ss : List (List Char)) : List (List Char) :=
  dropTrailing isTrivial (ss.dropWhile isTrivial)

theorem filter_dropWhile {α : Type} (p : α → Bool) (as : List α) :
    (as.dropWhile p).filter (fun a => !p a) = as.filter fun a => !p a := by
  induction as with
  | nil => rfl
  | cons a as ih =>
    cases ha : p a with
    | true => rw [List.dropWhile_cons_of_pos ha, List.filter_cons_of_neg (by simp [ha]), ih]
    | false => rw [List.dropWhile_cons_of_neg (by simp [ha])]

theorem filter_trimmed (ss : List (List Char)) :
    (trimmed ss).filter (fun s => !isTrivial s) = ss.filter fun s => !isTrivial s := by
  rw [trimmed, dropTrailing, List.filter_reverse, filter_dropWhile, List.filter_reverse,
    List.reverse_reverse, filter_dropWhile]

theorem trimmed_isPrefix (ss : List (List Char)) : trimmed ss <+: ss.dropWhile isTrivial := by
  rw [← List.reverse_suffix, trimmed, dropTrailing, List.reverse_reverse]
  exact List.dropWhile_suffix _

theorem head?_trimmed (ss : List (List Char)) : ∀ s ∈ (trimmed ss).head?, isTrivial s = false := by
  intro s hs
  obtain ⟨back, hback⟩ := trimmed_isPrefix ss
  obtain ⟨rest, hrest⟩ := List.head?_eq_some_iff.mp hs
  have hfirst := List.head?_dropWhile_not isTrivial ss
  rw [← hback, hrest] at hfirst
  exact hfirst

theorem filter_dropComponents (n : Nat) (ss : List (List Char)) :
    (dropComponents n ss).filter (fun s => !isTrivial s) =
      (ss.filter fun s => !isTrivial s).drop n := by
  fun_induction dropComponents n ss with
  | case1 ss => rfl
  | case2 n => rfl
  | case3 n s rest htrivial ih => rw [ih, List.filter_cons_of_neg (by simp [htrivial])]
  | case4 n s rest hnamed ih =>
    rw [ih, List.filter_cons_of_pos (by simpa using hnamed), List.drop_succ_cons]

theorem dropComponents_suffix (n : Nat) (ss : List (List Char)) : dropComponents n ss <:+ ss := by
  fun_induction dropComponents n ss with
  | case1 ss => exact List.suffix_rfl
  | case2 n => exact List.suffix_rfl
  | case3 n s rest htrivial ih => exact ih.trans (List.suffix_cons s rest)
  | case4 n s rest hnamed ih => exact ih.trans (List.suffix_cons s rest)

/-- Whatever stood in front of it, a path that is put together from a name on is relative. -/
theorem isAbsolute_glue {ss : List (List Char)} (hss : ∀ s ∈ ss, '/' ∉ s)
    (hfirst : ∀ s ∈ ss.head?, isTrivial s = false) :
    isAbsolute (ofChars (glue ['/'] ss)) = false := by
  rw [isAbsolute, chars, ofChars, String.toList_ofList, beq_eq_false_iff_ne]
  intro hslash
  cases ss with
  | nil => cases hslash
  | cons s rest =>
    have hs : isTrivial s = false := hfirst s rfl
    cases s with
    | nil => cases hs
    | cons c cs =>
      have hc : (glue ['/'] ((c :: cs) :: rest)).head? = some c := by cases rest <;> rfl
      obtain rfl := Option.some.inj (hc.symm.trans hslash)
      exact hss _ List.mem_cons_self List.mem_cons_self

theorem passed_glue {ss : List (List Char)} (hss : ∀ s ∈ ss, '/' ∉ s) :
    passed (glue ['/'] ss) = (ss.filter fun s => !isTrivial s).map componentOf := by
  cases ss with
  | nil => rfl
  | cons s ss => rw [passed, cut_glue hss (List.cons_ne_nil _ _)]

/-- What is left of the segments when the first components are taken away. -/
def segmentsBehind (n : Nat) (p : Path) : List (List Char) :=
  dropComponents (if p.isAbsolute || p.opensCurrent then n - 1 else n)
    (if p.opensCurrent then p.segments.tail else p.segments)

theorem components_behind {n : Nat} (hn : n ≠ 0) (p : Path) :
    ((segmentsBehind n p).filter fun s => !isTrivial s).map componentOf = p.components.drop n := by
  obtain ⟨m, rfl⟩ := Nat.exists_eq_succ_of_ne_zero hn
  rw [segmentsBehind, filter_dropComponents, List.map_drop, components]
  cases habsolute : p.isAbsolute with
  | true =>
    have hopens : p.opensCurrent = false := by rw [opensCurrent, habsolute]; rfl
    rw [hopens]
    rfl
  | false =>
    cases hopens : p.opensCurrent with
    | true =>
      have hhead : p.segments.head? = some ['.'] := by
        rw [opensCurrent, habsolute] at hopens
        exact eq_of_beq hopens
      obtain ⟨rest, hrest⟩ := List.head?_eq_some_iff.mp hhead
      rw [hrest]
      rfl
    | false => rfl

theorem slash_not_mem_of_mem_segmentsBehind {n : Nat} {p : Path} {s : List Char}
    (h : s ∈ segmentsBehind n p) : '/' ∉ s := by
  have hmem := (dropComponents_suffix _ _).subset h
  split at hmem
  · exact slash_not_mem_of_mem_cut (List.mem_of_mem_tail hmem)
  · exact slash_not_mem_of_mem_cut hmem

theorem stripPrefix?_of_not_isPrefix {base p : Path} (h : ¬ base.components <+: p.components) :
    stripPrefix? base p = none := by
  rw [stripPrefix?, if_neg fun hprefix => h (List.isPrefixOf_iff_prefix.mp hprefix)]

/-- What follows a prefix is relative and says what the path says behind the components of it. -/
theorem stripPrefix?_of_isPrefix {base p : Path} (hbase : base.components ≠ [])
    (h : base.components <+: p.components) : ∃ q, stripPrefix? base p = some q ∧
      q.isAbsolute = false ∧ passed q.chars = p.components.drop base.components.length := by
  have hlength : base.components.length ≠ 0 := fun hzero =>
    hbase (List.eq_nil_of_length_eq_zero hzero)
  have hslash : ∀ s ∈ trimmed (segmentsBehind base.components.length p), '/' ∉ s := fun s hs =>
    slash_not_mem_of_mem_segmentsBehind
      ((List.dropWhile_suffix _).subset ((trimmed_isPrefix _).subset hs))
  refine ⟨ofChars (glue ['/'] (trimmed (segmentsBehind base.components.length p))), ?_,
    isAbsolute_glue hslash (head?_trimmed _), ?_⟩
  · rw [stripPrefix?, if_pos (List.isPrefixOf_iff_prefix.mpr h)]
    exact if_neg hlength
  · rw [chars, ofChars, String.toList_ofList, passed_glue hslash, filter_trimmed,
      components_behind hlength]

end Path

namespace Config.Settings
open EngineTrials.Path

variable {s : Settings} {home p : Path}

theorem components_tilde : components ⟨"~"⟩ = [.name "~"] := by decide +kernel

theorem isPrefix_tilde_iff :
    components ⟨"~"⟩ <+: p.components ↔ p.components.head? = some (.name "~") := by
  rw [components_tilde]
  cases p.components with
  | nil => simp
  | cons c cs => simp [eq_comm]

/-- Only a whole component `~` stands for the home directory. -/
theorem expandHome_of_head?_ne (h : p.components.head? ≠ some (.name "~")) :
    s.expandHome p = p := by
  rw [expandHome, stripPrefix?_of_not_isPrefix fun hprefix => h (isPrefix_tilde_iff.mp hprefix)]
  cases s.home <;> rfl

theorem expandHome_of_head? (hhome : s.home = some home)
    (h : p.components.head? = some (.name "~")) : ∃ rest, s.expandHome p = home.join rest ∧
      rest.isAbsolute = false ∧ passed rest.chars = p.components.tail := by
  have hbase : components ⟨"~"⟩ ≠ [] := by rw [components_tilde]; exact List.cons_ne_nil _ _
  obtain ⟨rest, hrest, hrelative, hpassed⟩ :=
    stripPrefix?_of_isPrefix hbase (isPrefix_tilde_iff.mpr h)
  refine ⟨rest, ?_, hrelative, ?_⟩
  · rw [expandHome, hhome, hrest]
  · rw [hpassed, components_tilde, List.length_singleton, List.drop_one]

theorem head?_components_of_isAbsolute (h : p.isAbsolute = true) :
    p.components.head? = some .root := by
  rw [components, if_pos h, List.head?_cons]

theorem chars_ne_nil_of_isAbsolute (h : p.isAbsolute = true) : p.chars ≠ [] := by
  intro hnil
  rw [isAbsolute, hnil] at h
  cases h

theorem expandHome_of_isAbsolute (h : p.isAbsolute = true) : s.expandHome p = p := by
  refine expandHome_of_head?_ne ?_
  rw [head?_components_of_isAbsolute h]
  exact fun hroot => nomatch hroot

/-- An absolute path is left alone. -/
theorem resolve_of_isAbsolute (h : p.isAbsolute = true) : s.resolve p = p := by
  rw [resolve, expandHome_of_isAbsolute h, join, if_pos h]

theorem resolve_of_home (hhome : s.home = some home) (habsolute : home.isAbsolute = true)
    (h : p.components.head? = some (.name "~")) : ∃ rest, s.resolve p = home.join rest ∧
      rest.isAbsolute = false ∧ passed rest.chars = p.components.tail := by
  obtain ⟨rest, hexpand, hrelative, hpassed⟩ := expandHome_of_head? hhome h
  have hjoin : (home.join rest).isAbsolute = true := by
    rw [isAbsolute_join_relative (chars_ne_nil_of_isAbsolute habsolute) hrelative, habsolute]
  refine ⟨rest, ?_, hrelative, hpassed⟩
  rw [resolve, hexpand, join, if_pos hjoin]

theorem isAbsolute_resolve (hroot : s.root.isAbsolute = true) (p : Path) :
    (s.resolve p).isAbsolute = true := by
  cases hexpanded : (s.expandHome p).isAbsolute with
  | true => rw [resolve, join, if_pos hexpanded, hexpanded]
  | false =>
    rw [resolve, isAbsolute_join_relative (chars_ne_nil_of_isAbsolute hroot) hexpanded, hroot]

/-- With an absolute root and an absolute home directory every path is resolved to an absolute one
that is resolved to itself. A first component `~` gives way to the components of the home
directory, and the text of this comes first; no other path is expanded. An absolute path stays what
it is, and a relative one without `~` is put behind the root. -/
theorem resolve_settles (hroot : s.root.isAbsolute = true) (hhome : s.home = some home)
    (habsolute : home.isAbsolute = true) (p : Path) :
    (s.resolve p).isAbsolute = true ∧ s.resolve (s.resolve p) = s.resolve p ∧
    (p.components.head? = some (.name "~") →
      (s.resolve p).components = home.components ++ p.components.tail ∧
      home.chars <+: (s.resolve p).chars) ∧
    (p.components.head? ≠ some (.name "~") → s.expandHome p = p) ∧
    (p.isAbsolute = true → s.resolve p = p) ∧
    (p.isAbsolute = false → p.components.head? ≠ some (.name "~") →
      s.resolve p = s.root.join p) := by
  have hresolved : (s.resolve p).isAbsolute = true := isAbsolute_resolve hroot p
  refine ⟨hresolved, resolve_of_isAbsolute hresolved, fun htilde => ?_, expandHome_of_head?_ne,
    resolve_of_isAbsolute, fun _ hother => ?_⟩
  · obtain ⟨rest, hresolve, hrelative, hpassed⟩ := resolve_of_home hhome habsolute htilde
    have hsome : home.chars ≠ [] := chars_ne_nil_of_isAbsolute habsolute
    constructor
    · rw [hresolve, components_join_relative hsome hrelative, hpassed]
    · obtain ⟨front, hfront, hjoin⟩ := exists_chars_join hsome hrelative
      rw [hresolve, hjoin]
      obtain hfront | hfront := hfront
      · exact hfront ▸ List.prefix_append _ _
      · exact ⟨rest.chars, by rw [hfront, List.append_assoc]; rfl⟩
  · rw [resolve, expandHome_of_head?_ne hother]

/-- The first `~` is the home directory, the second the name of an entry. -/
theorem resolve_settles_two_tildes :
    let s : Settings := { root := ⟨"/project"⟩, home := some ⟨"/home/me"⟩ }
    let p : Path := ⟨"~//etc/~"⟩
    (s.resolve p).isAbsolute = true ∧ s.resolve (s.resolve p) = s.resolve p ∧
    (s.resolve p).components =
      [.root, .name "home", .name "me", .name "etc", .name "~"] ∧
    "/home/me".toList <+: (s.resolve p).chars := by
  intro s p
  have hp : p.components = [.name "~", .name "etc", .name "~"] := by decide +kernel
  have hhome : components ⟨"/home/me"⟩ = [.root, .name "home", .name "me"] := by decide +kernel
  have hfirst : p.components.head? = some (.name "~") := by rw [hp]; rfl
  have hhomeAbsolute : isAbsolute ⟨"/home/me"⟩ = true := by decide +kernel
  obtain ⟨habsolute, hsame, htilde, -⟩ :=
    resolve_settles (s := s) (by decide +kernel) rfl hhomeAbsolute p
  obtain ⟨hcomponents, hbegins⟩ := htilde hfirst
  rw [hhome, hp] at hcomponents
  exact ⟨habsolute, hsame, hcomponents, hbegins⟩

end Config.Settings
end EngineTrials
