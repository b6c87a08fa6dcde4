import EngineTrials.Proofs.WalkSteps

/-!
# When a walk meets no node twice

A walk meets a node once for every way in which a pattern matches the names that lead to it. Most
components match one name, or lead on in one way, so that from where a path was reached, and the
number of its steps, it can be told how. That is not so for `**`, which passes any number of names,
and for a component like `.*`, which matches `.` as well as names. As long as a pattern has one such
component only, the steps in front of it and those behind it are as many as the pattern says.
-/
namespace EngineTrials.Glob
open EngineTrials.Path Location

/-- Where a component other than `**` leads. -/
def entered (c : Component) (l : Location) : List Location :=
  match literal? c with
  | some name => (l.lookup? (String.ofList name)).toList
  | none => (l.children.filter fun r => matchesName c r.name) ++ specials c l

/-- Where the rest of a pattern leads: nowhere else if there is none. -/
def onward (rest : List Component) (l : Location) : List Location :=
  if rest.isEmpty then [l] else walk rest l

theorem onward_cons (c : Component) (rest : List Component) (l : Location) :
    onward (c :: rest) l = walk (c :: rest) l := rfl

theorem walk_cons {c : Component} (hc : isRecursive c = false) (rest : List Component)
    (l : Location) : walk (c :: rest) l = (entered c l).flatMap (onward rest) := by
  rw [walk.eq_def, entered]
  simp only
  cases literal? c with
  | some name =>
    simp only
    cases l.lookup? (String.ofList name) with
    | none => rfl
    | some next => exact (List.append_nil _).symm
  | none =>
    simp only [hc, List.flatMap_append]
    rfl

theorem walk_recursive_last (l : Location) :
    walk [[.anyDirectories]] l = l.below.filter fun r => r.node.isDirectory := rfl

theorem walk_recursive_recursive {c : Component} (hc : isRecursive c = true)
    (rest : List Component) (l : Location) :
    walk ([.anyDirectories] :: c :: rest) l = walk (c :: rest) l := by
  rw [walk.eq_def]
  simp only [hc]
  rfl

theorem walk_recursive_cons {c : Component} (hc : isRecursive c = false) (rest : List Component)
    (l : Location) : walk ([.anyDirectories] :: c :: rest) l =
      (l.below.filter fun r => matchesName c r.name).flatMap (onward rest) := by
  have hkeep (ls : List Location) :
      (ls.flatMap fun r => if matchesName c r.name then onward rest r else []) =
        (ls.filter fun r => matchesName c r.name).flatMap (onward rest) := by
    induction ls with
    | nil => rfl
    | cons r ls ih =>
      rw [List.flatMap_cons, ih, List.filter_cons]
      cases matchesName c r.name with
      | true => rw [if_pos rfl, if_pos rfl, List.flatMap_cons]
      | false => rw [if_neg Bool.false_ne_true, if_neg Bool.false_ne_true, List.nil_append]
  rw [walk.eq_def, ← hkeep]
  simp only [hc]
  rfl

/-- Whether a component with wildcards matches `.`, which is no step. -/
def meetsPoint (c : Component) : Bool :=
  (literal? c).isNone && c.head? == some (.char '.') && matchesName c "."

/-- How many places of a pattern can be passed in different numbers of steps. Several `**` next to
each other are one such place, and the component behind them is only matched with names. -/
def elasticity : List Component → Nat
  | [] => 0
  | [c] => if isRecursive c || meetsPoint c then 1 else 0
  | c :: next :: rest =>
    if isRecursive c then
      if isRecursive next then elasticity (next :: rest) else 1 + elasticity rest
    else (if meetsPoint c then 1 else 0) + elasticity (next :: rest)

theorem elasticity_cons {c : Component} (hc : isRecursive c = false) (rest : List Component) :
    elasticity (c :: rest) = (if meetsPoint c then 1 else 0) + elasticity rest := by
  cases rest with
  | nil => simp only [elasticity, hc, Bool.false_or, Nat.add_zero]
  | cons next rest => rw [elasticity, hc]; rfl

/-- The number of steps by which a component other than `**` leads on, unless it meets `.`. -/
def width (c : Component) : Nat :=
  match literal? c with
  | some name => (stepsOf (String.ofList name)).length
  | none => 1

/-- Where a name that a component with wildcards matches leads if it is `.` or `..`. -/
def specialAt (l : Location) (name : String) : Location :=
  l.special name (l.path.join ⟨name⟩)

theorem steps_specialAt {l : Location} (hl : l.IsSound) {name : String} (h : '/' ∉ name.toList) :
    (specialAt l name).path.steps = l.path.steps ++ stepsOf name := by
  rw [specialAt, path_special, steps_join hl.path h]

theorem extends_specialAt {l : Location} (hl : l.IsSound) {name : String} (h : '/' ∉ name.toList) :
    l.Extends (stepsOf name).length (specialAt l name) :=
  extends_special hl name (chars_join_ne_nil hl.path h) (steps_join hl.path h)

theorem specials_sublist {c : Component} {l : Location} (hc : literal? c = none) :
    (specials c l).Sublist
      ((if meetsPoint c then [specialAt l "."] else []) ++ [specialAt l ".."]) := by
  rw [specials, meetsPoint, hc]
  cases hhead : c.head? == some (.char '.') with
  | false =>
    rw [Bool.and_false, if_neg Bool.false_ne_true]
    exact List.nil_sublist _
  | true =>
    cases l.node.isDirectory with
    | false => exact List.nil_sublist _
    | true =>
      cases hpoint : matchesName c "." <;> cases hparent : matchesName c ".." <;>
        simp [hpoint, hparent, specialAt]

theorem extends_of_mem_entered {c : Component} {l r : Location} (hl : l.IsSound)
    (h : r ∈ entered c l) : ∃ n, l.Extends n r ∧ (meetsPoint c = false → n = width c) := by
  rw [entered] at h
  rw [width]
  cases hliteral : literal? c with
  | some name =>
    simp only [hliteral] at h ⊢
    exact ⟨_, extends_of_lookup? hl (Option.mem_toList.mp h), fun _ => rfl⟩
  | none =>
    simp only [hliteral] at h ⊢
    obtain h | h := List.mem_append.mp h
    · exact ⟨1, extends_of_mem_children hl (List.mem_of_mem_filter h), fun _ => rfl⟩
    have h := (specials_sublist hliteral).subset h
    obtain h | h := List.mem_append.mp h
    · cases hpoint : meetsPoint c with
      | false =>
        rw [hpoint] at h
        cases h
      | true =>
        rw [hpoint, if_pos rfl, List.mem_singleton] at h
        have hstep : l.Extends (stepsOf ".").length (specialAt l ".") :=
          extends_specialAt hl (by decide)
        exact ⟨_, h ▸ hstep, fun hfalse => nomatch hfalse⟩
    · rw [List.mem_singleton] at h
      have hstep : l.Extends (stepsOf "..").length (specialAt l "..") :=
        extends_specialAt hl (by decide)
      exact ⟨_, h ▸ hstep, fun _ => by rw [stepsOf_parent]; rfl⟩

theorem apart_entered (c : Component) {l : Location} (hl : l.IsSound) : Apart (entered c l) := by
  rw [entered]
  cases hliteral : literal? c with
  | some name =>
    simp only
    cases l.lookup? (String.ofList name) with
    | none => exact List.Pairwise.nil
    | some r => exact List.pairwise_singleton _ r
  | none =>
    have hpair : Apart [specialAt l ".", specialAt l ".."] := by
      refine List.pairwise_pair.mpr fun hsame => ?_
      rw [steps_specialAt hl (by decide), steps_specialAt hl (by decide), stepsOf_current,
        stepsOf_parent] at hsame
      cases List.append_cancel_left hsame
    have hsub : (specials c l).Sublist [specialAt l ".", specialAt l ".."] := by
      refine (specials_sublist hliteral).trans ?_
      cases meetsPoint c <;> simp
    refine List.pairwise_append.mpr
      ⟨(apart_children hl).filter _, hpair.sublist hsub, fun a ha b hb hsame => ?_⟩
    obtain ⟨entry, hentry, rfl⟩ := List.mem_map.mp (List.mem_of_mem_filter ha)
    have hname := (hl.node.of_mem_children hentry).1
    rw [steps_pathOf hl hname.slash_not_mem, stepsOf_entry hname] at hsame
    obtain hb | hb := List.mem_pair.mp (hsub.subset hb)
    · rw [hb, steps_specialAt hl (by decide), stepsOf_current] at hsame
      cases List.append_cancel_left hsame
    · rw [hb, steps_specialAt hl (by decide), stepsOf_parent] at hsame
      cases List.append_cancel_left hsame

theorem isRecursive_iff {c : Component} : isRecursive c = true ↔ c = [.anyDirectories] := beq_iff_eq

theorem elasticity_recursive_recursive {c : Component} (hc : isRecursive c = true)
    (rest : List Component) :
    elasticity ([.anyDirectories] :: c :: rest) = elasticity (c :: rest) := by
  rw [elasticity, hc]
  rfl

theorem elasticity_recursive_cons {c : Component} (hc : isRecursive c = false)
    (rest : List Component) :
    elasticity ([.anyDirectories] :: c :: rest) = 1 + elasticity rest := by
  rw [elasticity, hc]
  rfl

theorem one_le_elasticity_recursive (rest : List Component) :
    1 ≤ elasticity ([.anyDirectories] :: rest) := by
  induction rest with
  | nil => decide
  | cons next rest ih =>
    cases hnext : isRecursive next with
    | true =>
      rw [elasticity_recursive_recursive hnext, isRecursive_iff.mp hnext]
      exact ih
    | false =>
      rw [elasticity_recursive_cons hnext]
      exact Nat.le_add_right 1 _

theorem elasticity_eq_zero {c : Component} {rest : List Component}
    (h : elasticity (c :: rest) = 0) :
    isRecursive c = false ∧ meetsPoint c = false ∧ elasticity rest = 0 := by
  cases hc : isRecursive c with
  | true =>
    have hpos := one_le_elasticity_recursive rest
    rw [← isRecursive_iff.mp hc, h] at hpos
    exact absurd hpos (by decide)
  | false =>
    rw [elasticity_cons hc] at h
    cases hpoint : meetsPoint c with
    | true => rw [hpoint, if_pos rfl] at h; omega
    | false => exact ⟨rfl, rfl, by omega⟩

/-- A pattern leads on by steps, however many. -/
theorem extends_of_mem_onward {l r : Location} (hl : l.IsSound) :
    (cs : List Component) → r ∈ onward cs l → ∃ n, l.Extends n r
  | [], hr => by
    rw [List.mem_singleton.mp hr]
    exact ⟨0, .refl hl⟩
  | c :: rest, hr => by
    cases hc : isRecursive c with
    | false =>
      rw [onward_cons, walk_cons hc] at hr
      obtain ⟨m, hm, hr⟩ := List.mem_flatMap.mp hr
      obtain ⟨i, him, -⟩ := extends_of_mem_entered hl hm
      obtain ⟨j, hj⟩ := extends_of_mem_onward him.sound rest hr
      exact ⟨i + j, him.trans hj⟩
    | true =>
      obtain rfl := isRecursive_iff.mp hc
      match rest with
      | [] =>
        rw [onward_cons, walk_recursive_last] at hr
        exact (below_spec hl).1 r (List.mem_of_mem_filter hr)
      | next :: rest =>
        cases hnext : isRecursive next with
        | true =>
          rw [onward_cons, walk_recursive_recursive hnext] at hr
          exact extends_of_mem_onward hl (next :: rest) hr
        | false =>
          rw [onward_cons, walk_recursive_cons hnext] at hr
          obtain ⟨m, hm, hr⟩ := List.mem_flatMap.mp hr
          obtain ⟨i, him⟩ := (below_spec hl).1 m (List.mem_of_mem_filter hm)
          obtain ⟨j, hj⟩ := extends_of_mem_onward him.sound rest hr
          exact ⟨i + j, him.trans hj⟩

/-- The number of steps by which a pattern without elastic places leads on. -/
def totalWidth : List Component → Nat
  | [] => 0
  | c :: rest => width c + totalWidth rest

theorem extends_of_elasticity_zero {cs : List Component} (hcs : elasticity cs = 0)
    {l r : Location} (hl : l.IsSound) (hr : r ∈ onward cs l) : l.Extends (totalWidth cs) r := by
  induction cs generalizing l with
  | nil =>
    rw [List.mem_singleton.mp hr]
    exact .refl hl
  | cons c rest ih =>
    obtain ⟨hc, hpoint, hrest⟩ := elasticity_eq_zero hcs
    rw [onward_cons, walk_cons hc] at hr
    obtain ⟨m, hm, hr⟩ := List.mem_flatMap.mp hr
    obtain ⟨n, hn, hwidth⟩ := extends_of_mem_entered hl hm
    rw [totalWidth, ← hwidth hpoint]
    exact hn.trans (ih hrest hn.sound hr)

/-- With one elastic place at most, no two ways to match lead to the same path: the steps in front
of the place are fixed in number, or those behind it are. -/
theorem apart_onward {l : Location} (hl : l.IsSound) :
    (cs : List Component) → elasticity cs ≤ 1 → Apart (onward cs l)
  | [], _ => List.pairwise_singleton _ l
  | c :: rest, hcs => by
    rw [onward_cons]
    cases hc : isRecursive c with
    | false =>
      rw [elasticity_cons hc] at hcs
      have heach (m : Location) (hm : m ∈ entered c l) : Apart (onward rest m) := by
        obtain ⟨n, hn, -⟩ := extends_of_mem_entered hl hm
        exact apart_onward hn.sound rest (by omega)
      rw [walk_cons hc]
      cases hpoint : meetsPoint c with
      | false =>
        -- The elastic place, if there is one, is behind this component.
        refine (apart_entered c hl).flatMap_of_front (l := l) (n := width c) (fun m hm => ?_) heach
          fun m hm r hr => ?_
        · obtain ⟨n, hn, hwidth⟩ := extends_of_mem_entered hl hm
          exact hwidth hpoint ▸ hn
        · obtain ⟨n, hn, -⟩ := extends_of_mem_entered hl hm
          exact extends_of_mem_onward hn.sound rest hr
      | true =>
        -- This is the elastic place.
        rw [hpoint, if_pos rfl] at hcs
        have hrest : elasticity rest = 0 := by omega
        refine (apart_entered c hl).flatMap_of_behind (n := totalWidth rest) heach
          fun m hm r hr => ?_
        obtain ⟨n, hn, -⟩ := extends_of_mem_entered hl hm
        exact extends_of_elasticity_zero hrest hn.sound hr
    | true =>
      obtain rfl := isRecursive_iff.mp hc
      obtain ⟨hbelow, hapart⟩ := below_spec hl
      match rest with
      | [] =>
        rw [walk_recursive_last]
        exact hapart.filter _
      | next :: rest =>
        cases hnext : isRecursive next with
        | true =>
          rw [elasticity_recursive_recursive hnext] at hcs
          rw [walk_recursive_recursive hnext]
          exact apart_onward hl (next :: rest) hcs
        | false =>
          rw [elasticity_recursive_cons hnext] at hcs
          have hrest : elasticity rest = 0 := by omega
          rw [walk_recursive_cons hnext]
          refine (hapart.filter _).flatMap_of_behind (n := totalWidth rest) (fun m hm => ?_)
            fun m hm r hr => ?_
          · obtain ⟨n, hn⟩ := hbelow m (List.mem_of_mem_filter hm)
            exact apart_onward hn.sound rest (by omega)
          · obtain ⟨n, hn⟩ := hbelow m (List.mem_of_mem_filter hm)
            exact extends_of_elasticity_zero hrest hn.sound hr

end EngineTrials.Glob
