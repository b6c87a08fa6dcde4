import EngineTrials.Proofs.NamedDirectory

/-!
# Patterns behind a root

A pattern that can be read alone can be read behind any root that has some text. The stars, classes
and characters of it are read as before, since what stands in front matters to two stars only, and
a slash is as good for them as nothing. The components of the root come first.
-/
namespace EngineTrials.Glob
open Text EngineTrials.Path

theorem length_of_class? {cs members rest : List Char} {negated : Bool}
    (h : class? cs = some (negated, members, rest)) : rest.length ≤ cs.length := by
  have hclosed {tail after : List Char} {c : Char}
      (hafter : tail.dropWhile (· != ']') = c :: after) : after.length < tail.length := by
    have hshort : (tail.dropWhile (· != ']')).length ≤ tail.length :=
      (List.dropWhile_sublist _).length_le
    rw [hafter] at hshort
    exact hshort
  rw [class?.eq_def] at h
  split at h
  case h_1 first tail =>
    dsimp only at h
    split at h
    case h_1 c after hafter =>
      cases h
      have hshort := hclosed hafter
      rw [List.length_cons, List.length_cons]
      omega
    case h_2 => cases h
  case h_2 => cases h
  case h_3 first tail _ _ =>
    dsimp only at h
    split at h
    case h_1 c after hafter =>
      cases h
      have hshort := hclosed hafter
      rw [List.length_cons]
      omega
    case h_2 => cases h
  case h_4 => cases h

/-- Whether two stars may stand behind this. -/
def opens (before : Option Char) : Prop := before = none ∨ before = some '/'

theorem return_cons_eq_ok {ε α : Type} {m : Except ε (List α)} {t : α} {ts : List α} :
    (do return t :: (← m)) = Except.ok ts ↔ ∃ rest, m = .ok rest ∧ t :: rest = ts := by
  cases m with
  | error e => exact ⟨fun h => (nomatch h), fun ⟨_, h, _⟩ => (nomatch h)⟩
  | ok rest =>
    exact ⟨fun h => ⟨rest, rfl, Except.ok.inj h⟩, fun ⟨_, h, heq⟩ => by cases h; rw [← heq]; rfl⟩

/-- What a text is read as depends neither on how far it is into the pattern nor on what stands in
front of it, unless this lets two stars stand there or keeps them from it. -/
theorem tokensFrom_of_ok {fuel position : Nat} {before : Option Char} {cs : List Char}
    {ts : List Token} (h : tokensFrom fuel position before cs = .ok ts) (hfuel : cs.length < fuel)
    {fuel' : Nat} (hfuel' : cs.length < fuel') (position' : Nat) {before' : Option Char}
    (hbefore : opens before ↔ opens before') :
    tokensFrom fuel' position' before' cs = .ok ts := by
  obtain ⟨fuel', rfl⟩ : ∃ n, fuel' = n + 1 := ⟨fuel' - 1, by omega⟩
  -- The position only shows in errors. Behind the first token both readings have seen the same.
  fun_induction tokensFrom fuel position before cs generalizing ts fuel' position' before'
  case case1 => omega
  case case2 => exact h
  case case3 | case7 | case8 | case11 => cases h
  case case4 fuel position before rest stars after hfew hone ih =>
    obtain ⟨ts, htail, rfl⟩ := return_cons_eq_ok.mp h
    have hlength : after.length ≤ rest.length := (List.dropWhile_sublist _).length_le
    rw [List.length_cons] at hfuel hfuel'
    obtain ⟨fuel', rfl⟩ : ∃ n, fuel' = n + 1 := ⟨fuel' - 1, by omega⟩
    have hnext := ih htail (by omega) (position' + 1) Iff.rfl fuel' (by omega)
    rw [tokensFrom, if_neg hfew, if_pos hone]
    exact return_cons_eq_ok.mpr ⟨ts, hnext, rfl⟩
  case case5 fuel position before rest stars after hfew hmany hopens hafter =>
    have hopens' : before' = none ∨ before' = some '/' := hbefore.mp hopens
    have hafter : rest.dropWhile (· == '*') = [] := hafter
    rw [tokensFrom, if_neg hfew, if_neg hmany, if_pos hopens', hafter]
    exact h
  case case6 fuel position before rest stars after hfew hmany hopens tail hafter ih =>
    obtain ⟨ts, htail, rfl⟩ := return_cons_eq_ok.mp h
    have hopens' : before' = none ∨ before' = some '/' := hbefore.mp hopens
    have hafter : rest.dropWhile (· == '*') = '/' :: tail := hafter
    have hlength := (List.dropWhile_sublist (· == '*') (l := rest)).length_le
    rw [hafter, List.length_cons] at hlength
    rw [List.length_cons] at hfuel hfuel'
    obtain ⟨fuel', rfl⟩ : ∃ n, fuel' = n + 1 := ⟨fuel' - 1, by omega⟩
    have hnext := ih htail (by omega) (position' + 3) Iff.rfl fuel' (by omega)
    rw [tokensFrom, if_neg hfew, if_neg hmany, if_pos hopens', hafter]
    exact return_cons_eq_ok.mpr ⟨ts, hnext, rfl⟩
  case case9 fuel position before rest ih =>
    obtain ⟨ts, htail, rfl⟩ := return_cons_eq_ok.mp h
    rw [List.length_cons] at hfuel hfuel'
    obtain ⟨fuel', rfl⟩ : ∃ n, fuel' = n + 1 := ⟨fuel' - 1, by omega⟩
    have hnext := ih htail (by omega) (position' + 1) Iff.rfl fuel' (by omega)
    rw [tokensFrom]
    exact return_cons_eq_ok.mpr ⟨ts, hnext, rfl⟩
  case case10 fuel position before rest negated members after hclass items width ih =>
    obtain ⟨ts, htail, rfl⟩ := return_cons_eq_ok.mp h
    have hlength := length_of_class? hclass
    rw [List.length_cons] at hfuel hfuel'
    obtain ⟨fuel', rfl⟩ : ∃ n, fuel' = n + 1 := ⟨fuel' - 1, by omega⟩
    have hnext := ih htail (by omega) (position' + width) Iff.rfl fuel' (by omega)
    rw [tokensFrom, hclass]
    exact return_cons_eq_ok.mpr ⟨ts, hnext, rfl⟩
  case case12 fuel position before c rest hstar hquestion hbracket ih =>
    obtain ⟨ts, htail, rfl⟩ := return_cons_eq_ok.mp h
    rw [List.length_cons] at hfuel hfuel'
    obtain ⟨fuel', rfl⟩ : ∃ n, fuel' = n + 1 := ⟨fuel' - 1, by omega⟩
    have hnext := ih htail (by omega) (position' + 1) Iff.rfl fuel' (by omega)
    rw [tokensFrom]
    · exact return_cons_eq_ok.mpr ⟨ts, hnext, rfl⟩
    · exact hstar
    · exact hquestion
    · exact hbracket

/-- Where there is a text, there is a token. -/
theorem tokensFrom_ne_nil {fuel position : Nat} {before : Option Char} {cs : List Char}
    (hfuel : fuel ≠ 0) (hcs : cs ≠ []) : tokensFrom fuel position before cs ≠ .ok [] := by
  fun_cases tokensFrom fuel position before cs
  case case1 => exact absurd rfl hfuel
  case case2 => exact absurd rfl hcs
  case case3 | case5 | case7 | case8 | case11 => exact fun h => (nomatch h)
  case case4 | case6 | case9 | case10 | case12 =>
    intro h
    obtain ⟨_, -, hcons⟩ := return_cons_eq_ok.mp h
    cases hcons

theorem nil_not_mem_of_readComponents {texts : List (List Char)} {cs : List Component}
    (h : readComponents texts = .ok cs) (htexts : [] ∉ texts) : [] ∉ cs := by
  induction texts generalizing cs with
  | nil =>
    cases h
    exact List.not_mem_nil
  | cons text texts ih =>
    obtain ⟨htext, htexts⟩ := List.ne_and_not_mem_of_not_mem_cons htexts
    rw [readComponents] at h
    cases hts : tokens text with
    | error e => rw [hts] at h; cases h
    | ok ts =>
      rw [hts] at h
      obtain ⟨rest, hrest, rfl⟩ := return_cons_eq_ok.mp h
      have hsome : [] ≠ ts := fun hnil =>
        tokensFrom_ne_nil (Nat.succ_ne_zero _) htext.symm (hnil ▸ hts)
      exact List.not_mem_cons_of_ne_of_not_mem hsome (ih hrest htexts)

theorem head?_ne_slash {cs : List Char} (h : [] ∉ cut cs) : cs.head? ≠ some '/' := by
  intro hhead
  obtain ⟨rest, rfl⟩ := List.head?_eq_some_iff.mp hhead
  have hcut : cut ('/' :: rest) = [] :: cut rest := cut_append_slash [] rest
  rw [hcut] at h
  exact h List.mem_cons_self

theorem getLast?_ne_slash {cs : List Char} (h : [] ∉ cut cs) : cs.getLast? ≠ some '/' := by
  intro hlast
  obtain ⟨front, rfl⟩ := List.getLast?_eq_some_iff.mp hlast
  rw [cut_append_slash] at h
  exact h (List.mem_append_right _ List.mem_cons_self)

theorem componentTexts_eq_cut {cs : List Char} (h : [] ∉ cut cs) : componentTexts cs = cut cs := by
  have hlast : ¬ (pieces (· == '/') cs).getLast? = some [] :=
    fun hlast => h (List.mem_of_getLast? hlast)
  rw [componentTexts, if_neg hlast, cut]

/-- A pattern without empty pieces, read alone: its components are those of its pieces. -/
theorem read_pieces {cs : List Char} {p : Pattern} (h : Pattern.read cs = .ok p)
    (hpieces : [] ∉ cut cs) : (∃ ts, tokens cs = .ok ts) ∧
      readComponents (componentTexts cs) = .ok p.components ∧
      p.components ≠ [] ∧ [] ∉ p.components := by
  have hhead : (cs.head? == some '/') = false := beq_eq_false_iff_ne.mpr (head?_ne_slash hpieces)
  have htokens : ∃ ts, tokens cs = .ok ts := by
    rw [Pattern.read] at h
    cases hts : tokens cs with
    | error e => rw [hts] at h; cases h
    | ok ts => exact ⟨ts, rfl⟩
  obtain ⟨components, hread, hp⟩ := read_ok h (show _ = cs by rw [hhead]; rfl)
  rw [hhead, Bool.false_and, if_neg Bool.false_ne_true] at hp
  rw [hp]
  rw [componentTexts_eq_cut hpieces] at hread ⊢
  refine ⟨htokens, hread, ?_, nil_not_mem_of_readComponents hread hpieces⟩
  rintro rfl
  obtain ⟨text, texts, hcut⟩ := List.exists_cons_of_ne_nil (cut_ne_nil cs)
  rw [hcut, readComponents] at hread
  cases hts : tokens text with
  | error e => rw [hts] at hread; cases hread
  | ok ts =>
    rw [hts] at hread
    obtain ⟨_, -, hcons⟩ := return_cons_eq_ok.mp hread
    cases hcons

/-- Behind a root, the pattern is read as it is alone. -/
theorem read_behind_root {root : Path} (hroot : root.chars ≠ []) {pattern : String} {p : Pattern}
    (h : Pattern.read pattern.toList = .ok p) (hpieces : [] ∉ cut pattern.toList) :
    Pattern.read (Discovery.fullPattern root pattern) =
      .ok ⟨root.isAbsolute, root.segments.map literally ++ p.components, false⟩ := by
  obtain ⟨⟨ts, hts⟩, hread, -⟩ := read_pieces h hpieces
  have hpattern (fuel position : Nat) (before : Option Char)
      (hfuel : ('/' :: pattern.toList).length < fuel) :
      tokensFrom fuel position before ('/' :: pattern.toList) = .ok (.char '/' :: ts) := by
    obtain ⟨fuel, rfl⟩ : ∃ n, fuel = n + 1 := ⟨fuel - 1, by omega⟩
    have hslash : opens none ↔ opens (some '/') := ⟨fun _ => .inr rfl, fun _ => .inl rfl⟩
    have hbehind := tokensFrom_of_ok hts (Nat.lt_succ_self _)
      (Nat.lt_of_succ_lt_succ hfuel) (position + 1) hslash
    rw [tokensFrom_char (by decide), hbehind]
    rfl
  have htokens : tokens (escape root.chars ++ '/' :: pattern.toList) = .ok _ :=
    tokensFrom_escape_append hpattern root.chars _ 0 none (Nat.lt_succ_self _)
  have hhead : ((escape root.chars ++ '/' :: pattern.toList).head? == some '/') =
      root.isAbsolute := head?_escape_append hroot _
  have hlast : ((escape root.chars ++ '/' :: pattern.toList).getLast? == some '/') = false := by
    have hne : pattern.toList ≠ [] := by
      intro hnil
      rw [hnil] at hpieces
      exact hpieces List.mem_cons_self
    rw [List.append_cons, List.getLast?_append_of_ne_nil _ hne]
    exact beq_eq_false_iff_ne.mpr (getLast?_ne_slash hpieces)
  obtain ⟨names, hsegments, hrest⟩ := exists_names_of_root hroot pattern.toList
  have hcomponents : readComponents (componentTexts (escape names ++ '/' :: pattern.toList)) =
      .ok (root.segments.map literally ++ p.components) := by
    rw [componentTexts_append, readComponents_append, readComponents_escape, hread, hsegments]
    rfl
  have hnonempty : (escape names ++ '/' :: pattern.toList).isEmpty = false := by
    cases escape names <;> rfl
  rw [hhead] at hrest
  rw [fullPattern_eq, Pattern.read, htokens]
  simp only [hhead, hrest, hcomponents, hnonempty, hlast, Bool.and_false]
  rfl

end EngineTrials.Glob
