import EngineTrials.Discovery
import EngineTrials.Proofs.PathSteps

/-!
# The root in a pattern

The root of a discovery is put in front of the pattern with brackets around every character that
would not stand for itself. Read again, each name of the root is a component that matches this name
alone, and the components behind those of the root are the ones that the pattern is read as.
-/
namespace EngineTrials.Glob
open Text EngineTrials.Path

/-- Whether a character has to be put into brackets to stand for itself. -/
def isMeta (c : Char) : Bool :=
  c = '?' ∨ c = '*' ∨ c = '[' ∨ c = ']'

/-- The component that a name with brackets is read as. -/
def literally (name : List Char) : Component :=
  name.map fun c => if isMeta c then .oneOf [.single c] else .char c

theorem literally_cons (c : Char) (cs : List Char) :
    literally (c :: cs) = (if isMeta c then .oneOf [.single c] else .char c) :: literally cs := rfl

theorem escape_cons (c : Char) (cs : List Char) :
    escape (c :: cs) = (if isMeta c then ['[', c, ']'] else [c]) ++ escape cs := by
  rw [escape, List.flatMap_cons, isMeta]
  simp only [decide_eq_true_eq]
  rfl

/-- The first character of a class may be a closing bracket. -/
theorem class?_single {c : Char} (hc : c ≠ '!') (rest : List Char) :
    class? (c :: ']' :: rest) = some (false, [c], rest) := by
  rw [class?.eq_def]
  split
  case h_1 heq => exact absurd (List.cons.inj heq).1 hc
  case h_2 heq => exact absurd (List.cons.inj heq).1 hc
  case h_3 heq =>
    obtain ⟨rfl, rfl⟩ := List.cons.inj heq
    rfl
  case h_4 heq => cases heq

theorem tokensFrom_char {c : Char} (hc : isMeta c = false) (fuel position : Nat)
    (before : Option Char) (rest : List Char) :
    tokensFrom (fuel + 1) position before (c :: rest) =
      (.char c :: ·) <$> tokensFrom fuel (position + 1) (some c) rest := by
  have hne {d : Char} (hd : isMeta d = true) : c = d → False := by
    rintro rfl
    rw [hc] at hd
    cases hd
  rw [tokensFrom]
  · rfl
  · exact hne (by decide)
  · exact hne (by decide)
  · exact hne (by decide)

theorem tokensFrom_bracket {c : Char} (hc : c ≠ '!') (fuel position : Nat)
    (before : Option Char) (rest : List Char) :
    tokensFrom (fuel + 1) position before ('[' :: c :: ']' :: rest) =
      (.oneOf [.single c] :: ·) <$> tokensFrom fuel (position + 3) (some ']') rest := by
  rw [tokensFrom, class?_single hc]
  rfl

/-- What was put into brackets is read as what it was, wherever it stands and whatever follows. -/
theorem tokensFrom_escape_append {rest : List Char} {ts : List Token}
    (hrest : ∀ fuel position before, rest.length < fuel →
      tokensFrom fuel position before rest = .ok ts)
    (cs : List Char) (fuel position : Nat) (before : Option Char)
    (hfuel : (escape cs ++ rest).length < fuel) :
    tokensFrom fuel position before (escape cs ++ rest) = .ok (literally cs ++ ts) := by
  induction cs generalizing fuel position before with
  | nil => exact hrest fuel position before hfuel
  | cons c cs ih =>
    obtain ⟨fuel, rfl⟩ : ∃ n, fuel = n + 1 := ⟨fuel - 1, by omega⟩
    rw [escape_cons, List.append_assoc] at hfuel ⊢
    rw [List.length_append] at hfuel
    cases hmeta : isMeta c with
    | true =>
      rw [hmeta, if_pos rfl] at hfuel
      have hc : c ≠ '!' := by rintro rfl; exact absurd hmeta (by decide)
      have hnext := ih fuel (position + 3) (some ']') (by simp at hfuel ⊢; omega)
      rw [if_pos rfl, List.cons_append, List.cons_append, List.cons_append, List.nil_append,
        tokensFrom_bracket hc, hnext, literally_cons, hmeta]
      rfl
    | false =>
      rw [hmeta, if_neg Bool.false_ne_true] at hfuel
      have hnext := ih fuel (position + 1) (some c) (by simp at hfuel ⊢; omega)
      rw [if_neg Bool.false_ne_true, List.singleton_append, tokensFrom_char hmeta, hnext,
        literally_cons, hmeta]
      rfl

theorem tokens_escape (cs : List Char) : tokens (escape cs) = .ok (literally cs) := by
  have hnone : ∀ fuel position before, ([] : List Char).length < fuel →
      tokensFrom fuel position before [] = .ok [] := by
    intro fuel position before hfuel
    obtain ⟨fuel, rfl⟩ : ∃ n, fuel = n + 1 := ⟨fuel - 1, by omega⟩
    rfl
  have hread := tokensFrom_escape_append hnone cs ((escape cs).length + 1) 0 none
    (by rw [List.append_nil]; exact Nat.lt_succ_self _)
  rw [List.append_nil, List.append_nil] at hread
  exact hread

theorem readComponents_append (texts others : List (List Char)) :
    readComponents (texts ++ others) = do
      return (← readComponents texts) ++ (← readComponents others) := by
  induction texts with
  | nil =>
    rw [List.nil_append, readComponents]
    cases readComponents others <;> rfl
  | cons text texts ih =>
    rw [List.cons_append, readComponents, ih, readComponents]
    cases tokens text <;> cases readComponents texts <;> cases readComponents others <;> rfl

theorem readComponents_escape (names : List (List Char)) :
    readComponents (names.map escape) = .ok (names.map literally) := by
  induction names with
  | nil => rfl
  | cons name names ih =>
    rw [List.map_cons, readComponents, tokens_escape, ih]
    rfl

/-- Characters other than slashes belong to the first piece. -/
theorem cut_append_of_not_mem {xs : List Char} (h : '/' ∉ xs) {cs name : List Char}
    {names : List (List Char)} (hcut : cut cs = name :: names) :
    cut (xs ++ cs) = (xs ++ name) :: names := by
  induction xs with
  | nil => exact hcut
  | cons x xs ih =>
    have hsep : (x == '/') = false :=
      beq_eq_false_iff_ne.mpr (List.ne_of_not_mem_cons h).symm
    have htail : pieces (· == '/') (xs ++ cs) = (xs ++ name) :: names :=
      ih (List.not_mem_of_not_mem_cons h)
    rw [List.cons_append, cut, pieces, htail]
    simp only [hsep]
    rfl

/-- No slash is put into brackets, and no bracket is a slash. -/
theorem cut_escape (cs : List Char) : cut (escape cs) = (cut cs).map escape := by
  induction cs with
  | nil => rfl
  | cons c cs ih =>
    obtain ⟨name, names, hcut⟩ := List.exists_cons_of_ne_nil (cut_ne_nil cs)
    by_cases hslash : c = '/'
    · have hleft : cut (escape ('/' :: cs)) = cut [] ++ cut (escape cs) :=
        cut_append_slash [] (escape cs)
      have hright : cut ('/' :: cs) = cut [] ++ cut cs := cut_append_slash [] cs
      rw [hslash, hleft, hright, ih, List.map_append]
      rfl
    · have hbrackets : '/' ∉ if isMeta c then ['[', c, ']'] else [c] := by
        split <;> simp [Ne.symm hslash]
      have hsingle : '/' ∉ [c] := by simp [Ne.symm hslash]
      have hright : cut (c :: cs) = (c :: name) :: names := cut_append_of_not_mem hsingle hcut
      rw [hcut, List.map_cons] at ih
      rw [escape_cons, cut_append_of_not_mem hbrackets ih, hright, List.map_cons, escape_cons]

/-- What follows the last slash of the root is read as it is alone. -/
theorem componentTexts_append (root pattern : List Char) :
    componentTexts (escape root ++ '/' :: pattern) =
      (cut root).map escape ++ componentTexts pattern := by
  have hcut : pieces (· == '/') (escape root ++ '/' :: pattern) =
      (cut root).map escape ++ pieces (· == '/') pattern := by
    rw [← cut_escape]
    exact cut_append_slash (escape root) pattern
  have hne := pieces_ne_nil (· == '/') pattern
  rw [componentTexts, componentTexts, hcut, List.getLast?_append_of_ne_nil _ hne]
  by_cases hlast : (pieces (· == '/') pattern).getLast? = some []
  · rw [if_pos hlast, if_pos hlast, List.dropLast_append_of_ne_nil hne]
  · rw [if_neg hlast, if_neg hlast]

theorem readComponents_behind {names pattern : List Char} {components : List Component}
    (h : readComponents (componentTexts (escape names ++ '/' :: pattern)) = .ok components) :
    ∃ cs, readComponents (componentTexts pattern) = .ok cs ∧
      components = (cut names).map literally ++ cs := by
  rw [componentTexts_append, readComponents_append, readComponents_escape] at h
  cases hcs : readComponents (componentTexts pattern) with
  | error e => rw [hcs] at h; cases h
  | ok cs =>
    rw [hcs] at h
    exact ⟨cs, rfl, (Except.ok.inj h).symm⟩

theorem head?_escape_append {cs : List Char} (hcs : cs ≠ []) (ds : List Char) :
    ((escape cs ++ ds).head? == some '/') = (cs.head? == some '/') := by
  obtain ⟨c, cs, rfl⟩ := List.exists_cons_of_ne_nil hcs
  rw [escape_cons, List.append_assoc]
  cases hmeta : isMeta c with
  | false => rfl
  | true =>
    have hc : c ≠ '/' := by rintro rfl; exact absurd hmeta (by decide)
    simp [hc]

theorem read_ok {text rest : List Char} {p : Pattern} (h : Pattern.read text = .ok p)
    (hrest : (if text.head? == some '/' then text.tail else text) = rest) :
    ∃ components, readComponents (componentTexts rest) = .ok components ∧
      p.components = if text.head? == some '/' && rest.isEmpty then [[]] else components := by
  rw [Pattern.read] at h
  simp only [hrest] at h
  cases htokens : tokens text with
  | error e => rw [htokens] at h; cases h
  | ok ts =>
    cases hcomponents : readComponents (componentTexts rest) with
    | error e => rw [htokens, hcomponents] at h; cases h
    | ok components =>
      rw [htokens, hcomponents] at h
      cases h
      exact ⟨components, rfl, rfl⟩

theorem fullPattern_eq (root : Path) (pattern : String) :
    Discovery.fullPattern root pattern = escape root.chars ++ '/' :: pattern.toList := by
  rw [Discovery.fullPattern, List.append_assoc]
  rfl

/-- Behind the slash that it may begin with, a root that has any text is cut into its segments. -/
theorem exists_names_of_root {root : Path} (hroot : root.chars ≠ []) (pattern : List Char) :
    ∃ names, root.segments = cut names ∧
      (if (escape root.chars ++ '/' :: pattern).head? == some '/' then
        (escape root.chars ++ '/' :: pattern).tail
        else escape root.chars ++ '/' :: pattern) = escape names ++ '/' :: pattern := by
  have hhead : ((escape root.chars ++ '/' :: pattern).head? == some '/') = root.isAbsolute :=
    head?_escape_append hroot _
  rw [hhead, segments]
  by_cases habsolute : root.isAbsolute = true
  · obtain ⟨names, hnames⟩ := List.head?_eq_some_iff.mp (eq_of_beq habsolute)
    rw [habsolute, if_pos rfl, if_pos rfl, hnames]
    exact ⟨names, rfl, rfl⟩
  · rw [if_neg habsolute, if_neg habsolute]
    exact ⟨root.chars, rfl, rfl⟩

/-- The components of a full pattern are those for the names of the root, if it has any text, and
behind them those of the pattern. -/
theorem read_fullPattern {root : Path} {pattern : String} {p : Pattern}
    (h : Pattern.read (Discovery.fullPattern root pattern) = .ok p) :
    ∃ names cs, readComponents (componentTexts pattern.toList) = .ok cs ∧
      p.components = names.map literally ++ cs ∧ (root.chars ≠ [] → names = root.segments) := by
  rw [fullPattern_eq] at h
  by_cases hroot : root.chars = []
  · -- Without a root the pattern itself begins with a slash, and so at the root of the tree.
    have hrest : (if (escape root.chars ++ '/' :: pattern.toList).head? == some '/' then
        (escape root.chars ++ '/' :: pattern.toList).tail
        else escape root.chars ++ '/' :: pattern.toList) = pattern.toList := by
      rw [hroot]
      rfl
    obtain ⟨cs, hcs, hp⟩ := read_ok h hrest
    have hhead : ((escape root.chars ++ '/' :: pattern.toList).head? == some '/') = true := by
      rw [hroot]
      rfl
    rw [hhead, Bool.true_and] at hp
    cases hpattern : pattern.toList with
    | nil =>
      rw [hpattern] at hcs hp
      cases hcs
      exact ⟨[[]], [], rfl, hp, fun hne => absurd hroot hne⟩
    | cons c rest =>
      rw [hpattern] at hcs hp
      exact ⟨[], cs, hcs, hp, fun hne => absurd hroot hne⟩
  · obtain ⟨names, hsegments, hrest⟩ := exists_names_of_root hroot pattern.toList
    obtain ⟨components, hread, hp⟩ := read_ok h hrest
    obtain ⟨cs, hcs, hcomponents⟩ := readComponents_behind hread
    have hnonempty : (escape names ++ '/' :: pattern.toList).isEmpty = false := by
      cases escape names <;> rfl
    rw [hnonempty, Bool.and_false, if_neg Bool.false_ne_true, hcomponents, ← hsegments] at hp
    exact ⟨root.segments, cs, hcs, hp, fun _ => rfl⟩

end EngineTrials.Glob
