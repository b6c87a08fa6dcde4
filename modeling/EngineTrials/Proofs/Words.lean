import EngineTrials.Proofs.Lines

/-!
# Blanks and words

A blank belongs to no word: the words of a text are those in front of a blank and then those behind
it. So a text keeps its words when blanks are cut off its ends, and also when one blank takes the
place of another.
-/
namespace EngineTrials.Text

/-- A text that neither begins nor ends with a blank. -/
structure IsTrimmed (cs : List Char) : Prop where
  first : ∀ c ∈ cs.head?, isBlank c = false
  last : ∀ c ∈ cs.getLast?, isBlank c = false

theorem dropWhile_of_head? {p : Char → Bool} {cs : List Char} (h : ∀ c ∈ cs.head?, p c = false) :
    cs.dropWhile p = cs := by
  cases cs with
  | nil => rfl
  | cons c rest => exact List.dropWhile_cons_of_neg (ne_true_of_eq_false (h c rfl))

theorem head?_dropWhile {p : Char → Bool} {cs : List Char} :
    ∀ c ∈ (cs.dropWhile p).head?, p c = false := by
  intro c hc
  have hfirst := List.head?_dropWhile_not p cs
  rw [Option.mem_def.mp hc] at hfirst
  exact hfirst

theorem dropTrailing_of_getLast? {p : Char → Bool} {cs : List Char}
    (h : ∀ c ∈ cs.getLast?, p c = false) : dropTrailing p cs = cs := by
  rw [← List.head?_reverse] at h
  rw [dropTrailing, dropWhile_of_head? h, List.reverse_reverse]

theorem trimBlank_of_isTrimmed {cs : List Char} (h : IsTrimmed cs) : trimBlank cs = cs := by
  rw [trimBlank, dropWhile_of_head? h.first, dropTrailing_of_getLast? h.last]

theorem trimBlank_of_blank {cs : List Char} (h : ∀ c ∈ cs, isBlank c = true) :
    trimBlank cs = [] := by
  have hnone : cs.dropWhile isBlank = [] := by
    rw [← List.append_nil cs, List.dropWhile_append_of_pos h, List.dropWhile_nil]
  rw [trimBlank, hnone]
  rfl

/-- What lies between blanks is left when they are cut off. -/
theorem trimBlank_between {front cs back : List Char} (hfront : ∀ c ∈ front, isBlank c = true)
    (hback : ∀ c ∈ back, isBlank c = true) (h : IsTrimmed cs) :
    trimBlank (front ++ (cs ++ back)) = cs := by
  rw [trimBlank, List.dropWhile_append_of_pos hfront]
  cases cs with
  | nil => exact trimBlank_of_blank hback
  | cons c rest =>
    have hkept : (c :: rest ++ back).dropWhile isBlank = c :: rest ++ back :=
      dropWhile_of_head? h.first
    rw [hkept, dropTrailing, List.reverse_append,
      List.dropWhile_append_of_pos fun d hd => hback d (List.mem_reverse.mp hd)]
    exact dropTrailing_of_getLast? h.last

/-- Dropping blanks at the end drops nothing else. -/
theorem exists_trailing (cs : List Char) :
    ∃ back, cs = dropTrailing isBlank cs ++ back ∧ ∀ c ∈ back, isBlank c = true := by
  refine ⟨(cs.reverse.takeWhile isBlank).reverse, ?_, fun c hc => ?_⟩
  · rw [dropTrailing, ← List.reverse_append, List.takeWhile_append_dropWhile, List.reverse_reverse]
  · exact List.all_eq_true.mp List.all_takeWhile c (List.mem_reverse.mp hc)

/-- A text is what is left of it, between blanks. -/
theorem exists_ends (cs : List Char) :
    ∃ front back, cs = front ++ (trimBlank cs ++ back) ∧ (∀ c ∈ front, isBlank c = true) ∧
      ∀ c ∈ back, isBlank c = true := by
  obtain ⟨back, hback, hblank⟩ := exists_trailing (cs.dropWhile isBlank)
  refine ⟨cs.takeWhile isBlank, back, ?_, List.all_eq_true.mp List.all_takeWhile, hblank⟩
  rw [trimBlank, ← hback, List.takeWhile_append_dropWhile]

theorem isTrimmed_trimBlank (cs : List Char) : IsTrimmed (trimBlank cs) where
  first c hc := by
    -- the blanks dropped at the end leave the first character where it is
    obtain ⟨back, hback, -⟩ := exists_trailing (cs.dropWhile isBlank)
    have hfirst : c ∈ (cs.dropWhile isBlank).head? := by
      rw [hback, List.head?_append, ← trimBlank, Option.mem_def.mp hc]
      rfl
    exact head?_dropWhile c hfirst
  last c hc := by
    rw [trimBlank, dropTrailing, List.getLast?_reverse] at hc
    exact head?_dropWhile c hc

/-- Blanks may be exchanged for others, here and among words. -/
theorem IsTrimmed.map {f : Char → Char} (hblank : ∀ c, isBlank (f c) = isBlank c)
    {cs : List Char} (h : IsTrimmed cs) : IsTrimmed (cs.map f) where
  first c hc := by
    rw [List.head?_map] at hc
    obtain ⟨d, hd, rfl⟩ := Option.map_eq_some_iff.mp hc
    rw [hblank]
    exact h.first d hd
  last c hc := by
    rw [List.getLast?_map] at hc
    obtain ⟨d, hd, rfl⟩ := Option.map_eq_some_iff.mp hc
    rw [hblank]
    exact h.last d hd

theorem words_eq (cs : List Char) : words cs = (cs.splitOnP isBlank).filter fun w => !w.isEmpty := by
  rw [words, pieces_eq_splitOnP]

theorem words_append_blank {c : Char} (hc : isBlank c = true) (a b : List Char) :
    words (a ++ c :: b) = words a ++ words b := by
  rw [words_eq, List.splitOnP_append_cons a b hc, List.filter_append, ← words_eq, ← words_eq]

theorem words_front {front : List Char} (h : ∀ c ∈ front, isBlank c = true) (cs : List Char) :
    words (front ++ cs) = words cs := by
  induction front with
  | nil => rfl
  | cons c rest ih =>
    obtain ⟨hc, hrest⟩ := List.forall_mem_cons.mp h
    calc
      words (c :: rest ++ cs) = words [] ++ words (rest ++ cs) := words_append_blank hc [] _
      _ = words cs := ih hrest

theorem words_back {back : List Char} (h : ∀ c ∈ back, isBlank c = true) (cs : List Char) :
    words (cs ++ back) = words cs := by
  cases back with
  | nil => rw [List.append_nil]
  | cons c rest =>
    obtain ⟨hc, hrest⟩ := List.forall_mem_cons.mp h
    have hnone : words rest = [] := by
      rw [← List.append_nil rest, words_front hrest]
      rfl
    rw [words_append_blank hc, hnone, List.append_nil]

theorem words_trimBlank (cs : List Char) : words (trimBlank cs) = words cs := by
  obtain ⟨front, back, hcs, hfront, hback⟩ := exists_ends cs
  calc
    words (trimBlank cs) = words (front ++ (trimBlank cs ++ back)) := by
      rw [words_front hfront, words_back hback]
    _ = words cs := by rw [← hcs]

theorem words_map {f : Char → Char} (hblank : ∀ c, isBlank (f c) = isBlank c)
    (hkept : ∀ c, isBlank c = false → f c = c) (cs : List Char) : words (cs.map f) = words cs := by
  have hsplit : (cs.map f).splitOnP isBlank = cs.splitOnP isBlank := by
    induction cs with
    | nil => rfl
    | cons c rest ih =>
      rw [List.map_cons, List.splitOnP_cons_eq_if_modifyHead, List.splitOnP_cons_eq_if_modifyHead,
        ih, hblank]
      cases hc : isBlank c with
      | true => rfl
      | false => rw [hkept c hc]
  rw [words_eq, hsplit, ← words_eq]

end EngineTrials.Text
