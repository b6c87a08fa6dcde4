import EngineTrials.Report.Csv

/-!
# Reading a sheet back

Behind every field that was written, the reader stands where a field may end and holds the field as
it was before quoting. For a field in quotes that is an invariant of the characters within; a field
without quotes has none of the characters that mean something to the reader. Dates and numbers are
written without quotes because they are such fields. So rows are read one by one, and it does not
matter in which portions they were appended.
-/
namespace EngineTrials.Csv
open Text

theorem readRows?_comma {p : Position} (hp : p ≠ .quoted) (cell : List Char)
    (fields : List (List Char)) (rest : List Char) :
    readRows? p cell fields (',' :: rest) =
      readRows? .fieldStart [] (cell.reverse :: fields) rest := by
  rw [readRows?, if_pos ⟨hp, rfl⟩]

theorem readRows?_newline {p : Position} (hp : p ≠ .quoted) (cell : List Char)
    (fields : List (List Char)) (rest : List Char) :
    readRows? p cell fields ('\n' :: rest) =
      (readRows? .fieldStart [] [] rest).map ((cell.reverse :: fields).reverse :: ·) := by
  have hcomma : ¬ (p ≠ .quoted ∧ '\n' = ',') := fun h => absurd h.2 (by decide)
  rw [readRows?, if_neg hcomma, if_pos ⟨hp, rfl⟩]

/-- Any other character is taken into the field, or opens or closes quotes. -/
theorem readRows?_next {p next : Position} {cell cell' : List Char} {c : Char}
    (hends : p ≠ .quoted → c ≠ ',' ∧ c ≠ '\n') (h : p.next? cell c = some (next, cell'))
    (fields : List (List Char)) (rest : List Char) :
    readRows? p cell fields (c :: rest) = readRows? next cell' fields rest := by
  have hcomma : ¬ (p ≠ .quoted ∧ c = ',') := fun h => (hends h.1).1 h.2
  have hfeed : ¬ (p ≠ .quoted ∧ c = '\n') := fun h => (hends h.1).2 h.2
  rw [readRows?, if_neg hcomma, if_neg hfeed, h]

/-- A text that can be written without quotes. -/
def IsPlain (cs : List Char) : Prop := ∀ c ∈ cs, isSpecial c = false

theorem isPlain_iff {cs : List Char} : IsPlain cs ↔ ¬ cs.any isSpecial = true := by
  rw [Bool.not_eq_true, List.any_eq_false]
  simp only [IsPlain, Bool.not_eq_true]

instance (cs : List Char) : Decidable (IsPlain cs) := decidable_of_iff _ isPlain_iff.symm

theorem field_of_isPlain {cs : List Char} (h : IsPlain cs) : field cs = cs := by
  rw [field, if_neg (isPlain_iff.mp h)]

theorem isSpecial_eq_false_iff {c : Char} :
    isSpecial c = false ↔ c ≠ ',' ∧ c ≠ '"' ∧ c ≠ '\n' ∧ c ≠ '\r' := by
  simp only [isSpecial, Bool.or_eq_false_iff, beq_eq_false_iff_ne, and_assoc]

/-- A field without quotes is taken as it stands. -/
theorem readRows?_plain {cs : List Char} (h : IsPlain cs) {p : Position} (hp : p ≠ .quoted)
    (hp' : p ≠ .afterQuote) (cell : List Char) (fields : List (List Char)) (rest : List Char) :
    ∃ next, next ≠ .quoted ∧
      readRows? p cell fields (cs ++ rest) = readRows? next (cs.reverse ++ cell) fields rest := by
  induction cs generalizing p cell with
  | nil => exact ⟨p, hp, rfl⟩
  | cons c cs ih =>
    obtain ⟨hcomma, hquote, hfeed, hreturn⟩ :=
      isSpecial_eq_false_iff.mp (h c List.mem_cons_self)
    have hnext : p.next? cell c = some (.unquoted, c :: cell) := by
      cases p with
      | fieldStart => rw [Position.next?, if_neg hquote, if_neg hreturn]
      | unquoted => rw [Position.next?, if_neg (not_or.mpr ⟨hquote, hreturn⟩)]
      | quoted => exact absurd rfl hp
      | afterQuote => exact absurd rfl hp'
    obtain ⟨next, hends, hrest⟩ := ih (fun d hd => h d (List.mem_cons_of_mem c hd))
      (p := .unquoted) (by decide) (by decide) (c :: cell)
    refine ⟨next, hends, ?_⟩
    rw [List.cons_append, readRows?_next (fun _ => ⟨hcomma, hfeed⟩) hnext, hrest,
      List.reverse_cons, List.append_assoc]
    rfl

/-- Within quotes every character belongs to the field, and a quote that is doubled is one. -/
theorem readRows?_doubleQuotes (cs cell : List Char) (fields : List (List Char))
    (rest : List Char) :
    readRows? .quoted cell fields (doubleQuotes cs ++ rest) =
      readRows? .quoted (cs.reverse ++ cell) fields rest := by
  have hin : Position.quoted ≠ .quoted → ∀ c : Char, c ≠ ',' ∧ c ≠ '\n' :=
    fun h => absurd rfl h
  induction cs generalizing cell with
  | nil => rfl
  | cons c cs ih =>
    have hread : readRows? .quoted cell fields (doubleQuotes (c :: cs) ++ rest) =
        readRows? .quoted (c :: cell) fields (doubleQuotes cs ++ rest) := by
      rw [doubleQuotes, List.flatMap_cons, List.append_assoc]
      by_cases hc : c = '"'
      · subst hc
        have hfirst : Position.quoted.next? cell '"' = some (.afterQuote, cell) := rfl
        have hsecond : Position.afterQuote.next? cell '"' = some (.quoted, '"' :: cell) := rfl
        rw [if_pos rfl, List.cons_append, List.singleton_append, readRows?_next (hin · _) hfirst,
          readRows?_next (fun _ => ⟨by decide, by decide⟩) hsecond]
        rfl
      · have hnext : Position.quoted.next? cell c = some (.quoted, c :: cell) := by
          rw [Position.next?, if_neg hc]
        rw [if_neg hc, List.singleton_append, readRows?_next (hin · c) hnext]
        rfl
    rw [hread, ih, List.reverse_cons, List.append_assoc]
    rfl

/-- Whatever a field holds, it is what the reader holds behind it. -/
theorem readRows?_field (value : List Char) (fields : List (List Char)) (rest : List Char) :
    ∃ p, p ≠ .quoted ∧
      readRows? .fieldStart [] fields (field value ++ rest) =
        readRows? p value.reverse fields rest := by
  by_cases h : value.any isSpecial
  · refine ⟨.afterQuote, by decide, ?_⟩
    have hopen : Position.fieldStart.next? [] '"' = some (.quoted, []) := rfl
    have hclose : Position.quoted.next? value.reverse '"' = some (.afterQuote, value.reverse) := rfl
    rw [field, if_pos h, List.cons_append, List.append_assoc,
      readRows?_next (fun _ => ⟨by decide, by decide⟩) hopen, readRows?_doubleQuotes,
      List.append_nil, List.singleton_append,
      readRows?_next (fun hin => absurd rfl hin) hclose]
  · have hplain : IsPlain value := isPlain_iff.mpr h
    obtain ⟨p, hp, hread⟩ :=
      readRows?_plain hplain (p := .fieldStart) (by decide) (by decide) [] fields rest
    refine ⟨p, hp, ?_⟩
    rw [field_of_isPlain hplain, hread, List.append_nil]

/-- The fields of a row are added to those that were read before. -/
theorem readRows?_row (value : List Char) (values : List (List Char)) (fields : List (List Char))
    (rest : List Char) :
    readRows? .fieldStart [] fields (row ((value :: values).map field) ++ rest) =
      (readRows? .fieldStart [] [] rest).map ((fields.reverse ++ value :: values) :: ·) := by
  induction values generalizing value fields with
  | nil =>
    obtain ⟨p, hp, hread⟩ := readRows?_field value fields ('\n' :: rest)
    rw [row, List.map_cons, List.map_nil, glue, List.append_assoc, List.singleton_append, hread,
      readRows?_newline hp, List.reverse_reverse, List.reverse_cons]
  | cons next values ih =>
    have hsplit : row ((value :: next :: values).map field) ++ rest =
        field value ++ ',' :: (row ((next :: values).map field) ++ rest) := by
      simp only [row, List.map_cons, glue, List.append_assoc, List.cons_append, List.nil_append]
    obtain ⟨p, hp, hread⟩ :=
      readRows?_field value fields (',' :: (row ((next :: values).map field) ++ rest))
    rw [hsplit, hread, readRows?_comma hp, List.reverse_reverse, ih, List.reverse_cons,
      List.append_assoc]
    rfl

/-- Rows of any fields are read back, provided that each row has a field. -/
theorem read?_rows {rows : List (List (List Char))} (h : ∀ values ∈ rows, values ≠ []) :
    read? (rows.flatMap fun values => row (values.map field)) = some rows := by
  induction rows with
  | nil => rfl
  | cons values rows ih =>
    have hrest := ih fun more hmore => h more (List.mem_cons_of_mem values hmore)
    obtain ⟨first, others, rfl⟩ := List.exists_cons_of_ne_nil (h values List.mem_cons_self)
    rw [read?] at hrest ⊢
    rw [List.flatMap_cons, readRows?_row, hrest]
    rfl

end EngineTrials.Csv
