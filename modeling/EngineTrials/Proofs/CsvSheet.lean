import EngineTrials.Proofs.CsvReading

/-!
# What a sheet says

Dates and numbers are written as they are. Their digits, signs, points and exponents are plain
characters, so this is no exception to how fields are written, and a sheet is read as its header and
its samples. How the samples were divided among the calls that appended them leaves no trace.
-/
namespace EngineTrials.Csv
open Text

theorem isPlain_append {cs more : List Char} : IsPlain (cs ++ more) ↔ IsPlain cs ∧ IsPlain more :=
  List.forall_mem_append

theorem isPlain_cons {c : Char} {cs : List Char} :
    IsPlain (c :: cs) ↔ isSpecial c = false ∧ IsPlain cs :=
  List.forall_mem_cons

theorem IsPlain.of_subset {cs more : List Char} (h : IsPlain more) (hsub : cs ⊆ more) :
    IsPlain cs :=
  fun c hc => h c (hsub hc)

theorem isPlain_zeros (n : Nat) : IsPlain (List.replicate n '0') := by
  intro c hc
  obtain rfl := List.eq_of_mem_replicate hc
  rfl

theorem isPlain_numeral (n : Nat) : IsPlain (numeral 10 n) := by
  intro c hc
  have hdigit : c.isDigit = true := Nat.isDigit_of_mem_toDigits (by decide) (by decide) hc
  rw [isSpecial_eq_false_iff]
  refine ⟨?_, ?_, ?_, ?_⟩
  all_goals
    rintro rfl
    exact absurd hdigit (by decide)

theorem isPlain_padded (width n : Nat) : IsPlain (padded 10 width n) :=
  isPlain_append.mpr ⟨isPlain_zeros _, isPlain_numeral n⟩

theorem isPlain_yearText (y : Int) : IsPlain (Date.yearText y) := by
  cases y with
  | ofNat n =>
    by_cases h : n ≤ 9999
    · rw [Date.yearText, if_pos h]
      exact isPlain_padded 4 n
    · rw [Date.yearText, if_neg h]
      exact isPlain_cons.mpr ⟨rfl, isPlain_padded 4 n⟩
  | negSucc n => exact isPlain_cons.mpr ⟨rfl, isPlain_padded 4 (n + 1)⟩

theorem isPlain_date (d : Date) : IsPlain d.text.toList := by
  have hdash : IsPlain ['-'] := by decide
  simp only [Date.text, String.toList_ofList, isPlain_append]
  exact ⟨⟨⟨⟨isPlain_yearText d.year, hdash⟩, isPlain_padded 2 d.month⟩, hdash⟩,
    isPlain_padded 2 d.day⟩

theorem isPlain_decimal (i : Int) : IsPlain (decimal i).toList := by
  cases i with
  | ofNat n =>
    rw [decimal, String.toList_ofList]
    exact isPlain_numeral n
  | negSucc n =>
    rw [decimal, String.toList_ofList]
    exact isPlain_cons.mpr ⟨rfl, isPlain_numeral (n + 1)⟩

theorem isPlain_significant (d : Binary64.Decimal) : IsPlain (Binary64.significant d).1 := by
  have hsub : (Binary64.significant d).1 ⊆ numeral 10 d.digits := by
    intro c hc
    rw [Binary64.significant, List.mem_reverse] at hc
    exact List.mem_reverse.mp ((List.dropWhile_sublist _).subset hc)
  exact (isPlain_numeral d.digits).of_subset hsub

theorem isPlain_positional {ds : List Char} (h : IsPlain ds) (places : Nat) (top : Int) :
    IsPlain (Binary64.positional places ds top) := by
  have hwhole : IsPlain (if top ≤ 0 then ['0'] else
      ds.take top.toNat ++ List.replicate (top.toNat - ds.length) '0') := by
    split
    · decide
    · exact isPlain_append.mpr ⟨h.of_subset (List.take_subset _ _), isPlain_zeros _⟩
  have hfraction : IsPlain (List.replicate (-top).toNat '0' ++ ds.drop top.toNat) :=
    isPlain_append.mpr ⟨isPlain_zeros _, h.of_subset (List.drop_subset _ _)⟩
  simp only [Binary64.positional]
  split
  · exact hwhole
  · exact isPlain_append.mpr ⟨isPlain_append.mpr ⟨hwhole, by decide⟩,
      isPlain_append.mpr ⟨hfraction, isPlain_zeros _⟩⟩

theorem isPlain_scientific {ds : List Char} (h : IsPlain ds) (top : Int) :
    IsPlain (Binary64.scientific ds top) := by
  have hfraction : IsPlain (if (ds.drop 1).isEmpty then [] else '.' :: ds.drop 1) := by
    split
    · decide
    · exact isPlain_cons.mpr ⟨rfl, h.of_subset (List.drop_subset _ _)⟩
  have hmark : IsPlain ['e'] := by decide
  simp only [Binary64.scientific, isPlain_append]
  exact ⟨⟨⟨h.of_subset (List.take_subset _ _), hfraction⟩, hmark⟩, isPlain_decimal (top - 1)⟩

theorem isPlain_sign (negative : Bool) : IsPlain (Binary64.sign negative) := by
  cases negative with
  | false => decide
  | true => decide

theorem isPlain_time (t : Binary64) : IsPlain t.text.toList := by
  cases t with
  | nan => decide
  | infinite negative =>
    rw [Binary64.text, String.toList_ofList]
    exact isPlain_append.mpr ⟨isPlain_sign negative, by decide⟩
  | finite negative m e =>
    rw [Binary64.text]
    split
    · rw [String.toList_ofList]
      exact isPlain_append.mpr ⟨isPlain_sign negative, by decide⟩
    · have hdigits := isPlain_significant (Binary64.shortest m e)
      rw [String.toList_ofList]
      refine isPlain_append.mpr ⟨isPlain_sign negative, ?_⟩
      split
      · exact isPlain_positional hdigits 1 _
      · exact isPlain_scientific hdigits _

theorem row_header : row header = row (header.map field) := by decide

theorem recordRow_eq (r : BenchmarkRecord) : recordRow r = row ((values r).map field) := by
  simp only [values, List.map_cons, List.map_nil, field_of_isPlain (isPlain_date r.date),
    field_of_isPlain (isPlain_time r.time)]
  rfl

/-- A call that adds to a sheet, with one sample or with several at once. -/
inductive Addition
  | one (record : BenchmarkRecord)
  | several (records : List BenchmarkRecord)

namespace Addition

def records : Addition → List BenchmarkRecord
  | one record => [record]
  | several records => records

end Addition

namespace Sheet

def add (s : Sheet) : Addition → Sheet
  | .one record => s.append record
  | .several records => s.appendAll records

theorem appendAll_eq (s : Sheet) (records : List BenchmarkRecord) :
    s.appendAll records = ⟨s.text ++ records.flatMap recordRow, s.rows + records.length⟩ := by
  induction records generalizing s with
  | nil => simp [appendAll]
  | cons r records ih =>
    have hstep : s.appendAll (r :: records) = (s.append r).appendAll records := rfl
    rw [hstep, ih, append, List.flatMap_cons, List.append_assoc, List.length_cons, Nat.add_assoc,
      Nat.add_comm 1]

theorem add_eq_appendAll (s : Sheet) (a : Addition) : s.add a = s.appendAll a.records := by
  cases a <;> rfl

/-- Whatever the calls, only the samples one behind the other count. -/
theorem foldl_add (s : Sheet) (additions : List Addition) :
    additions.foldl add s = s.appendAll (additions.flatMap Addition.records) := by
  induction additions generalizing s with
  | nil => rfl
  | cons a additions ih =>
    rw [List.foldl_cons, ih, add_eq_appendAll, List.flatMap_cons, appendAll, appendAll, appendAll,
      List.foldl_append]

/-- The text of a sheet and the number of its rows depend on the samples alone, not on how they were
divided among calls: a header, then a row for each sample. A reader finds in it the names of the
columns and, in their order, all samples with the fields that they have. -/
theorem read_additions (additions : List Addition) :
    let sheet := additions.foldl add create
    let records := additions.flatMap Addition.records
    sheet.text = "date,suite,benchmark,name,case,time\n".toList ++ records.flatMap recordRow ∧
    sheet.rows = records.length ∧
    read? sheet.text = some (["date", "suite", "benchmark", "name", "case", "time"].map
      String.toList :: records.map fun r =>
        [r.date.text, r.suite, r.benchmark, r.name, r.case, r.time.text].map String.toList) := by
  intro sheet records
  have hsheet : sheet = ⟨row header ++ records.flatMap recordRow, records.length⟩ := by
    have hall : sheet = create.appendAll records := foldl_add create additions
    rw [hall, appendAll_eq, create, Nat.zero_add]
  have hrows : row header ++ records.flatMap recordRow =
      (header :: records.map values).flatMap fun fields => row (fields.map field) := by
    rw [List.flatMap_cons, List.flatMap_map, row_header]
    exact congrArg _ (congrArg (List.flatMap · records) (funext recordRow_eq))
  have hfields : ∀ fields ∈ header :: records.map values, fields ≠ [] := by
    intro fields hmem
    rcases List.mem_cons.mp hmem with rfl | hmem
    · decide
    · obtain ⟨r, -, rfl⟩ := List.mem_map.mp hmem
      exact List.cons_ne_nil _ _
  refine ⟨?_, ?_, ?_⟩
  · rw [hsheet]
    rfl
  · rw [hsheet]
  · rw [hsheet, hrows, read?_rows hfields]
    rfl

end Sheet

end EngineTrials.Csv
