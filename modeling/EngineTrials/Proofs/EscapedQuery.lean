import EngineTrials.Benchmark.Failure
import EngineTrials.Proofs.Numerals

/-!
# Escapes undone

An escape is a backslash, a letter and a fixed number of hexadecimal digits, or a backslash and one
more character; so wherever it stands, what follows does not matter to it. Read back from left to
right, an escaped text is what it was. All of it is printable ASCII, so that a recipe can be copied
from a terminal, and recipes for one command tell queries apart.
-/
namespace EngineTrials.Text

/-- A character of ASCII that is no control character. -/
def IsPrintable (c : Char) : Prop := 0x20 ≤ c.toNat ∧ c.toNat ≤ 0x7E

instance (c : Char) : Decidable (IsPrintable c) :=
  inferInstanceAs (Decidable (0x20 ≤ c.toNat ∧ c.toNat ≤ 0x7E))

theorem isPrintable_digitChar {n : Nat} (h : n < 16) : IsPrintable n.digitChar := by
  have hall : ∀ i : Fin 16, IsPrintable i.val.digitChar := by decide
  exact hall ⟨n, h⟩

theorem isPrintable_of_mem_numeral {n : Nat} {c : Char} (h : c ∈ numeral 16 n) :
    IsPrintable c := by
  induction n using Nat.strongRecOn with
  | ind n ih =>
    rw [numeral] at h
    by_cases hn : n < 16
    · rw [Nat.toDigits_of_lt_base hn, List.mem_singleton] at h
      exact h ▸ isPrintable_digitChar hn
    · rw [Nat.toDigits_of_base_le (by decide) (Nat.not_lt.mp hn), List.mem_append,
        List.mem_singleton] at h
      rcases h with hfront | hlast
      · exact ih (n / 16) (by omega) hfront
      · exact hlast ▸ isPrintable_digitChar (Nat.mod_lt n (by decide))

theorem isPrintable_of_mem_padded {width n : Nat} {c : Char} (h : c ∈ padded 16 width n) :
    IsPrintable c := by
  rcases List.mem_append.mp h with hzero | hdigit
  · exact List.eq_of_mem_replicate hzero ▸ (by decide : IsPrintable '0')
  · exact isPrintable_of_mem_numeral hdigit

theorem length_padded {width n : Nat} (hwidth : 0 < width) (h : n < 16 ^ width) :
    (padded 16 width n).length = width := by
  have hlength : (numeral 16 n).length ≤ width :=
    (Nat.length_toDigits_le_iff (by decide) hwidth).mpr h
  rw [padded, List.length_append, List.length_replicate]
  omega

end EngineTrials.Text

namespace EngineTrials.Query
open Text

theorem scalar?_padded (width : Nat) (c : Char) : scalar? (padded 16 width c.toNat) = some c := by
  have hvalid : c.toNat.isValidChar := c.valid
  have hsame : Char.ofNatAux c.toNat hvalid = c := rfl
  rw [scalar?, foldDigits?_padded, Option.bind_eq_bind, Option.bind_some, dif_pos hvalid, hsame]

/-- A letter says how many digits follow it. -/
theorem unescape?_digits {letter : Char} {width : Nat} {digits : List Char} {c : Char}
    (hletter : (letter, width) ∈ [('x', 2), ('u', 4), ('U', 8)]) (hwidth : digits.length = width)
    (hc : scalar? digits = some c) (rest : List Char) :
    unescape? ('\\' :: letter :: digits ++ rest) = (unescape? rest).map (c :: ·) := by
  simp only [List.mem_cons, Prod.mk.injEq, List.not_mem_nil, or_false] at hletter
  rcases hletter with ⟨rfl, rfl⟩ | ⟨rfl, rfl⟩ | ⟨rfl, rfl⟩
  · match digits, hwidth, hc with
    | [a, b], _, hc =>
      simp only [List.cons_append, List.nil_append, unescape?, hc]
      cases unescape? rest <;> rfl
  · match digits, hwidth, hc with
    | [a, b, d, e], _, hc =>
      simp only [List.cons_append, List.nil_append, unescape?, hc]
      cases unescape? rest <;> rfl
  · match digits, hwidth, hc with
    | [a, b, d, e, f, g, i, j], _, hc =>
      simp only [List.cons_append, List.nil_append, unescape?, hc]
      cases unescape? rest <;> rfl

theorem unescape?_codePoint {letter : Char} {width : Nat}
    (hletter : (letter, width) ∈ [('x', 2), ('u', 4), ('U', 8)]) {c : Char}
    (hc : c.toNat < 16 ^ width) (rest : List Char) :
    unescape? (['\\', letter] ++ padded 16 width c.toNat ++ rest) =
      (unescape? rest).map (c :: ·) := by
  have hwidth : 0 < width := by
    rcases Nat.eq_zero_or_pos width with rfl | hpos
    · simp at hletter
    · exact hpos
  exact unescape?_digits hletter (length_padded hwidth hc) (scalar?_padded width c) rest

theorem unescape?_of_ne {c : Char} (h : c ≠ '\\') (rest : List Char) :
    unescape? (c :: rest) = (unescape? rest).map (c :: ·) := by
  rw [unescape?, if_neg h]
  all_goals
    intros
    exact absurd ‹c = '\\'› h

theorem toNat_lt_of_width_eight (c : Char) : c.toNat < 16 ^ 8 := by
  have hvalid := c.valid
  have htoNat : c.toNat = c.val.toNat := rfl
  rcases hvalid with h | ⟨-, h⟩ <;> omega

/-- Each of the eight ways to escape a character has a way back, and none of them is mistaken for
another: only the characters that stand for themselves do not begin with a backslash. -/
theorem unescape?_escapeChar_append (c : Char) (rest : List Char) :
    unescape? (escapeChar c ++ rest) = (unescape? rest).map (c :: ·) := by
  rw [escapeChar]
  split
  case isTrue hslash => rw [hslash]; rfl
  split
  case isTrue htab => rw [htab]; rfl
  split
  case isTrue hfeed => rw [hfeed]; rfl
  split
  case isTrue hreturn => rw [hreturn]; rfl
  split
  case isTrue hplain => exact unescape?_of_ne ‹_› rest
  split
  case isTrue hbyte => exact unescape?_codePoint (by decide) (by omega) rest
  split
  case isTrue hbasic => exact unescape?_codePoint (by decide) (by omega) rest
  exact unescape?_codePoint (by decide) (toNat_lt_of_width_eight c) rest

/-- An escaped text is undone to what it was. -/
theorem unescape?_escapeChars (q : List Char) : unescape? (escapeChars q) = some q := by
  induction q with
  | nil => rfl
  | cons c q ih =>
    rw [escapeChars, List.flatMap_cons, unescape?_escapeChar_append]
    exact congrArg (Option.map (c :: ·)) ih

theorem isPrintable_of_mem_short {letter c : Char} (hletter : IsPrintable letter)
    (h : c ∈ ['\\', letter]) : IsPrintable c := by
  have hcases : c = '\\' ∨ c = letter := by simpa using h
  rcases hcases with rfl | rfl
  · decide
  · exact hletter

theorem isPrintable_of_mem_codePoint {letter c : Char} {width n : Nat} (hletter : IsPrintable letter)
    (h : c ∈ ['\\', letter] ++ padded 16 width n) : IsPrintable c := by
  rcases List.mem_append.mp h with hmark | hdigit
  · exact isPrintable_of_mem_short hletter hmark
  · exact isPrintable_of_mem_padded hdigit

theorem isPrintable_of_mem_escapeChar {c d : Char} (h : d ∈ escapeChar c) : IsPrintable d := by
  rw [escapeChar] at h
  split at h
  case isTrue => exact isPrintable_of_mem_short (by decide) h
  split at h
  case isTrue => exact isPrintable_of_mem_short (by decide) h
  split at h
  case isTrue => exact isPrintable_of_mem_short (by decide) h
  split at h
  case isTrue => exact isPrintable_of_mem_short (by decide) h
  split at h
  case isTrue hplain => exact List.mem_singleton.mp h ▸ hplain
  split at h
  case isTrue => exact isPrintable_of_mem_codePoint (by decide) h
  split at h
  case isTrue => exact isPrintable_of_mem_codePoint (by decide) h
  exact isPrintable_of_mem_codePoint (by decide) h

theorem escapeChar_of_isPrintable {c : Char} (h : IsPrintable c) (hslash : c ≠ '\\') :
    escapeChar c = [c] := by
  have hcontrol : ∀ d, ¬ IsPrintable d → c ≠ d := fun d hd hc => hd (hc ▸ h)
  have hplain : 0x20 ≤ c.toNat ∧ c.toNat ≤ 0x7E := h
  rw [escapeChar, if_neg hslash, if_neg (hcontrol '\t' (by decide)),
    if_neg (hcontrol '\n' (by decide)), if_neg (hcontrol '\r' (by decide)), if_pos hplain]

theorem escapeChar_eq_singleton_iff {c : Char} :
    escapeChar c = [c] ↔ IsPrintable c ∧ c ≠ '\\' := by
  constructor
  · intro h
    refine ⟨isPrintable_of_mem_escapeChar (h ▸ List.mem_singleton_self c), ?_⟩
    rintro rfl
    exact absurd h (by decide)
  · exact fun h => escapeChar_of_isPrintable h.1 h.2

theorem escape_singleton_eq_iff {c : Char} :
    escape (String.singleton c) = String.singleton c ↔ IsPrintable c ∧ c ≠ '\\' := by
  rw [← escapeChar_eq_singleton_iff, escape, escapeChars, String.toList_singleton,
    List.flatMap_singleton, ← String.toList_inj, String.toList_ofList, String.toList_singleton]

theorem escape_append (q more : String) : escape (q ++ more) = escape q ++ escape more := by
  simp only [escape, escapeChars, String.toList_append, List.flatMap_append, String.ofList_append]

theorem unescape?_escape (q : String) : unescape? (escape q).toList = some q.toList := by
  rw [escape, String.toList_ofList]
  exact unescape?_escapeChars q.toList

theorem escape_inj {q other : String} : escape q = escape other ↔ q = other := by
  constructor
  · intro h
    have hback := unescape?_escape q
    rw [h, unescape?_escape other, Option.some_inj] at hback
    exact (String.toList_inj.mp hback).symm
  · exact congrArg escape

/-- Nothing around a query depends on it, so a recipe differs where its query does. -/
theorem recipe_inj {q other : String} {command : Command} :
    BenchmarkFailure.recipe q command = BenchmarkFailure.recipe other command ↔ q = other := by
  constructor
  · intro h
    simp only [BenchmarkFailure.recipe, String.append_assoc] at h
    rw [String.append_right_inj, ← String.append_assoc, ← String.append_assoc,
      String.append_left_inj, String.append_left_inj] at h
    exact escape_inj.mp h
  · exact fun h => h ▸ rfl

/-- An escaped text is printable throughout, and of the characters of a text it leaves just those
alone that are printable and no backslash. Whatever stands next to an escape, a reader who goes from
left to right undoes it, so escaped texts and the recipes made of them differ if the texts do. Texts
one behind the other are escaped one behind the other. -/
theorem escape_printable_and_undone (q : String) :
    (∀ c ∈ (escape q).toList, IsPrintable c) ∧
    (∀ c, escape (String.singleton c) = String.singleton c ↔ IsPrintable c ∧ c ≠ '\\') ∧
    unescape? (escape q).toList = some q.toList ∧
    (∀ other, escape q = escape other ↔ q = other) ∧
    (∀ other command,
      BenchmarkFailure.recipe q command = BenchmarkFailure.recipe other command ↔ q = other) ∧
    ∀ more, escape (q ++ more) = escape q ++ escape more := by
  refine ⟨?_, fun c => escape_singleton_eq_iff, unescape?_escape q, fun other => escape_inj,
    fun other command => recipe_inj, escape_append q⟩
  intro c hc
  rw [escape, String.toList_ofList, escapeChars, List.mem_flatMap] at hc
  obtain ⟨origin, -, hc⟩ := hc
  exact isPrintable_of_mem_escapeChar hc

/-- A letter with an accent before a hexadecimal digit, and a backslash before a letter that would
name an escape. -/
theorem escape_printable_and_undone_lookalikes :
    '9' ∈ (escape "\u00e9a\\n").toList ∧ IsPrintable '9' ∧
      unescape? "\\xe9a\\\\n".toList = some "\u00e9a\\n".toList := by
  have hescape : escape "\u00e9a\\n" = "\\xe9a\\\\n" := by decide
  have hmem : '9' ∈ (escape "\u00e9a\\n").toList := by
    rw [hescape]
    decide
  obtain ⟨hprintable, -, hundone, -⟩ := escape_printable_and_undone "\u00e9a\\n"
  exact ⟨hmem, hprintable '9' hmem, hescape ▸ hundone⟩

end EngineTrials.Query
