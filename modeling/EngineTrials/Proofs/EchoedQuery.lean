import EngineTrials.Proofs.PayloadBytes
import EngineTrials.Proofs.StageCheck

/-!
# An engine that echoes its input

A query goes out one byte a character if it can, but what comes back is read as UTF-8. A query that
both encodings write alike, or that goes out as UTF-8 anyway, comes back as it was. Any other comes
back as something else: its bytes are no UTF-8, or they happen to be the UTF-8 of another text. That
text has fewer characters than the query, so it cannot have the same lines in another order.
-/
namespace EngineTrials
namespace Text

/-- A text of characters that both encodings write as the same single byte. -/
def IsAscii (s : String) : Prop := ∀ c ∈ s.toList, c.toNat < 0x80

theorem not_isAscii_iff {s : String} : ¬ IsAscii s ↔ ∃ c ∈ s.toList, 0x80 ≤ c.toNat := by
  simp only [IsAscii, Classical.not_forall, Nat.not_lt, exists_prop]

namespace Utf8

theorem length_encodeChar_of_le {c : Char} (h : 0x80 ≤ c.toNat) :
    2 ≤ (encodeChar c).length := by
  have hbig : ¬ c.toNat < 0x80 := by omega
  simp only [encodeChar, if_neg hbig]
  split
  · exact Nat.le_refl 2
  · split <;> simp

theorem encode_of_lt {cs : List Char} (h : ∀ c ∈ cs, c.toNat < 0x80) :
    encode cs = Latin1.encode cs := by
  induction cs with
  | nil => rfl
  | cons c rest ih =>
    have hc := h c List.mem_cons_self
    have hrest := ih fun d hd => h d (List.mem_cons_of_mem c hd)
    rw [encode_cons, encodeChar_of_lt hc, hrest]
    rfl

theorem length_le_length_encode (cs : List Char) : cs.length ≤ (encode cs).length := by
  induction cs with
  | nil => exact Nat.le_refl 0
  | cons c rest ih =>
    have hc : 1 ≤ (encodeChar c).length := by
      by_cases h : c.toNat < 0x80
      · rw [encodeChar_of_lt h]
        exact Nat.le_refl 1
      · have := length_encodeChar_of_le (c := c) (by omega)
        omega
    rw [encode_cons, List.length_append, List.length_cons]
    omega

/-- A character beyond ASCII makes the bytes more than the characters. -/
theorem length_lt_length_encode {cs : List Char} {c : Char} (hc : c ∈ cs) (h : 0x80 ≤ c.toNat) :
    cs.length < (encode cs).length := by
  obtain ⟨before, after, rfl⟩ := List.append_of_mem hc
  have hbefore := length_le_length_encode before
  have hafter := length_le_length_encode after
  have hwide := length_encodeChar_of_le h
  simp only [encode_append, encode_cons, List.length_append, List.length_cons]
  omega

end Utf8

theorem not_isWide_of_isAscii {s : String} (h : IsAscii s) : ¬ IsWide s := by
  rintro ⟨c, hc, hwide⟩
  have hlow := h c hc
  omega

theorem payload_of_isAscii {s : String} (h : IsAscii s) : payload s = Utf8.encode s.toList := by
  rw [payload_of_not_isWide (not_isWide_of_isAscii h), Utf8.encode_of_lt h]

/-- Bytes of a narrow query that can be read as UTF-8 are too many for the text that is read. -/
theorem length_lt_of_toByteArray_eq {q out : String} (hascii : ¬ IsAscii q) (hwide : ¬ IsWide q)
    (hout : out.toByteArray = (Latin1.encode q.toList).toByteArray) :
    out.toList.length < q.toList.length := by
  have hbytes : Utf8.encode out.toList = Latin1.encode q.toList := by
    rw [← Utf8.toList_toByteArray, hout]
    simp
  have hlength : (Utf8.encode out.toList).length = q.toList.length := by
    rw [hbytes, Latin1.encode, List.length_map]
  -- if all that is read were ASCII, it would be the query itself
  have hread : ¬ IsAscii out := by
    intro hascii'
    have hpayload : payload out = payload q := by
      rw [payload_of_isAscii hascii', hbytes, payload_of_not_isWide hwide]
    have hback : out = q := by
      rw [← decode_payload (not_isWide_of_isAscii hascii'), hpayload, decode_payload hwide]
    exact hascii (hback ▸ hascii')
  obtain ⟨c, hc, hhigh⟩ := not_isAscii_iff.mp hread
  rw [← hlength]
  exact Utf8.length_lt_length_encode hc hhigh

end Text

open Text

/-- What is left of an engine that writes back what it was sent and has nothing to complain
about. -/
def Capture.echo (q : String) (wallTime : Option Duration) : Capture where
  exitCode := 0
  stdout := payload q
  stderr := []
  wallTime

namespace Expectation

theorem check_echo_of_utf8 {q : String} (h : payload q = Utf8.encode q.toList)
    (wallTime : Option Duration) :
    ({ stdout := some q } : Expectation).check (.echo q wallTime) = .ok () := by
  have hread : Utf8.text? (payload q) = some q := by
    rw [Utf8.text?_eq_some_iff, h, Utf8.toByteArray_encode]
  rw [check_stdout_only (c := .echo q wallTime) hread rfl, if_pos rfl]

theorem check_echo_of_invalid {q : String} (h : ¬ (payload q).toByteArray.IsValidUTF8)
    (wallTime : Option Duration) :
    ({ stdout := some q } : Expectation).check (.echo q wallTime) =
      .error (.invalidUtf8 .stdout) := by
  have hread : Utf8.text? (Capture.echo q wallTime).stdout = none := Utf8.text?_eq_none_iff.mpr h
  rw [check, hread]

/-- What is read instead of the query never has its lines. -/
theorem check_echo_of_misread {q out : String} (hascii : ¬ IsAscii q) (hwide : ¬ IsWide q)
    (hout : out.toByteArray = (Latin1.encode q.toList).toByteArray) (wallTime : Option Duration) :
    ({ stdout := some q } : Expectation).check (.echo q wallTime) =
      .error (.stdout (sortedLines q) (sortedLines out)) := by
  have hread : Utf8.text? (payload q) = some out := by
    rw [Utf8.text?_eq_some_iff, payload_of_not_isWide hwide, hout]
  have hshort := length_lt_of_toByteArray_eq hascii hwide hout
  have hlines : sortedLines q ≠ sortedLines out := by
    intro hsame
    have hlength := length_eq_of_linesOf_perm (sortedLines_eq_iff.mp hsame)
    omega
  rw [check_stdout_only (c := .echo q wallTime) hread rfl, if_neg hlines]

/-- A query that is sent in one encoding and read in the other never passes. -/
theorem check_echo_of_narrow {q : String} (hascii : ¬ IsAscii q) (hwide : ¬ IsWide q)
    (wallTime : Option Duration) :
    let verdict := ({ stdout := some q } : Expectation).check (.echo q wallTime)
    (¬ (Latin1.encode q.toList).toByteArray.IsValidUTF8 →
      verdict = .error (.invalidUtf8 .stdout)) ∧
    ((Latin1.encode q.toList).toByteArray.IsValidUTF8 →
      ∃ out : String, out.toByteArray = (Latin1.encode q.toList).toByteArray ∧
        verdict = .error (.stdout (sortedLines q) (sortedLines out))) := by
  constructor
  · intro hinvalid
    apply check_echo_of_invalid
    rwa [payload_of_not_isWide hwide]
  · rintro ⟨cs, hcs⟩
    have hout : (String.ofList cs).toByteArray = (Latin1.encode q.toList).toByteArray := by
      rw [String.toByteArray_ofList, hcs]
    exact ⟨String.ofList cs, hout, check_echo_of_misread hascii hwide hout wallTime⟩

theorem check_echo_ne_ok {q : String} (hascii : ¬ IsAscii q) (hwide : ¬ IsWide q)
    (wallTime : Option Duration) :
    ({ stdout := some q } : Expectation).check (.echo q wallTime) ≠ .ok () := by
  intro hok
  obtain ⟨hinvalid, hmisread⟩ := check_echo_of_narrow hascii hwide wallTime
  by_cases hvalid : (Latin1.encode q.toList).toByteArray.IsValidUTF8
  · obtain ⟨out, -, hverdict⟩ := hmisread hvalid
    rw [hok] at hverdict
    cases hverdict
  · have hverdict := hinvalid hvalid
    rw [hok] at hverdict
    cases hverdict

/-- An engine that echoes gives back the query for which it is expected to if the query is ASCII
or goes out as UTF-8. Any other query comes back as bytes that are no UTF-8, or as the lines of
another text. -/
theorem check_echo (q : String) (wallTime : Option Duration) :
    let verdict := ({ stdout := some q } : Expectation).check (.echo q wallTime)
    (verdict = .ok () ↔ (∀ c ∈ q.toList, c.toNat < 0x80) ∨ ∃ c ∈ q.toList, 0xFF < c.toNat) ∧
    ((∃ c ∈ q.toList, 0x80 ≤ c.toNat) → (∀ c ∈ q.toList, c.toNat ≤ 0xFF) →
      (¬ (Latin1.encode q.toList).toByteArray.IsValidUTF8 →
        verdict = .error (.invalidUtf8 .stdout)) ∧
      ((Latin1.encode q.toList).toByteArray.IsValidUTF8 →
        ∃ out : String, out.toByteArray = (Latin1.encode q.toList).toByteArray ∧
          verdict = .error (.stdout (sortedLines q) (sortedLines out)))) := by
  intro verdict
  refine ⟨⟨fun hok => ?_, ?_⟩, fun hhigh hnarrow => ?_⟩
  · by_cases hascii : IsAscii q
    · exact .inl hascii
    by_cases hwide : IsWide q
    · exact .inr hwide
    exact absurd hok (check_echo_ne_ok hascii hwide wallTime)
  · rintro (hascii | hwide)
    · exact check_echo_of_utf8 (payload_of_isAscii hascii) wallTime
    · exact check_echo_of_utf8 (payload_of_isWide hwide) wallTime
  · exact check_echo_of_narrow (not_isAscii_iff.mpr hhigh) (not_isWide_iff.mpr hnarrow) wallTime

/-- An e with acute accent comes back as a byte that is no UTF-8. The two letters that its own UTF-8
bytes stand for come back as these bytes, and are read as the one letter. -/
theorem check_echo_acute :
    (∃ c ∈ "\u00e9".toList, 0x80 ≤ c.toNat) ∧ (∀ c ∈ "\u00e9".toList, c.toNat ≤ 0xFF) ∧
    ({ stdout := some "\u00e9" } : Expectation).check (.echo "\u00e9" none) =
      .error (.invalidUtf8 .stdout) ∧
    (∃ c ∈ "\u00c3\u00a9".toList, 0x80 ≤ c.toNat) ∧
    (∀ c ∈ "\u00c3\u00a9".toList, c.toNat ≤ 0xFF) ∧
    ({ stdout := some "\u00c3\u00a9" } : Expectation).check (.echo "\u00c3\u00a9" none) =
      .error (.stdout (sortedLines "\u00c3\u00a9") (sortedLines "\u00e9")) := by
  have hone : ∃ c ∈ "\u00e9".toList, 0x80 ≤ c.toNat := ⟨'\u00e9', by decide, by decide⟩
  have hone' : ∀ c ∈ "\u00e9".toList, c.toNat ≤ 0xFF := not_isWide_iff.mp (by decide)
  have htwo : ∃ c ∈ "\u00c3\u00a9".toList, 0x80 ≤ c.toNat := ⟨'\u00c3', by decide, by decide⟩
  have htwo' : ∀ c ∈ "\u00c3\u00a9".toList, c.toNat ≤ 0xFF :=
    not_isWide_iff.mp (by decide)
  have hinvalid : ¬ (Latin1.encode "\u00e9".toList).toByteArray.IsValidUTF8 :=
    Utf8.text?_eq_none_iff.mp (by decide)
  have hread : "\u00e9".toByteArray = (Latin1.encode "\u00c3\u00a9".toList).toByteArray :=
    Utf8.text?_eq_some_iff.mp (by decide)
  have hvalid : (Latin1.encode "\u00c3\u00a9".toList).toByteArray.IsValidUTF8 :=
    hread ▸ "\u00e9".isValidUTF8
  refine ⟨hone, hone', ((check_echo "\u00e9" none).2 hone hone').1 hinvalid, htwo, htwo', ?_⟩
  obtain ⟨out, hout, hverdict⟩ := ((check_echo "\u00c3\u00a9" none).2 htwo htwo').2 hvalid
  obtain rfl : out = "\u00e9" := String.toByteArray_inj.mp (hout.trans hread.symm)
  exact hverdict

end Expectation

end EngineTrials
