import EngineTrials.Benchmark.Query
import EngineTrials.Proofs.PayloadBytes

/-!
# The lines an engine reads

An input is encoded as a whole, but the engine reads it line by line. How a character is encoded
depends on the other characters only through the width of the text, and a line that is repeated is
as wide as it is alone. A line feed is one byte in either encoding, and no other character has this
byte among its own; so the lines that were written are those that are read.
-/
namespace EngineTrials.Text

/-- The bytes of a character in a text that is wide, or in one that is not. -/
def bytesOf (wide : Bool) (c : Char) : Bytes :=
  if wide then Utf8.encodeChar c else [UInt8.ofNat c.toNat]

/-- What the other characters are does not matter to a character, except for the width. -/
theorem payload_eq_flatMap (s : String) : payload s = s.toList.flatMap (bytesOf (IsWide s)) := by
  by_cases h : IsWide s
  · rw [payload_of_isWide h, decide_eq_true h]
    rfl
  · rw [payload_of_not_isWide h, decide_eq_false h, Latin1.encode, List.map_eq_flatMap]
    rfl

/-- Whatever the width, only a line feed has the byte of a line feed. -/
theorem eq_newline_of_mem_bytesOf {wide : Bool} {c : Char} (hwidth : 0xFF < c.toNat → wide)
    (h : 0x0A ∈ bytesOf wide c) : c = '\n' := by
  have hcode : c.toNat = 10 := by
    cases wide with
    | true => exact Utf8.toNat_eq_of_mem_encodeChar h (by decide)
    | false =>
      have hnarrow : ¬ 0xFF < c.toNat := fun hc => absurd (hwidth hc) (by decide)
      have hbyte : 0x0A = UInt8.ofNat c.toNat := List.mem_singleton.mp h
      rw [← Utf8.toNat_ofNat (n := c.toNat) (by omega), ← hbyte]
      rfl
  exact Char.toNat_inj.mp hcode

theorem newline_mem_of_mem_payload {s : String} (h : 0x0A ∈ payload s) : '\n' ∈ s.toList := by
  rw [payload_eq_flatMap, List.mem_flatMap] at h
  obtain ⟨c, hc, hbyte⟩ := h
  have hwidth : 0xFF < c.toNat → decide (IsWide s) := fun hbig => decide_eq_true ⟨c, hc, hbig⟩
  obtain rfl := eq_newline_of_mem_bytesOf hwidth hbyte
  exact hc

theorem isWide_ofList {cs : List Char} :
    IsWide (String.ofList cs) ↔ ∃ c ∈ cs, 0xFF < c.toNat := by
  rw [IsWide, String.toList_ofList]

/-- Lines that are repeated, each with a line feed behind it, are encoded as one of them would be
alone. -/
theorem payload_lines (n : Nat) (line : List Char) :
    payload (String.ofList (List.replicate n (line ++ ['\n'])).flatten) =
      (List.replicate n (payload (String.ofList line) ++ [0x0A])).flatten := by
  cases n with
  | zero => rfl
  | succ n =>
    -- without a repetition there is nothing wide, however wide the line is
    have hsame : IsWide (String.ofList (List.replicate (n + 1) (line ++ ['\n'])).flatten) ↔
        IsWide (String.ofList line) := by
      simp only [isWide_ofList, List.mem_flatten, List.mem_replicate]
      constructor
      · rintro ⟨c, ⟨_, ⟨-, rfl⟩, hc⟩, hbig⟩
        rcases List.mem_append.mp hc with hc | hc
        · exact ⟨c, hc, hbig⟩
        · obtain rfl := List.mem_singleton.mp hc
          exact absurd hbig (by decide)
      · rintro ⟨c, hc, hbig⟩
        exact ⟨c, ⟨_, ⟨Nat.succ_ne_zero n, rfl⟩, List.mem_append_left _ hc⟩, hbig⟩
    have hfeed : ∀ wide, bytesOf wide '\n' = [0x0A] := by decide
    rw [payload_eq_flatMap, payload_eq_flatMap (String.ofList line), decide_eq_decide.mpr hsame,
      String.toList_ofList, String.toList_ofList, List.flatten_eq_flatMap, List.flatMap_assoc,
      List.flatMap_replicate, id, List.flatMap_append, List.flatMap_singleton, hfeed]

section Lines
variable {α : Type} [BEq α] [LawfulBEq α]

/-- Lines that are each closed by a separator are read back, with nothing behind the last. -/
theorem splitOn_replicate {sep : α} {line : List α} (h : sep ∉ line) (n : Nat) :
    (List.replicate n (line ++ [sep])).flatten.splitOn sep = List.replicate n line ++ [[]] := by
  have hline : ∀ x ∈ line, (x == sep) = false := by
    intro x hx
    exact beq_eq_false_iff_ne.mpr fun hsep => h (hsep ▸ hx)
  induction n with
  | zero => simp
  | succ n ih =>
    rw [List.splitOn_eq_splitOnP] at ih ⊢
    rw [List.replicate_succ, List.flatten_cons, List.append_assoc, List.singleton_append,
      List.splitOnP_append_cons_of_forall_mem hline sep (beq_self_eq_true sep), ih]
    rfl

theorem count_replicate_lines {sep : α} {line : List α} (h : sep ∉ line) (n : Nat) :
    (List.replicate n (line ++ [sep])).flatten.count sep = n := by
  have hone : (line ++ [sep]).count sep = 1 := by
    rw [List.count_append, List.count_eq_zero.mpr h, List.count_singleton_self]
  induction n with
  | zero => rfl
  | succ n ih => rw [List.replicate_succ, List.flatten_cons, List.count_append, hone, ih]; omega

end Lines

end EngineTrials.Text

namespace EngineTrials.Query
open Text

theorem newline_not_mem_normalizeChars (q : List Char) : '\n' ∉ normalizeChars q := by
  intro h
  rw [normalizeChars, List.mem_map] at h
  obtain ⟨c, -, hc⟩ := h
  by_cases hfeed : c = '\n'
  · rw [if_pos hfeed] at hc
    exact absurd hc (by decide)
  · rw [if_neg hfeed] at hc
    exact hfeed hc

/-- For so many repetitions the engine is sent so many times the bytes of the normalised query, each
time with the byte of a line feed behind them. As this byte is not among those of the query, the
engine reads so many lines, all of them the normalised query, and nothing after the last. -/
theorem payload_input_lines (q : String) (n : Nat) :
    payload (input q n) = (List.replicate n (payload (normalize q) ++ [0x0A])).flatten ∧
    0x0A ∉ payload (normalize q) ∧
    (payload (input q n)).count 0x0A = n ∧
    (payload (input q n)).splitOn 0x0A = List.replicate n (payload (normalize q)) ++ [[]] := by
  have hbytes : payload (input q n) =
      (List.replicate n (payload (normalize q) ++ [0x0A])).flatten := by
    rw [input, payload_lines, normalize]
  have hline : 0x0A ∉ payload (normalize q) := by
    intro h
    have hfeed := newline_mem_of_mem_payload h
    rw [normalize, String.toList_ofList] at hfeed
    exact newline_not_mem_normalizeChars q.toList hfeed
  refine ⟨hbytes, hline, ?_, ?_⟩
  · rw [hbytes, count_replicate_lines hline]
  · rw [hbytes, splitOn_replicate hline]

end EngineTrials.Query
