import EngineTrials.Proofs.SelfDelimiting
import EngineTrials.Report.Style
import Mathlib.Data.List.Forall2

/-!
# Styles deleted

The sequences that switch a style on or off begin with the escape character, which stands nowhere
else. So a reader who goes from left to right and leaves them out finds what was painted, and this
in whatever text it stands. Lines whose styles are deleted one by one are the lines of the text
without styles.
-/
namespace EngineTrials

namespace Text

/-- A text without those `words` that a reader meets from left to right; so many characters of the
last one are `left`. -/
def without (words : List (List Char)) : (left : Nat) → List Char → List Char
  | _, [] => []
  | left + 1, _ :: rest => without words left rest
  | 0, c :: rest =>
    match words.find? fun word => word.isPrefixOf (c :: rest) with
    | some word => without words (word.length - 1) rest
    | none => c :: without words 0 rest

theorem OpensApart.not_isPrefixOf {c : Char} {word : List Char} (h : OpensApart c word)
    (rest : List Char) : word.isPrefixOf (c :: rest) = false := by
  rw [← Bool.not_eq_true, List.isPrefixOf_iff_prefix]
  rintro ⟨behind, hbehind⟩
  exact h.ne behind rest hbehind

/-- Where no word begins, nothing is left out. -/
theorem without_append_of_opensApart {words : List (List Char)} {cs : List Char}
    (h : ∀ c ∈ cs, ∀ word ∈ words, OpensApart c word) (rest : List Char) :
    without words 0 (cs ++ rest) = cs ++ without words 0 rest := by
  induction cs with
  | nil => rfl
  | cons c cs ih =>
    obtain ⟨hc, hcs⟩ := List.forall_mem_cons.mp h
    have hnone : (words.find? fun word => word.isPrefixOf (c :: (cs ++ rest))) = none :=
      List.find?_eq_none.mpr fun word hword =>
        Bool.eq_false_iff.mp ((hc word hword).not_isPrefixOf _)
    rw [List.cons_append, without, hnone]
    exact congrArg (c :: ·) (ih hcs)

end Text

namespace Style
open Text

/-- What switches the styles of a summary on, and what switches every style off. -/
def sequences : List String := ["\x1b[1m", "\x1b[31m", "\x1b[32m", "\x1b[0m"]

/-- A text without the sequences in it. -/
def strip (s : String) : String :=
  String.ofList (without (sequences.map String.toList) 0 s.toList)

/-- In front of any text, the one without its sequences is the other. -/
def Strips (styled plain : String) : Prop :=
  ∀ rest, without (sequences.map String.toList) 0 (styled.toList ++ rest) =
    plain.toList ++ without (sequences.map String.toList) 0 rest

namespace Strips

variable {styled plain : String}

theorem strip_eq (h : Strips styled plain) : strip styled = plain := by
  have hwhole := h []
  rw [List.append_nil, without, List.append_nil] at hwhole
  rw [strip, hwhole, String.ofList_toList]

/-- A text without the escape character is left as it is. -/
theorem refl {s : String} (h : '\x1b' ∉ s.toList) : Strips s s := by
  refine without_append_of_opensApart fun c hc word hword => ⟨'\x1b', ?_, ?_⟩
  · have hopen : ∀ word ∈ sequences.map String.toList, '\x1b' ∈ word.head? := by decide
    exact hopen word hword
  · rintro rfl
    exact h hc

theorem append {styled' plain' : String} (h : Strips styled plain) (h' : Strips styled' plain') :
    Strips (styled ++ styled') (plain ++ plain') := by
  intro rest
  rw [String.toList_append, String.toList_append, List.append_assoc, h, h', List.append_assoc]

theorem paint {style : Style} (hstyle : style ≠ yellow) {s : String} (h : '\x1b' ∉ s.toList) :
    Strips (style.paint true s) s := by
  have hopening (rest : List Char) :
      without (sequences.map String.toList) 0 (style.opening.toList ++ rest) =
        without (sequences.map String.toList) 0 rest := by
    cases style with
    | bold | red | green => rfl
    | yellow => exact absurd rfl hstyle
  have hclosing (rest : List Char) :
      without (sequences.map String.toList) 0 (closing.toList ++ rest) =
        without (sequences.map String.toList) 0 rest := rfl
  intro rest
  rw [Style.paint, if_pos rfl, String.toList_append, String.toList_append, List.append_assoc,
    List.append_assoc, hopening, refl h, hclosing]

/-- Line by line. -/
theorem join {styled plain : List String} (h : List.Forall₂ Strips styled plain) :
    Strips (Text.join "\n" styled) (Text.join "\n" plain) := by
  induction h with
  | nil => exact refl (by decide)
  | cons hline hmore ih =>
    cases hmore with
    | nil =>
      rw [Text.join, Text.join, String.intercalate_singleton, String.intercalate_singleton]
      exact hline
    | cons =>
      rw [Text.join, Text.join, String.intercalate_cons_cons, String.intercalate_cons_cons]
      exact (hline.append (refl (by decide))).append ih

end Strips
end Style

end EngineTrials
