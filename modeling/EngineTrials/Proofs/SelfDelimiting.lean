import EngineTrials.Proofs.Numerals
import EngineTrials.Text.Pieces
import Mathlib.Data.Prod.Basic

/-!
# Forms that tell where they end

A form is self-delimiting if, in front of whatever text, it can be told what it is the form of and
where it ends. Such forms can be put one behind the other, or inside each other, and still be taken
apart; so a text that is made of them is the form of one thing only. A numeral is of this kind
together with a character behind it that is no digit, and a list of forms together with a mark
behind it that none of them begins with.
-/
namespace EngineTrials.Text

variable {α β : Type}

def IsSelfDelimiting (form : α → List Char) : Prop :=
  ∀ ⦃a b : α⦄ ⦃r s : List Char⦄, form a ++ r = form b ++ s → a = b ∧ r = s

namespace IsSelfDelimiting

theorem injective {form : α → List Char} (h : IsSelfDelimiting form) :
    Function.Injective form := by
  intro a b hab
  exact (h (congrArg (· ++ []) hab)).1

theorem congr {form form' : α → List Char} (h : IsSelfDelimiting form)
    (hsame : ∀ a, form' a = form a) : IsSelfDelimiting form' :=
  funext hsame ▸ h

/-- What stands in front does not matter if it is always the same. -/
theorem behind {form : α → List Char} (h : IsSelfDelimiting form) (lead : List Char) :
    IsSelfDelimiting fun a => lead ++ form a := by
  intro a b r s heq
  rw [List.append_assoc, List.append_assoc] at heq
  exact h (List.append_cancel_left heq)

/-- What follows is known with what it is the form of. -/
theorem followed {form : α → List Char} (h : IsSelfDelimiting form) (trail : α → List Char) :
    IsSelfDelimiting fun a => form a ++ trail a := by
  intro a b r s heq
  rw [List.append_assoc, List.append_assoc] at heq
  obtain ⟨rfl, hrest⟩ := h heq
  exact ⟨rfl, List.append_cancel_left hrest⟩

theorem append {form : α → List Char} {form' : β → List Char} (h : IsSelfDelimiting form)
    (h' : IsSelfDelimiting form') :
    IsSelfDelimiting fun ab : α × β => form ab.1 ++ form' ab.2 := by
  intro a b r s heq
  rw [List.append_assoc, List.append_assoc] at heq
  obtain ⟨hfirst, hrest⟩ := h heq
  obtain ⟨hsecond, hrest⟩ := h' hrest
  exact ⟨Prod.ext hfirst hsecond, hrest⟩

theorem comp {form : α → List Char} (h : IsSelfDelimiting form) {f : β → α}
    (hf : Function.Injective f) : IsSelfDelimiting fun b => form (f b) := by
  intro a b r s heq
  obtain ⟨hab, hrest⟩ := h heq
  exact ⟨hf hab, hrest⟩

end IsSelfDelimiting

/-- The form begins with a character other than `mark`. -/
def OpensApart (mark : Char) (cs : List Char) : Prop := ∃ c ∈ cs.head?, c ≠ mark

theorem OpensApart.ne {mark : Char} {cs : List Char} (h : OpensApart mark cs)
    (r s : List Char) : cs ++ r ≠ mark :: s := by
  obtain ⟨c, hc, hne⟩ := h
  obtain ⟨rest, rfl⟩ := List.head?_eq_some_iff.mp hc
  exact fun heq => hne (List.cons.inj heq).1

theorem OpensApart.append {mark : Char} {cs : List Char} (h : OpensApart mark cs)
    (more : List Char) : OpensApart mark (cs ++ more) := by
  obtain ⟨c, hc, hne⟩ := h
  obtain ⟨rest, rfl⟩ := List.head?_eq_some_iff.mp hc
  exact ⟨c, rfl, hne⟩

namespace IsSelfDelimiting

/-- Forms one behind the other, up to a mark with which none of them begins. -/
theorem flatMap {form : α → List Char} (h : IsSelfDelimiting form) {mark : Char}
    (hmark : ∀ a, OpensApart mark (form a)) (trail : List Char) :
    IsSelfDelimiting fun as : List α => as.flatMap form ++ mark :: trail := by
  have hcons (a : α) (as : List α) (r : List Char) : (a :: as).flatMap form ++ mark :: trail ++ r =
      form a ++ (as.flatMap form ++ mark :: trail ++ r) := by
    rw [List.flatMap_cons, List.append_assoc, List.append_assoc, List.append_assoc]
  intro as
  induction as with
  | nil =>
    intro bs r s heq
    cases bs with
    | nil => exact ⟨rfl, List.append_cancel_left heq⟩
    | cons b bs => exact absurd (heq.trans (hcons b bs s)).symm ((hmark b).ne _ _)
  | cons a as ih =>
    intro bs r s heq
    cases bs with
    | nil => exact absurd ((hcons a as r).symm.trans heq) ((hmark a).ne _ _)
    | cons b bs =>
      obtain ⟨rfl, hrest⟩ := h ((hcons a as r).symm.trans (heq.trans (hcons b bs s)))
      obtain ⟨hsame, hrest⟩ := ih hrest
      exact ⟨congrArg (a :: ·) hsame, hrest⟩

end IsSelfDelimiting

theorem glue_cons (sep p : List Char) (ps : List (List Char)) :
    glue sep (p :: ps) = p ++ ps.flatMap fun q => sep ++ q := by
  induction ps generalizing p with
  | nil => exact (List.append_nil p).symm
  | cons q ps ih => rw [glue, ih, List.flatMap_cons, List.append_assoc, List.append_assoc]

/-- Forms with a separator between each two, up to a mark that can be told from both. -/
theorem IsSelfDelimiting.glue {form : α → List Char} (h : IsSelfDelimiting form) {mark : Char}
    (hmark : ∀ a, OpensApart mark (form a)) {sep : List Char} (hsep : OpensApart mark sep)
    (trail : List Char) :
    IsSelfDelimiting fun as : List α => Text.glue sep (as.map form) ++ mark :: trail := by
  have hmore : IsSelfDelimiting fun as : List α =>
      as.flatMap (fun a => sep ++ form a) ++ mark :: trail :=
    (h.behind sep).flatMap (fun a => hsep.append (form a)) trail
  have hcons (a : α) (as : List α) (r : List Char) :
      Text.glue sep ((a :: as).map form) ++ mark :: trail ++ r =
        form a ++ (as.flatMap (fun a => sep ++ form a) ++ mark :: trail ++ r) := by
    rw [List.map_cons, glue_cons, List.flatMap_map, List.append_assoc, List.append_assoc,
      List.append_assoc]
  intro as bs r s heq
  cases as with
  | nil =>
    cases bs with
    | nil => exact ⟨rfl, List.append_cancel_left heq⟩
    | cons b bs => exact absurd (heq.trans (hcons b bs s)).symm ((hmark b).ne _ _)
  | cons a as =>
    cases bs with
    | nil => exact absurd ((hcons a as r).symm.trans heq) ((hmark a).ne _ _)
    | cons b bs =>
      obtain ⟨rfl, hrest⟩ := h ((hcons a as r).symm.trans (heq.trans (hcons b bs s)))
      obtain ⟨hsame, hrest⟩ := hmore hrest
      exact ⟨congrArg (a :: ·) hsame, hrest⟩

/-- Where a run of characters of one kind ends does not depend on what follows. -/
theorem eq_of_append_cons {p : Char → Bool} {xs ys : List Char} (hxs : ∀ x ∈ xs, p x = true)
    (hys : ∀ y ∈ ys, p y = true) {c : Char} (hc : p c = false) {r s : List Char}
    (h : xs ++ c :: r = ys ++ c :: s) : xs = ys ∧ r = s := by
  have hrun {zs : List Char} (hzs : ∀ z ∈ zs, p z = true) (t : List Char) :
      (zs ++ c :: t).takeWhile p = zs := by
    rw [List.takeWhile_append_of_pos hzs, List.takeWhile_cons_of_neg (Bool.eq_false_iff.mp hc),
      List.append_nil]
  have hsame : xs = ys := by rw [← hrun hxs r, h, hrun hys s]
  subst hsame
  exact ⟨rfl, (List.cons.inj (List.append_cancel_left h)).2⟩

theorem isSelfDelimiting_numeral {radix : Nat} (hradix : IsRadix radix) {mark : Char}
    (hmark : digit? radix mark = none) (trail : List Char) :
    IsSelfDelimiting fun n => numeral radix n ++ mark :: trail := by
  intro n m r s heq
  rw [List.append_assoc, List.append_assoc, List.cons_append, List.cons_append] at heq
  have hdigits (k : Nat) : ∀ c ∈ numeral radix k, (digit? radix c).isSome = true :=
    fun _ hc => isSome_digit?_of_mem_numeral hradix hc
  have hends : (digit? radix mark).isSome = false := by rw [hmark, Option.isSome_none]
  obtain ⟨hnumeral, hrest⟩ :=
    eq_of_append_cons (p := fun c => (digit? radix c).isSome) (hdigits n) (hdigits m) hends heq
  exact ⟨(numeral_inj hradix).mp hnumeral, List.append_cancel_left hrest⟩

end EngineTrials.Text
