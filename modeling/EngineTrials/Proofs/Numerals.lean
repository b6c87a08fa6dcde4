import EngineTrials.Text.Digits
import Mathlib.Algebra.Group.Nat.Defs

/-!
# Numerals read back

The digits of a number, read from left to right, give the number again, whatever zeros stand in
front. So numerals are made of digits, and two numbers with the same numeral are the same.
-/
namespace EngineTrials.Text

theorem digit?_digitChar {radix n : Nat} (hradix : radix ≤ 16) (h : n < radix) :
    digit? radix n.digitChar = some n := by
  have hall : ∀ i : Fin 16, digit? 16 i.val.digitChar = some i.val := by decide
  have hvalue := (Option.filter_eq_some_iff.mp (hall ⟨n, by omega⟩)).1
  exact Option.filter_eq_some_iff.mpr ⟨hvalue, decide_eq_true h⟩

theorem foldDigits?_append (radix acc : Nat) (xs ys : List Char) :
    foldDigits? radix acc (xs ++ ys) =
      (foldDigits? radix acc xs).bind fun n => foldDigits? radix n ys := by
  induction xs generalizing acc with
  | nil => rfl
  | cons x xs ih =>
    rw [List.cons_append, foldDigits?, foldDigits?]
    cases digit? radix x with
    | none => rfl
    | some n => exact ih _

theorem foldDigits?_zeros (radix width : Nat) (h : digit? radix '0' = some 0) :
    foldDigits? radix 0 (List.replicate width '0') = some 0 := by
  induction width with
  | zero => rfl
  | succ width ih =>
    rw [List.replicate_succ, foldDigits?, h]
    simpa using ih

/-- The radices in which every digit has a character. -/
structure IsRadix (radix : Nat) : Prop where
  one_lt : 1 < radix
  le_sixteen : radix ≤ 16

instance (radix : Nat) : Decidable (IsRadix radix) :=
  decidable_of_iff (1 < radix ∧ radix ≤ 16) ⟨fun h => ⟨h.1, h.2⟩, fun h => ⟨h.1, h.2⟩⟩

variable {radix : Nat}

theorem foldDigits?_numeral (hradix : IsRadix radix) (n : Nat) :
    foldDigits? radix 0 (numeral radix n) = some n := by
  have hpos : 0 < radix := Nat.zero_lt_of_lt hradix.one_lt
  induction n using Nat.strongRecOn with
  | ind n ih =>
    rw [numeral]
    by_cases hn : n < radix
    · rw [Nat.toDigits_of_lt_base hn, foldDigits?, digit?_digitChar hradix.le_sixteen hn]
      simp [foldDigits?]
    · have hdigits := Nat.toDigits_of_base_le hradix.one_lt (Nat.not_lt.mp hn)
      have hlast := digit?_digitChar hradix.le_sixteen (Nat.mod_lt n hpos)
      have hless : n / radix < n := Nat.div_lt_self (by omega) hradix.one_lt
      have hfront : foldDigits? radix 0 (Nat.toDigits radix (n / radix)) = some (n / radix) :=
        ih (n / radix) hless
      rw [hdigits, foldDigits?_append, hfront]
      simp only [Option.bind_some, foldDigits?, hlast, Option.bind_eq_bind]
      rw [Nat.div_add_mod']

theorem foldDigits?_padded (width n : Nat) : foldDigits? 16 0 (padded 16 width n) = some n := by
  rw [padded, foldDigits?_append, foldDigits?_zeros 16 _ (by decide)]
  exact foldDigits?_numeral (by decide) n

theorem numeral_inj (hradix : IsRadix radix) {n m : Nat} :
    numeral radix n = numeral radix m ↔ n = m := by
  constructor
  · intro h
    have hread := foldDigits?_numeral hradix n
    rw [h, foldDigits?_numeral hradix m] at hread
    exact (Option.some.inj hread).symm
  · exact congrArg _

/-- What is read as digits is made of digits. -/
theorem isSome_digit?_of_foldDigits? {acc n : Nat} {cs : List Char}
    (h : foldDigits? radix acc cs = some n) : ∀ c ∈ cs, (digit? radix c).isSome = true := by
  induction cs generalizing acc with
  | nil => exact fun _ hc => absurd hc List.not_mem_nil
  | cons c rest ih =>
    obtain ⟨value, hvalue, hrest⟩ := Option.bind_eq_some_iff.mp h
    exact List.forall_mem_cons.mpr ⟨Option.isSome_of_eq_some hvalue, ih hrest⟩

theorem isSome_digit?_of_mem_numeral (hradix : IsRadix radix) {n : Nat} {c : Char}
    (h : c ∈ numeral radix n) : (digit? radix c).isSome = true :=
  isSome_digit?_of_foldDigits? (foldDigits?_numeral hradix n) c h

end EngineTrials.Text
