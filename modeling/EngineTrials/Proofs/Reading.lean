import EngineTrials.CaseFile.Reading

/-!
# What the readers accept

Each reader accepts the nodes of one kind and answers what such a node means. The kinds are named
here on the tree of a document, with references looked through, and every reader is matched with
its kind; what is read in turn out of these readers need not open them again.
-/
namespace EngineTrials

namespace Yaml.Document
open Shape

/-- A scalar of this text, in any style and under any tag. -/
def HasText (d : Document) (n : Node) (s : String) : Prop :=
  ∃ p style, d.view n = .scalar p style s

/-- A scalar that may denote something other than its text, of which `read?` makes `a`. -/
def Denotes {α : Type} (core : TagText) (read? : String → Option α) (d : Document) (n : Node)
    (a : α) : Prop :=
  ∃ p style s, d.view n = .scalar p style s ∧ isTyped p style core ∧ read? s = some a

def DenotesBoolean (d : Document) (n : Node) (b : Bool) : Prop :=
  d.Denotes booleanTag boolean? n b

/-- An integer of 32 bits with a sign. -/
def DenotesInteger32 (d : Document) (n : Node) (i : Int) : Prop :=
  d.Denotes integerTag (fun s => integer? s.toList) n i ∧
    -2147483648 ≤ i ∧ i < 2147483648

/-- An integer of 64 bits without a sign. -/
def DenotesNatural64 (d : Document) (n : Node) (m : Nat) : Prop :=
  d.Denotes integerTag (fun s => unsigned? s.toList) n m ∧
    m < 18446744073709551616

/-- A plain scalar that is empty or names null; under the tag of null it has to name it. -/
def DenotesNull (d : Document) (n : Node) : Prop :=
  ∃ p s, d.view n = .scalar p .plain s ∧
    (p.tag = none ∧ (s = "" ∨ s ∈ nullNames) ∨ p.tag = some nullTag ∧ s ∈ nullNames)

/-- A plain scalar under the tag of null that does not name it, and so denotes nothing. -/
def MisnamesNull (d : Document) (n : Node) : Prop :=
  ∃ p s, d.view n = .scalar p .plain s ∧ p.tag = some nullTag ∧ s ∉ nullNames

/-- A node that is there and has a meaning other than null. -/
structure DenotesValue (d : Document) (n : Node) : Prop where
  present : ∀ fault, d.view n ≠ .missing fault
  notNull : ¬ d.DenotesNull n
  notMisnamed : ¬ d.MisnamesNull n

/-- Null, which stands for a default, or a value that means `a`. -/
def NullOr {α : Type} (d : Document) (default : α) (Means : Node → α → Prop) (n : Node)
    (a : α) : Prop :=
  d.DenotesNull n ∧ a = default ∨ d.DenotesValue n ∧ Means n a

/-- A mapping of these entries. A place where nothing is written is one without entries. -/
def HasEntries (d : Document) (n : Node) (es : List (Node × Node)) : Prop :=
  (∃ p, d.view n = .mapping p (.ofList es)) ∨ (∃ p, d.view n = .scalar p .plain "") ∧ es = []

/-- A text without fault, of which the document is all. -/
structure IsWhole (d : Document) : Prop where
  fault : d.fault = none
  alone : d.followed = false

theorem denotes_iff {α : Type} {core : TagText} {read? : String → Option α} {d : Document}
    {n : Node} {a : α} {p : Properties} {style : Style} {s : String}
    (hv : d.view n = .scalar p style s) :
    d.Denotes core read? n a ↔ (if isTyped p style core then read? s else none) = some a := by
  simp only [Denotes, hv, Node.scalar.injEq]
  constructor
  · rintro ⟨_, _, _, ⟨rfl, rfl, rfl⟩, ht, ha⟩
    rw [if_pos ht, ha]
  · intro h
    split at h
    · next ht => exact ⟨p, style, s, ⟨rfl, rfl, rfl⟩, ht, h⟩
    · cases h

end Yaml.Document

namespace CaseFile
open Text Shape Yaml

namespace Result

variable {α β : Type}

theorem bind_eq_ok {r : Result α} {f : α → Result β} {b : β} :
    r >>= f = .ok b ↔ ∃ a, r = .ok a ∧ f a = .ok b := by
  cases r with
  | error p => simp [bind, Except.bind]
  | ok a => simp [bind, Except.bind]

theorem map_eq_ok {r : Result α} {f : α → β} {b : β} :
    f <$> r = .ok b ↔ ∃ a, r = .ok a ∧ f a = b := by
  cases r with
  | error p => simp [Functor.map, Except.map]
  | ok a => simp [Functor.map, Except.map]

theorem pure_eq_ok {a b : α} : (pure a : Result α) = .ok b ↔ a = b := by
  simp [pure, Except.pure]

theorem mapError_eq_ok {ε ε' : Type} {r : Except ε α} {f : ε → ε'} {a : α} :
    r.mapError f = .ok a ↔ r = .ok a := by
  cases r with
  | error e => exact ⟨nofun, nofun⟩
  | ok b =>
    show (Except.ok b : Except ε' α) = .ok a ↔ _
    rw [Except.ok.injEq, Except.ok.injEq]

/-- Where a value stands matters to its problems only. -/
@[simp] theorem within_eq_ok {key : String} {r : Result α} {a : α} :
    within key r = .ok a ↔ r = .ok a :=
  mapError_eq_ok

end Result

theorem reject_ne_ok {α : Type} (wanted : String) (n : Node) (a : α) : reject wanted n ≠ .ok a := by
  cases n <;> simp [reject]

theorem textAs_ok_iff {wanted : String} {d : Document} {n : Node} {s : String} :
    textAs wanted d n = .ok s ↔ d.HasText n s := by
  simp only [textAs, Document.HasText]
  cases d.view n with
  | scalar p style t => simp
  | _ => simp [reject_ne_ok]

theorem text_ok_iff {d : Document} {n : Node} {s : String} :
    text d n = .ok s ↔ d.HasText n s :=
  textAs_ok_iff

theorem boolean_ok_iff {d : Document} {n : Node} {b : Bool} :
    boolean d n = .ok b ↔ d.DenotesBoolean n b := by
  rw [Document.DenotesBoolean]
  cases hv : d.view n with
  | scalar p style s =>
    rw [Document.denotes_iff hv]
    simp only [boolean, hv]
    cases (if isTyped p style booleanTag then boolean? s else none) <;> simp [reject_ne_ok]
  | _ => simp [boolean, reject_ne_ok, Document.Denotes, hv]

theorem fitsSigned_32_iff (i : Int) :
    fitsSigned 32 i ↔ -2147483648 ≤ i ∧ i < 2147483648 := by
  simp [fitsSigned]

theorem integer32_ok_iff {d : Document} {n : Node} {i : Int} :
    integer32 d n = .ok i ↔ d.DenotesInteger32 n i := by
  rw [Document.DenotesInteger32, ← fitsSigned_32_iff]
  cases hv : d.view n with
  | scalar p style s =>
    rw [Document.denotes_iff hv]
    simp only [integer32, hv]
    cases (if isTyped p style integerTag then integer? s.toList else none) with
    | none => simp [reject_ne_ok]
    | some j =>
      by_cases hf : fitsSigned 32 j
      · simp only [hf, ↓reduceIte, Except.ok.injEq, Option.some.injEq]
        exact ⟨fun h => ⟨h, h ▸ hf⟩, And.left⟩
      · have hne : ¬ (j = i ∧ fitsSigned 32 i = true) := fun h => hf (h.1 ▸ h.2)
        simp only [hf, Bool.false_eq_true, ↓reduceIte, Option.some.injEq, hne, iff_false]
        split
        · simp
        · exact reject_ne_ok _ _ _
  | _ => simp [integer32, reject_ne_ok, Document.Denotes, hv]

theorem natural64_ok_iff {d : Document} {n : Node} {m : Nat} :
    natural64 d n = .ok m ↔ d.DenotesNatural64 n m := by
  rw [Document.DenotesNatural64]
  cases hv : d.view n with
  | scalar p style s =>
    rw [Document.denotes_iff hv]
    simp only [natural64, hv]
    cases (if isTyped p style integerTag then unsigned? s.toList else none) with
    | none => simp [reject_ne_ok]
    | some k =>
      by_cases hf : k ≤ maxWord
      · have hlt : k < 18446744073709551616 := by rw [maxWord] at hf; omega
        simp only [hf, ↓reduceIte, Except.ok.injEq, Option.some.injEq]
        exact ⟨fun h => ⟨h, h ▸ hlt⟩, And.left⟩
      · have hge : ¬ (k = m ∧ m < 18446744073709551616) := by rw [maxWord] at hf; omega
        simp only [hf, ↓reduceIte, Option.some.injEq, hge, iff_false]
        exact reject_ne_ok _ _ _
  | _ => simp [natural64, reject_ne_ok, Document.Denotes, hv]

theorem isNull_true_iff {d : Document} {n : Node} : isNull d n = .ok true ↔ d.DenotesNull n := by
  simp only [isNull, Document.DenotesNull]
  cases hv : d.view n with
  | scalar p style s =>
    cases style with
    | plain =>
      cases ht : p.tag with
      | none => simp [ht, and_assoc]
      | some tag =>
        by_cases hn : tag = nullTag
        · by_cases hs : s ∈ nullNames <;> simp [ht, hn, hs, and_assoc]
        · simp [ht, hn, and_assoc]
    | _ => simp
  | _ => simp

theorem isNull_false_iff {d : Document} {n : Node} : isNull d n = .ok false ↔ d.DenotesValue n := by
  constructor
  · intro h
    refine ⟨fun fault hv => ?_, fun hn => ?_, fun ⟨p, s, hv, ht, hs⟩ => ?_⟩
    · simp [isNull, hv] at h
    · rw [isNull_true_iff.mpr hn] at h
      cases h
    · simp [isNull, hv, ht, hs] at h
  · intro ⟨hp, hn, hm⟩
    cases hr : isNull d n with
    | ok b =>
      cases b with
      | false => rfl
      | true => exact absurd (isNull_true_iff.mp hr) hn
    | error problem =>
      refine absurd ?_ hm
      simp only [isNull] at hr
      split at hr
      · next p s hv =>
        refine ⟨p, s, hv, ?_⟩
        cases ht : p.tag with
        | none => simp [ht] at hr
        | some tag =>
          by_cases hn : tag = nullTag
          · subst hn
            by_cases hs : s ∈ nullNames
            · simp [ht, hs] at hr
            · exact ⟨rfl, hs⟩
          · simp [ht, hn] at hr
      · next f hv => exact absurd hv (hp f)
      · cases hr

/-- Under null nothing is read. -/
theorem optional_ok_iff {α : Type} {read : Document → Node → Result α} {d : Document}
    {key value : Node} {o : Option α} :
    optional read d key value = .ok o ↔
      d.DenotesNull value ∧ o = none ∨
      d.DenotesValue value ∧ ∃ a, read d value = .ok a ∧ o = some a := by
  simp only [optional, Result.bind_eq_ok]
  constructor
  · rintro ⟨_ | _, hnull, h⟩
    · obtain ⟨a, ha, h⟩ := Result.bind_eq_ok.mp h
      refine .inr ⟨isNull_false_iff.mp hnull, a, Result.within_eq_ok.mp ha, ?_⟩
      exact (Result.pure_eq_ok.mp h).symm
    · exact .inl ⟨isNull_true_iff.mp hnull, (Result.pure_eq_ok.mp h).symm⟩
  · rintro (⟨hnull, rfl⟩ | ⟨hvalue, a, ha, rfl⟩)
    · exact ⟨true, isNull_true_iff.mpr hnull, rfl⟩
    · refine ⟨false, isNull_false_iff.mpr hvalue, ?_⟩
      exact Result.bind_eq_ok.mpr ⟨a, Result.within_eq_ok.mpr ha, rfl⟩

theorem optional_getD_ok_iff {α : Type} {read : Document → Node → Result α} {d : Document}
    {key value : Node} {default a : α} {Means : Node → α → Prop}
    (hread : ∀ n b, read d n = .ok b ↔ Means n b) :
    ((·.getD default) <$> optional read d key value) = .ok a ↔ d.NullOr default Means value a := by
  simp only [Result.map_eq_ok, optional_ok_iff, Document.NullOr]
  constructor
  · rintro ⟨o, ⟨hnull, rfl⟩ | ⟨hvalue, b, hb, rfl⟩, rfl⟩
    · exact .inl ⟨hnull, rfl⟩
    · exact .inr ⟨hvalue, (hread value b).mp hb⟩
  · rintro (⟨hnull, rfl⟩ | ⟨hvalue, ha⟩)
    · exact ⟨none, .inl ⟨hnull, rfl⟩, rfl⟩
    · exact ⟨some a, .inr ⟨hvalue, a, (hread value a).mpr ha, rfl⟩, rfl⟩

theorem entries_ok_iff {wanted : String} {d : Document} {n : Node} {es : Yaml.Entries} :
    entries wanted d n = .ok es ↔
      (∃ p, d.view n = .mapping p es) ∨ (∃ p, d.view n = .scalar p .plain "") ∧ es = .done := by
  simp only [entries]
  cases hv : d.view n with
  | mapping p es' => simp
  | scalar p style s =>
    by_cases h : style = .plain ∧ s = ""
    · simp [h, eq_comm]
    · simp [h, reject_ne_ok]
  | _ => simp [reject_ne_ok]

theorem field_ok_iff {known : List String} {d : Document} {key : Node} {name : String} :
    field known d key = .ok name ↔ d.HasText key name ∧ name ∈ known := by
  simp only [field, Result.bind_eq_ok, textAs_ok_iff]
  constructor
  · rintro ⟨s, hs, h⟩
    split at h
    · next hk =>
      obtain rfl := Result.pure_eq_ok.mp h
      exact ⟨hs, List.contains_iff_mem.mp hk⟩
    · cases h
  · rintro ⟨hs, hk⟩
    exact ⟨name, hs, if_pos (List.contains_iff_mem.mpr hk)⟩

theorem fill_ok_iff {α : Type} {name : String} {before o : Option α} {read : Result α} :
    fill name before read = .ok o ↔ before = none ∧ ∃ a, read = .ok a ∧ o = some a := by
  cases before with
  | some b => simp [fill]
  | none => simp only [fill, Result.map_eq_ok, true_and, @eq_comm _ _ o]

/-- A field is filled if it held nothing and its value means something to it. -/
theorem fill_put_ok_iff {α σ : Type} {name : String} {before : Option α} {read : Result α}
    {Means : α → Prop} (hread : ∀ a, read = .ok a ↔ Means a) {put : Option α → σ} {t : σ} :
    (do return put (← fill name before read) : Result σ) = .ok t ↔
      before = none ∧ ∃ a, Means a ∧ t = put (some a) := by
  simp only [Result.bind_eq_ok, fill_ok_iff, Result.pure_eq_ok, hread]
  constructor
  · rintro ⟨_, ⟨hnone, a, ha, rfl⟩, rfl⟩
    exact ⟨hnone, a, ha, rfl⟩
  · rintro ⟨hnone, a, ha, rfl⟩
    exact ⟨some a, ⟨hnone, a, ha, rfl⟩, rfl⟩

theorem required_ok_iff {α : Type} {name : String} {o : Option α} {a : α} :
    required name o = .ok a ↔ o = some a := by
  cases o <;> simp [required]

/-- A text is read if it is one whole document and this is read. -/
theorem fromText_ok_iff {α : Type} {read : Document → Node → Result α} {contents : String} {a : α} :
    fromText read contents = .ok a ↔ (Document.ofText contents).IsWhole ∧
      read (Document.ofText contents) (Document.ofText contents).root = .ok a := by
  unfold fromText
  generalize Document.ofText contents = d
  simp only [Result.bind_eq_ok]
  constructor
  · rintro ⟨b, hread, h⟩
    cases hf : d.fault with
    | some f => simp [hf] at h
    | none =>
      cases ha : d.followed with
      | true => simp [hf, ha] at h
      | false =>
        simp only [hf, ha, Bool.false_eq_true, ↓reduceIte, Result.pure_eq_ok] at h
        exact ⟨⟨hf, ha⟩, h ▸ hread⟩
  · rintro ⟨⟨hf, ha⟩, hread⟩
    exact ⟨a, hread, by simp [hf, ha, Result.pure_eq_ok]⟩

end CaseFile

end EngineTrials
