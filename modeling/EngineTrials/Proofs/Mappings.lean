import EngineTrials.Proofs.Reading
import Mathlib.Data.List.Forall2
import Mathlib.Data.List.Induction

/-!
# Reading mappings

A reader of a mapping takes in its entries one by one. Two kinds of reader are told here as a whole
from what one step does: that of a record, whose keys each fill a field that holds nothing yet, and
that of an ordered mapping, which keeps its entries in order and lets no key come twice.
-/
namespace EngineTrials

namespace Yaml.Document

variable {ι : Type}

/-- Entries whose keys are the names of these fields, with the values of the fields. -/
def AreFields (d : Document) (name : ι → String) (es : List (Node × Node))
    (fields : List (ι × Node)) : Prop :=
  List.Forall₂ (fun e f => d.HasText e.1 (name f.1) ∧ e.2 = f.2) es fields

/-- A mapping of these fields, none of which comes twice. -/
def HasFields (d : Document) (name : ι → String) (n : Node) (fields : List (ι × Node)) : Prop :=
  (∃ es, d.HasEntries n es ∧ d.AreFields name es fields) ∧ (fields.map (·.1)).Nodup

end Yaml.Document

namespace Yaml.Entries

theorem ofList_cons (e : Node × Node) (es : List (Node × Node)) :
    ofList (e :: es) = .cons e.1 e.2 (.ofList es) := rfl

/-- Entries without a fault are a list. -/
theorem ofList_toList : ∀ es : Entries, es.fault? = none → ofList es.toList = es
  | .done, _ => rfl
  | .broken _, h => by cases h
  | .cons key value rest, h => by
    rw [toList, ofList_cons, ofList_toList rest h]

end Yaml.Entries

namespace CaseFile
open Yaml

theorem foldEntries_ofList {σ : Type} (step : σ → Node → Node → Result σ) (s : σ)
    (es : List (Node × Node)) :
    foldEntries step s (.ofList es) = es.foldlM (fun s e => step s e.1 e.2) s := by
  induction es generalizing s with
  | nil => rfl
  | cons e es ih => simp only [Yaml.Entries.ofList_cons, foldEntries, List.foldlM_cons, ih]

theorem fault?_of_foldEntries {σ : Type} {step : σ → Node → Node → Result σ} {t : σ} :
    ∀ {s : σ} {es : Yaml.Entries}, foldEntries step s es = .ok t → es.fault? = none
  | _, .done, _ => rfl
  | _, .broken _, h => by cases h
  | _, .cons _ _ rest, h => by
    obtain ⟨s', -, h⟩ := Result.bind_eq_ok.mp h
    have hrest : rest.fault? = none := fault?_of_foldEntries h
    exact hrest

/-- A mapping is read by taking in its entries in order. -/
theorem readEntries_ok_iff {σ : Type} {step : σ → Node → Node → Result σ} {wanted : String}
    {d : Document} {n : Node} {s t : σ} :
    (entries wanted d n >>= foldEntries step s) = .ok t ↔
      ∃ es, d.HasEntries n es ∧ es.foldlM (fun s e => step s e.1 e.2) s = .ok t := by
  rw [Result.bind_eq_ok]
  constructor
  · rintro ⟨es, hes, h⟩
    have hlist := Yaml.Entries.ofList_toList es (fault?_of_foldEntries h)
    refine ⟨es.toList, ?_, by rw [← foldEntries_ofList, hlist, h]⟩
    rcases entries_ok_iff.mp hes with ⟨p, hv⟩ | ⟨hv, rfl⟩
    · exact .inl ⟨p, by rw [hlist, hv]⟩
    · exact .inr ⟨hv, rfl⟩
  · rintro ⟨es, hes, h⟩
    refine ⟨.ofList es, entries_ok_iff.mpr ?_, by rw [foldEntries_ofList, h]⟩
    rcases hes with ⟨p, hv⟩ | ⟨hv, rfl⟩
    · exact .inl ⟨p, hv⟩
    · exact .inr ⟨hv, rfl⟩

theorem readEntries_of_hasEntries {σ : Type} (step : σ → Node → Node → Result σ) {wanted : String}
    {d : Document} {n : Node} {es : List (Node × Node)} (h : d.HasEntries n es) (s : σ) :
    (entries wanted d n >>= foldEntries step s) = es.foldlM (fun s e => step s e.1 e.2) s := by
  have hentries : entries wanted d n = .ok (.ofList es) := by
    rw [entries_ok_iff]
    rcases h with ⟨p, hv⟩ | ⟨hv, rfl⟩
    · exact .inl ⟨p, hv⟩
    · exact .inr ⟨hv, rfl⟩
  rw [hentries, ← foldEntries_ofList]
  rfl

/-- The first entry that cannot be taken in is the one complained about. -/
theorem foldlM_eq_error {σ : Type} {step : σ → Node → Node → Result σ}
    {front : List (Node × Node)} {e : Node × Node} {s t : σ} {problem : Problem}
    (hfront : front.foldlM (fun s e => step s e.1 e.2) s = .ok t)
    (he : step t e.1 e.2 = .error problem) (rest : List (Node × Node)) :
    (front ++ e :: rest).foldlM (fun s e => step s e.1 e.2) s = .error problem := by
  rw [List.foldlM_append, hfront]
  show (e :: rest).foldlM (fun s e => step s e.1 e.2) t = .error problem
  rw [List.foldlM_cons, he]
  rfl

/-- The fields of a record that is being read. Each holds a value or nothing, and can be given one
without a change to the others. -/
structure Slots (σ : Type) (ι : Type) (α : ι → Type) where
  get : (i : ι) → σ → Option (α i)
  put : (i : ι) → α i → σ → σ
  get_put : ∀ i a s, get i (put i a s) = some a
  get_put_ne : ∀ i j a s, j ≠ i → get j (put i a s) = get j s
  ext : ∀ s t, (∀ i, get i s = get i t) → s = t

section Records

variable {σ ι : Type} {α : ι → Type} {d : Document} {slots : Slots σ ι α} {name : ι → String}
  {Means : (i : ι) → Node → α i → Prop} {step : σ → Node → Node → Result σ}

/-- One entry is read into a field that holds nothing, and has to mean something to it. -/
def ReadsRecord (d : Document) (slots : Slots σ ι α) (name : ι → String)
    (Means : (i : ι) → Node → α i → Prop) (step : σ → Node → Node → Result σ) : Prop :=
  ∀ s key value t, step s key value = .ok t ↔
    ∃ i a, d.HasText key (name i) ∧ slots.get i s = none ∧ Means i value a ∧ t = slots.put i a s

/-- A reader that looks at the key first, and fills the field of that name. -/
theorem readsRecord_of_fields {known : List String} {body : σ → Node → Node → String → Result σ}
    (hknown : ∀ s, s ∈ known ↔ ∃ i, name i = s)
    (hbody : ∀ s key value i t, body s key value (name i) = .ok t ↔
      slots.get i s = none ∧ ∃ a, Means i value a ∧ t = slots.put i a s) :
    ReadsRecord d slots name Means fun s key value => field known d key >>= body s key value := by
  intro s key value t
  simp only [Result.bind_eq_ok, field_ok_iff]
  constructor
  · rintro ⟨_, ⟨hkey, hmem⟩, h⟩
    obtain ⟨i, rfl⟩ := (hknown _).mp hmem
    obtain ⟨hnone, a, ha, rfl⟩ := (hbody ..).mp h
    exact ⟨i, a, hkey, hnone, ha, rfl⟩
  · rintro ⟨i, a, hkey, hnone, ha, rfl⟩
    exact ⟨name i, ⟨hkey, (hknown _).mpr ⟨i, rfl⟩⟩, (hbody ..).mpr ⟨hnone, a, ha, rfl⟩⟩

/-- Fields with values of their kinds are read as far as they go, if none of them was met before.
The others are left as they were. -/
theorem ReadsRecord.exists_ok (h : ReadsRecord d slots name Means step) {es : List (Node × Node)}
    {fields : List (ι × Node)} (hes : d.AreFields name es fields)
    (hnodup : (fields.map (·.1)).Nodup) (hmeans : ∀ f ∈ fields, ∃ a, Means f.1 f.2 a) {s : σ}
    (hs : ∀ f ∈ fields, slots.get f.1 s = none) :
    ∃ t, es.foldlM (fun s e => step s e.1 e.2) s = .ok t ∧
      ∀ i ∉ fields.map (·.1), slots.get i t = slots.get i s := by
  induction hes generalizing s with
  | nil => exact ⟨s, rfl, fun _ _ => rfl⟩
  | @cons e f es fields hfield hes ih =>
    obtain ⟨hkey, hvalue⟩ := hfield
    obtain ⟨hfirst, hrest⟩ := List.nodup_cons.mp hnodup
    obtain ⟨⟨a, ha⟩, hmeans⟩ := List.forall_mem_cons.mp hmeans
    obtain ⟨hnone, hs⟩ := List.forall_mem_cons.mp hs
    have hstep : step s e.1 e.2 = .ok (slots.put f.1 a s) :=
      (h ..).mpr ⟨f.1, a, hkey, hnone, hvalue ▸ ha, rfl⟩
    have hempty : ∀ g ∈ fields, slots.get g.1 (slots.put f.1 a s) = none := fun g hg => by
      have hne : g.1 ≠ f.1 := fun heq => hfirst (List.mem_map.mpr ⟨g, hg, heq⟩)
      rw [slots.get_put_ne _ _ _ _ hne, hs g hg]
    obtain ⟨t, ht, hkept⟩ := ih hrest hmeans hempty
    refine ⟨t, ?_, fun i hi => ?_⟩
    · rw [List.foldlM_cons, hstep]
      exact ht
    · have hne : i ≠ f.1 := List.ne_of_not_mem_cons hi
      rw [hkept i (List.not_mem_of_not_mem_cons hi), slots.get_put_ne _ _ _ _ hne]

/-- What a field held and what it holds once the value of its key, if that is there, was read. -/
def Filled {α : Type} (Means : Node → α → Prop) (before after : Option α) : Option Node → Prop
  | none => after = before
  | some v => before = none ∧ ∃ a, Means v a ∧ after = some a

theorem filled_none_iff {α : Type} {Means : Node → α → Prop} {after : Option α}
    {value : Option Node} : Filled Means none after value ↔ Option.Rel Means value after := by
  cases value with
  | none =>
    constructor
    · rintro rfl
      exact .none
    · rintro ⟨⟩
      rfl
  | some v =>
    constructor
    · rintro ⟨-, a, ha, rfl⟩
      exact .some ha
    · rintro (ha | -)
      exact ⟨rfl, _, ha, rfl⟩

theorem rel_some_iff {β γ : Type} {r : β → γ → Prop} {o : Option β} {c : γ} :
    Option.Rel r o (some c) ↔ ∃ b, o = some b ∧ r b c := by
  constructor
  · rintro (h | -)
    exact ⟨_, rfl, h⟩
  · rintro ⟨b, rfl, h⟩
    exact .some h

variable [DecidableEq ι]

theorem lookup_eq_none {i : ι} {fields : List (ι × Node)} (h : i ∉ fields.map (·.1)) :
    fields.lookup i = none := by
  rw [List.lookup_eq_none_iff]
  intro f hf
  simpa using fun hif : i = f.1 => h (hif ▸ List.mem_map_of_mem hf)

theorem lookup_of_mem {i : ι} {fields : List (ι × Node)} (h : i ∈ fields.map (·.1)) :
    ∃ v, fields.lookup i = some v := by
  rw [← Option.isSome_iff_exists, ← Option.ne_none_iff_isSome]
  intro hnone
  obtain ⟨f, hf, rfl⟩ := List.mem_map.mp h
  simpa using List.lookup_eq_none_iff.mp hnone f hf

theorem lookup_eq_some_of_mem {f : ι × Node} {fields : List (ι × Node)}
    (hnodup : (fields.map (·.1)).Nodup) (hf : f ∈ fields) : fields.lookup f.1 = some f.2 := by
  obtain ⟨front, rest, rfl⟩ := List.append_of_mem hf
  rw [List.map_append, List.map_cons, List.nodup_append] at hnodup
  obtain ⟨-, -, hapart⟩ := hnodup
  refine List.lookup_eq_some_iff.mpr ⟨front, rest, rfl, fun g hg => bne_iff_ne.mpr fun heq => ?_⟩
  exact hapart g.1 (List.mem_map_of_mem hg) f.1 List.mem_cons_self heq.symm

theorem lookup_cons_ne {i j : ι} {v : Node} {fields : List (ι × Node)} (h : j ≠ i) :
    ((i, v) :: fields).lookup j = fields.lookup j := by
  rw [List.lookup_cons, beq_false_of_ne h]

/-- A record before and after these fields were read into it. -/
def FilledBy (slots : Slots σ ι α) (Means : (i : ι) → Node → α i → Prop)
    (fields : List (ι × Node)) (s t : σ) : Prop :=
  ∀ i, Filled (Means i) (slots.get i s) (slots.get i t) (fields.lookup i)

theorem FilledBy.nil_iff {s t : σ} : FilledBy slots Means [] s t ↔ s = t := by
  constructor
  · exact fun h => slots.ext s t fun i => (h i).symm
  · rintro rfl i
    rfl

/-- A field that is filled already is not read again. -/
theorem FilledBy.not_mem {i : ι} {a : α i} {fields : List (ι × Node)} {s t : σ}
    (h : FilledBy slots Means fields (slots.put i a s) t) : i ∉ fields.map (·.1) := by
  intro hmem
  obtain ⟨v, hv⟩ := lookup_of_mem hmem
  have hi := h i
  rw [hv, slots.get_put] at hi
  cases hi.1

theorem FilledBy.cons_iff {i : ι} {v : Node} {fields : List (ι × Node)} {s t : σ}
    (hi : i ∉ fields.map (·.1)) :
    FilledBy slots Means ((i, v) :: fields) s t ↔
      slots.get i s = none ∧
        ∃ a, Means i v a ∧ FilledBy slots Means fields (slots.put i a s) t := by
  constructor
  · intro h
    have hown := h i
    rw [List.lookup_cons_self] at hown
    obtain ⟨hnone, a, hmeans, hget⟩ := hown
    refine ⟨hnone, a, hmeans, fun j => ?_⟩
    by_cases hj : j = i
    · subst hj
      rw [lookup_eq_none hi, slots.get_put]
      exact hget
    · have hother := h j
      rw [lookup_cons_ne hj] at hother
      rwa [slots.get_put_ne _ _ _ _ hj]
  · rintro ⟨hnone, a, hmeans, h⟩ j
    by_cases hj : j = i
    · subst hj
      have hown := h j
      rw [lookup_eq_none hi, slots.get_put] at hown
      rw [List.lookup_cons_self]
      exact ⟨hnone, a, hmeans, hown⟩
    · have hother := h j
      rw [slots.get_put_ne _ _ _ _ hj] at hother
      rwa [lookup_cons_ne hj]

/-- A record is read if no field comes twice and each that comes has a value of its kind. The others
are left as they were. -/
theorem ReadsRecord.run (h : ReadsRecord d slots name Means step) (es : List (Node × Node))
    (s t : σ) :
    es.foldlM (fun s e => step s e.1 e.2) s = .ok t ↔
      ∃ fields, d.AreFields name es fields ∧ (fields.map (·.1)).Nodup ∧
        FilledBy slots Means fields s t := by
  induction es generalizing s with
  | nil =>
    simp only [List.foldlM_nil, Result.pure_eq_ok, Document.AreFields, List.forall₂_nil_left_iff]
    constructor
    · rintro rfl
      exact ⟨[], rfl, .nil, FilledBy.nil_iff.mpr rfl⟩
    · rintro ⟨_, rfl, -, hfilled⟩
      exact FilledBy.nil_iff.mp hfilled
  | cons e es ih =>
    rw [List.foldlM_cons, Result.bind_eq_ok]
    constructor
    · rintro ⟨s', hstep, hrest⟩
      obtain ⟨i, a, hkey, hnone, hmeans, rfl⟩ := (h ..).mp hstep
      obtain ⟨fields, hfields, hnodup, hfilled⟩ := (ih _).mp hrest
      -- The rest is read into a record that has the field, so its key does not come again.
      have hi := hfilled.not_mem
      exact ⟨(i, e.2) :: fields, .cons ⟨hkey, rfl⟩ hfields, List.nodup_cons.mpr ⟨hi, hnodup⟩,
        (FilledBy.cons_iff hi).mpr ⟨hnone, a, hmeans, hfilled⟩⟩
    · rintro ⟨_, hfields, hnodup, hfilled⟩
      obtain ⟨⟨i, v⟩, fields, ⟨hkey, rfl⟩, hrest, rfl⟩ := List.forall₂_cons_left_iff.mp hfields
      obtain ⟨hi, hnodup⟩ := List.nodup_cons.mp hnodup
      obtain ⟨hnone, a, hmeans, hfilled⟩ := (FilledBy.cons_iff hi).mp hfilled
      exact ⟨slots.put i a s, (h ..).mpr ⟨i, a, hkey, hnone, hmeans, rfl⟩,
        (ih _).mpr ⟨fields, hrest, hnodup, hfilled⟩⟩

/-- A record from which nothing was read before. -/
theorem ReadsRecord.read (h : ReadsRecord d slots name Means step) {wanted : String} {n : Node}
    {s t : σ} (hs : ∀ i, slots.get i s = none) :
    (entries wanted d n >>= foldEntries step s) = .ok t ↔
      ∃ fields, d.HasFields name n fields ∧
        ∀ i, Option.Rel (Means i) (fields.lookup i) (slots.get i t) := by
  simp only [readEntries_ok_iff, h.run, FilledBy, hs, filled_none_iff, Document.HasFields]
  constructor
  · rintro ⟨es, hes, fields, hfields, hnodup, hrel⟩
    exact ⟨fields, ⟨⟨es, hes, hfields⟩, hnodup⟩, hrel⟩
  · rintro ⟨fields, ⟨⟨es, hes, hfields⟩, hnodup⟩, hrel⟩
    exact ⟨es, hes, fields, hfields, hnodup, hrel⟩

end Records

section Ordered

variable {β κ : Type} {key : β → κ} {Means : Node → Node → β → Prop}
  {step : List β → Node → Node → Result (List β)}

theorem nodup_snoc {bs : List β} {b : β} :
    ((bs ++ [b]).map key).Nodup ↔ (bs.map key).Nodup ∧ key b ∉ bs.map key := by
  rw [List.map_append, List.map_singleton, List.nodup_append]
  simp

/-- Where a key comes twice, there is a first one that was met before. -/
theorem exists_first_repeated {bs : List β} (h : ¬ (bs.map key).Nodup) :
    ∃ front b rest, bs = front ++ b :: rest ∧ (front.map key).Nodup ∧ key b ∈ front.map key := by
  induction bs using List.reverseRecOn with
  | nil => exact absurd List.nodup_nil h
  | append_singleton bs b ih =>
    by_cases hbs : (bs.map key).Nodup
    · refine ⟨bs, b, [], rfl, hbs, ?_⟩
      by_contra hnew
      exact h (nodup_snoc.mpr ⟨hbs, hnew⟩)
    · obtain ⟨front, c, rest, rfl, hfront, hc⟩ := ih hbs
      exact ⟨front, c, rest ++ [b], by simp, hfront, hc⟩

/-- One entry is put behind those before it, none of which has its key. -/
def ReadsInOrder (key : β → κ) (Means : Node → Node → β → Prop)
    (step : List β → Node → Node → Result (List β)) : Prop :=
  ∀ bs k v cs, step bs k v = .ok cs ↔ ∃ b, Means k v b ∧ key b ∉ bs.map key ∧ cs = bs ++ [b]

/-- An ordered mapping is read if each entry means something and no two have the same key. -/
theorem ReadsInOrder.run (h : ReadsInOrder key Means step) (es : List (Node × Node))
    (bs cs : List β) (hbs : (bs.map key).Nodup) :
    es.foldlM (fun s e => step s e.1 e.2) bs = .ok cs ↔
      ∃ added, List.Forall₂ (fun e b => Means e.1 e.2 b) es added ∧
        ((bs ++ added).map key).Nodup ∧ cs = bs ++ added := by
  induction es generalizing bs with
  | nil =>
    simp only [List.foldlM_nil, Result.pure_eq_ok, List.forall₂_nil_left_iff]
    constructor
    · rintro rfl
      exact ⟨[], rfl, by simpa using hbs, by simp⟩
    · rintro ⟨_, rfl, -, rfl⟩
      simp
  | cons e es ih =>
    rw [List.foldlM_cons, Result.bind_eq_ok]
    constructor
    · rintro ⟨bs', hstep, hrest⟩
      obtain ⟨b, hb, hnew, rfl⟩ := (h ..).mp hstep
      obtain ⟨added, hadded, hnodup, rfl⟩ := (ih _ (nodup_snoc.mpr ⟨hbs, hnew⟩)).mp hrest
      rw [List.append_assoc] at hnodup ⊢
      exact ⟨b :: added, .cons hb hadded, hnodup, rfl⟩
    · rintro ⟨_, hadded, hnodup, rfl⟩
      obtain ⟨b, added, hb, hrest, rfl⟩ := List.forall₂_cons_left_iff.mp hadded
      rw [← List.singleton_append, ← List.append_assoc] at hnodup
      have hsnoc : ((bs ++ [b]).map key).Nodup := by
        rw [List.map_append, List.nodup_append] at hnodup
        exact hnodup.1
      exact ⟨bs ++ [b], (h ..).mpr ⟨b, hb, (nodup_snoc.mp hsnoc).2, rfl⟩,
        (ih _ hsnoc).mpr ⟨added, hrest, hnodup, by simp⟩⟩

/-- An ordered mapping from which nothing was read before. -/
theorem ReadsInOrder.read (h : ReadsInOrder key Means step) {wanted : String} {d : Document}
    {n : Node} {bs : List β} :
    (entries wanted d n >>= foldEntries step []) = .ok bs ↔
      ∃ es, d.HasEntries n es ∧ List.Forall₂ (fun e b => Means e.1 e.2 b) es bs ∧
        (bs.map key).Nodup := by
  simp only [readEntries_ok_iff, h.run _ [] bs .nil, List.nil_append]
  constructor
  · rintro ⟨es, hes, _, hall, hnodup, rfl⟩
    exact ⟨es, hes, hall, hnodup⟩
  · rintro ⟨es, hes, hall, hnodup⟩
    exact ⟨es, hes, bs, hall, hnodup, rfl⟩

end Ordered

end CaseFile

end EngineTrials
