import EngineTrials.Path
import EngineTrials.Proofs.Lines
import Mathlib.Data.List.Basic

/-!
# Names put behind a path

A name without slashes adds one component behind those of a path, or none if it is empty or `.`.
The steps of a path are its components without the `.` that it may open with; they are what the
paths to the nodes below a directory differ in.
-/
namespace EngineTrials.Path
open Text

/-- The pieces between slashes, the empty one in front of the root included. -/
def cut (cs : List Char) : List (List Char) :=
  pieces (· == '/') cs

theorem cut_ne_nil (cs : List Char) : cut cs ≠ [] := pieces_ne_nil _ cs

theorem cut_append_slash (cs ds : List Char) : cut (cs ++ '/' :: ds) = cut cs ++ cut ds := by
  simp only [cut, pieces_eq_splitOnP]
  exact List.splitOnP_append_cons cs ds rfl

theorem cut_of_not_mem {cs : List Char} (h : '/' ∉ cs) : cut cs = [cs] := by
  rw [cut, pieces_eq_splitOnP]
  refine List.splitOnP_eq_singleton fun c hc => ?_
  rw [beq_eq_false_iff_ne]
  rintro rfl
  exact h hc

/-- The component that a path opens with if it is not a name or `..`. -/
def opening (cs : List Char) : List Component :=
  if cs.head? = some '/' then [.root]
  else if (cut cs).head? = some ['.'] then [.current]
  else []

/-- The components for names and `..`. -/
def passed (cs : List Char) : List Component :=
  ((cut cs).filter fun s => !isTrivial s).map componentOf

theorem components_eq (p : Path) : p.components = opening p.chars ++ passed p.chars := by
  by_cases habsolute : p.isAbsolute = true
  · have hhead : p.chars.head? = some '/' := eq_of_beq habsolute
    obtain ⟨cs, hcs⟩ := List.head?_eq_some_iff.mp hhead
    have hcut : cut p.chars = [] :: cut cs := by
      rw [hcs]
      exact cut_append_slash [] cs
    rw [components, if_pos habsolute, segments, if_pos habsolute, opening, if_pos hhead, passed,
      hcut, hcs]
    rfl
  · have hhead : ¬ p.chars.head? = some '/' := fun hhead => habsolute (beq_iff_eq.mpr hhead)
    have hopens : p.opensCurrent = ((cut p.chars).head? == some ['.']) := by
      rw [opensCurrent, segments, if_neg habsolute, Bool.eq_false_iff.mpr habsolute]
      rfl
    rw [components, if_neg habsolute, segments, if_neg habsolute, hopens, opening, if_neg hhead]
    by_cases hcurrent : (cut p.chars).head? = some ['.']
    · rw [hcurrent]
      rfl
    · rw [if_neg hcurrent, if_neg (by simpa using hcurrent)]
      rfl

/-- The components that a name without slashes stands for behind others. -/
def stepsOf (name : String) : List Component :=
  if isTrivial name.toList then [] else [componentOf name.toList]

theorem stepsOf_current : stepsOf "." = [] := by decide +kernel

theorem stepsOf_parent : stepsOf ".." = [.parent] := by decide +kernel

/-- A name that says something leads down. -/
theorem stepsOf_of_ne {name : String} (hempty : name ≠ "") (hcurrent : name ≠ ".")
    (hparent : name ≠ "..") : stepsOf name = [.name name] := by
  have htrivial : isTrivial name.toList = false := by
    rw [isTrivial, Bool.or_eq_false_iff, beq_eq_false_iff_ne, beq_eq_false_iff_ne]
    exact ⟨fun hnil => hempty (String.toList_inj.mp hnil),
      fun hpoint => hcurrent (String.toList_inj.mp hpoint)⟩
  have hname : (name.toList == ['.', '.']) = false := by
    rw [beq_eq_false_iff_ne]
    exact fun hpoints => hparent (String.toList_inj.mp hpoints)
  rw [stepsOf, htrivial, if_neg Bool.false_ne_true, componentOf, hname,
    if_neg Bool.false_ne_true, String.ofList_toList]

theorem passed_name {name : String} (h : '/' ∉ name.toList) :
    passed name.toList = stepsOf name := by
  rw [passed, cut_of_not_mem h, stepsOf, List.filter_cons, List.filter_nil]
  cases isTrivial name.toList <;> rfl

theorem isAbsolute_name {name : String} (h : '/' ∉ name.toList) : isAbsolute ⟨name⟩ = false := by
  rw [isAbsolute, beq_eq_false_iff_ne]
  intro hhead
  exact h (List.mem_of_head? hhead)

/-- One slash is put in front of a relative path unless there is one. -/
theorem exists_chars_join {p q : Path} (hp : p.chars ≠ []) (hq : q.isAbsolute = false) : ∃ front,
    (p.chars = front ∨ p.chars = front ++ ['/']) ∧ (p.join q).chars = front ++ '/' :: q.chars := by
  have hempty : p.chars.isEmpty = false := List.isEmpty_eq_false_iff.mpr hp
  by_cases hslash : p.chars.getLast? = some '/'
  · obtain ⟨front, hfront⟩ := List.getLast?_eq_some_iff.mp hslash
    refine ⟨front, .inr hfront, ?_⟩
    rw [join, hq, if_neg Bool.false_ne_true, hslash, if_pos (by simp), chars, String.toList_append]
    rw [show p.text.toList = front ++ ['/'] from hfront, List.append_assoc]
    rfl
  · refine ⟨p.chars, .inl rfl, ?_⟩
    rw [join, hq, if_neg Bool.false_ne_true, hempty, if_neg (by simpa using hslash), chars,
      String.toList_append, String.toList_append, List.append_assoc]
    rfl

/-- What is put behind a path does not change how it begins. -/
theorem head?_join {p q : Path} (hp : p.chars ≠ []) (hq : q.isAbsolute = false) :
    (p.join q).chars.head? = p.chars.head? := by
  obtain ⟨front, hfront | hfront, hjoin⟩ := exists_chars_join hp hq
  · rw [hjoin, hfront, List.head?_append_of_ne_nil _ (hfront ▸ hp)]
  · rw [hjoin, hfront]
    cases front <;> rfl

theorem isAbsolute_join_relative {p q : Path} (hp : p.chars ≠ []) (hq : q.isAbsolute = false) :
    (p.join q).isAbsolute = p.isAbsolute := by
  rw [isAbsolute, head?_join hp hq, isAbsolute]

theorem isAbsolute_join {p : Path} (hp : p.chars ≠ []) {name : String} (h : '/' ∉ name.toList) :
    (p.join ⟨name⟩).isAbsolute = p.isAbsolute :=
  isAbsolute_join_relative hp (isAbsolute_name h)

/-- Of a relative path only the `.` that it opens with says nothing behind others. -/
theorem components_join_relative {p q : Path} (hp : p.chars ≠ []) (hq : q.isAbsolute = false) :
    (p.join q).components = p.components ++ passed q.chars := by
  obtain ⟨front, hfront, hjoin⟩ := exists_chars_join hp hq
  have hcut : cut p.chars = cut front ∨ cut p.chars = cut front ++ [[]] := by
    obtain hfront | hfront := hfront
    · exact .inl (by rw [hfront])
    · exact .inr (by rw [hfront, cut_append_slash]; rfl)
  have hpassed : passed (front ++ '/' :: q.chars) = passed p.chars ++ passed q.chars := by
    have hsame : passed p.chars = passed front := by
      obtain hcut | hcut := hcut
      · rw [passed, hcut, passed]
      · rw [passed, hcut, List.filter_append, passed]
        exact congrArg _ (List.append_nil _)
    rw [hsame, passed, cut_append_slash, List.filter_append, List.map_append]
    rfl
  have hopening : opening (front ++ '/' :: q.chars) = opening p.chars := by
    have hhead : (front ++ '/' :: q.chars).head? = p.chars.head? := hjoin ▸ head?_join hp hq
    have hfirst : (cut (front ++ '/' :: q.chars)).head? = (cut p.chars).head? := by
      rw [cut_append_slash, List.head?_append_of_ne_nil _ (cut_ne_nil front)]
      obtain hcut | hcut := hcut
      · rw [hcut]
      · rw [hcut, List.head?_append_of_ne_nil _ (cut_ne_nil front)]
    rw [opening, hhead, hfirst, opening]
  rw [components_eq, components_eq, hjoin, hpassed, hopening, List.append_assoc]

theorem components_join {p : Path} (hp : p.chars ≠ []) {name : String} (h : '/' ∉ name.toList) :
    (p.join ⟨name⟩).components = p.components ++ stepsOf name := by
  rw [components_join_relative hp (isAbsolute_name h), ← passed_name h]
  rfl

/-- Whether a component leads on from a directory. -/
def Component.isStep : Component → Bool
  | .parent | .name _ => true
  | .root | .current => false

/-- The components that lead on from where the path starts. -/
def steps (p : Path) : List Component :=
  p.components.filter Component.isStep

theorem isStep_of_mem_passed {cs : List Char} {c : Component} (h : c ∈ passed cs) :
    c.isStep = true := by
  obtain ⟨s, -, rfl⟩ := List.mem_map.mp h
  rw [componentOf]
  split <;> rfl

theorem steps_eq_passed (p : Path) : p.steps = passed p.chars := by
  have hopening : (opening p.chars).filter Component.isStep = [] := by
    rw [opening]
    split
    · rfl
    · split <;> rfl
  rw [steps, components_eq, List.filter_append, hopening, List.nil_append]
  exact List.filter_eq_self.mpr fun _ => isStep_of_mem_passed

theorem steps_name {name : String} (h : '/' ∉ name.toList) : steps ⟨name⟩ = stepsOf name := by
  rw [steps_eq_passed]
  exact passed_name h

theorem steps_join {p : Path} (hp : p.chars ≠ []) {name : String} (h : '/' ∉ name.toList) :
    (p.join ⟨name⟩).steps = p.steps ++ stepsOf name := by
  rw [steps, components_join hp h, List.filter_append, ← passed_name h]
  exact congrArg _ (List.filter_eq_self.mpr fun _ => isStep_of_mem_passed)

end EngineTrials.Path
