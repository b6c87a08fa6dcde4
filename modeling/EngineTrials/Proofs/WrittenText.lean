import EngineTrials.Proofs.EscapedQuery
import EngineTrials.Proofs.Words
import EngineTrials.Toml.Document

/-!
# Texts written into a file

Any text whatever can be given to a key: with each character written by its number, it stands
between quotes on one line, and the line is read back as the key and the text. Nothing in front of
the quotes depends on the text, and behind them the line is over.
-/
namespace EngineTrials.Toml
open Text

/-- A text with each character by its number. -/
def written (cs : List Char) : List Char :=
  cs.flatMap fun c => '\\' :: 'U' :: padded 16 8 c.toNat

theorem written_cons (c : Char) (cs rest : List Char) :
    written (c :: cs) ++ rest = '\\' :: 'U' :: (padded 16 8 c.toNat ++ (written cs ++ rest)) := by
  simp [written]

theorem length_le_length_written (cs : List Char) : cs.length ≤ (written cs).length := by
  induction cs with
  | nil => exact Nat.le_refl 0
  | cons c cs ih =>
    have hcons := congrArg List.length (written_cons c cs [])
    simp only [List.append_nil, List.length_cons, List.length_append] at hcons ⊢
    omega

theorem charOf?_toNat (c : Char) : charOf? c.toNat = some c := by
  have hvalid : c.toNat.isValidChar := c.valid
  rw [charOf?, dif_pos hvalid]
  rfl

/-- The eight digits of a character, and no more of what follows, are taken for it. -/
theorem escape_padded (c : Char) (rest : List Char) :
    escape ('U' :: (padded 16 8 c.toNat ++ rest)) = some (c, rest) := by
  have hlength : (padded 16 8 c.toNat).length = 8 :=
    length_padded (by decide) (Query.toNat_lt_of_width_eight c)
  have hvalue : natural? 16 (padded 16 8 c.toNat) = some c.toNat := by
    rw [natural?, foldDigits?_padded]
    intro hnil
    rw [hnil] at hlength
    cases hlength
  rw [escape, hexEscape, List.take_left' hlength, List.drop_left' hlength, hvalue,
    Option.bind_some, charOf?_toNat, if_neg (by omega)]
  rfl

theorem lineString_written (cs rest : List Char) {fuel : Nat} (hfuel : cs.length < fuel) :
    lineString '"' fuel (written cs ++ '"' :: rest) = some (cs, rest) := by
  induction cs generalizing fuel with
  | nil =>
    obtain ⟨fuel, rfl⟩ := Nat.exists_eq_add_one_of_ne_zero (Nat.ne_zero_of_lt hfuel)
    rfl
  | cons c cs ih =>
    obtain ⟨fuel, rfl⟩ := Nat.exists_eq_add_one_of_ne_zero (Nat.ne_zero_of_lt hfuel)
    have hrest := ih (Nat.lt_of_succ_lt_succ hfuel)
    rw [written_cons, lineString, if_neg (by decide), if_pos ⟨rfl, rfl⟩, escape_padded]
    simp only [Option.bind_eq_bind, Option.bind_some, hrest]
    rfl

/-- The first quote opens one line: two more do not follow it, not even for the empty text. -/
theorem quoted_written (cs : List Char) :
    quoted true ('"' :: (written cs ++ ['"'])) = some (String.ofList cs, []) := by
  have hblock : (written cs ++ ['"']).take 2 ≠ ['"', '"'] := by
    cases cs with
    | nil => decide
    | cons c cs =>
      rw [written_cons]
      intro heq
      exact absurd (List.cons.inj heq).1 (by decide)
  have hfuel : cs.length < (written cs ++ ['"']).length + 1 := by
    have hlength := length_le_length_written cs
    rw [List.length_append]
    omega
  rw [quoted, if_neg (by decide), if_neg fun h => hblock h.2, lineString_written cs [] hfuel]
  rfl

theorem value_written (fuel : Nat) (text : String) :
    value (fuel + 1) depthLimit ('"' :: (written text.toList ++ ['"'])) =
      some (.string text, []) := by
  rw [value, if_pos (.inl rfl), quoted_written, String.ofList_toList]
  · rfl
  all_goals
    intro heq
    exact absurd heq (by decide)

/-- Keys that can stand without quotes. -/
structure IsBareKey (key : String) : Prop where
  nonempty : key.toList ≠ []
  bare : ∀ c ∈ key.toList, isKeyChar c = true

variable {key : String}

theorem IsBareKey.exists_first (h : IsBareKey key) :
    ∃ c cs, key.toList = c :: cs ∧ isKeyChar c = true := by
  obtain ⟨c, cs, hcs⟩ := List.exists_cons_of_ne_nil h.nonempty
  exact ⟨c, cs, hcs, h.bare c (hcs ▸ List.mem_cons_self)⟩

theorem ne_of_isKeyChar {c d : Char} (hc : isKeyChar c = true) (hd : isKeyChar d = false) :
    c ≠ d := by
  rintro rfl
  rw [hc] at hd
  cases hd

theorem skipSpaces_bare (h : IsBareKey key) (rest : List Char) :
    skipSpaces (key.toList ++ rest) = key.toList ++ rest := by
  obtain ⟨c, cs, hcs, hc⟩ := h.exists_first
  have hspace : isSpace c = false := by
    rw [isSpace, Bool.or_eq_false_iff, beq_eq_false_iff_ne, beq_eq_false_iff_ne]
    exact ⟨ne_of_isKeyChar hc (by decide), ne_of_isKeyChar hc (by decide)⟩
  rw [hcs]
  exact List.dropWhile_cons_of_neg (ne_true_of_eq_false hspace)

theorem afterBreak?_of_isKeyChar {c : Char} (hc : isKeyChar c = true) (rest : List Char) :
    afterBreak? (c :: rest) = none := by
  unfold afterBreak?
  split
  case h_1 heq => exact absurd (List.cons.inj heq).1 (ne_of_isKeyChar hc (by decide))
  case h_2 heq => exact absurd (List.cons.inj heq).1 (ne_of_isKeyChar hc (by decide))
  case h_3 => rfl

theorem simpleKey_bare (h : IsBareKey key) {rest : List Char}
    (hrest : ∀ c ∈ rest.head?, isKeyChar c = false) :
    simpleKey (key.toList ++ rest) = some (key, rest) := by
  have hdrop : (key.toList ++ rest).dropWhile isKeyChar = rest := by
    rw [List.dropWhile_append_of_pos h.bare, dropWhile_of_head? hrest]
  have htake : (key.toList ++ rest).takeWhile isKeyChar = key.toList := by
    have hwhole : (key.toList ++ rest).takeWhile isKeyChar ++
        (key.toList ++ rest).dropWhile isKeyChar = key.toList ++ rest :=
      List.takeWhile_append_dropWhile
    rw [hdrop] at hwhole
    exact List.append_cancel_right hwhole
  obtain ⟨c, cs, hcs, hc⟩ := h.exists_first
  have hquote : ¬ (c = '"' ∨ c = '\'') := by
    rintro (hdouble | hsingle)
    · exact ne_of_isKeyChar hc (by decide) hdouble
    · exact ne_of_isKeyChar hc (by decide) hsingle
  have hkey : String.ofList (c :: cs) = key := by rw [← hcs, String.ofList_toList]
  rw [hcs, List.cons_append] at htake hdrop ⊢
  rw [simpleKey, if_neg hquote]
  simp only [htake, hdrop, hkey]
  rfl

theorem path_bare (h : IsBareKey key) (rest : List Char) :
    path (key.toList ++ ' ' :: '=' :: rest) = some ([key], '=' :: rest) := by
  have hspace : ∀ c ∈ (' ' :: '=' :: rest).head?, isKeyChar c = false := by
    rintro c hc
    cases hc
    decide
  rw [path, dottedKey, skipSpaces_bare h, simpleKey_bare h hspace]
  rfl

/-- A line that gives a text to a key. -/
def assignment (key text : String) : String :=
  String.ofList (key.toList ++ ' ' :: '=' :: ' ' :: '"' :: (written text.toList ++ ['"']))

theorem line_assignment (h : IsBareKey key) (text : String) :
    line (assignment key text).toList = some (.assignment [key] (.string text), []) := by
  have hpath := path_bare h (' ' :: '"' :: (written text.toList ++ ['"']))
  have hspace : skipSpaces (' ' :: '"' :: (written text.toList ++ ['"'])) =
      '"' :: (written text.toList ++ ['"']) := rfl
  obtain ⟨c, cs, hcs, hc⟩ := h.exists_first
  have hbracket : c ≠ '[' := ne_of_isKeyChar hc (by decide)
  have hblank (rest : List Char) : ¬ (c = '#' ∨ (afterBreak? (c :: rest)).isSome) := by
    rw [afterBreak?_of_isKeyChar hc]
    rintro (hcomment | hbreak)
    · exact ne_of_isKeyChar hc (by decide) hcomment
    · cases hbreak
  rw [assignment, String.toList_ofList, line, skipSpaces_bare h]
  rw [hcs, List.cons_append] at hpath ⊢
  -- Only the last of the four kinds of line begins with a character of a key.
  split
  case h_1 heq => exact absurd (List.cons.inj heq).1 hbracket
  case h_2 heq => exact absurd (List.cons.inj heq).1 hbracket
  case h_3 heq => cases heq
  case h_4 heq =>
    obtain ⟨rfl, rfl⟩ := List.cons.inj heq
    rw [if_neg (hblank _), hpath]
    simp only [Option.bind_eq_bind, Option.bind_some, expect, if_true, hspace, value_written]
    rfl

/-- A file with one such line says that the key has the text, and nothing else. -/
theorem read?_assignment (h : IsBareKey key) (text : String) :
    read? (assignment key text) = some ⟨.declared, [(key, .string text)]⟩ := by
  have hmark : (assignment key text).toList.head? ≠ some '\ufeff' := by
    obtain ⟨c, cs, hcs, hc⟩ := h.exists_first
    rw [assignment, String.toList_ofList, hcs, List.cons_append, List.head?_cons]
    exact fun heq => ne_of_isKeyChar hc (by decide) (Option.some.inj heq)
  rw [read?]
  simp only [if_neg hmark, lines?, line_assignment h text, Option.bind_eq_bind, Option.bind_some]
  rfl

end EngineTrials.Toml
