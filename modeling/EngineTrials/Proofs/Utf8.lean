import EngineTrials.Text.Utf8
import Mathlib.Tactic.SplitIfs

/-!
# Reading UTF-8

The reader accepts what the writer writes and nothing else, and the writer writes what the bytes of
a string are. So a byte string has at most one text, and it has one exactly if it is valid UTF-8.
-/
namespace EngineTrials.Text.Utf8

theorem toNat_lt (c : Char) : c.toNat < 0x110000 := by
  have h := c.valid
  simp only [UInt32.isValidChar, Nat.isValidChar] at h
  change c.val.toNat < _
  omega

theorem scalar?_eq_some_iff {least n : Nat} {c : Char} :
    scalar? least n = some c ↔ least ≤ n ∧ c.toNat = n := by
  unfold scalar?
  constructor
  · intro h
    by_cases hn : least ≤ n ∧ n.isValidChar
    · rw [dif_pos hn] at h
      cases h
      exact ⟨hn.1, rfl⟩
    · rw [dif_neg hn] at h
      cases h
  · rintro ⟨hn, rfl⟩
    rw [dif_pos ⟨hn, c.valid⟩]
    rfl

theorem toNat_continuation (n : Nat) : (continuation n).toNat = 0x80 + n % 64 := by
  simp only [continuation, UInt8.toNat_ofNat']
  omega

theorem tailBits?_eq_some {b : UInt8} {x : Nat} (h : tailBits? b = some x) :
    x < 64 ∧ b.toNat = 0x80 + x := by
  simp only [tailBits?] at h
  split at h
  · obtain rfl := Option.some.inj h
    omega
  · cases h

theorem tailBits?_continuation (n : Nat) : tailBits? (continuation n) = some (n % 64) := by
  have h : 0x80 ≤ 0x80 + n % 64 ∧ 0x80 + n % 64 < 0xC0 := by omega
  simp only [tailBits?, toNat_continuation, if_pos h, Nat.add_sub_cancel_left]

theorem continuation_bind {α : Type} (n : Nat) (f : Nat → Option α) :
    (tailBits? (continuation n) >>= f) = f (n % 64) := by
  rw [tailBits?_continuation]
  rfl

theorem eq_continuation {b : UInt8} {x n : Nat} (h : tailBits? b = some x) (hn : n % 64 = x) :
    continuation n = b := by
  have hb := (tailBits?_eq_some h).2
  apply UInt8.toNat_inj.mp
  rw [toNat_continuation]
  omega

theorem ofNat_eq {b : UInt8} {n : Nat} (h : n = b.toNat) : UInt8.ofNat n = b := by
  rw [h, UInt8.ofNat_toNat]

theorem toNat_ofNat {n : Nat} (h : n < 256) : (UInt8.ofNat n).toNat = n := by
  rw [UInt8.toNat_ofNat', Nat.mod_eq_of_lt h]

theorem scalar?_toNat {c : Char} {least n : Nat} (hn : n = c.toNat) (h : least ≤ c.toNat) :
    scalar? least n = some c :=
  scalar?_eq_some_iff.mpr ⟨hn ▸ h, hn.symm⟩

/-- The bytes of a character in front of others are read as that character. -/
theorem decode?_encodeChar_append (c : Char) (rest : Bytes) :
    decode? (encodeChar c ++ rest) = (decode? rest).map (c :: ·) := by
  have hc := toNat_lt c
  simp only [encodeChar]
  split_ifs with h1 h2 h3
  · have hlead := toNat_ofNat (n := c.toNat) (by omega)
    have hs : scalar? 0 c.toNat = some c := scalar?_toNat rfl (Nat.zero_le _)
    rw [List.singleton_append, decode?.eq_def]
    simp only [hlead]
    rw [if_pos h1, hs]
    cases decode? rest <;> rfl
  · have hlead := toNat_ofNat (n := 0xC0 + c.toNat / 64) (by omega)
    have hs : scalar? 0x80 ((0xC0 + c.toNat / 64 - 0xC0) * 64 + c.toNat % 64) = some c :=
      scalar?_toNat (by omega) (by omega)
    rw [List.cons_append, decode?.eq_def]
    simp only [List.cons_append, List.nil_append, hlead]
    rw [if_neg (by omega), if_neg (by omega), if_pos (by omega), continuation_bind, hs]
    cases decode? rest <;> rfl
  · have hlead := toNat_ofNat (n := 0xE0 + c.toNat / 4096) (by omega)
    have hs : scalar? 0x800 ((0xE0 + c.toNat / 4096 - 0xE0) * 4096 + c.toNat / 64 % 64 * 64 +
        c.toNat % 64) = some c := scalar?_toNat (by omega) (by omega)
    rw [List.cons_append, decode?.eq_def]
    simp only [List.cons_append, List.nil_append, hlead]
    rw [if_neg (by omega), if_neg (by omega), if_neg (by omega), if_pos (by omega),
      continuation_bind, continuation_bind, hs]
    cases decode? rest <;> rfl
  · have hlead := toNat_ofNat (n := 0xF0 + c.toNat / 262144) (by omega)
    have hs : scalar? 0x10000 ((0xF0 + c.toNat / 262144 - 0xF0) * 262144 +
        c.toNat / 4096 % 64 * 4096 + c.toNat / 64 % 64 * 64 + c.toNat % 64) = some c :=
      scalar?_toNat (by omega) (by omega)
    rw [List.cons_append, decode?.eq_def]
    simp only [List.cons_append, List.nil_append, hlead]
    rw [if_neg (by omega), if_neg (by omega), if_neg (by omega), if_neg (by omega),
      continuation_bind, continuation_bind, continuation_bind, hs]
    cases decode? rest <;> rfl

theorem decode?_encode (cs : List Char) : decode? (encode cs) = some cs := by
  induction cs with
  | nil => simp [decode?]
  | cons c cs ih => rw [encode_cons, decode?_encodeChar_append, ih]; rfl

/-- What is known once the character after some bytes and the rest have been read. -/
theorem scalar?_then_decode? {least n : Nat} {rest : Bytes} {cs : List Char}
    (h : (do
      let c ← scalar? least n
      let cs ← decode? rest
      return c :: cs) = some cs) :
    ∃ c more, least ≤ n ∧ c.toNat = n ∧ decode? rest = some more ∧ cs = c :: more := by
  simp only [Option.bind_eq_bind, Option.bind_eq_some_iff] at h
  obtain ⟨c, hc, more, hrest, hcs⟩ := h
  obtain ⟨hleast, hn⟩ := scalar?_eq_some_iff.mp hc
  exact ⟨c, more, hleast, hn, hrest, (Option.some.inj hcs).symm⟩

/-- Whatever is read is what would have been written. -/
theorem encode_of_decode? {b : Bytes} {cs : List Char} (h : decode? b = some cs) :
    encode cs = b := by
  fun_induction decode? b generalizing cs with
  | case1 => cases h; rfl
  | case2 a rest ha ih =>
    obtain ⟨c, more, -, hc, hrest, rfl⟩ := scalar?_then_decode? h
    rw [encode_cons, ih hrest, encodeChar, if_pos (by omega), ofNat_eq hc]
    rfl
  | case3 => cases h
  | case4 a h1 h2 h3 b rest ih =>
    obtain ⟨x, hx, h⟩ := Option.bind_eq_some_iff.mp h
    obtain ⟨c, more, hleast, hc, hrest, rfl⟩ := scalar?_then_decode? h
    have hx' := (tailBits?_eq_some hx).1
    rw [encode_cons, ih hrest, encodeChar, if_neg (by omega), if_pos (by omega),
      ofNat_eq (b := a) (by omega), eq_continuation hx (by omega)]
    rfl
  | case5 => cases h
  | case6 a h1 h2 h3 h4 b c rest ih =>
    obtain ⟨x, hx, h⟩ := Option.bind_eq_some_iff.mp h
    obtain ⟨y, hy, h⟩ := Option.bind_eq_some_iff.mp h
    obtain ⟨ch, more, hleast, hc, hrest, rfl⟩ := scalar?_then_decode? h
    have hx' := (tailBits?_eq_some hx).1
    have hy' := (tailBits?_eq_some hy).1
    rw [encode_cons, ih hrest, encodeChar, if_neg (by omega), if_neg (by omega),
      if_pos (by omega), ofNat_eq (b := a) (by omega), eq_continuation hx (by omega),
      eq_continuation hy (by omega)]
    rfl
  | case7 => cases h
  | case8 a h1 h2 h3 h4 b c d rest ih =>
    obtain ⟨x, hx, h⟩ := Option.bind_eq_some_iff.mp h
    obtain ⟨y, hy, h⟩ := Option.bind_eq_some_iff.mp h
    obtain ⟨z, hz, h⟩ := Option.bind_eq_some_iff.mp h
    obtain ⟨ch, more, hleast, hc, hrest, rfl⟩ := scalar?_then_decode? h
    have hx' := (tailBits?_eq_some hx).1
    have hy' := (tailBits?_eq_some hy).1
    have hz' := (tailBits?_eq_some hz).1
    have hch := toNat_lt ch
    rw [encode_cons, ih hrest, encodeChar, if_neg (by omega), if_neg (by omega),
      if_neg (by omega), ofNat_eq (b := a) (by omega), eq_continuation hx (by omega),
      eq_continuation hy (by omega), eq_continuation hz (by omega)]
    rfl
  | case9 => cases h

theorem decode?_eq_some_iff {b : Bytes} {cs : List Char} :
    decode? b = some cs ↔ encode cs = b :=
  ⟨encode_of_decode?, fun h => h ▸ decode?_encode cs⟩

theorem encodeChar_of_lt {c : Char} (h : c.toNat < 0x80) :
    encodeChar c = [UInt8.ofNat c.toNat] := by
  simp only [encodeChar, if_pos h]

/-- No byte of a longer sequence is an ASCII character. -/
theorem le_toNat_of_mem_encodeChar {c : Char} {b : UInt8} (hc : 0x80 ≤ c.toNat)
    (h : b ∈ encodeChar c) : 0x80 ≤ b.toNat := by
  have hlast := toNat_lt c
  have hbyte : ∀ n, 0x80 ≤ n → n < 256 → 0x80 ≤ (UInt8.ofNat n).toNat := by
    intro n hn hlt
    rwa [toNat_ofNat hlt]
  simp only [encodeChar, continuation] at h
  split_ifs at h with h1 h2 h3
  · omega
  all_goals simp only [List.mem_cons, List.not_mem_nil, or_false] at h
  · rcases h with rfl | rfl <;> exact hbyte _ (by omega) (by omega)
  · rcases h with rfl | rfl | rfl <;> exact hbyte _ (by omega) (by omega)
  · rcases h with rfl | rfl | rfl | rfl <;> exact hbyte _ (by omega) (by omega)

/-- A byte of the ASCII range stands for a character by itself. -/
theorem toNat_eq_of_mem_encodeChar {c : Char} {b : UInt8} (h : b ∈ encodeChar c)
    (hb : b.toNat < 0x80) : c.toNat = b.toNat := by
  by_cases hc : c.toNat < 0x80
  · rw [encodeChar_of_lt hc] at h
    obtain rfl := List.mem_singleton.mp h
    rw [toNat_ofNat (by omega)]
  · have hhigh := le_toNat_of_mem_encodeChar (by omega) h
    omega

/-- The bytes of a character are those that it has in a string. -/
theorem encodeChar_eq (c : Char) : encodeChar c = String.utf8EncodeChar c := by
  have hc := toNat_lt c
  have hv : c.val.toNat = c.toNat := rfl
  have h1 : (c.toNat < 0x80) = (c.toNat ≤ 0x7f) := by grind
  have h2 : (c.toNat < 0x800) = (c.toNat ≤ 0x7ff) := by grind
  have h3 : (c.toNat < 0x10000) = (c.toNat ≤ 0xffff) := by grind
  have hlast : 0x80 + c.toNat % 64 = c.toNat % 0x40 + 0x80 := by omega
  have hmid : 0x80 + c.toNat / 64 % 64 = c.toNat / 64 % 0x40 + 0x80 := by omega
  simp only [encodeChar, continuation, String.utf8EncodeChar, hv, h1, h2, h3, hlast, hmid]
  split_ifs
  · rfl
  · rw [show 0xC0 + c.toNat / 64 = c.toNat / 64 % 0x20 + 0xc0 by omega]
  · rw [show 0xE0 + c.toNat / 4096 = c.toNat / 4096 % 0x10 + 0xe0 by omega]
  · rw [show 0xF0 + c.toNat / 262144 = c.toNat / 262144 % 0x08 + 0xf0 by omega,
      show 0x80 + c.toNat / 4096 % 64 = c.toNat / 4096 % 0x40 + 0x80 by omega]

theorem toByteArray_encode (s : String) : (encode s.toList).toByteArray = s.toByteArray := by
  rw [← String.utf8Encode_toList, List.utf8Encode, encode, funext encodeChar_eq]

/-- The text that is read off bytes is the string of these bytes. -/
theorem text?_eq_some_iff {b : Bytes} {s : String} :
    text? b = some s ↔ s.toByteArray = b.toByteArray := by
  rw [text?, Option.map_eq_some_iff]
  constructor
  · rintro ⟨cs, h, rfl⟩
    rw [← toByteArray_encode, String.toList_ofList, decode?_eq_some_iff.mp h]
  · intro h
    refine ⟨s.toList, decode?_eq_some_iff.mpr ?_, String.ofList_toList⟩
    rw [← toByteArray_encode] at h
    simpa using congrArg (·.data.toList) h

/-- Bytes have no text exactly if they are not valid UTF-8. -/
theorem text?_eq_none_iff {b : Bytes} : text? b = none ↔ ¬ b.toByteArray.IsValidUTF8 := by
  rw [Option.eq_none_iff_forall_ne_some]
  constructor
  · intro h ⟨cs, hcs⟩
    apply h (String.ofList cs)
    rw [text?_eq_some_iff, hcs, String.toByteArray_ofList]
  · intro h s hs
    apply h
    rw [← text?_eq_some_iff.mp hs]
    exact s.isValidUTF8

end EngineTrials.Text.Utf8
