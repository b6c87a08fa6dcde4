import EngineTrials.Proofs.Utf8
import EngineTrials.Text.Payload

/-!
# Which text a payload came from

A narrow text goes out one byte a character, a wide one as UTF-8. Either way by itself keeps texts
apart, and every byte string is the payload of a narrow text. The bytes do not say which way was
taken, though: a wide text has the same payload as the narrow one whose characters are its UTF-8
bytes. There are no other coincidences.
-/
namespace EngineTrials.Text

namespace Latin1

theorem fits_iff {c : Char} : fits c = true ↔ c.toNat ≤ 0xFF := decide_eq_true_iff

theorem toNat_decodeByte (b : UInt8) : (decodeByte b).toNat = b.toNat := by
  have hb : b.toNat < 256 := b.toNat_lt
  have hv : b.toNat.isValidChar := Or.inl (by omega)
  rw [decodeByte, Char.ofNat, dif_pos hv]
  rfl

theorem ofNat_toNat_decodeByte (b : UInt8) : UInt8.ofNat (decodeByte b).toNat = b := by
  rw [toNat_decodeByte, UInt8.ofNat_toNat]

theorem decodeByte_ofNat {c : Char} (h : c.toNat ≤ 0xFF) :
    decodeByte (UInt8.ofNat c.toNat) = c := by
  have hbyte : (UInt8.ofNat c.toNat).toNat = c.toNat := Utf8.toNat_ofNat (by omega)
  apply Char.toNat_inj.mp
  rw [toNat_decodeByte, hbyte]

theorem encode_decode (b : Bytes) : encode (decode b).toList = b := by
  rw [decode, String.toList_ofList, encode, List.map_map]
  calc
    b.map ((fun c => UInt8.ofNat c.toNat) ∘ decodeByte) = b.map id :=
      List.map_congr_left fun byte _ => ofNat_toNat_decodeByte byte
    _ = b := List.map_id b

theorem decode_encode {s : String} (h : ∀ c ∈ s.toList, c.toNat ≤ 0xFF) :
    decode (encode s.toList) = s := by
  have hback : (encode s.toList).map decodeByte = s.toList := by
    rw [encode, List.map_map]
    calc
      s.toList.map (decodeByte ∘ fun c => UInt8.ofNat c.toNat) = s.toList.map id :=
        List.map_congr_left fun c hc => decodeByte_ofNat (h c hc)
      _ = s.toList := List.map_id _
  rw [decode, hback, String.ofList_toList]

theorem toNat_le_of_mem_decode {b : Bytes} {c : Char} (h : c ∈ (decode b).toList) :
    c.toNat ≤ 0xFF := by
  rw [decode, String.toList_ofList, List.mem_map] at h
  obtain ⟨byte, -, rfl⟩ := h
  have hbyte : byte.toNat < 256 := byte.toNat_lt
  rw [toNat_decodeByte]
  omega

end Latin1

namespace Utf8

@[simp] theorem encode_append (cs more : List Char) :
    encode (cs ++ more) = encode cs ++ encode more := List.flatMap_append

theorem encode_inj {cs more : List Char} (h : encode cs = encode more) : cs = more := by
  have hread : decode? (encode cs) = some more := decode?_eq_some_iff.mpr h.symm
  rw [decode?_encode] at hread
  exact Option.some.inj hread

theorem toList_toByteArray (s : String) : s.toByteArray.data.toList = encode s.toList := by
  rw [← toByteArray_encode]
  simp

end Utf8

/-- A text with a character that one byte cannot hold. -/
def IsWide (s : String) : Prop := ∃ c ∈ s.toList, 0xFF < c.toNat

theorem not_isWide_iff {s : String} : ¬ IsWide s ↔ ∀ c ∈ s.toList, c.toNat ≤ 0xFF := by
  simp only [IsWide, not_exists, not_and, Nat.not_lt]

theorem all_fits_iff {s : String} : s.toList.all Latin1.fits = true ↔ ¬ IsWide s := by
  rw [List.all_eq_true, not_isWide_iff]
  simp only [Latin1.fits_iff]

instance (s : String) : Decidable (IsWide s) :=
  decidable_of_iff _ ((not_congr all_fits_iff).trans Classical.not_not)

theorem payload_of_isWide {s : String} (h : IsWide s) : payload s = Utf8.encode s.toList := by
  have hfits : ¬ s.toList.all Latin1.fits = true := fun hall => all_fits_iff.mp hall h
  rw [payload, if_neg hfits]

theorem payload_of_not_isWide {s : String} (h : ¬ IsWide s) :
    payload s = Latin1.encode s.toList := by
  rw [payload, if_pos (all_fits_iff.mpr h)]

theorem not_isWide_decode (b : Bytes) : ¬ IsWide (Latin1.decode b) :=
  not_isWide_iff.mpr fun _ hc => Latin1.toNat_le_of_mem_decode hc

theorem payload_decode (b : Bytes) : payload (Latin1.decode b) = b := by
  rw [payload_of_not_isWide (not_isWide_decode b), Latin1.encode_decode]

theorem decode_payload {s : String} (h : ¬ IsWide s) : Latin1.decode (payload s) = s := by
  rw [payload_of_not_isWide h, Latin1.decode_encode (not_isWide_iff.mp h)]

/-- Bytes are read as the one narrow text that they are the payload of. -/
theorem eq_decode_iff {s : String} {b : Bytes} :
    s = Latin1.decode b ↔ ¬ IsWide s ∧ payload s = b := by
  constructor
  · rintro rfl
    exact ⟨not_isWide_decode b, payload_decode b⟩
  · rintro ⟨hnarrow, rfl⟩
    exact (decode_payload hnarrow).symm

/-- What is read one character a byte is never wide. -/
theorem decode_payload_eq_iff {s : String} : Latin1.decode (payload s) = s ↔ ¬ IsWide s := by
  constructor
  · intro h
    rw [← h]
    exact not_isWide_decode _
  · exact decode_payload

/-- A narrow text meets a wide one in the bytes of the wide one only. -/
theorem payload_eq_wide_iff {narrow wide : String} (hn : ¬ IsWide narrow) (hw : IsWide wide) :
    payload narrow = payload wide ↔ narrow = Latin1.decode wide.toByteArray.data.toList := by
  have hbytes : payload wide = wide.toByteArray.data.toList := by
    rw [payload_of_isWide hw, Utf8.toList_toByteArray]
  constructor
  · intro h
    rw [← hbytes, ← h, decode_payload hn]
  · intro h
    rw [hbytes, h, payload_decode]

/-- Texts that are encoded the same way are kept apart. -/
theorem payload_inj {s t : String} (hmode : IsWide s ↔ IsWide t) (h : payload s = payload t) :
    s = t := by
  by_cases hs : IsWide s
  · rw [payload_of_isWide hs, payload_of_isWide (hmode.mp hs)] at h
    exact String.toList_inj.mp (Utf8.encode_inj h)
  · have ht : ¬ IsWide t := fun ht => hs (hmode.mpr ht)
    rw [← decode_payload hs, ← decode_payload ht, h]

/-- Every byte string is the payload of the text that it is read as, and reading a payload gives the
text back exactly if the text is narrow. Two texts have one payload only if one of them is wide and
the other is what its UTF-8 bytes are read as. -/
theorem payload_coincidences :
    (∀ b : Bytes, payload (Latin1.decode b) = b) ∧
    (∀ s : String, Latin1.decode (payload s) = s ↔ ∀ c ∈ s.toList, c.toNat ≤ 0xFF) ∧
    ∀ s t : String, s ≠ t → (payload s = payload t ↔
      (IsWide t ∧ ¬ IsWide s ∧ s = Latin1.decode t.toByteArray.data.toList) ∨
      (IsWide s ∧ ¬ IsWide t ∧ t = Latin1.decode s.toByteArray.data.toList)) := by
  refine ⟨payload_decode, fun s => decode_payload_eq_iff.trans not_isWide_iff, ?_⟩
  intro s t hne
  by_cases hmode : IsWide s ↔ IsWide t
  · -- neither side holds: texts that are encoded alike are kept apart
    have hkept : payload s ≠ payload t := fun h => hne (payload_inj hmode h)
    constructor
    · intro h
      exact absurd h hkept
    · rintro (⟨ht, hs, -⟩ | ⟨hs, ht, -⟩)
      · exact absurd (hmode.mpr ht) hs
      · exact absurd (hmode.mp hs) ht
  by_cases hs : IsWide s
  · have ht : ¬ IsWide t := fun ht => hmode ⟨fun _ => ht, fun _ => hs⟩
    rw [eq_comm (a := payload s), payload_eq_wide_iff ht hs]
    simp only [hs, ht, false_and, not_false_eq_true, true_and, false_or]
  · have ht : IsWide t := Classical.byContradiction fun ht => hmode ⟨(absurd · hs), (absurd · ht)⟩
    rw [payload_eq_wide_iff hs ht]
    simp only [hs, ht, false_and, not_false_eq_true, true_and, or_false]

/-- A capital A with macron is sent as the two bytes of a capital A with diaeresis and a control
character. -/
theorem payload_coincidences_macron :
    "\u00c4\u0080" ≠ "\u0100" ∧ payload "\u00c4\u0080" = payload "\u0100" := by
  have hne : "\u00c4\u0080" ≠ "\u0100" := by decide
  have hwide : IsWide "\u0100" := by decide
  have hnarrow : ¬ IsWide "\u00c4\u0080" := by decide
  exact ⟨hne, (payload_coincidences.2.2 _ _ hne).mpr (.inl ⟨hwide, hnarrow, by decide⟩)⟩

end EngineTrials.Text
