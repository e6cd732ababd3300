/-
Which bytes are text. A byte below 128 stands for a character on its own and is never a part of
another character's encoding (`mem_utf8EncodeChar`), so cutting a text at such a byte leaves two
texts (`Bytes.text_of_append_cons`). It takes nothing more to cut variables at an equals sign, or
files at a newline, before or after their bytes are read as text.
-/
import EnvSettings.Source.Bytes
import Mathlib.Data.List.Basic

namespace EnvSettings.Source

-- ============================================================== encoding

/-- The bytes of a text are those of its characters in turn. -/
theorem Bytes.ofText_eq_flatMap (s : String) :
    Bytes.ofText s = s.toList.flatMap String.utf8EncodeChar := by
  have hbytes : s.toUTF8 = (s.toList.flatMap String.utf8EncodeChar).toByteArray := by
    rw [← List.utf8Encode, String.utf8Encode_toList]
    rfl
  unfold Bytes.ofText
  rw [hbytes, List.toList_data_toByteArray]

theorem Bytes.ofText_append (s t : String) :
    Bytes.ofText (s ++ t) = Bytes.ofText s ++ Bytes.ofText t := by
  simp only [Bytes.ofText_eq_flatMap, String.toList_append, List.flatMap_append]

/-- Bytes are read as a text exactly if they are the bytes of that text. -/
theorem Bytes.text?_eq_some_iff {bytes : Bytes} {s : String} :
    bytes.text? = some s ↔ bytes = Bytes.ofText s := by
  unfold Bytes.text?
  constructor
  · intro h
    unfold String.fromUTF8? at h
    split at h
    · cases h
      rfl
    · cases h
  · rintro rfl
    have hround : (⟨(Bytes.ofText s).toArray⟩ : ByteArray) = s.toUTF8 := by
      rw [Bytes.ofText, Array.toArray_toList]
    have hvalid : s.toUTF8.IsValidUTF8 := s.isValidUTF8
    rw [hround, String.fromUTF8?, dif_pos hvalid]
    rfl

/-- Bytes are no text exactly if no text is written so. -/
theorem Bytes.text?_eq_none_iff {bytes : Bytes} :
    bytes.text? = none ↔ ∀ s, bytes ≠ Bytes.ofText s := by
  rw [Option.eq_none_iff_forall_ne_some]
  exact forall_congr' fun s => not_congr Bytes.text?_eq_some_iff

theorem Bytes.ofText_injective {s t : String} (hsame : Bytes.ofText s = Bytes.ofText t) :
    s = t := by
  have hs : (Bytes.ofText s).text? = some s := Bytes.text?_eq_some_iff.mpr rfl
  have ht : (Bytes.ofText s).text? = some t := Bytes.text?_eq_some_iff.mpr hsame
  exact Option.some.inj (hs.symm.trans ht)

-- =============================================================== cutting

/-- A byte below 128 is only in the encoding of the character that it stands for. -/
theorem mem_utf8EncodeChar {b : UInt8} (hb : b.toNat < 128) {c : Char}
    (hmem : b ∈ String.utf8EncodeChar c) : String.utf8EncodeChar c = [b] := by
  unfold String.utf8EncodeChar at hmem ⊢
  by_cases h1 : c.val.toNat ≤ 127
  · simp only [h1, if_true] at hmem ⊢
    rw [List.mem_singleton.mp hmem]
  · -- of a longer encoding every byte is at least 128
    have hhigh : ∀ k, 128 ≤ k → k < 256 → b ≠ UInt8.ofNat k := by
      rintro k hlow hk rfl
      rw [UInt8.toNat_ofNat_of_lt' hk] at hb
      omega
    exfalso
    simp only [h1, if_false] at hmem
    split at hmem
    · simp only [List.mem_cons, List.not_mem_nil, or_false] at hmem
      rcases hmem with h | h <;> exact hhigh _ (by omega) (by omega) h
    · split at hmem
      · simp only [List.mem_cons, List.not_mem_nil, or_false] at hmem
        rcases hmem with h | h | h <;> exact hhigh _ (by omega) (by omega) h
      · simp only [List.mem_cons, List.not_mem_nil, or_false] at hmem
        rcases hmem with h | h | h | h <;> exact hhigh _ (by omega) (by omega) h

/-- A byte below 128 is in the bytes of a text exactly if the text has its character. -/
theorem Bytes.mem_ofText_iff {b : UInt8} (hb : b.toNat < 128) {c : Char}
    (hc : String.utf8EncodeChar c = [b]) {s : String} : b ∈ Bytes.ofText s ↔ c ∈ s.toList := by
  rw [Bytes.ofText_eq_flatMap, List.mem_flatMap]
  apply Iff.intro
  · intro ⟨d, hd, hbyte⟩
    have hone : String.utf8EncodeChar d = String.utf8EncodeChar c := by
      rw [mem_utf8EncodeChar hb hbyte, hc]
    have hsame : String.ofList [d] = String.ofList [c] := by
      apply Bytes.ofText_injective
      simp only [Bytes.ofText_eq_flatMap, String.toList_ofList, List.flatMap_singleton, hone]
    rw [← List.singleton_inj.mp (String.ofList_injective hsame)]
    exact hd
  · intro hmem
    exact ⟨c, hmem, by simp [hc]⟩

/-- Where the encoding of characters holds a byte below 128, what stands before it and what
stands behind it is an encoding of characters. -/
theorem encoded_of_append_cons {b : UInt8} (hb : b.toNat < 128) {cs : List Char}
    {front back : Bytes} (hcs : cs.flatMap String.utf8EncodeChar = front ++ b :: back) :
    (∃ ds : List Char, front = ds.flatMap String.utf8EncodeChar)
      ∧ ∃ ds : List Char, back = ds.flatMap String.utf8EncodeChar := by
  induction cs generalizing front with
  | nil =>
      rw [List.flatMap_nil] at hcs
      exact absurd hcs.symm (by simp)
  | cons c cs ih =>
      rw [List.flatMap_cons, List.append_eq_append_iff] at hcs
      rcases hcs with ⟨more, rfl, hmore⟩ | ⟨more, hc, hmore⟩
      · -- the first character ends before the byte
        obtain ⟨⟨ds, rfl⟩, hback⟩ := ih hmore
        exact ⟨⟨c :: ds, List.flatMap_cons.symm⟩, hback⟩
      · cases more with
        | nil =>
            rw [List.nil_append] at hmore
            rw [List.append_nil] at hc
            have hstart : cs.flatMap String.utf8EncodeChar = [] ++ b :: back := hmore.symm
            obtain ⟨-, hback⟩ := ih hstart
            exact ⟨⟨[c], by rw [List.flatMap_singleton, hc]⟩, hback⟩
        | cons b' more =>
            -- the byte is in the first character, so it is the whole of it
            rw [List.cons_append, List.cons.injEq] at hmore
            obtain ⟨rfl, rfl⟩ := hmore
            have hmem : b ∈ String.utf8EncodeChar c := by simp [hc]
            rw [mem_utf8EncodeChar hb hmem] at hc
            rcases List.append_eq_singleton_iff.mp hc.symm with ⟨rfl, hrest⟩ | ⟨-, hrest⟩
            · rw [(List.cons.inj hrest).2]
              exact ⟨⟨[], rfl⟩, ⟨cs, List.nil_append _⟩⟩
            · cases hrest

/-- Bytes that are text are text on both sides of a byte below 128 in them. -/
theorem Bytes.text_of_append_cons {b : UInt8} (hb : b.toNat < 128) {front back : Bytes}
    {s : String} (hs : front ++ b :: back = Bytes.ofText s) :
    (∃ t, front = Bytes.ofText t) ∧ ∃ t, back = Bytes.ofText t := by
  rw [Bytes.ofText_eq_flatMap] at hs
  have htext : ∀ ds : List Char, ds.flatMap String.utf8EncodeChar
      = Bytes.ofText (String.ofList ds) := by
    intro ds
    rw [Bytes.ofText_eq_flatMap, String.toList_ofList]
  obtain ⟨⟨ds, hfront⟩, es, hback⟩ := encoded_of_append_cons hb hs.symm
  exact ⟨⟨_, hfront.trans (htext ds)⟩, _, hback.trans (htext es)⟩

end EnvSettings.Source
