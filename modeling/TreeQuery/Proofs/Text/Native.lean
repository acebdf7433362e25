/-
Names that are texts, and what other names are shown as.

The bytes of a text are shown as this text (`shown_ofString`), so a name that is one leads back to
where it came from. Any other name is shown as a text with other bytes, and it is lost: what it is
shown as is the name of something else (`isText_iff_ofString_shown`). In neither case does it come
to have a slash (`slash_mem_of_mem_shown`).
-/
import TreeQuery.Text.Native

namespace TreeQuery

/-- The bytes of a text are those it is read from. -/
theorem fromUTF8?_eq_some_iff {bytes : ByteArray} {text : String} :
    String.fromUTF8? bytes = some text ↔ bytes = text.toUTF8 := by
  unfold String.fromUTF8?
  constructor
  · intro h
    split at h
    · obtain rfl := Option.some.inj h
      rfl
    · cases h
  · rintro rfl
    rw [String.toUTF8_eq_toByteArray, dif_pos text.isValidUTF8]
    rfl

namespace NativeText

variable {bytes more : NativeText} {text : String} {c : Char}

-- =============================================================== texts

/-- The bytes are those of a text. -/
def IsText (bytes : NativeText) : Prop := ∃ text, bytes = ofString text

theorem toByteArray_eq (bytes : NativeText) : (⟨bytes.toArray⟩ : ByteArray) = bytes.toByteArray :=
  ByteArray.ext List.data_toByteArray.symm

theorem ofString_eq (text : String) :
    ofString text = text.toList.flatMap String.utf8EncodeChar := by
  unfold ofString
  rw [String.toUTF8_eq_toByteArray, ← String.utf8Encode_toList]
  exact List.toList_data_toByteArray

theorem ofString_inj {other : String} : ofString text = ofString other ↔ text = other := by
  refine ⟨fun h => String.toByteArray_inj.1 (ByteArray.ext (Array.toList_inj.1 h)), ?_⟩
  rintro rfl
  rfl

theorem toString?_eq_some_iff : toString? bytes = some text ↔ bytes = ofString text := by
  unfold toString? ofString
  rw [fromUTF8?_eq_some_iff]
  constructor
  · intro h
    rw [← h]
  · rintro rfl
    rfl

instance (bytes : NativeText) : Decidable bytes.IsText :=
  decidable_of_iff (bytes.toString?.isSome) <| by
    rw [Option.isSome_iff_exists]
    simp only [toString?_eq_some_iff]
    rfl

-- =============================================================== shown

/-- What has been dealt with is not shown. -/
theorem shownFrom_append (before after : NativeText) :
    shownFrom before.length (before ++ after) = shownFrom 0 after := by
  induction before with
  | nil => rfl
  | cons byte before ih => exact ih

theorem firstChar?_encode (c : Char) (more : NativeText) :
    firstChar? (String.utf8EncodeChar c ++ more) = some c := by
  unfold firstChar?
  rw [toByteArray_eq, List.toByteArray_append]
  exact ByteArray.utf8DecodeChar?_utf8EncodeChar_append

/-- The bytes of a character are shown as this character. -/
theorem shownFrom_encode (c : Char) (more : NativeText) :
    shownFrom 0 (String.utf8EncodeChar c ++ more) = c :: shownFrom 0 more := by
  have hfirst := firstChar?_encode c more
  have hlength := String.length_utf8EncodeChar c
  cases hbytes : String.utf8EncodeChar c with
  | nil =>
      rw [hbytes] at hlength
      exact absurd hlength (Nat.ne_of_lt c.utf8Size_pos)
  | cons first rest =>
      rw [hbytes] at hfirst hlength
      rw [List.cons_append] at hfirst ⊢
      rw [shownFrom, hfirst]
      dsimp only
      rw [← hlength, List.length_cons, Nat.add_sub_cancel, shownFrom_append]

/-- A name that is a text is shown as this text. -/
theorem shown_ofString (text : String) : (ofString text).shown = text := by
  have hchars : ∀ chars : List Char,
      shownFrom 0 (chars.flatMap String.utf8EncodeChar) = chars := by
    intro chars
    induction chars with
    | nil => rfl
    | cons c chars ih => rw [List.flatMap_cons, shownFrom_encode, ih]
  unfold shown
  rw [ofString_eq, hchars, String.ofList_toList]

/-- What a name is shown as leads back to it only if it is a text. -/
theorem isText_iff_ofString_shown : bytes.IsText ↔ ofString bytes.shown = bytes := by
  constructor
  · rintro ⟨text, rfl⟩
    rw [shown_ofString]
  · exact fun h => ⟨_, h.symm⟩

theorem firstChar?_eq_some (h : firstChar? bytes = some c) :
    ∃ more, bytes = String.utf8EncodeChar c ++ more := by
  unfold firstChar? at h
  rw [toByteArray_eq] at h
  have hbytes := congrArg (·.data.toList) (ByteArray.eq_of_utf8DecodeChar?_eq_some h)
  rw [List.toList_data_toByteArray, ByteArray.data_append, Array.toList_append,
    List.toList_data_toByteArray] at hbytes
  exact ⟨_, hbytes⟩

theorem slash_mem_of_mem_shownFrom {skipped : Nat} (h : '/' ∈ shownFrom skipped bytes) :
    (0x2F : UInt8) ∈ bytes := by
  fun_induction shownFrom skipped bytes with
  | case1 => exact absurd h List.not_mem_nil
  | case2 skipped first rest ih => exact List.mem_cons_of_mem _ (ih h)
  | case3 first rest c hc ih =>
      rcases List.mem_cons.1 h with rfl | h
      · obtain ⟨more, hmore⟩ := firstChar?_eq_some hc
        rw [hmore]
        exact List.mem_append_left _ (by decide)
      · exact List.mem_cons_of_mem _ (ih h)
  | case4 first rest hc ih =>
      rcases List.mem_cons.1 h with h | h
      · exact absurd h (by decide)
      · exact List.mem_cons_of_mem _ (ih h)

/-- A slash is shown only for a slash. -/
theorem slash_mem_of_mem_shown (h : '/' ∈ bytes.shown.toList) : (0x2F : UInt8) ∈ bytes := by
  unfold shown at h
  rw [String.toList_ofList] at h
  exact slash_mem_of_mem_shownFrom h

/-- A name is shown as something. -/
theorem shown_ne_empty (h : bytes ≠ []) : bytes.shown ≠ "" := by
  unfold shown
  cases bytes with
  | nil => exact absurd rfl h
  | cons first rest =>
      intro hempty
      rw [← String.toList_eq_nil_iff, String.toList_ofList, shownFrom] at hempty
      split at hempty <;> cases hempty

end NativeText

end TreeQuery
