import Scribe.Proofs.Text.Kept
import Scribe.Text.Percent

/-!
# Values of query parameters can be read back

A value of a query parameter is written byte by byte. A space becomes a plus, an unreserved
character stays, and every other byte is escaped. Pluses turned back into spaces and escapes undone,
the bytes come back, so two values are never written alike.

## Main results

* `unescape_formBytes`: the bytes of a written value come back.
* `formEncode_inj`: no two values are written alike.
-/

namespace Scribe.Text

/-- One byte of a value. -/
def formByte (b : UInt8) : List Char :=
  if b = 0x20 then ['+'] else percentByte isUnreserved b

/-- A plus stands for a space. -/
def plusToSpace (c : Char) : Char := if c = '+' then ' ' else c

theorem hexDigit_mod (n : Nat) : hexDigit n = hexDigit (n % 16) := by simp [hexDigit]

theorem hexValue?_hexDigit (n : Nat) : hexValue? (hexDigit n).toUpper = some (n % 16) := by
  have hall : ∀ d : Fin 16, hexValue? (hexDigit d).toUpper = some d.val := by decide
  rw [hexDigit_mod]
  exact hall ⟨n % 16, Nat.mod_lt _ (by decide)⟩

theorem isUnreserved_hexDigit (n : Nat) : isUnreserved (hexDigit n).toUpper = true := by
  have hall : ∀ d : Fin 16, isUnreserved (hexDigit d).toUpper = true := by decide
  rw [hexDigit_mod]
  exact hall ⟨n % 16, Nat.mod_lt _ (by decide)⟩

theorem plusToSpace_of_isUnreserved {c : Char} (h : isUnreserved c = true) : plusToSpace c = c := by
  rw [plusToSpace, if_neg]
  rintro rfl
  exact absurd h (by decide)

theorem percentEscape_eq (b : UInt8) :
    percentEscape b = ['%', (hexDigit (b.toNat / 16)).toUpper, (hexDigit b.toNat).toUpper] := rfl

theorem unescape_percentEscape (b : UInt8) (rest : List Char) :
    unescape (percentEscape b ++ rest) = b :: unescape rest := by
  have hlt := b.toNat_lt
  have hbyte : b.toNat / 16 % 16 * 16 + b.toNat % 16 = b.toNat := by omega
  simp [percentEscape_eq, unescape, hexValue?_hexDigit, hbyte]

theorem unescape_cons_of_ne {c : Char} (h : c ≠ '%') (rest : List Char) :
    unescape (c :: rest) = Utf8.encodeChar c ++ unescape rest := by
  rw [unescape.eq_def]
  split <;> simp_all

/-- Escapes hold no plus. -/
theorem map_plusToSpace_percentEscape (b : UInt8) :
    (percentEscape b).map plusToSpace = percentEscape b := by
  have hpercent : plusToSpace '%' = '%' := by decide
  simp [percentEscape_eq, plusToSpace_of_isUnreserved (isUnreserved_hexDigit _), hpercent]

/-- A byte becomes a plus, stays as a character, or is escaped. -/
theorem formByte_cases (b : UInt8) :
    (b = 0x20 ∧ formByte b = ['+']) ∨
    (∃ c, isUnreserved c = true ∧ Utf8.encodeChar c = [b] ∧ formByte b = [c]) ∨
    formByte b = percentEscape b := by
  rw [formByte]
  split
  · exact .inl ⟨‹_›, rfl⟩
  · rw [percentByte]
    split
    · rename_i hkept
      obtain ⟨hlow, hunreserved⟩ := Bool.and_eq_true_iff.mp hkept
      have hlt : b.toNat < 0x80 := by simpa [UInt8.lt_iff_toNat_lt] using hlow
      refine .inr (.inl ⟨_, hunreserved, ?_, rfl⟩)
      rw [Utf8.encodeChar_ofNat (.inl (by omega)), Utf8.encodeCode, if_pos hlt]
      simp
    · exact .inr (.inr rfl)

/-- Apart from pluses and percent signs, a written byte holds unreserved characters only. -/
theorem mem_formByte {b : UInt8} {c : Char} (h : c ∈ formByte b) :
    c = '+' ∨ c = '%' ∨ isUnreserved c = true := by
  obtain ⟨-, hform⟩ | ⟨c', hunreserved, -, hform⟩ | hform := formByte_cases b
  · rw [hform, List.mem_singleton] at h
    exact .inl h
  · rw [hform, List.mem_singleton] at h
    exact .inr (.inr (h ▸ hunreserved))
  · rw [hform, percentEscape_eq] at h
    have hdigits := isUnreserved_hexDigit
    grind

/-- Unreserved characters can be printed, and none of them is a backslash. -/
theorem toNat_of_isUnreserved {c : Char} (h : isUnreserved c = true) :
    0x2d ≤ c.toNat ∧ c.toNat < 0x7f ∧ c.toNat ≠ 0x5c := by
  delta isUnreserved Char.isAlphanum Char.isAlpha Char.isUpper Char.isLower Char.isDigit at h
  simp only [Bool.or_eq_true, Bool.and_eq_true, decide_eq_true_eq, ge_iff_le,
    UInt32.le_iff_toNat_le, Char.toNat_val] at h
  rcases h with (((((⟨hlow, hhigh⟩ | ⟨hlow, hhigh⟩) | ⟨hlow, hhigh⟩) | rfl) | rfl) | rfl) | rfl
  · simp at hlow hhigh
    omega
  · simp at hlow hhigh
    omega
  · simp at hlow hhigh
    omega
  all_goals decide

/-- A written byte comes back. -/
theorem unescape_formByte (b : UInt8) (rest : List Char) :
    unescape ((formByte b).map plusToSpace ++ rest) = b :: unescape rest := by
  obtain ⟨rfl, hform⟩ | ⟨c, hunreserved, hencode, hform⟩ | hform := formByte_cases b
  · rw [hform]
    exact unescape_cons_of_ne (by decide) rest
  · have hpercent : c ≠ '%' := by
      rintro rfl
      exact absurd hunreserved (by decide)
    rw [hform, List.map_singleton, plusToSpace_of_isUnreserved hunreserved, List.singleton_append,
      unescape_cons_of_ne hpercent, hencode, List.singleton_append]
  · rw [hform, map_plusToSpace_percentEscape, unescape_percentEscape]

/-- The bytes of a written value come back. -/
theorem unescape_formBytes (bytes : Bytes) :
    unescape ((bytes.flatMap formByte).map plusToSpace) = bytes := by
  induction bytes with
  | nil => rfl
  | cons b rest ih => rw [List.flatMap_cons, List.map_append, unescape_formByte, ih]

theorem formEncode_ofString (s : String) :
    formEncode (.ofString s) = .ok (String.ofList ((Utf8.encode s).flatMap formByte)) := by
  rw [formEncode, Utf8.write_ofString]
  rfl

/-- No two values are written alike. -/
theorem formEncode_inj {s t : String} (h : formEncode (.ofString s) = formEncode (.ofString t)) :
    s = t := by
  rw [formEncode_ofString, formEncode_ofString] at h
  have hchars : (Utf8.encode s).flatMap formByte = (Utf8.encode t).flatMap formByte :=
    String.ofList_injective (Except.ok.inj h)
  have hbytes : Utf8.encode s = Utf8.encode t := by
    rw [← unescape_formBytes (Utf8.encode s), hchars, unescape_formBytes]
  have hread := Utf8.decode_encode s.toList
  have hread' := Utf8.decode_encode t.toList
  rw [Utf8.encode, Utf8.encode] at hbytes
  rw [hbytes, hread'] at hread
  exact String.toList_injective (Except.ok.inj hread).symm

end Scribe.Text
