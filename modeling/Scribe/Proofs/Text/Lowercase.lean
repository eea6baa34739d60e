import Mathlib.Data.List.Basic
import Scribe.Text.Lowercase

/-!
# ASCII characters in lower-case forms

Full lower-casing can bring a character into the ASCII range: the Kelvin sign becomes `k`, and the
capital I with a dot becomes `i` and a mark. Every other ASCII character of a lower-case form comes
from an ASCII character. So a text of such characters is the lower-case form of just those texts
that differ from it by the case of ASCII letters.

## Main results

* `formOf_cases`: what the lower-case form of a character can be.
* `mem_lowerAfter_iff`: where an ASCII character of a lower-case form comes from.
* `lower_eq_iff`: which texts have a given lower-case form.
-/

namespace Scribe

/-- ASCII characters that no other character has in its lower-case form. -/
def Symbol.hasAsciiSources : Symbol → Bool :=
  satisfies fun c => c.toNat < 0x80 && c ≠ 'i' && c ≠ 'k'

namespace Text

/-- A text with its ASCII capitals in lower case, and all else as it is. -/
def asciiLower (t : Text) : Text := ⟨t.symbols.map (Symbol.mapChar Char.toLower)⟩

/-! ## ASCII letters -/

theorem toNat_toLower_of_isUpper {c : Char} (h : c.isUpper = true) :
    c.toLower.toNat = c.toNat + 32 ∧ 65 ≤ c.toNat ∧ c.toNat ≤ 90 := by
  obtain ⟨hge, hle⟩ := of_decide_eq_true h
  have hge' : 65 ≤ c.toNat := hge
  have hle' : c.toNat ≤ 90 := hle
  refine ⟨?_, hge', hle'⟩
  have hlower : c.toLower.val = c.val + ('a'.val - 'A'.val) :=
    congrArg Char.val (dif_pos ⟨hge, hle⟩)
  have hdiff : ('a'.val - 'A'.val).toNat = 32 := by decide
  have hval : c.val.toNat = c.toNat := rfl
  rw [Char.toNat, hlower, UInt32.toNat_add, hdiff, hval]
  omega

theorem toLower_eq_self_iff {c : Char} : c.toLower = c ↔ c.isUpper = false := by
  cases hc : c.isUpper with
  | false => exact iff_of_true (dif_neg (of_decide_eq_false hc)) rfl
  | true =>
    refine iff_of_false (fun heq => ?_) (by simp)
    have hnat := (toNat_toLower_of_isUpper hc).1
    rw [heq] at hnat
    omega

theorem toLower_toLower (c : Char) : c.toLower.toLower = c.toLower := by
  cases hc : c.isUpper with
  | false => simp only [toLower_eq_self_iff.mpr hc]
  | true =>
    rw [toLower_eq_self_iff, ← Bool.not_eq_true]
    intro hupper
    obtain ⟨hnat, hge, -⟩ := toNat_toLower_of_isUpper hc
    obtain ⟨-, -, hle⟩ := toNat_toLower_of_isUpper hupper
    omega

theorem mapChar_toLower_eq_self_iff {s : Symbol} :
    s.mapChar Char.toLower = s ↔ s.satisfies Char.isUpper = false := by
  cases s with
  | half i => simp [Symbol.mapChar, Symbol.satisfies]
  | char c => simp [Symbol.mapChar, Symbol.satisfies, toLower_eq_self_iff]

/-- A character in front of the small letters is the lower-case form of itself only. -/
theorem mapChar_toLower_eq_char_iff {d : Char} (hd : d.toNat < 97 ∧ d.isUpper = false)
    {s : Symbol} : s.mapChar Char.toLower = .char d ↔ s = .char d := by
  cases s with
  | half i => simp [Symbol.mapChar]
  | char c =>
    rw [Symbol.mapChar, Symbol.char.injEq, Symbol.char.injEq]
    cases hc : c.isUpper with
    | false => rw [toLower_eq_self_iff.mpr hc]
    | true =>
      obtain ⟨hnat, hge, -⟩ := toNat_toLower_of_isUpper hc
      refine iff_of_false (fun heq => ?_) (fun heq => ?_)
      · rw [heq] at hnat
        omega
      · simp [← heq, hc] at hd

theorem asciiLower_eq_self_iff {t : Text} :
    asciiLower t = t ↔ ∀ s ∈ t.symbols, s.satisfies Char.isUpper = false := by
  rw [asciiLower, Text.ext_iff]
  conv_lhs => rw [← List.map_id t.symbols, List.map_map]
  rw [List.map_inj_left]
  simp [mapChar_toLower_eq_self_iff]

theorem hasAsciiSources_eq_false_iff {d : Char} :
    Symbol.hasAsciiSources (.char d) = false ↔ d = 'i' ∨ d = 'k' ∨ 0x80 ≤ d.toNat := by
  simp only [Symbol.hasAsciiSources, Symbol.satisfies, Bool.and_eq_false_iff,
    decide_eq_false_iff_not]
  grind

theorem toLower_of_not_hasAsciiSources {d : Char} (h : Symbol.hasAsciiSources (.char d) = false) :
    d.toLower = d := by
  rw [toLower_eq_self_iff]
  obtain rfl | rfl | hge := hasAsciiSources_eq_false_iff.mp h
  · decide
  · decide
  · refine decide_eq_false fun hupper => ?_
    have hle : d.toNat ≤ 90 := hupper.2
    omega

/-! ## Forms -/

/-- The lower-case form of a character between the symbols `before`, nearest first, and `rest`. -/
def formOf (before rest : List Symbol) (c : Char) : List Char :=
  if c.toNat = 0x3a3 then [lowerSigma before rest] else lowerChar c

theorem lowerAfter_char (before rest : List Symbol) (c : Char) :
    lowerAfter before (.char c :: rest) =
      (formOf before rest c).map .char ++ lowerAfter (.char c :: before) rest := rfl

/-- The only ASCII character in the table is `k`. -/
theorem lowerRuns_past_ascii : ∀ r ∈ lowerRuns,
    r.target = 0x6b ∧ r.first = r.last ∨
      0x80 ≤ r.target ∧ (r.target + (r.last - r.first) < 0xd800 ∨
        0xe000 ≤ r.target ∧ r.target + (r.last - r.first) < 0x110000) := by
  decide +kernel

theorem apply_of_contains {r : LowerRun} (hr : r ∈ lowerRuns) {n : Nat}
    (hn : r.contains n = true) :
    Char.ofNat (r.apply n) = 'k' ∨ 0x80 ≤ (Char.ofNat (r.apply n)).toNat := by
  obtain ⟨⟨hfirst, hlast⟩, -⟩ : (r.first ≤ n ∧ n ≤ r.last) ∧ _ := by
    simpa [LowerRun.contains] using hn
  obtain ⟨htarget, hone⟩ | ⟨hge, hvalid⟩ := lowerRuns_past_ascii r hr
  · left
    rw [LowerRun.apply, htarget, show n - r.first = 0 by omega]
  · right
    have hchar : (r.apply n).isValidChar := by
      rw [Nat.isValidChar, LowerRun.apply]
      omega
    have hcode : (Char.ofNat (r.apply n)).toNat = r.apply n := by
      rw [Char.ofNat, dif_pos hchar]
      rfl
    rw [hcode, LowerRun.apply]
    omega

/-- An ASCII character has one ASCII character as its form. The form of any other character has no
ASCII character in it but `i` and `k`. -/
theorem formOf_cases (before rest : List Symbol) (c : Char) :
    formOf before rest c = [c.toLower] ∨
      Symbol.hasAsciiSources (.char c) = false ∧ formOf before rest c ≠ [] ∧
        ∀ d ∈ formOf before rest c, Symbol.hasAsciiSources (.char d) = false := by
  by_cases hascii : c.toNat < 0x80
  · left
    rw [formOf, if_neg (by omega), lowerChar, if_pos hascii]
  · right
    have hc : Symbol.hasAsciiSources (.char c) = false :=
      hasAsciiSources_eq_false_iff.mpr (.inr (.inr (by omega)))
    refine ⟨hc, ?_⟩
    rw [formOf]
    split
    · rw [lowerSigma]
      split <;> simp [hasAsciiSources_eq_false_iff]
    · rw [lowerChar, if_neg hascii]
      split
      · simp [hasAsciiSources_eq_false_iff]
      · split
        · rename_i r hr
          have hcontains := List.find?_some hr
          have hform := apply_of_contains (List.mem_of_find?_eq_some hr) hcontains
          simpa [hasAsciiSources_eq_false_iff] using Or.inr hform
        · simpa using hc

/-! ## Texts -/

/-- Where an ASCII character of a lower-case form comes from. -/
theorem mem_lowerAfter_iff {s : Symbol} (hs : s.hasAsciiSources = true)
    (before symbols : List Symbol) :
    s ∈ lowerAfter before symbols ↔ ∃ source ∈ symbols, source.mapChar Char.toLower = s := by
  induction symbols generalizing before with
  | nil => simp [lowerAfter]
  | cons first rest ih =>
    cases first with
    | half i =>
      have hne : s ≠ .half i := by
        rintro rfl
        cases hs
      simp [lowerAfter, ih, hne, Symbol.mapChar, hne.symm]
    | char c =>
      rw [lowerAfter_char, List.mem_append, ih, List.exists_mem_cons_iff]
      refine or_congr_left ?_
      obtain hform | ⟨hc, -, hform⟩ := formOf_cases before rest c
      · simp [hform, Symbol.mapChar, eq_comm]
      · -- Neither the character nor its form can be the symbol.
        constructor
        · intro hmem
          obtain ⟨d, hd, rfl⟩ := List.mem_map.mp hmem
          rw [hform d hd] at hs
          cases hs
        · rintro rfl
          rw [Symbol.mapChar, toLower_of_not_hasAsciiSources hc, hc] at hs
          cases hs

/-- ASCII characters in front of the small letters are not touched. -/
theorem mem_lowerAfter_char_iff {d : Char} (hd : d.toNat < 97 ∧ d.isUpper = false)
    (before symbols : List Symbol) :
    .char d ∈ lowerAfter before symbols ↔ .char d ∈ symbols := by
  have hs : Symbol.hasAsciiSources (.char d) = true := by
    rw [← Bool.not_eq_false, hasAsciiSources_eq_false_iff]
    rintro (rfl | rfl | hge)
    · exact absurd hd.1 (by decide)
    · exact absurd hd.1 (by decide)
    · omega
  rw [mem_lowerAfter_iff hs]
  simp [mapChar_toLower_eq_char_iff hd]

/-- Only a text without symbols has a form without symbols. -/
theorem lowerAfter_eq_nil_iff (before symbols : List Symbol) :
    lowerAfter before symbols = [] ↔ symbols = [] := by
  cases symbols with
  | nil => simp [lowerAfter]
  | cons first rest =>
    cases first with
    | half i => simp [lowerAfter]
    | char c =>
      have hne : formOf before rest c ≠ [] := by
        obtain hform | ⟨-, hform, -⟩ := formOf_cases before rest c
        · simp [hform]
        · exact hform
      simp [lowerAfter_char, hne]

/-- Lower-case forms have no ASCII capitals. -/
theorem map_toLower_lowerAfter (before symbols : List Symbol) :
    (lowerAfter before symbols).map (Symbol.mapChar Char.toLower) = lowerAfter before symbols := by
  induction symbols generalizing before with
  | nil => rfl
  | cons first rest ih =>
    cases first with
    | half i => simp [lowerAfter, ih, Symbol.mapChar]
    | char c =>
      rw [lowerAfter_char, List.map_append, ih, List.map_map]
      congr 1
      refine List.map_congr_left fun d hd => congrArg Symbol.char ?_
      obtain hform | ⟨-, -, hform⟩ := formOf_cases before rest c
      · obtain rfl : d = c.toLower := by simpa [hform] using hd
        exact toLower_toLower c
      · exact toLower_of_not_hasAsciiSources (hform d hd)

theorem asciiLower_lower (t : Text) : asciiLower (lower t) = lower t :=
  Text.ext (map_toLower_lowerAfter [] t.symbols)

/-- The induction is on the symbols. A symbol past the ASCII range can begin neither of the two
sides, since its form begins with no character of the result. -/
theorem lowerAfter_eq_iff {out : List Symbol} (hout : ∀ s ∈ out, s.hasAsciiSources = true)
    (before symbols : List Symbol) :
    lowerAfter before symbols = out ↔ symbols.map (Symbol.mapChar Char.toLower) = out := by
  induction symbols generalizing before out with
  | nil => rfl
  | cons first rest ih =>
    cases first with
    | half i =>
      have hnot : ∀ more, out ≠ .half i :: more := by
        rintro more rfl
        cases hout _ List.mem_cons_self
      simp [lowerAfter, Symbol.mapChar, fun more => (hnot more).symm]
    | char c =>
      rw [lowerAfter_char, List.map_cons, Symbol.mapChar]
      obtain hform | ⟨hc, hne, hform⟩ := formOf_cases before rest c
      · rw [hform, List.map_singleton, List.singleton_append]
        cases out with
        | nil => simp
        | cons s more =>
          have hrest := ih (fun s hs => hout s (List.mem_cons_of_mem _ hs)) (.char c :: before)
          simp only [List.cons.injEq, hrest]
      · have hfirst : ∀ d, Symbol.hasAsciiSources (.char d) = false → ∀ more,
            Symbol.char d :: more ≠ out := by
          rintro d hd more rfl
          rw [hout _ List.mem_cons_self] at hd
          cases hd
        obtain ⟨d, more, hcons⟩ := List.exists_cons_of_ne_nil hne
        rw [hcons, List.map_cons, List.cons_append, toLower_of_not_hasAsciiSources hc]
        exact iff_of_false (hfirst d (hform d (by simp [hcons])) _) (hfirst c hc _)

/-- A text of ASCII characters other than `i` and `k` is the lower-case form of the texts that
differ from it by the case of ASCII letters. -/
theorem lower_eq_iff {t u : Text} (hu : ∀ s ∈ u.symbols, s.hasAsciiSources = true) :
    lower t = u ↔ asciiLower t = u := by
  rw [lower, asciiLower, Text.ext_iff, Text.ext_iff]
  exact lowerAfter_eq_iff hu [] t.symbols

end Text

end Scribe
