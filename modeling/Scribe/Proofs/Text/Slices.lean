import Scribe.Proofs.Text.Utf8

/-!
# Parts of written texts

A text is written character by character, and the first byte of a character is told apart from the
bytes that continue one. So wherever the bytes of a text stand among those of another text, its
characters stand there too. A line feed is one byte, and no other character has this byte in it.

## Main results

* `encode_injective`: different texts are written differently.
* `infix_of_encode`: a text whose bytes are part of a written text is part of that text.
* `count_encode`: line feeds can be counted in the bytes.
-/

namespace Scribe.Utf8

theorem encode_injective {s t : String} (h : encode s = encode t) : s = t := by
  have hs : decodeText (encode t) = .ok s := decodeText_eq_ok_iff.mpr h
  have ht : decodeText (encode t) = .ok t := decodeText_eq_ok_iff.mpr rfl
  exact Except.ok.inj (hs.symm.trans ht)

/-- All bytes of a character but the first carry six bits each. -/
def low (n : Nat) : UInt8 := (0x80 + n % 0x40).toUInt8

theorem isContinuation_of_mem_low {ns : List Nat} :
    ∀ b ∈ ns.map low, isContinuation b = true := by
  intro b hb
  obtain ⟨n, -, rfl⟩ := List.mem_map.mp hb
  rw [isContinuation_iff, low, toNat_byte (by omega)]
  omega

/-- A character is written as its code or as a larger byte, with bytes after it that continue it. -/
theorem exists_encodeChar_eq (c : Char) :
    ∃ a more, encodeChar c = a :: more ∧
      (a.toNat = c.toNat ∧ c.toNat < 0x80 ∨ 0xc0 ≤ a.toNat ∧ 0x80 ≤ c.toNat) ∧
      ∀ b ∈ more, isContinuation b = true := by
  have hc := toNat_valid c
  have hlead {n : Nat} (hn : n < 256) (hlarge : 0xc0 ≤ n) (hcode : 0x80 ≤ c.toNat) :
      n.toUInt8.toNat = c.toNat ∧ c.toNat < 0x80 ∨ 0xc0 ≤ n.toUInt8.toNat ∧ 0x80 ≤ c.toNat :=
    .inr ⟨by rwa [toNat_byte hn], hcode⟩
  unfold encodeChar encodeCode
  split
  · rename_i hone
    exact ⟨_, _, rfl, .inl ⟨toNat_byte (by omega), hone⟩, nofun⟩
  split
  · exact ⟨_, [c.toNat].map low, rfl, hlead (by omega) (by omega) (by omega),
      isContinuation_of_mem_low⟩
  split
  · exact ⟨_, [c.toNat / 0x40, c.toNat].map low, rfl, hlead (by omega) (by omega) (by omega),
      isContinuation_of_mem_low⟩
  · exact ⟨_, [c.toNat / 0x1000, c.toNat / 0x40, c.toNat].map low, rfl,
      hlead (by omega) (by omega) (by omega), isContinuation_of_mem_low⟩

/-! ## Where a text stands in another -/

theorem decodeFrom_append (offset : Nat) (cs : List Char) (rest : Bytes) :
    decodeFrom offset (cs.flatMap encodeChar ++ rest) =
      (cs ++ ·) <$> decodeFrom (offset + (cs.flatMap encodeChar).length) rest := by
  induction cs generalizing offset with
  | nil => simp
  | cons c more ih =>
    rw [List.flatMap_cons, List.append_assoc, decodeFrom_encodeChar_append, ih,
      List.length_append, Nat.add_assoc]
    cases decodeFrom _ rest <;> rfl

/-- A text whose bytes come first comes first. -/
theorem prefix_of_flatMap {cs ds : List Char} {after : Bytes}
    (h : cs.flatMap encodeChar ++ after = ds.flatMap encodeChar) : cs <+: ds := by
  have hds : decodeFrom 0 (cs.flatMap encodeChar ++ after) = .ok ds := by
    rw [h]
    exact decode_encode ds
  rw [decodeFrom_append] at hds
  cases hafter : decodeFrom (0 + (cs.flatMap encodeChar).length) after with
  | error fault =>
    rw [hafter] at hds
    cases hds
  | ok others =>
    rw [hafter] at hds
    exact ⟨others, Except.ok.inj hds⟩

/-- The induction is on the text that holds the other. Its first character ends before the other
text starts, since no text starts in the middle of a character. -/
theorem infix_of_flatMap {c : Char} {cs ds : List Char} {before after : Bytes}
    (h : before ++ ((c :: cs).flatMap encodeChar ++ after) = ds.flatMap encodeChar) :
    c :: cs <:+: ds := by
  induction ds generalizing before with
  | nil =>
    obtain ⟨a, more, henc, -⟩ := exists_encodeChar_eq c
    simp [henc] at h
  | cons d ds ih =>
    cases before with
    | nil => exact (prefix_of_flatMap h).isInfix
    | cons b before =>
      obtain ⟨a, more, hd, -, hmore⟩ := exists_encodeChar_eq d
      have hds : (d :: ds).flatMap encodeChar = a :: (more ++ ds.flatMap encodeChar) := by
        rw [List.flatMap_cons, hd, List.cons_append]
      rw [hds, List.cons_append, List.cons.injEq, List.append_eq_append_iff] at h
      obtain ⟨-, ⟨inner, hinner, hrest⟩ | ⟨outer, -, hrest⟩⟩ := h
      · cases inner with
        | nil =>
          have hnext : [] ++ ((c :: cs).flatMap encodeChar ++ after) = ds.flatMap encodeChar :=
            hrest
          exact List.infix_cons (ih hnext)
        | cons x inner =>
          -- The first byte of the text would continue the character.
          obtain ⟨a', more', hc, hfirst, -⟩ := exists_encodeChar_eq c
          obtain rfl : a' = x := by
            rw [List.flatMap_cons, hc] at hrest
            exact (List.cons.inj hrest).1
          have hlater := (isContinuation_iff a').mp (hmore a' (by simp [hinner]))
          omega
      · exact List.infix_cons (ih hrest.symm)

/-- A text whose bytes are part of a written text is part of that text. -/
theorem infix_of_encode {s t : String} (h : encode s <:+: encode t) : s.toList <:+: t.toList := by
  obtain ⟨before, after, heq⟩ := h
  rw [List.append_assoc] at heq
  unfold encode at heq
  cases hs : s.toList with
  | nil => exact List.nil_infix
  | cons c cs => exact infix_of_flatMap (hs ▸ heq)

/-! ## Line feeds -/

theorem count_encodeChar (c : Char) : (encodeChar c).count 10 = if c = '\n' then 1 else 0 := by
  obtain ⟨a, more, hc, hfirst, hmore⟩ := exists_encodeChar_eq c
  have hlater : more.count 10 = 0 := by
    refine List.count_eq_zero.mpr fun hmem => ?_
    have hfeed : isContinuation 10 = true := hmore 10 hmem
    cases hfeed
  have hfeed : a = 10 ↔ c = '\n' := by
    rw [← UInt8.toNat_inj, ← Char.toNat_inj]
    change a.toNat = 10 ↔ c.toNat = 10
    omega
  rw [hc, List.count_cons, hlater]
  simp [hfeed]

theorem count_encode (s : String) : (encode s).count 10 = s.toList.count '\n' := by
  unfold encode
  induction s.toList with
  | nil => rfl
  | cons c cs ih =>
    rw [List.flatMap_cons, List.count_append, count_encodeChar, ih, List.count_cons, Nat.add_comm]
    simp

end Scribe.Utf8
