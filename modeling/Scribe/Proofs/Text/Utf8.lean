import Scribe.Text.Encode

/-!
# Reading bytes piece by piece

`Utf8.decode` and `Utf8.readLoose` read bytes from the left. Each step takes one piece: the bytes of
a character, or some bytes that are none. `pieceAt` is that step alone, and everything said about
reading goes through it.

## Main results

* `pieceAt_encodeChar`, `encodeChar_of_pieceAt`: a piece is a character exactly when its bytes are
  the encoding of that character.
* `decode_encode`: what was written is read back.
* `decodeText_eq_ok_iff`: what is read was written so.
* `readPieces_slash`: bytes can be cut at a slash and the parts read apart.
-/

namespace Scribe.Utf8

/-- What bytes start with. Besides its first byte, a piece has `more` bytes. -/
inductive Piece where
  | char (c : Char) (more : Nat)
  | fault (more : Nat) (reason : Reason)

/-- The piece that the byte `a` starts when the bytes `rest` follow. -/
def pieceAt (a : UInt8) (rest : Bytes) : Piece :=
  if a < 0x80 then .char (Char.ofNat a.toNat) 0
  else if a < 0xc2 then .fault 0 .start
  else if a < 0xe0 then
    match rest with
    | [] => .fault 0 .unfinished
    | b :: _ => if !isContinuation b then .fault 0 .continuation else .char (char2 a b) 1
  else if a < 0xf0 then
    match rest with
    | [] => .fault 0 .unfinished
    | b :: rest =>
      if !isSecondOfThree a b then .fault 0 .continuation
      else match rest with
        | [] => .fault 1 .unfinished
        | c :: _ => if !isContinuation c then .fault 1 .continuation else .char (char3 a b c) 2
  else if a < 0xf5 then
    match rest with
    | [] => .fault 0 .unfinished
    | b :: rest =>
      if !isSecondOfFour a b then .fault 0 .continuation
      else match rest with
        | [] => .fault 1 .unfinished
        | c :: rest =>
          if !isContinuation c then .fault 1 .continuation
          else match rest with
            | [] => .fault 2 .unfinished
            | d :: _ =>
              if !isContinuation d then .fault 2 .continuation else .char (char4 a b c d) 3
  else .fault 0 .start

theorem decodeFrom_cons (offset : Nat) (a : UInt8) (rest : Bytes) :
    decodeFrom offset (a :: rest) =
      match pieceAt a rest with
      | .char c more => (c :: ·) <$> decodeFrom (offset + (more + 1)) (rest.drop more)
      | .fault more reason => .error ⟨offset, a, more + 1, reason⟩ := by
  rw [decodeFrom.eq_def]
  fun_cases pieceAt a rest <;> simp only [*, ↓reduceIte] <;> rfl

/-! ## Characters and their bytes -/

theorem toNat_byte {n : Nat} (h : n < 256) : n.toUInt8.toNat = n :=
  UInt8.toNat_ofNat_of_lt' h

theorem isContinuation_iff (b : UInt8) :
    isContinuation b = true ↔ 0x80 ≤ b.toNat ∧ b.toNat < 0xc0 := by
  simp [isContinuation, UInt8.le_iff_toNat_le, UInt8.lt_iff_toNat_lt]

theorem isSecondOfThree_iff (lead b : UInt8) :
    isSecondOfThree lead b = true ↔ (0x80 ≤ b.toNat ∧ b.toNat < 0xc0)
      ∧ (lead.toNat = 0xe0 → 0xa0 ≤ b.toNat) ∧ (lead.toNat = 0xed → b.toNat < 0xa0) := by
  simp [isSecondOfThree, isContinuation_iff, UInt8.le_iff_toNat_le, UInt8.lt_iff_toNat_lt,
    ← UInt8.toNat_inj, and_assoc]
  omega

theorem isSecondOfFour_iff (lead b : UInt8) :
    isSecondOfFour lead b = true ↔ (0x80 ≤ b.toNat ∧ b.toNat < 0xc0)
      ∧ (lead.toNat = 0xf0 → 0x90 ≤ b.toNat) ∧ (lead.toNat = 0xf4 → b.toNat < 0x90) := by
  simp [isSecondOfFour, isContinuation_iff, UInt8.le_iff_toNat_le, UInt8.lt_iff_toNat_lt,
    ← UInt8.toNat_inj, and_assoc]
  omega

/-- No character has the code of half of a pair. -/
theorem toNat_valid (c : Char) : c.toNat < 0xd800 ∨ 0xe000 ≤ c.toNat ∧ c.toNat < 0x110000 := by
  have h := c.valid
  simp only [UInt32.isValidChar, Nat.isValidChar] at h
  simp only [Char.toNat]
  omega

theorem encodeChar_ofNat {n : Nat} (h : n < 0xd800 ∨ 0xe000 ≤ n ∧ n < 0x110000) :
    encodeChar (Char.ofNat n) = encodeCode n := by
  have hv : n.isValidChar := by
    simp only [Nat.isValidChar]
    omega
  have hcode : (Char.ofNat n).toNat = n := by
    rw [Char.ofNat, dif_pos hv]
    rfl
  rw [encodeChar, hcode]

theorem encodeChar_char2 {a b : UInt8} (ha : 0xc2 ≤ a.toNat ∧ a.toNat < 0xe0)
    (hb : isContinuation b = true) : encodeChar (char2 a b) = [a, b] := by
  rw [isContinuation_iff] at hb
  rw [char2, encodeChar_ofNat (by omega), encodeCode, if_neg (by omega), if_pos (by omega)]
  generalize hm : (a.toNat - 0xc0) * 0x40 + (b.toNat - 0x80) = m
  have h1 : 0xc0 + m / 0x40 = a.toNat := by omega
  have h2 : 0x80 + m % 0x40 = b.toNat := by omega
  simp [h1, h2]

theorem encodeChar_char3 {a b c : UInt8} (ha : 0xe0 ≤ a.toNat ∧ a.toNat < 0xf0)
    (hb : isSecondOfThree a b = true) (hc : isContinuation c = true) :
    encodeChar (char3 a b c) = [a, b, c] := by
  rw [isSecondOfThree_iff] at hb
  rw [isContinuation_iff] at hc
  rw [char3, encodeChar_ofNat (by omega), encodeCode, if_neg (by omega), if_neg (by omega),
    if_pos (by omega)]
  generalize hm : (a.toNat - 0xe0) * 0x1000 + (b.toNat - 0x80) * 0x40 + (c.toNat - 0x80) = m
  have h1 : 0xe0 + m / 0x1000 = a.toNat := by omega
  have h2 : 0x80 + m / 0x40 % 0x40 = b.toNat := by omega
  have h3 : 0x80 + m % 0x40 = c.toNat := by omega
  simp [h1, h2, h3]

theorem encodeChar_char4 {a b c d : UInt8} (ha : 0xf0 ≤ a.toNat ∧ a.toNat < 0xf5)
    (hb : isSecondOfFour a b = true) (hc : isContinuation c = true)
    (hd : isContinuation d = true) : encodeChar (char4 a b c d) = [a, b, c, d] := by
  rw [isSecondOfFour_iff] at hb
  rw [isContinuation_iff] at hc hd
  rw [char4, encodeChar_ofNat (by omega), encodeCode, if_neg (by omega), if_neg (by omega),
    if_neg (by omega)]
  generalize hm : (a.toNat - 0xf0) * 0x40000 + (b.toNat - 0x80) * 0x1000
    + (c.toNat - 0x80) * 0x40 + (d.toNat - 0x80) = m
  have h1 : 0xf0 + m / 0x40000 = a.toNat := by omega
  have h2 : 0x80 + m / 0x1000 % 0x40 = b.toNat := by omega
  have h3 : 0x80 + m / 0x40 % 0x40 = c.toNat := by omega
  have h4 : 0x80 + m % 0x40 = d.toNat := by omega
  simp [h1, h2, h3, h4]

/-- A piece that is a character consists of the bytes of that character. -/
theorem encodeChar_of_pieceAt {a : UInt8} {rest : Bytes} {c : Char} {more : Nat}
    (h : pieceAt a rest = .char c more) :
    more ≤ rest.length ∧ encodeChar c = a :: rest.take more := by
  revert h
  fun_cases pieceAt a rest <;> intro h <;> simp only [reduceCtorEq, Piece.char.injEq] at h
  all_goals
    obtain ⟨rfl, rfl⟩ := h
    simp only [UInt8.lt_iff_toNat_lt, UInt8.reduceToNat, Bool.not_eq_true', Bool.not_eq_false] at *
  case case1 =>
    refine ⟨Nat.zero_le _, ?_⟩
    rw [encodeChar_ofNat (by omega), encodeCode, if_pos (by omega)]
    simp
  case case5 hb =>
    have ha : 0xc2 ≤ a.toNat ∧ a.toNat < 0xe0 := by omega
    simp [encodeChar_char2 ha hb]
  case case10 hb hc =>
    have ha : 0xe0 ≤ a.toNat ∧ a.toNat < 0xf0 := by omega
    simp [encodeChar_char3 ha hb hc]
  case case17 hb hc hd =>
    have ha : 0xf0 ≤ a.toNat ∧ a.toNat < 0xf5 := by omega
    simp [encodeChar_char4 ha hb hc hd]

/-- The bytes of a character are read as that character, whatever follows. -/
theorem pieceAt_encodeChar (c : Char) (rest : Bytes) :
    ∃ a more, encodeChar c = a :: more ∧ pieceAt a (more ++ rest) = .char c more.length := by
  have hc := toNat_valid c
  have hn := Char.ofNat_toNat c
  unfold encodeChar encodeCode
  generalize c.toNat = n at hc hn
  subst hn
  split
  · refine ⟨_, _, rfl, ?_⟩
    have ha := toNat_byte (n := n) (by omega)
    simp only [pieceAt, UInt8.lt_iff_toNat_lt, ha]
    simp [*]
  split
  · refine ⟨_, _, rfl, ?_⟩
    have ha := toNat_byte (n := 0xc0 + n / 0x40) (by omega)
    have hb := toNat_byte (n := 0x80 + n % 0x40) (by omega)
    have hsum : (0xc0 + n / 0x40 - 0xc0) * 0x40 + (0x80 + n % 0x40 - 0x80) = n := by omega
    simp only [pieceAt, UInt8.lt_iff_toNat_lt, ha, hb, List.cons_append, List.nil_append,
      Bool.not_eq_true', ← Bool.not_eq_true, isContinuation_iff, char2, UInt8.reduceToNat]
    rw [if_neg (by omega), if_neg (by omega), if_pos (by omega), if_neg (by omega), hsum]
    rfl
  split
  · refine ⟨_, _, rfl, ?_⟩
    have ha := toNat_byte (n := 0xe0 + n / 0x1000) (by omega)
    have hb := toNat_byte (n := 0x80 + n / 0x40 % 0x40) (by omega)
    have hd := toNat_byte (n := 0x80 + n % 0x40) (by omega)
    have hsum : (0xe0 + n / 0x1000 - 0xe0) * 0x1000 + (0x80 + n / 0x40 % 0x40 - 0x80) * 0x40
        + (0x80 + n % 0x40 - 0x80) = n := by omega
    simp only [pieceAt, UInt8.lt_iff_toNat_lt, ha, hb, hd, List.cons_append, List.nil_append,
      Bool.not_eq_true', ← Bool.not_eq_true, isContinuation_iff, isSecondOfThree_iff, char3,
      UInt8.reduceToNat]
    rw [if_neg (by omega), if_neg (by omega), if_neg (by omega), if_pos (by omega),
      if_neg (by omega), if_neg (by omega), hsum]
    rfl
  · refine ⟨_, _, rfl, ?_⟩
    have ha := toNat_byte (n := 0xf0 + n / 0x40000) (by omega)
    have hb := toNat_byte (n := 0x80 + n / 0x1000 % 0x40) (by omega)
    have hd := toNat_byte (n := 0x80 + n / 0x40 % 0x40) (by omega)
    have he := toNat_byte (n := 0x80 + n % 0x40) (by omega)
    have hsum : (0xf0 + n / 0x40000 - 0xf0) * 0x40000 + (0x80 + n / 0x1000 % 0x40 - 0x80) * 0x1000
        + (0x80 + n / 0x40 % 0x40 - 0x80) * 0x40 + (0x80 + n % 0x40 - 0x80) = n := by omega
    simp only [pieceAt, UInt8.lt_iff_toNat_lt, ha, hb, hd, he, List.cons_append, List.nil_append,
      Bool.not_eq_true', ← Bool.not_eq_true, isContinuation_iff, isSecondOfFour_iff, char4,
      UInt8.reduceToNat]
    rw [if_neg (by omega), if_neg (by omega), if_neg (by omega), if_neg (by omega),
      if_pos (by omega), if_neg (by omega), if_neg (by omega), if_neg (by omega), hsum]
    rfl

theorem decodeFrom_encodeChar_append (offset : Nat) (c : Char) (rest : Bytes) :
    decodeFrom offset (encodeChar c ++ rest) =
      (c :: ·) <$> decodeFrom (offset + (encodeChar c).length) rest := by
  obtain ⟨a, more, henc, hp⟩ := pieceAt_encodeChar c rest
  simp [henc, decodeFrom_cons, hp]

/-- What was written is read back. -/
theorem decode_encode (cs : List Char) : decode (cs.flatMap encodeChar) = .ok cs := by
  have general (offset : Nat) : decodeFrom offset (cs.flatMap encodeChar) = .ok cs := by
    induction cs generalizing offset with
    | nil => rfl
    | cons c rest ih =>
      rw [List.flatMap_cons, decodeFrom_encodeChar_append, ih]
      rfl
  exact general 0

/-- What is read was written so. The induction is on the number of bytes, since a step may take
several. -/
theorem flatMap_encodeChar_of_decodeFrom {bytes : Bytes} {offset : Nat} {cs : List Char}
    (h : decodeFrom offset bytes = .ok cs) : cs.flatMap encodeChar = bytes := by
  generalize hlength : bytes.length = length
  induction length using Nat.strongRecOn generalizing bytes offset cs with
  | ind length ih =>
    cases bytes with
    | nil =>
      cases h
      rfl
    | cons a rest =>
      rw [decodeFrom_cons] at h
      cases hpiece : pieceAt a rest with
      | fault more reason => simp [hpiece] at h
      | char c more =>
        obtain ⟨-, hbytes⟩ := encodeChar_of_pieceAt hpiece
        cases hrest : decodeFrom (offset + (more + 1)) (rest.drop more) with
        | error f => simp [hpiece, hrest, Functor.map, Except.map] at h
        | ok others =>
          obtain rfl : c :: others = cs := by
            simpa [hpiece, hrest, Functor.map, Except.map] using h
          have hshorter : (rest.drop more).length < length := by
            rw [← hlength, List.length_cons, List.length_drop]
            omega
          rw [List.flatMap_cons, ih _ hshorter hrest rfl, hbytes, List.cons_append,
            List.take_append_drop]

/-- Bytes are read as a text exactly if the text is written so. -/
theorem decodeText_eq_ok_iff {bytes : Bytes} {s : String} :
    decodeText bytes = .ok s ↔ encode s = bytes := by
  constructor
  · intro h
    cases hdecode : decode bytes with
    | error f => simp [decodeText, hdecode, Functor.map, Except.map] at h
    | ok cs =>
      obtain rfl : String.ofList cs = s := by
        simpa [decodeText, hdecode, Functor.map, Except.map] using h
      rw [encode, String.toList_ofList]
      exact flatMap_encodeChar_of_decodeFrom hdecode
  · rintro rfl
    rw [decodeText, encode, decode_encode]
    exact congrArg Except.ok String.ofList_toList

/-- A character does not depend on the bytes after it. -/
theorem pieceAt_take_add {a : UInt8} {rest : Bytes} {c : Char} {more : Nat}
    (h : pieceAt a rest = .char c more) (k : Nat) :
    pieceAt a (rest.take (more + k)) = .char c more := by
  obtain ⟨hlen, henc⟩ := encodeChar_of_pieceAt h
  obtain ⟨a', more', henc', hp⟩ := pieceAt_encodeChar c ((rest.drop more).take k)
  obtain ⟨rfl, rfl⟩ : a = a' ∧ rest.take more = more' := by simpa using henc.symm.trans henc'
  rw [List.take_add, hp, List.length_take, Nat.min_eq_left hlen]

theorem pieceAt_append {a : UInt8} {rest : Bytes} {c : Char} {more : Nat}
    (h : pieceAt a rest = .char c more) (after : Bytes) :
    pieceAt a (rest ++ after) = .char c more := by
  obtain ⟨hlen, henc⟩ := encodeChar_of_pieceAt h
  obtain ⟨a', more', henc', hp⟩ := pieceAt_encodeChar c (rest.drop more ++ after)
  obtain ⟨rfl, rfl⟩ : a = a' ∧ rest.take more = more' := by simpa using henc.symm.trans henc'
  rwa [← List.append_assoc, List.take_append_drop, List.length_take, Nat.min_eq_left hlen] at hp

/-- Bytes that are no character lie past ASCII. -/
theorem pieceAt_fault {a : UInt8} {rest : Bytes} {more : Nat} {reason : Reason}
    (h : pieceAt a rest = .fault more reason) :
    more ≤ rest.length ∧ ∀ b ∈ a :: rest.take more, 0x80 ≤ b.toNat := by
  revert h
  fun_cases pieceAt a rest <;> intro h <;> simp only [reduceCtorEq, Piece.fault.injEq] at h
  all_goals
    obtain ⟨rfl, rfl⟩ := h
    simp only [UInt8.lt_iff_toNat_lt, UInt8.reduceToNat, Bool.not_eq_true', Bool.not_eq_false,
      isContinuation_iff, isSecondOfThree_iff, isSecondOfFour_iff] at *
    simp
    try omega

/-- A slash ends a piece that is no character where the end of the bytes would. -/
theorem pieceAt_fault_slash {a : UInt8} {rest : Bytes} {more : Nat} {reason : Reason}
    (h : pieceAt a rest = .fault more reason) (after : Bytes) :
    ∃ reason', pieceAt a (rest ++ 0x2f :: after) = .fault more reason' := by
  have h2 : isContinuation 0x2f = false := by decide
  have h3 (lead : UInt8) : isSecondOfThree lead 0x2f = false := by simp [isSecondOfThree, h2]
  have h4 (lead : UInt8) : isSecondOfFour lead 0x2f = false := by simp [isSecondOfFour, h2]
  revert h
  fun_cases pieceAt a rest <;> intro h <;> simp only [reduceCtorEq, Piece.fault.injEq] at h
  all_goals
    obtain ⟨rfl, rfl⟩ := h
    simp only [pieceAt, List.nil_append, List.cons_append, *, ↓reduceIte, Bool.not_false]
    exact ⟨_, rfl⟩

end Scribe.Utf8
