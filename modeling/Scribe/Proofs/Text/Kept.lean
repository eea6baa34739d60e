import Scribe.Proofs.Text.Utf8

/-!
# Texts kept as bytes

A text that has been kept as bytes may come back as another text, since halves of pairs in it may
stand for bytes that make up a character. It comes back part by part between slashes, and it takes
up as many bytes as before.

## Main results

* `kept_eq_ok_iff`: keeping a text is writing it and reading it again.
* `kept_slash`: the parts of a path are kept apart.
* `symbolBytes_readLoose`: bytes of any kind come back.
* `zero_mem_kept_iff`: the character zero is kept, and never arises.
-/

namespace Scribe.Utf8

section Pieces

variable {α : Type} (ofChar : Char → α) (fill : Bytes → List α)

/-- The symbols of bytes, read piece by piece. -/
def readPieces : Bytes → List α
  | [] => []
  | a :: rest =>
    match pieceAt a rest with
    | .char c more => ofChar c :: readPieces (rest.drop more)
    | .fault more _ => fill (a :: rest.take more) ++ readPieces (rest.drop more)
termination_by bytes => bytes.length
decreasing_by all_goals simp only [List.length_cons, List.length_drop]; omega

theorem readPieces_of_ok {offset : Nat} {bytes : Bytes} {cs : List Char}
    (h : decodeFrom offset bytes = .ok cs) : readPieces ofChar fill bytes = cs.map ofChar := by
  fun_induction readPieces ofChar fill bytes generalizing offset cs with
  | case1 =>
    cases h
    rfl
  | case2 a rest c more hp ih =>
    rw [decodeFrom_cons, hp] at h
    cases hd : decodeFrom (offset + (more + 1)) (rest.drop more) with
    | error f => simp [hd, Functor.map, Except.map] at h
    | ok ds =>
      simp only [hd, Functor.map, Except.map, Except.ok.injEq] at h
      rw [← h, ih hd, List.map_cons]
  | case3 a rest more reason hp ih => simp [decodeFrom_cons, hp] at h

/-- Up to the first fault the bytes are characters, and reading goes on right after it. -/
theorem readPieces_of_error {offset : Nat} {bytes : Bytes} {f : Fault}
    (h : decodeFrom offset bytes = .error f) :
    ∃ k cs, f.offset = offset + k ∧ (∀ o, decodeFrom o (bytes.take k) = .ok cs) ∧
      1 ≤ f.size ∧ k + f.size ≤ bytes.length ∧
      readPieces ofChar fill bytes =
        cs.map ofChar ++ fill ((bytes.drop k).take f.size)
          ++ readPieces ofChar fill (bytes.drop (k + f.size)) := by
  fun_induction readPieces ofChar fill bytes generalizing offset with
  | case1 => cases h
  | case2 a rest c more hp ih =>
    obtain ⟨hlen, -⟩ := encodeChar_of_pieceAt hp
    rw [decodeFrom_cons, hp] at h
    cases hd : decodeFrom (offset + (more + 1)) (rest.drop more) with
    | ok ds => simp [hd, Functor.map, Except.map] at h
    | error g =>
      simp only [hd, Functor.map, Except.map, Except.error.injEq] at h
      subst h
      obtain ⟨k, cs, hoff, hcs, hsize, hbound, hread⟩ := ih hd
      refine ⟨more + k + 1, c :: cs, by omega, ?_, hsize, ?_, ?_⟩
      · intro o
        have htake : (rest.take (more + k)).drop more = (rest.drop more).take k := by
          rw [List.drop_take, Nat.add_sub_cancel_left]
        rw [List.take_succ_cons, decodeFrom_cons, pieceAt_take_add hp]
        simp only [htake, hcs]
        rfl
      · simp only [List.length_drop, List.length_cons] at hbound ⊢
        omega
      · have hshift : more + k + 1 + g.size = more + (k + g.size) + 1 := by omega
        rw [hread, hshift]
        simp
  | case3 a rest more reason hp ih =>
    obtain ⟨hlen, -⟩ := pieceAt_fault hp
    rw [decodeFrom_cons, hp] at h
    cases h
    exact ⟨0, [], rfl, fun _ => rfl, by simp, by simpa using hlen, by simp⟩

/-- More fuel than bytes is enough. -/
theorem decodeFilling_eq_readPieces {fuel : Nat} {bytes : Bytes} (h : bytes.length < fuel) :
    decodeFilling ofChar fill fuel bytes = readPieces ofChar fill bytes := by
  induction fuel generalizing bytes with
  | zero => omega
  | succ fuel ih =>
    rw [decodeFilling]
    cases hd : decode bytes with
    | ok cs => exact (readPieces_of_ok ofChar fill hd).symm
    | error f =>
      obtain ⟨k, cs, hoff, hcs, hsize, hbound, hread⟩ := readPieces_of_error ofChar fill hd
      obtain rfl : f.offset = k := by omega
      have hrest : (bytes.drop (f.offset + f.size)).length < fuel := by
        rw [List.length_drop]
        omega
      simp only [decode, hcs, List.drop_drop, ih hrest, hread]
      rfl

/-- Bytes can be cut at a slash and the parts read apart. -/
theorem readPieces_slash (before after : Bytes) :
    readPieces ofChar fill (before ++ 0x2f :: after) =
      readPieces ofChar fill before ++ ofChar '/' :: readPieces ofChar fill after := by
  fun_induction readPieces ofChar fill before with
  | case1 =>
    have hp : pieceAt 0x2f after = .char '/' 0 := by simp [pieceAt]
    rw [List.nil_append, readPieces, hp]
    rfl
  | case2 a rest c more hp ih =>
    obtain ⟨hlen, -⟩ := encodeChar_of_pieceAt hp
    rw [List.cons_append, readPieces, pieceAt_append hp]
    simp only [List.drop_append_of_le_length hlen, ih, List.cons_append]
  | case3 a rest more reason hp ih =>
    obtain ⟨hlen, -⟩ := pieceAt_fault hp
    obtain ⟨reason', hp'⟩ := pieceAt_fault_slash hp after
    rw [List.cons_append, readPieces, hp']
    simp only [List.drop_append_of_le_length hlen, List.take_append_of_le_length hlen, ih,
      List.append_assoc]

end Pieces

theorem readLoose_eq (bytes : Bytes) :
    readLoose bytes = ⟨readPieces .char (·.map looseHalf) bytes⟩ := by
  rw [readLoose, decodeFilling_eq_readPieces _ _ (Nat.lt_succ_self _)]

theorem readLoose_slash (before after : Bytes) :
    readLoose (before ++ 0x2f :: after) = readLoose before ++ "/" ++ readLoose after := by
  ext1
  simp only [readLoose_eq, readPieces_slash, Text.symbols_append, List.append_assoc]
  rfl

/-! ## Writing -/

theorem looseByte?_looseHalf {b : UInt8} (h : 0x80 ≤ b.toNat) :
    ∃ i, looseHalf b = .half i ∧ looseByte? i = some b := by
  have hb : b.toNat < 256 := b.toNat_lt
  refine ⟨⟨0x400 + b.toNat, by omega⟩, ?_, ?_⟩
  · have hcode : 0xd800 ≤ 0xdc00 + b.toNat ∧ 0xdc00 + b.toNat < 0xe000 := by omega
    have hsub : 0xdc00 + b.toNat - 0xd800 = 0x400 + b.toNat := by omega
    simp [looseHalf, Symbol.ofCode, hcode, hsub]
  · have hrange : 0x480 ≤ 0x400 + b.toNat ∧ 0x400 + b.toNat < 0x500 := by omega
    simp [looseByte?, hrange]

/-- The bytes of symbols, if each of them has some. -/
def symbolBytes (byte? : Fin 0x800 → Option UInt8) : List Symbol → Option Bytes
  | [] => some []
  | .char c :: rest => (symbolBytes byte? rest).map (encodeChar c ++ ·)
  | .half i :: rest => (byte? i).bind fun b => (symbolBytes byte? rest).map (b :: ·)

variable {byte? : Fin 0x800 → Option UInt8}

/-- Where a text starts shows in faults only. -/
theorem writeFrom_eq_ok_iff {offset : Nat} {s : List Symbol} {x : Bytes} :
    writeFrom byte? offset s = .ok x ↔ symbolBytes byte? s = some x := by
  induction s generalizing offset x with
  | nil => simp [writeFrom, symbolBytes]
  | cons c rest ih =>
    have tail (f : Bytes → Bytes) : f <$> writeFrom byte? (offset + 1) rest = .ok x ↔
        (symbolBytes byte? rest).map f = some x := by
      rw [Option.map_eq_some_iff]
      cases hr : writeFrom byte? (offset + 1) rest with
      | error e =>
        have hnone : symbolBytes byte? rest = none := by
          refine Option.eq_none_iff_forall_ne_some.mpr fun y hy => ?_
          rw [← ih, hr] at hy
          cases hy
        simp [Functor.map, Except.map, hnone]
      | ok w => simp [Functor.map, Except.map, ih.mp hr]
    cases c with
    | char c => exact tail (encodeChar c ++ ·)
    | half i =>
      cases hb : byte? i with
      | none => simp [writeFrom, symbolBytes, hb]
      | some b => simpa [writeFrom, symbolBytes, hb] using tail (b :: ·)

theorem symbolBytes_append {s t : List Symbol} {x y : Bytes} (hs : symbolBytes byte? s = some x)
    (ht : symbolBytes byte? t = some y) : symbolBytes byte? (s ++ t) = some (x ++ y) := by
  fun_induction symbolBytes byte? s generalizing x with
  | case1 =>
    cases hs
    exact ht
  | case2 c rest ih =>
    obtain ⟨w, hw, rfl⟩ := Option.map_eq_some_iff.mp hs
    simp [symbolBytes, ih hw]
  | case3 i rest ih =>
    obtain ⟨b, hb, hs⟩ := Option.bind_eq_some_iff.mp hs
    obtain ⟨w, hw, rfl⟩ := Option.map_eq_some_iff.mp hs
    simp [symbolBytes, hb, ih hw]

theorem symbolBytes_map_char (cs : List Char) :
    symbolBytes byte? (cs.map .char) = some (cs.flatMap encodeChar) :=
  writeFrom_eq_ok_iff.mp (writeFrom_map_char byte? 0 cs)

theorem symbolBytes_map_looseHalf {bytes : Bytes} (h : ∀ b ∈ bytes, 0x80 ≤ b.toNat) :
    symbolBytes looseByte? (bytes.map looseHalf) = some bytes := by
  induction bytes with
  | nil => rfl
  | cons b rest ih =>
    obtain ⟨i, hi, hb⟩ := looseByte?_looseHalf (h b List.mem_cons_self)
    have hrest := ih fun b hb => h b (List.mem_cons_of_mem _ hb)
    simp [symbolBytes, hi, hb, hrest]

/-- Bytes of any kind come back. -/
theorem symbolBytes_readLoose (bytes : Bytes) :
    symbolBytes looseByte? (readLoose bytes).symbols = some bytes := by
  rw [readLoose_eq]
  fun_induction readPieces Symbol.char (·.map looseHalf) bytes with
  | case1 => rfl
  | case2 a rest c more hp ih =>
    obtain ⟨-, henc⟩ := encodeChar_of_pieceAt hp
    simp only at ih
    simp [symbolBytes, ih, henc]
  | case3 a rest more reason hp ih =>
    obtain ⟨-, hhigh⟩ := pieceAt_fault hp
    have hbytes := symbolBytes_append (symbolBytes_map_looseHalf hhigh) ih
    simpa using hbytes

/-! ## Keeping -/

theorem symbols_of_not_hasHalf {t : Text} (h : t.hasHalf = false) :
    ∃ cs : List Char, t.symbols = cs.map .char := by
  obtain ⟨symbols⟩ := t
  simp only [Text.hasHalf] at h
  induction symbols with
  | nil => exact ⟨[], rfl⟩
  | cons s rest ih =>
    cases s with
    | half i => simp [Symbol.isHalf] at h
    | char c =>
      obtain ⟨cs, hcs⟩ := ih (by simpa [Symbol.isHalf] using h)
      exact ⟨c :: cs, by simpa using hcs⟩

theorem exists_ofString_of_not_hasHalf {t : Text} (h : t.hasHalf = false) :
    ∃ s : String, t = .ofString s := by
  obtain ⟨cs, hcs⟩ := symbols_of_not_hasHalf h
  obtain ⟨symbols⟩ := t
  exact ⟨String.ofList cs, by simpa [Text.ofString, Text.ofList] using hcs⟩

/-- Half of a pair cannot be written. -/
theorem exists_write_eq_error {t : Text} (h : t.hasHalf = true) : ∃ e, write t = .error e := by
  suffices hfrom : ∀ (s : List Symbol) (offset : Nat), s.any Symbol.isHalf = true →
      ∃ e, writeFrom (fun _ => none) offset s = .error e from hfrom t.symbols 0 h
  intro s
  induction s with
  | nil => simp
  | cons c rest ih =>
    intro offset hany
    cases c with
    | half i => exact ⟨_, rfl⟩
    | char c =>
      obtain ⟨e, he⟩ := ih (offset + 1) (by simpa [Symbol.isHalf] using hany)
      exact ⟨e, by simp [writeFrom, he, Functor.map, Except.map]⟩

/-- Keeping a text is writing it and reading it again, for texts without halves of pairs too. -/
theorem kept_eq_ok_iff {t k : Text} :
    kept t = .ok k ↔
      ∃ bytes, symbolBytes looseByte? t.symbols = some bytes ∧ readLoose bytes = k := by
  by_cases h : t.hasHalf
  · simp only [kept, h, ↓reduceIte, writeLoose, ← @writeFrom_eq_ok_iff _ 0]
    cases writeFrom looseByte? 0 t.symbols <;> simp [Functor.map, Except.map]
  · obtain ⟨cs, hcs⟩ := symbols_of_not_hasHalf (by simpa using h)
    have hread : readLoose (cs.flatMap encodeChar) = t := by
      rw [readLoose_eq, readPieces_of_ok _ _ (decode_encode cs), ← hcs]
    simp [kept, h, hcs, symbolBytes_map_char, hread]

/-- The parts of a path are kept apart. -/
theorem kept_slash {a b ka kb : Text} (ha : kept a = .ok ka) (hb : kept b = .ok kb) :
    kept (a ++ "/" ++ b) = .ok (ka ++ "/" ++ kb) := by
  obtain ⟨x, hx, rfl⟩ := kept_eq_ok_iff.mp ha
  obtain ⟨y, hy, rfl⟩ := kept_eq_ok_iff.mp hb
  have hslash : symbolBytes looseByte? (Text.ofString "/").symbols = some [0x2f] := by decide
  refine kept_eq_ok_iff.mpr ⟨x ++ [0x2f] ++ y, ?_, ?_⟩
  · exact symbolBytes_append (symbolBytes_append hx hslash) hy
  · rw [List.append_assoc, List.singleton_append, readLoose_slash]

theorem symbolBytes_of_append {s t : List Symbol} {z : Bytes}
    (h : symbolBytes byte? (s ++ t) = some z) : ∃ x, symbolBytes byte? s = some x := by
  fun_induction symbolBytes byte? s generalizing z with
  | case1 => exact ⟨[], rfl⟩
  | case2 c rest ih =>
    obtain ⟨y, hy, -⟩ := Option.map_eq_some_iff.mp h
    obtain ⟨x, hx⟩ := ih hy
    exact ⟨_, by rw [hx]; rfl⟩
  | case3 i rest ih =>
    obtain ⟨b, hb, h⟩ := Option.bind_eq_some_iff.mp h
    obtain ⟨y, hy, -⟩ := Option.map_eq_some_iff.mp h
    obtain ⟨x, hx⟩ := ih hy
    exact ⟨_, by rw [hb, hx]; rfl⟩

/-- What stands before a slash can be kept if the whole can. -/
theorem kept_of_append_slash {a k : Text} (h : kept (a ++ "/") = .ok k) :
    ∃ ka, kept a = .ok ka ∧ k = ka ++ "/" := by
  obtain ⟨bytes, hbytes, -⟩ := kept_eq_ok_iff.mp h
  rw [Text.symbols_append] at hbytes
  obtain ⟨x, hx⟩ := symbolBytes_of_append hbytes
  have ha : kept a = .ok (readLoose x) := kept_eq_ok_iff.mpr ⟨x, hx, rfl⟩
  have hwhole := kept_slash ha (kept_ofString "")
  have hempty (t : Text) : t ++ "/" ++ Text.ofString "" = t ++ "/" := by
    ext1
    simp [Text.ofString, Text.ofList]
  rw [hempty, hempty] at hwhole
  exact ⟨_, ha, Except.ok.inj (h.symm.trans hwhole)⟩

/-! ## The character zero -/

/-- Only the character zero has a byte of zero. -/
theorem zero_mem_encodeChar_iff (c : Char) : 0 ∈ encodeChar c ↔ c = Char.ofNat 0 := by
  constructor
  · intro h
    have hvalid := toNat_valid c
    have hbyte {n : Nat} (hhigh : n < 256) : 0 = n.toUInt8 ↔ n = 0 := by
      rw [← UInt8.toNat_inj, toNat_byte hhigh]
      exact eq_comm
    rw [← Char.ofNat_toNat c]
    rw [encodeChar, encodeCode] at h
    split at h
    · rw [List.mem_singleton, hbyte (by omega)] at h
      rw [h]
    -- All bytes of a longer form are at least `0x80`.
    all_goals grind
  · rintro rfl
    decide

theorem looseByte?_ne_zero {i : Fin 0x800} {b : UInt8} (h : looseByte? i = some b) : b ≠ 0 := by
  rw [looseByte?] at h
  split at h
  · rename_i hrange
    obtain rfl := Option.some.inj h
    rw [Ne, ← UInt8.toNat_inj, toNat_byte (by omega)]
    change i.val - 0x400 ≠ 0
    omega
  · cases h

/-- Symbols have a byte of zero exactly if the character zero is among them. -/
theorem zero_mem_symbolBytes_iff {s : List Symbol} {bytes : Bytes}
    (h : symbolBytes looseByte? s = some bytes) : 0 ∈ bytes ↔ .char (Char.ofNat 0) ∈ s := by
  fun_induction symbolBytes looseByte? s generalizing bytes with
  | case1 =>
    cases h
    simp
  | case2 c rest ih =>
    obtain ⟨more, hmore, rfl⟩ := Option.map_eq_some_iff.mp h
    rw [List.mem_append, List.mem_cons, zero_mem_encodeChar_iff, ih hmore, Symbol.char.injEq]
    simp only [eq_comm]
  | case3 i rest ih =>
    obtain ⟨b, hb, h⟩ := Option.bind_eq_some_iff.mp h
    obtain ⟨more, hmore, rfl⟩ := Option.map_eq_some_iff.mp h
    simp [ih hmore, (looseByte?_ne_zero hb).symm]

/-- Keeping a text neither adds nor removes the character zero. -/
theorem zero_mem_kept_iff {t k : Text} (h : kept t = .ok k) :
    .char (Char.ofNat 0) ∈ k.symbols ↔ .char (Char.ofNat 0) ∈ t.symbols := by
  obtain ⟨bytes, hbytes, rfl⟩ := kept_eq_ok_iff.mp h
  rw [← zero_mem_symbolBytes_iff hbytes, ← zero_mem_symbolBytes_iff (symbolBytes_readLoose bytes)]

end Scribe.Utf8
