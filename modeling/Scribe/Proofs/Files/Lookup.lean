import Mathlib.Algebra.GroupWithZero.Nat
import Scribe.Files.Volume
import Scribe.Proofs.Path
import Scribe.Proofs.Text.Kept

/-!
# Looking up subfolders

In a well-formed folder every name is one that a disk can keep, and no two entries share a name.
Then the path of a folder with a name joined to it leads to the entry of that name, however the
path leads to the folder: through links, up and down, or by bytes that stand for characters.

## Main results

* `Children.WellFormed`: what every disk keeps to.
* `resolve_append`: names can be followed in two parts.
* `Volume.find_join`: the way to a subfolder goes on from the way to its folder.
-/

namespace Scribe

/-- A name that a disk can keep. -/
structure IsDiskName (name : Text) : Prop extends Path.IsName name where
  no_nul : Path.hasNul name = false
  kept : Utf8.kept name = .ok name

/-- A folder in which no two entries share a name, all names can be kept, and all subfolders are
of this kind. -/
inductive Children.WellFormed : Children → Prop where
  | intro {cs : Children} (nodup : (cs.map (·.1)).Nodup)
      (names : ∀ c ∈ cs, IsDiskName c.1)
      (folders : ∀ name sub, (name, .folder sub) ∈ cs → WellFormed sub) : WellFormed cs

instance (name : Text) : Decidable (IsDiskName name) :=
  decidable_of_iff (Path.IsName name ∧ Path.hasNul name = false ∧ Utf8.kept name = .ok name)
    ⟨fun h => ⟨h.1, h.2.1, h.2.2⟩, fun h => ⟨h.toIsName, h.no_nul, h.kept⟩⟩

theorem Children.wellFormed_iff {cs : Children} :
    WellFormed cs ↔ (cs.map (·.1)).Nodup ∧ (∀ c ∈ cs, IsDiskName c.1) ∧
      ∀ name sub, (name, .folder sub) ∈ cs → WellFormed sub :=
  ⟨fun ⟨hnodup, hnames, hfolders⟩ => ⟨hnodup, hnames, hfolders⟩, fun h => ⟨h.1, h.2.1, h.2.2⟩⟩

mutual

/-- Decides whether an entry is well-formed if it is a folder. -/
def Entry.decideWellFormed :
    (e : Entry) → Decidable (∀ sub, e = .folder sub → Children.WellFormed sub)
  | .file _ => isTrue (by simp)
  | .link _ => isTrue (by simp)
  | .locked _ => isTrue (by simp)
  | .folder cs =>
    have := decideSubfolders cs
    decidable_of_iff ((cs.map (·.1)).Nodup ∧ (∀ c ∈ cs, IsDiskName c.1) ∧
        ∀ name sub, (name, .folder sub) ∈ cs → Children.WellFormed sub)
      ⟨fun h sub heq => Entry.folder.inj heq ▸ Children.wellFormed_iff.mpr h,
        fun h => Children.wellFormed_iff.mp (h cs rfl)⟩

/-- Decides whether all folders among some entries are well-formed. -/
def decideSubfolders :
    (cs : List (Text × Entry)) →
      Decidable (∀ name sub, (name, .folder sub) ∈ cs → Children.WellFormed sub)
  | [] => isTrue (by simp)
  | (n, e) :: rest =>
    have := e.decideWellFormed
    have := decideSubfolders rest
    decidable_of_iff ((∀ sub, e = .folder sub → Children.WellFormed sub) ∧
        ∀ name sub, (name, .folder sub) ∈ rest → Children.WellFormed sub)
      ⟨fun h name sub hmem => (List.mem_cons.mp hmem).elim
          (fun heq => h.1 sub (Prod.mk.inj heq).2.symm) (h.2 name sub),
        fun h => ⟨fun sub heq => h n sub (heq ▸ List.mem_cons_self),
          fun name sub hmem => h name sub (List.mem_cons_of_mem _ hmem)⟩⟩

end

instance (cs : Children) : Decidable (Children.WellFormed cs) :=
  have := decideSubfolders cs
  decidable_of_iff _ Children.wellFormed_iff.symm

/-- A disk whose topmost folder is well-formed. -/
def Volume.WellFormed (v : Volume) : Prop := Children.WellFormed v.top

instance (v : Volume) : Decidable v.WellFormed := inferInstanceAs (Decidable (v.top.WellFormed))

/-- All folders of a trail are well-formed. -/
structure Trail.WellFormed (place : Trail) : Prop where
  here : Children.WellFormed place.here
  above : ∀ f ∈ place.above, Children.WellFormed f.2

namespace Children

theorem get?_eq_some_iff {cs : Children} (h : WellFormed cs) {name : Text} {e : Entry} :
    get? name cs = some e ↔ (name, e) ∈ cs := by
  obtain ⟨hnodup, -, -⟩ := h
  induction cs with
  | nil => simp [get?]
  | cons c rest ih =>
    obtain ⟨hc, hrest⟩ := List.nodup_cons.mp hnodup
    by_cases hn : c.1 = name
    · have hnot : (name, e) ∉ rest := fun hmem =>
        hc (List.mem_map.mpr ⟨(name, e), hmem, hn.symm⟩)
      simp [get?, hn, hnot, Prod.ext_iff, eq_comm]
    · have hskip : get? name (c :: rest) = get? name rest := by simp [get?, hn]
      have hne : (name, e) ≠ c := fun he => hn (by rw [← he])
      rw [hskip, ih hrest, List.mem_cons]
      simp [hne]

theorem WellFormed.name {cs : Children} (h : WellFormed cs) {name : Text} {e : Entry}
    (hget : get? name cs = some e) : IsDiskName name := by
  have hmem := (get?_eq_some_iff h).mp hget
  obtain ⟨-, hnames, -⟩ := h
  exact hnames _ hmem

theorem WellFormed.folder {cs sub : Children} (h : WellFormed cs) {name : Text}
    (hget : get? name cs = some (.folder sub)) : WellFormed sub := by
  have hmem := (get?_eq_some_iff h).mp hget
  obtain ⟨-, -, hfolders⟩ := h
  exact hfolders name sub hmem

end Children

/-! ## Following names -/

namespace Trail

theorem WellFormed.up {place : Trail} (h : place.WellFormed) : place.up.WellFormed := by
  obtain ⟨here, above⟩ := place
  cases above with
  | nil => exact h
  | cons f rest =>
    exact ⟨h.above f List.mem_cons_self, fun g hg => h.above g (List.mem_cons_of_mem _ hg)⟩

theorem WellFormed.enter {place : Trail} (h : place.WellFormed) {name : Text} {sub : Children}
    (hget : Children.get? name place.here = some (.folder sub)) :
    WellFormed ⟨sub, (name, place.here) :: place.above⟩ := by
  refine ⟨h.here.folder hget, fun f hf => ?_⟩
  obtain rfl | hf := List.mem_cons.mp hf
  · exact h.here
  · exact h.above f hf

/-- Every place on the way is well-formed, wherever following ends. -/
theorem WellFormed.follow {place : Trail} (h : place.WellFormed) (names : List Text) :
    match place.follow names with
    | .folder p => p.WellFormed
    | .file p _ _ _ => p.WellFormed
    | .locked p _ _ _ => p.WellFormed
    | .link _ p _ => p.WellFormed
    | .absent p _ _ => p.WellFormed := by
  fun_induction Trail.follow place names with
  | case1 => exact h
  | case2 place name rest hskip ih => exact ih h
  | case3 place rest hskip ih => exact ih h.up
  | case4 place name rest hskip hup sub hget ih => exact ih (h.enter hget)
  | case5 => exact h
  | case6 => exact h
  | case7 => exact h
  | case8 => exact h

/-- Following some names and then others is following them all. -/
theorem follow_append (place : Trail) (names more : List Text) :
    place.follow (names ++ more) =
      match place.follow names with
      | .folder p => p.follow more
      | .file p name content rest => .file p name content (rest ++ more)
      | .locked p name isFolder rest => .locked p name isFolder (rest ++ more)
      | .link target p rest => .link target p (rest ++ more)
      | .absent p name rest => .absent p name (rest ++ more) := by
  fun_induction Trail.follow place names with
  | case1 => rfl
  | case2 place name rest hskip ih => simpa [Trail.follow, hskip] using ih
  | case3 place rest hskip ih => simpa [Trail.follow, hskip] using ih
  | case4 place name rest hskip hup sub hget ih => simpa [Trail.follow, hskip, hup, hget] using ih
  | case5 place name rest hskip hup content hget => simp [Trail.follow, hskip, hup, hget]
  | case6 place name rest hskip hup isFolder hget => simp [Trail.follow, hskip, hup, hget]
  | case7 place name rest hskip hup target hget => simp [Trail.follow, hskip, hup, hget]
  | case8 place name rest hskip hup hget => simp [Trail.follow, hskip, hup, hget]

theorem follow_name {place : Trail} {name : Text} {sub : Children} (h : Path.IsName name)
    (hget : Children.get? name place.here = some (.folder sub)) :
    place.follow [name] = .folder ⟨sub, (name, place.here) :: place.above⟩ := by
  simp [Trail.follow, h.nonempty, h.ne_dot, h.ne_dots, hget]

end Trail

/-! ## Following links -/

section Links

variable {top : Children} {links : Nat} {place p : Trail} {names : List Text}

/-- A folder is reached without links, or past a first link with one less to follow. -/
theorem resolve_eq_folder_iff :
    resolve top false links place names = .ok (.folder p) ↔
      place.follow names = .folder p ∨
        ∃ left target q rest, links = left + 1 ∧ place.follow names = .link target q rest ∧
          resolve top false left (if Path.isAbsolute target then ⟨top, []⟩ else q)
            (Path.pieces target ++ rest) = .ok (.folder p) := by
  rw [resolve]
  cases place.follow names with
  | folder q => simp
  | file q name content rest =>
    simp only [reduceCtorEq, false_or, false_and, and_false, exists_const]
    split <;> simp
  | locked q name isFolder rest =>
    simp only [reduceCtorEq, false_or, false_and, and_false, exists_const]
    split <;> simp
  | absent q name rest =>
    simp only [reduceCtorEq, false_or, false_and, and_false, exists_const]
    split <;> simp
  | link target q rest =>
    simp only [Bool.false_and, Bool.false_eq_true, ↓reduceIte, reduceCtorEq, false_or,
      Arrival.link.injEq]
    cases links with
    | zero => simp
    | succ left =>
      constructor
      · intro h
        exact ⟨left, target, q, rest, rfl, ⟨rfl, rfl, rfl⟩, h⟩
      · rintro ⟨_, _, _, _, hleft, ⟨rfl, rfl, rfl⟩, h⟩
        cases hleft
        exact h

/-- Names can be followed in two parts. Links followed for the first part are used up. -/
theorem resolve_append (h : resolve top false links place names = .ok (.folder p)) :
    ∃ left, ∀ more, resolve top false links place (names ++ more) =
      resolve top false left p more := by
  induction links generalizing place names with
  | zero =>
    obtain hf | ⟨_, _, _, _, hlinks, -⟩ := resolve_eq_folder_iff.mp h
    · exact ⟨0, fun more => by rw [resolve, Trail.follow_append, hf, resolve]⟩
    · cases hlinks
  | succ links ih =>
    obtain hf | ⟨_, target, q, rest, hlinks, hf, hrest⟩ := resolve_eq_folder_iff.mp h
    · exact ⟨links + 1, fun more => by rw [resolve, Trail.follow_append, hf, resolve]⟩
    · cases hlinks
      obtain ⟨left, hleft⟩ := ih hrest
      refine ⟨left, fun more => ?_⟩
      rw [resolve, Trail.follow_append, hf, ← hleft more]
      simp

/-- A slash at the end of the way to a folder changes nothing. -/
theorem resolve_of_append_empty
    (h : resolve top false links place (names ++ [("" : Text)]) = .ok (.folder p)) :
    resolve top false links place names = .ok (.folder p) := by
  have hstay (q : Trail) : q.follow [("" : Text)] = .folder q := by
    simp [Trail.follow, Text.isEmpty]
  induction links generalizing place names with
  | zero =>
    obtain hf | ⟨_, _, _, _, hlinks, -⟩ := resolve_eq_folder_iff.mp h
    · rw [resolve_eq_folder_iff]
      left
      rw [Trail.follow_append] at hf
      cases hnames : place.follow names <;> simp_all
    · cases hlinks
  | succ links ih =>
    rw [resolve_eq_folder_iff]
    obtain hf | ⟨_, target, q, rest, hlinks, hf, hrest⟩ := resolve_eq_folder_iff.mp h
    · left
      rw [Trail.follow_append] at hf
      cases hnames : place.follow names <;> simp_all
    · cases hlinks
      right
      rw [Trail.follow_append] at hf
      cases hnames : place.follow names with
      | folder q' => simp [hnames, hstay] at hf
      | file q' name content rest' => simp [hnames] at hf
      | locked q' name isFolder rest' => simp [hnames] at hf
      | absent q' name rest' => simp [hnames] at hf
      | link target' q' rest' =>
        simp only [hnames, Arrival.link.injEq] at hf
        obtain ⟨rfl, rfl, rfl⟩ := hf
        exact ⟨links, target', q', rest', rfl, rfl, ih (by simpa using hrest)⟩

theorem resolve_wellFormed (ht : Children.WellFormed top) (hplace : place.WellFormed)
    (h : resolve top false links place names = .ok (.folder p)) : p.WellFormed := by
  have hfollow := hplace.follow names
  induction links generalizing place names with
  | zero =>
    obtain hf | ⟨_, _, _, _, hlinks, -⟩ := resolve_eq_folder_iff.mp h
    · rwa [hf] at hfollow
    · cases hlinks
  | succ links ih =>
    obtain hf | ⟨_, target, q, rest, hlinks, hf, hrest⟩ := resolve_eq_folder_iff.mp h
    · rwa [hf] at hfollow
    · cases hlinks
      rw [hf] at hfollow
      have hstart : Trail.WellFormed (if Path.isAbsolute target then ⟨top, []⟩ else q) := by
        split
        · exact ⟨ht, by simp⟩
        · exact hfollow
      exact ih hstart hrest (hstart.follow _)

end Links

/-! ## Sizes -/

/-- The size in bytes of a symbol on a disk. -/
def symbolSize : Symbol → Nat
  | .char c => c.utf8Size
  | .half _ => 1

theorem diskSize_eq_sum (t : Text) : diskSize t = (t.symbols.map symbolSize).sum := by
  have general (n : Nat) (symbols : List Symbol) :
      symbols.foldl (fun n s => n + (s.char?.map Char.utf8Size).getD 1) n =
        n + (symbols.map symbolSize).sum := by
    induction symbols generalizing n with
    | nil => rfl
    | cons s rest ih =>
      rw [List.foldl_cons, ih, List.map_cons, List.sum_cons, ← Nat.add_assoc]
      cases s <;> rfl
  exact (general 0 t.symbols).trans (Nat.zero_add _)

@[simp]
theorem diskSize_append (a b : Text) : diskSize (a ++ b) = diskSize a + diskSize b := by
  simp [diskSize_eq_sum]

theorem length_encodeChar (c : Char) : (Utf8.encodeChar c).length = c.utf8Size := by
  have h1 : c.val ≤ 0x7f ↔ c.toNat < 0x80 := by
    rw [UInt32.le_iff_toNat_le]
    exact Nat.lt_succ_iff.symm
  have h2 : c.val ≤ 0x7ff ↔ c.toNat < 0x800 := by
    rw [UInt32.le_iff_toNat_le]
    exact Nat.lt_succ_iff.symm
  have h3 : c.val ≤ 0xffff ↔ c.toNat < 0x10000 := by
    rw [UInt32.le_iff_toNat_le]
    exact Nat.lt_succ_iff.symm
  simp only [Utf8.encodeChar, Utf8.encodeCode, Char.utf8Size]
  split <;> split <;> grind

/-- The size of a text on a disk is the number of its bytes. -/
theorem diskSize_eq_length {t : Text} {bytes : Bytes}
    (h : Utf8.symbolBytes Utf8.looseByte? t.symbols = some bytes) :
    diskSize t = bytes.length := by
  obtain ⟨symbols⟩ := t
  rw [diskSize_eq_sum]
  dsimp only at h ⊢
  fun_induction Utf8.symbolBytes Utf8.looseByte? symbols generalizing bytes with
  | case1 =>
    cases h
    rfl
  | case2 c rest ih =>
    obtain ⟨x, hx, rfl⟩ := Option.map_eq_some_iff.mp h
    simp [symbolSize, length_encodeChar, ih hx]
  | case3 i rest ih =>
    obtain ⟨b, -, h⟩ := Option.bind_eq_some_iff.mp h
    obtain ⟨x, hx, rfl⟩ := Option.map_eq_some_iff.mp h
    simp [symbolSize, ih hx, Nat.add_comm]

/-- A text takes up as many bytes when it has been kept. -/
theorem diskSize_kept {t k : Text} (h : Utf8.kept t = .ok k) : diskSize k = diskSize t := by
  obtain ⟨bytes, hbytes, rfl⟩ := Utf8.kept_eq_ok_iff.mp h
  rw [diskSize_eq_length hbytes, diskSize_eq_length (Utf8.symbolBytes_readLoose bytes)]

theorem diskSize_le_join (d : Text) {name : Text} (h : Path.IsName name) :
    diskSize d ≤ diskSize (Path.join d name) := by
  obtain ⟨he, hj⟩ | ⟨before, rfl, hj⟩ | ⟨-, -, hj⟩ := Path.join_cases d h
  · rw [Path.eq_empty_of_isEmpty he]
    exact Nat.zero_le _
  · rw [hj, diskSize_append (before ++ "/")]
    exact Nat.le_add_right _ _
  · rw [hj, diskSize_append, diskSize_append, Nat.add_assoc]
    exact Nat.le_add_right _ _

theorem diskSize_le_descend (d : Text) {names : List Text} (h : ∀ n ∈ names, Path.IsName n) :
    diskSize d ≤ diskSize (Path.descend d names) := by
  induction names generalizing d with
  | nil => exact Nat.le_refl _
  | cons name rest ih =>
    exact (diskSize_le_join d (h name List.mem_cons_self)).trans
      (ih _ fun n hn => h n (List.mem_cons_of_mem _ hn))

/-! ## Finding subfolders -/

namespace Volume

variable {v : Volume} {place : Trail} {d name : Text}

theorem find_eq_folder_iff :
    v.find d = .ok (.folder place) ↔
      ∃ disk, diskPath d = .ok disk ∧ pathError? disk = none ∧
        v.resolveNames (v.namesFromTop disk) = .ok (.folder place) := by
  simp only [find, bind, Except.bind]
  cases diskPath d with
  | error e => simp
  | ok disk =>
    simp only [resolvePath, Except.ok.injEq, exists_eq_left']
    cases hp : pathError? disk with
    | some cause => simp [Except.mapError]
    | none => cases hn : v.resolveNames (v.namesFromTop disk) <;> simp [Except.mapError]

theorem diskPath_eq_ok_iff {disk : Text} :
    diskPath d = .ok disk ↔ Utf8.kept d = .ok disk ∧ Path.hasNul disk = false := by
  simp only [diskPath]
  cases Utf8.kept d with
  | error e => simp
  | ok k =>
    by_cases h : Path.hasNul k <;> simp [h]
    · rintro rfl
      exact h
    · rintro rfl
      simpa using h

/-- A path without the character zero is on the disk if it can be written as bytes. -/
theorem exists_diskPath {bytes : Bytes} (hnul : Path.hasNul d = false)
    (hwritten : Utf8.writeLoose d = .ok bytes) : ∃ disk, diskPath d = .ok disk := by
  have hkept : Utf8.kept d = .ok (Utf8.readLoose bytes) :=
    Utf8.kept_eq_ok_iff.mpr ⟨bytes, Utf8.writeFrom_eq_ok_iff.mp hwritten, rfl⟩
  refine ⟨_, diskPath_eq_ok_iff.mpr ⟨hkept, ?_⟩⟩
  rw [Path.hasNul, List.contains_eq_mem, decide_eq_false_iff_not] at hnul ⊢
  exact fun hzero => hnul ((Utf8.zero_mem_kept_iff hkept).mp hzero)

theorem pathError?_eq_none_iff {path : Text} :
    pathError? path = none ↔ path.isEmpty = false ∧ diskSize path < maxPathSize := by
  by_cases he : path.isEmpty <;> by_cases hs : maxPathSize ≤ diskSize path <;>
    simp [pathError?, he, hs]
  exact Nat.lt_of_not_le hs

/-- The names that lead from the top to what stands before a slash. -/
def namesBefore (v : Volume) (a : Text) : List Text :=
  if Path.isAbsolute (a ++ "/") then Path.pieces a
  else Path.pieces v.workingDirectory ++ Path.pieces a

theorem namesFromTop_slash (v : Volume) (a b : Text) :
    v.namesFromTop (a ++ "/" ++ b) = v.namesBefore a ++ Path.pieces b := by
  have habs : Path.isAbsolute (a ++ "/" ++ b) = Path.isAbsolute (a ++ "/") := by
    obtain ⟨symbols⟩ := a
    cases symbols <;> rfl
  simp only [namesFromTop, namesBefore, habs, Path.pieces_slash]
  split <;> simp

theorem namesFromTop_append_slash (v : Volume) (a : Text) :
    v.namesFromTop (a ++ "/") = v.namesBefore a ++ [("" : Text)] := by
  simp only [namesFromTop, namesBefore, Path.pieces_append_slash]
  split <;> simp

theorem namesFromTop_eq_namesBefore (v : Volume) {a : Text} (h : a.isEmpty = false) :
    v.namesFromTop a = v.namesBefore a := by
  have habs : Path.isAbsolute (a ++ "/") = Path.isAbsolute a := by
    obtain ⟨symbols⟩ := a
    cases symbols with
    | nil => simp [Text.isEmpty] at h
    | cons s rest => rfl
  rw [namesFromTop, namesBefore, habs]

theorem hasNul_slash (a b : Text) :
    Path.hasNul (a ++ "/" ++ b) = (Path.hasNul a || Path.hasNul b) := by
  simp [Path.hasNul, Path.slash]

/-- A path of slashes only is on the disk as it is. -/
theorem diskPath_of_slashes {t : Text} (h : ∀ s ∈ t.symbols, s = Path.slash) :
    diskPath t = .ok t := by
  have hhalf : t.hasHalf = false := by
    rw [Text.hasHalf, List.any_eq_false]
    intro s hs
    simp [h s hs, Path.slash, Symbol.isHalf]
  have hnul : Path.hasNul t = false := by
    rw [Path.hasNul, List.contains_eq_mem, decide_eq_false_iff_not]
    intro hmem
    exact absurd (h _ hmem) (by decide)
  exact diskPath_eq_ok_iff.mpr ⟨by simp [Utf8.kept, hhalf], hnul⟩

/-- A name after a slash is looked up in the folder before it. -/
theorem find_slash {a k : Text} {sub : Children} (hname : IsDiskName name)
    (hk : diskPath a = .ok k) (hsize : diskSize (a ++ "/" ++ name) < maxPathSize)
    (hfolder : v.resolveNames (v.namesBefore k) = .ok (.folder place))
    (hget : Children.get? name place.here = some (.folder sub)) :
    v.find (a ++ "/" ++ name) = .ok (.folder ⟨sub, (name, place.here) :: place.above⟩) := by
  obtain ⟨hkept, hnul⟩ := diskPath_eq_ok_iff.mp hk
  have hwhole := Utf8.kept_slash hkept hname.kept
  refine find_eq_folder_iff.mpr ⟨k ++ "/" ++ name, ?_, ?_, ?_⟩
  · exact diskPath_eq_ok_iff.mpr ⟨hwhole, by simp [hasNul_slash, hnul, hname.no_nul]⟩
  · refine pathError?_eq_none_iff.mpr ⟨by simp [Text.isEmpty], ?_⟩
    rwa [diskSize_kept hwhole]
  · obtain ⟨left, hleft⟩ := resolve_append hfolder
    rw [resolveNames, namesFromTop_slash, hleft, Path.pieces_name hname.no_slash]
    exact resolve_eq_folder_iff.mpr (.inl (Trail.follow_name hname.toIsName hget))

/-- The way to a subfolder goes on from the way to its folder. -/
theorem find_join {sub : Children} (hd : Path.Trimmed d) (hname : IsDiskName name)
    (hfind : v.find d = .ok (.folder place))
    (hget : Children.get? name place.here = some (.folder sub))
    (hsize : diskSize (Path.join d name) < maxPathSize) :
    v.find (Path.join d name) = .ok (.folder ⟨sub, (name, place.here) :: place.above⟩) := by
  obtain ⟨disk, hdisk, hpath, hfolder⟩ := find_eq_folder_iff.mp hfind
  obtain ⟨he, -⟩ | ⟨before, rfl, hj⟩ | ⟨-, -, hj⟩ := Path.join_cases d hname.toIsName
  · simp [hd.nonempty] at he
  · -- The path of the folder is slashes only, with one slash at its end.
    have hslashes := hd.slashes (by simp)
    obtain rfl : before ++ "/" = disk :=
      Except.ok.inj ((diskPath_of_slashes hslashes).symm.trans hdisk)
    have hbefore := diskPath_of_slashes (t := before) fun s hs => hslashes s (by simp [hs])
    rw [hj] at hsize ⊢
    rw [namesFromTop_append_slash] at hfolder
    exact find_slash hname hbefore hsize (resolve_of_append_empty hfolder) hget
  · obtain ⟨hne, -⟩ := pathError?_eq_none_iff.mp hpath
    rw [hj] at hsize ⊢
    rw [v.namesFromTop_eq_namesBefore hne] at hfolder
    exact find_slash hname hdisk hsize hfolder hget

theorem find_wellFormed (hv : v.WellFormed) (hfind : v.find d = .ok (.folder place)) :
    place.WellFormed := by
  obtain ⟨disk, -, -, hfolder⟩ := find_eq_folder_iff.mp hfind
  have hstart : Trail.WellFormed ⟨v.top, []⟩ := ⟨hv, by simp⟩
  exact resolve_wellFormed hv hstart hfolder

end Volume

end Scribe
