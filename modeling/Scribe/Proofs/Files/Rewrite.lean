import Scribe.Files.Change
import Scribe.Proofs.Files.Without

/-!
# Disks with rewritten files

Files can be given other contents, depending on where they are. Every path ends on the disk with the
rewritten files where it ended before, only that the file found there may have another content, and
a walk visits the same folders and lists the same files. Writing to the path of a file is such a
change, and it concerns this file alone.

## Main results

* `Volume.arrival_rewrite`, `Volume.walk_rewrite`: paths and walks on a disk with rewritten files.
* `Volume.read_rewrite`, `Volume.read_rewrite_only`: other files are read as before.
* `Volume.writeFile_eq`: writing to the path of a file rewrites this file.
-/

namespace Scribe

/-- New contents of files, by the names that lead from their folder up to the top, their own name
and the content before. -/
abbrev Rewriting := List Text → Text → Bytes → Bytes

mutual

/-- An entry with the files below it rewritten. The entry is called `name`, and the names from its
folder up to the top are `path`. -/
def Entry.rewrite (f : Rewriting) (path : List Text) (name : Text) : Entry → Entry
  | .file content => .file (f path name content)
  | .link target => .link target
  | .locked isFolder => .locked isFolder
  | .folder children => .folder (entriesRewritten f (name :: path) children)

/-- Entries of a folder with the files below them rewritten. -/
def entriesRewritten (f : Rewriting) (path : List Text) :
    List (Text × Entry) → List (Text × Entry)
  | [] => []
  | (name, e) :: rest => (name, e.rewrite f path name) :: entriesRewritten f path rest

end

variable (f : Rewriting)

theorem entriesRewritten_eq_map (path : List Text) (cs : List (Text × Entry)) :
    entriesRewritten f path cs = cs.map fun c => (c.1, c.2.rewrite f path c.1) := by
  induction cs with
  | nil => rfl
  | cons c rest ih =>
    obtain ⟨name, e⟩ := c
    rw [entriesRewritten, ih, List.map_cons]

theorem get?_entriesRewritten (path : List Text) (name : Text) (cs : Children) :
    Children.get? name (entriesRewritten f path cs) =
      (Children.get? name cs).map (Entry.rewrite f path name) := by
  induction cs with
  | nil => rfl
  | cons c rest ih =>
    obtain ⟨n, e⟩ := c
    rw [Children.get?] at ih ⊢
    by_cases h : n = name
    · simp [entriesRewritten, Children.get?, h]
    · simpa [entriesRewritten, Children.get?, h] using ih

/-! ## Following names -/

namespace Trail

/-- The folders above with their files rewritten. -/
def aboveRewritten (f : Rewriting) : List (Text × Children) → List (Text × Children)
  | [] => []
  | (name, cs) :: rest =>
    (name, entriesRewritten f (rest.map (·.1)) cs) :: aboveRewritten f rest

/-- A folder, and those above it, with their files rewritten. -/
def rewrite (f : Rewriting) (place : Trail) : Trail :=
  ⟨entriesRewritten f place.names place.here, aboveRewritten f place.above⟩

theorem up_rewrite (place : Trail) : (place.rewrite f).up = place.up.rewrite f := by
  obtain ⟨here, above⟩ := place
  cases above with
  | nil => rfl
  | cons c rest => rfl

end Trail

/-- Where following names ends if files are rewritten. -/
def Arrival.rewrite (f : Rewriting) : Arrival → Arrival
  | .folder place => .folder (place.rewrite f)
  | .file place name content rest =>
    .file (place.rewrite f) name (f place.names name content) rest
  | .locked place name isFolder rest => .locked (place.rewrite f) name isFolder rest
  | .link target place rest => .link target (place.rewrite f) rest
  | .absent place name rest => .absent (place.rewrite f) name rest

theorem Trail.get?_rewrite (place : Trail) (name : Text) :
    Children.get? name (place.rewrite f).here =
      (Children.get? name place.here).map (Entry.rewrite f place.names name) :=
  get?_entriesRewritten f place.names name place.here

theorem Trail.follow_rewrite (place : Trail) (names : List Text) :
    (place.rewrite f).follow names = (place.follow names).rewrite f := by
  fun_induction Trail.follow place names with
  | case1 => rfl
  | case2 place name rest hskip ih => rw [follow, if_pos hskip, ih]
  | case3 place rest hskip ih => rw [follow, if_neg hskip, if_pos rfl, up_rewrite, ih]
  | case4 place name rest hskip hup sub hget ih =>
    rw [follow, if_neg hskip, if_neg hup, get?_rewrite, hget]
    exact ih
  | case5 place name rest hskip hup content hget =>
    rw [follow, if_neg hskip, if_neg hup, get?_rewrite, hget]
    rfl
  | case6 place name rest hskip hup isFolder hget =>
    rw [follow, if_neg hskip, if_neg hup, get?_rewrite, hget]
    rfl
  | case7 place name rest hskip hup target hget =>
    rw [follow, if_neg hskip, if_neg hup, get?_rewrite, hget]
    rfl
  | case8 place name rest hskip hup hget =>
    rw [follow, if_neg hskip, if_neg hup, get?_rewrite, hget]
    rfl

/-- Following names and links ends in the same place. -/
theorem arrive_rewrite (top : Children) (links : Nat) (place : Trail) (names : List Text) :
    arrive (entriesRewritten f [] top) links (place.rewrite f) names =
      (arrive top links place names).map (Arrival.rewrite f) := by
  have hfollow := Trail.follow_rewrite f place names
  fun_induction arrive top links place names with
  | case1 place names target p rest heq =>
    rw [heq] at hfollow
    rw [arrive_of_follow_link hfollow]
    rfl
  | case2 place names target p rest heq left start =>
    rename_i ih
    rw [heq] at hfollow
    have heither : start.rewrite f =
        if Path.isAbsolute target then ⟨entriesRewritten f [] top, []⟩ else p.rewrite f := by
      simp only [start]
      split <;> rfl
    rw [arrive_of_follow_link hfollow, ← ih (Trail.follow_rewrite f start _), heither]
  | case3 links place names hnot =>
    rw [arrive, hfollow]
    cases hend : place.follow names with
    | link target p rest => exact absurd hend (hnot target p rest)
    | _ => rfl

/-! ## The end of a path -/

namespace Arrival

theorem isHeld_rewrite (a : Arrival) : (a.rewrite f).isHeld = a.isHeld := by
  cases a <;> rfl

/-- What can be read at the end of a path is the same, unless it is rewritten. -/
theorem content_rewrite {a : Arrival}
    (h : ∀ place name content, a = .file place name content [] →
      f place.names name content = content) :
    (a.rewrite f).content = a.content := by
  cases a with
  | file place name content rest =>
    cases rest with
    | nil => simp [rewrite, Arrival.content, h place name content rfl]
    | cons b more => rfl
  | _ => rfl

end Arrival

namespace Volume

variable {v : Volume}

/-- A disk with its files rewritten. -/
def rewrite (v : Volume) : Volume := ⟨entriesRewritten f [] v.top, v.workingDirectory⟩

/-- A path ends where it ended before. -/
theorem arrival_rewrite (v : Volume) (path : Text) :
    (v.rewrite f).arrival path = (v.arrival path).map (Arrival.rewrite f) := by
  simp only [arrival, bind, Except.bind]
  cases diskPath path with
  | error e => rfl
  | ok disk =>
    dsimp only
    cases pathError? disk with
    | some cause => rfl
    | none =>
      have harrive : arrive (v.rewrite f).top maxLinks ⟨(v.rewrite f).top, []⟩
          ((v.rewrite f).namesFromTop disk) = _ :=
        arrive_rewrite f v.top maxLinks ⟨v.top, []⟩ (v.namesFromTop disk)
      rw [harrive]
      cases arrive v.top maxLinks ⟨v.top, []⟩ (v.namesFromTop disk) <;> rfl

theorem holds_rewrite (v : Volume) (path : Text) : (v.rewrite f).holds path = v.holds path := by
  rw [holds_eq, holds_eq, arrival_rewrite]
  cases v.arrival path with
  | error e => rfl
  | ok a => exact a.isHeld_rewrite f

/-- What can be read at a path is the same, unless it is rewritten. -/
theorem read_rewrite {path : Text}
    (h : ∀ place name content, v.arrival path = .ok (.file place name content []) →
      f place.names name content = content) :
    (v.rewrite f).read path = v.read path := by
  rw [read_eq, read_eq, arrival_rewrite]
  cases harrival : v.arrival path with
  | error e => rfl
  | ok a =>
    have hcontent : (a.rewrite f).content = a.content :=
      Arrival.content_rewrite f fun place name content ha =>
        h place name content (by rw [harrival, ha])
    simp only [Except.map, bind, Except.bind, hcontent]

end Volume

/-! ## Walks -/

theorem countsAsFile_rewrite (top : Children) (place : Trail) (path : List Text)
    (c : Text × Entry) :
    countsAsFile (entriesRewritten f [] top) (place.rewrite f) (c.1, c.2.rewrite f path c.1) =
      countsAsFile top place c := by
  obtain ⟨name, e⟩ := c
  cases e with
  | file content => rfl
  | folder sub => rfl
  | locked isFolder => rfl
  | link target =>
    rw [Entry.rewrite, countsAsFile_link, countsAsFile_link, arrive_rewrite]
    cases arrive top maxLinks place [name] with
    | none => rfl
    | some a => cases a <;> rfl

theorem Trail.here_rewrite (place : Trail) :
    (place.rewrite f).here = place.here.map fun c => (c.1, c.2.rewrite f place.names c.1) :=
  entriesRewritten_eq_map f place.names place.here

theorem filesOf_rewrite (top : Children) (place : Trail) :
    filesOf (entriesRewritten f [] top) (place.rewrite f) = filesOf top place := by
  rw [filesOf, filesOf, Trail.here_rewrite, List.filter_map, List.map_map]
  congr 1
  exact List.filter_congr fun c _ => countsAsFile_rewrite f top place _ c

/-- A walk visits the same folders and lists the same files. -/
theorem walkEntry_rewrite (top : Children) {place : Trail} (h : place.WellFormed) (path : Text) :
    walkEntry (entriesRewritten f [] top) (place.rewrite f).above path
        (.folder (place.rewrite f).here) =
      walkEntry top place.above path (.folder place.here) := by
  obtain ⟨here, above⟩ := place
  have hhere := h.here
  dsimp only at hhere
  -- The induction is on the folder; the folders above it and its path vary with it.
  induction hhere generalizing above path with
  | @intro cs nodup namesOk folders ih =>
    rw [walkEntry_folder, walkEntry_folder]
    split
    · rfl
    · rw [filesOf_rewrite, Trail.here_rewrite, List.flatMap_map]
      congr 1
      refine List.flatMap_congr fun c hc => ?_
      obtain ⟨name, e⟩ := c
      cases e with
      | file content => rw [Entry.rewrite, walkEntry, walkEntry]
      | link target => rw [Entry.rewrite, walkEntry, walkEntry]
      | locked isFolder => rw [Entry.rewrite, walkEntry, walkEntry]
      | folder sub =>
        have hget := (Children.get?_eq_some_iff h.here).mpr hc
        rw [← Trail.here_rewrite]
        exact ih name sub hc (Path.join path name) _ (h.enter hget)

theorem Volume.walk_rewrite {v : Volume} (hv : v.WellFormed) (path : Text) :
    (v.rewrite f).walk path = v.walk path := by
  rw [walk_eq, walk_eq, arrival_rewrite]
  cases harrival : v.arrival path with
  | error e => cases e <;> rfl
  | ok a =>
    cases a with
    | folder place =>
      have hplace : place.WellFormed := (on_of_arrival harrival).wellFormed hv
      exact congrArg Except.ok (walkEntry_rewrite f v.top hplace path)
    | _ => rfl

/-! ## Writing -/

/-- The spot of one file: the names from its folder up to the top, and its own name. -/
def Spots.only (folder : List Text) (name : Text) : Spots := fun path n => path = folder && n = name

/-- Gives one file another content. -/
def Rewriting.only (folder : List Text) (name : Text) (content : Bytes) : Rewriting :=
  fun path n old => if Spots.only folder name path n then content else old

variable {folder path : List Text} {name : Text} {content : Bytes}

theorem Spots.only_eq_true_iff {n : Text} :
    Spots.only folder name path n = true ↔ path = folder ∧ n = name := by
  simp [Spots.only]

theorem Rewriting.only_of_ne {n : Text} (h : ¬(path = folder ∧ n = name)) (old : Bytes) :
    Rewriting.only folder name content path n old = old :=
  if_neg fun hspot => h (Spots.only_eq_true_iff.mp hspot)

theorem entriesRewritten_eq_self {f : Rewriting} {cs : Children}
    (h : ∀ c ∈ cs, c.2.rewrite f path c.1 = c.2) : entriesRewritten f path cs = cs := by
  have hmap : cs.map (fun c => (c.1, c.2.rewrite f path c.1)) = cs.map id :=
    List.map_congr_left fun c hc => by rw [h c hc, id]
  rw [entriesRewritten_eq_map, hmap, List.map_id]

/-- A folder that the file is not in or below is left as it is. -/
theorem entriesRewritten_only_of_apart {cs : Children} (hcs : Children.WellFormed cs)
    (h : ¬path <:+ folder) : entriesRewritten (.only folder name content) path cs = cs := by
  induction hcs generalizing path with
  | @intro cs nodup names folders ih =>
    refine entriesRewritten_eq_self fun c hc => ?_
    obtain ⟨n, e⟩ := c
    cases e with
    | file old =>
      have hpath : ¬(path = folder ∧ n = name) := fun heq => h (heq.1 ▸ List.suffix_rfl)
      rw [Entry.rewrite, Rewriting.only_of_ne hpath]
    | link target => rfl
    | locked isFolder => rfl
    | folder sub =>
      rw [Entry.rewrite, ih n sub hc fun hsuffix => h ((List.suffix_cons n path).trans hsuffix)]

/-- An entry that neither is the file nor leads to it is left as it is. -/
theorem Entry.rewrite_only_of_apart {cs : Children} (hcs : Children.WellFormed cs)
    {c : Text × Entry} (hc : c ∈ cs) (hself : ¬(path = folder ∧ c.1 = name))
    (hbelow : ¬(c.1 :: path) <:+ folder) :
    c.2.rewrite (.only folder name content) path c.1 = c.2 := by
  obtain ⟨n, e⟩ := c
  cases e with
  | file old => rw [rewrite, Rewriting.only_of_ne hself]
  | link target => rfl
  | locked isFolder => rfl
  | folder sub =>
    obtain ⟨-, -, hfolders⟩ := hcs
    rw [rewrite, entriesRewritten_only_of_apart (hfolders n sub hc) hbelow]

/-- If all other entries stay, then replacing the one that changes is enough. -/
theorem set_rewrite {f : Rewriting} {cs : Children} (hnodup : (cs.map (·.1)).Nodup) {n : Text}
    {e : Entry} (hget : Children.get? n cs = some e)
    (hothers : ∀ c ∈ cs, c.1 ≠ n → c.2.rewrite f path c.1 = c.2) :
    Children.set n (e.rewrite f path n) cs = entriesRewritten f path cs := by
  have hset : Children.set n (e.rewrite f path n) cs =
      Children.replace n (e.rewrite f path n) cs := by rw [Children.set, hget]
  rw [hset, Children.replace, entriesRewritten_eq_map]
  refine List.map_congr_left fun c hc => ?_
  split
  · rename_i hname
    -- No other entry has the name.
    have hmem := Children.mem_of_get?_eq_some hget
    obtain rfl : c = (n, e) := List.inj_on_of_nodup_map hnodup hc hmem hname
    rfl
  · rename_i hname
    rw [hothers c hc hname]

namespace Trail

variable {top : Children} {place : Trail}

/-- The disk is put together again from a folder on the way to the file. -/
theorem rebuild_only (hon : place.On top) (htop : Children.WellFormed top)
    (h : place.names <:+ folder) :
    place.rebuild (entriesRewritten (.only folder name content) place.names place.here) =
      entriesRewritten (.only folder name content) [] top := by
  induction hon with
  | top => rfl
  | @enter place n sub hon hget ih =>
    have hplace : place.WellFormed := hon.wellFormed htop
    obtain ⟨hnodup, -, -⟩ := hplace.here
    have hstep : (n :: place.names) <:+ folder := h
    have hset : Children.set n
        (Entry.rewrite (.only folder name content) place.names n (.folder sub)) place.here =
          entriesRewritten (.only folder name content) place.names place.here := by
      refine set_rewrite hnodup hget fun c hc hne => ?_
      refine Entry.rewrite_only_of_apart hplace.here hc (fun hself => ?_) fun hbelow => ?_
      · have hle := hstep.length_le
        rw [← hself.1, List.length_cons] at hle
        omega
      · -- Only one of the entries leads to the file.
        have hsame := List.suffix_of_suffix_length_le hbelow hstep (Nat.le_refl _)
        exact hne (List.cons.inj (hsame.eq_of_length rfl)).1
    rw [← ih ((List.suffix_cons n place.names).trans hstep), ← hset]
    rfl

/-- Where following names ends at a file, its folder has it. -/
theorem get?_of_follow {names rest : List Text} {p : Trail} {n : Text} {old : Bytes}
    (h : place.follow names = .file p n old rest) :
    Children.get? n p.here = some (.file old) := by
  fun_induction Trail.follow place names with
  | case2 place name more hskip ih => exact ih h
  | case3 place more hskip ih => exact ih h
  | case4 place name more hskip hup sub hget ih => exact ih h
  | case5 place name more hskip hup bytes hget =>
    cases h
    exact hget
  | _ => cases h

end Trail

theorem get?_of_arrive {top : Children} {links : Nat} {place p : Trail} {names rest : List Text}
    {n : Text} {old : Bytes} (h : arrive top links place names = some (.file p n old rest)) :
    Children.get? n p.here = some (.file old) := by
  fun_induction arrive top links place names with
  | case1 => cases h
  | case2 place names target q more heq left start =>
    rename_i ih
    exact ih h
  | case3 links place names hnot => exact Trail.get?_of_follow (Option.some.inj h)

/-- When something is to be made, a path is followed as otherwise or refused. -/
theorem resolve_making (top : Children) (links : Nat) (place : Trail) (names : List Text) :
    resolve top true links place names = .error .isAFolder ∨
      resolve top true links place names = resolve top false links place names := by
  induction links generalizing place names with
  | zero =>
    rw [resolve, resolve]
    cases place.follow names with
    | link target p rest =>
      cases hrefused : !rest.isEmpty && rest.all Text.isEmpty <;> simp [hrefused]
    | _ => exact .inr rfl
  | succ links ih =>
    rw [resolve, resolve]
    cases place.follow names with
    | link target p rest =>
      cases hrefused : !rest.isEmpty && rest.all Text.isEmpty with
      | true => simp [hrefused]
      | false => simpa [hrefused] using ih _ _
    | _ => exact .inr rfl

namespace Volume

variable {v v' : Volume} {place : Trail} {target : Text} {old : Bytes}

/-- Where a path ends at a file, its folder has it. -/
theorem get?_of_arrival {rest : List Text}
    (h : v.arrival target = .ok (.file place name old rest)) :
    Children.get? name place.here = some (.file old) := by
  simp only [arrival, bind, Except.bind] at h
  split at h
  · cases h
  · split at h
    · cases h
    · rename_i disk _ _ _
      cases harrive : arrive v.top maxLinks ⟨v.top, []⟩ (v.namesFromTop disk) with
      | none => simp [harrive, ended] at h
      | some a =>
        rw [harrive] at h
        obtain rfl := Except.ok.inj h
        exact get?_of_arrive harrive

/-- Rewriting one file matters only to paths that lead there. -/
theorem read_rewrite_only {path : Text} (h : v.endsAt (.only folder name) path = false) :
    (v.rewrite (.only folder name content)).read path = v.read path := by
  refine read_rewrite _ fun place n old harrival => Rewriting.only_of_ne ?_ old
  rintro ⟨hfolder, rfl⟩
  rw [endsAt_of_arrival harrival] at h
  simp [Arrival.endsAt, Spots.only, hfolder] at h

/-- Giving a file of a folder another content rewrites this file. -/
theorem withHere_set (hv : v.WellFormed) (hon : place.On v.top)
    (hget : Children.get? name place.here = some (.file old)) (content : Bytes) :
    v.withHere place (Children.set name (.file content) place.here) =
      v.rewrite (.only place.names name content) := by
  have hplace : place.WellFormed := hon.wellFormed hv
  obtain ⟨hnodup, -, -⟩ := hplace.here
  have hfile : Entry.rewrite (.only place.names name content) place.names name (.file old) =
      .file content := by
    rw [Entry.rewrite, Rewriting.only, if_pos (Spots.only_eq_true_iff.mpr ⟨rfl, rfl⟩)]
  have hset : Children.set name (.file content) place.here =
      entriesRewritten (.only place.names name content) place.names place.here := by
    rw [← hfile]
    refine set_rewrite hnodup hget fun c hc hne => ?_
    refine Entry.rewrite_only_of_apart hplace.here hc (fun hself => hne hself.2) fun hbelow => ?_
    have hle := hbelow.length_le
    rw [List.length_cons] at hle
    omega
  rw [withHere, hset, Trail.rebuild_only hon hv List.suffix_rfl, rewrite]

theorem findToMake_cases (v : Volume) (disk : Text) :
    v.findToMake disk = .error .isAFolder ∨ v.findToMake disk = v.resolvePath disk := by
  rw [findToMake, resolvePath]
  cases pathError? disk with
  | some cause => exact .inr rfl
  | none => exact resolve_making v.top maxLinks ⟨v.top, []⟩ (v.namesFromTop disk)

/-- What is found at a path is found when the path is written to. -/
theorem findToMake_of_writeFile {found : Target} (hfind : v.find target = .ok found)
    (hwrite : v.writeFile target content = .ok v') :
    ∃ disk, diskPath target = .ok disk ∧ v.findToMake disk = .ok found := by
  simp only [find, writeFile, bind, Except.bind] at hfind hwrite
  cases hdisk : diskPath target with
  | error e => simp [hdisk] at hwrite
  | ok disk =>
    refine ⟨disk, rfl, ?_⟩
    rw [hdisk] at hfind hwrite
    obtain hrefused | hfound := v.findToMake_cases disk
    · simp [hrefused] at hwrite
    · rw [hfound]
      cases hpath : v.resolvePath disk with
      | error cause => simp [hpath, Except.mapError] at hfind
      | ok other => simpa [hpath, Except.mapError] using hfind

/-- Writing to a path that leads to a file rewrites this file. -/
theorem writeFile_eq (hv : v.WellFormed) (htarget : v.endsAt (.only folder name) target = true)
    (hwrite : v.writeFile target content = .ok v') :
    v' = v.rewrite (.only folder name content) := by
  obtain ⟨a, harrival, hends⟩ := exists_of_endsAt htarget
  have hon : a.place.On v.top := on_of_arrival harrival
  have hfind : v.find target = a.target.mapError (.lookup target) := by
    rw [find_eq, harrival]
    rfl
  cases a with
  | file place n old rest =>
    obtain ⟨rfl, rfl, rfl⟩ : rest = [] ∧ place.names = folder ∧ n = name := by
      simpa [Arrival.endsAt, Spots.only] using hends
    obtain ⟨disk, hdisk, hmake⟩ := findToMake_of_writeFile hfind hwrite
    simp only [writeFile, hdisk, hmake, bind, Except.bind, List.isEmpty_nil, Bool.not_true,
      Bool.false_eq_true, if_false, Except.ok.injEq] at hwrite
    rw [← hwrite]
    exact withHere_set hv hon (get?_of_arrival harrival) content
  | locked place n isFolder rest =>
    -- A locked file is not written.
    obtain ⟨⟨rfl, rfl⟩, -⟩ : (isFolder = false ∧ rest = []) ∧ place.names = folder ∧ n = name := by
      simpa [Arrival.endsAt, Spots.only] using hends
    obtain ⟨disk, hdisk, hmake⟩ := findToMake_of_writeFile hfind hwrite
    simp [writeFile, hdisk, hmake, bind, Except.bind] at hwrite
  | _ => cases hends

end Volume

end Scribe
