import Scribe.Proofs.Files.Walk

/-!
# Where a path ends

All that can be said about a path follows from where it ends: following its names, and the links on
the way, comes to a folder, to a file, or to a name that its folder does not have, possibly with
names left over. What is found at a path, whether there is anything, and what can be read there,
are functions of this arrival.

A path that ends in a name is followed from the folder before the name. So it matters little to a
path through which links it leads: it ends in that folder, or with a link of it.

## Main results

* `Volume.find_eq`, `Volume.holds_eq`, `Volume.read_eq`, `Volume.walk_eq`: what an arrival tells.
* `Volume.arrival_join`: a name in a folder is followed from that folder.
* `Volume.arrival_of_mem_walk`: the folders of a walk are found under their paths.
-/

namespace Scribe

/-! ## Following names and links -/

/-- Where names lead with at most `links` links on the way, if these are enough. -/
def arrive (top : Children) : (links : Nat) → Trail → List Text → Option Arrival
  | links, place, names =>
    match place.follow names with
    | .link target place rest =>
      match links with
      | 0 => none
      | links + 1 =>
        let start := if Path.isAbsolute target then ⟨top, []⟩ else place
        arrive top links start (Path.pieces target ++ rest)
    | arrival => some arrival

namespace Arrival

/-- What a path that ends so leads to. -/
def target : Arrival → Except LookupError Target
  | .folder place => .ok (.folder place)
  | .file place name content rest =>
    if rest.all Text.isEmpty then .ok (.file place name content (!rest.isEmpty))
    else .error .notAFolder
  | .locked place name isFolder rest =>
    if rest.all Text.isEmpty then .ok (.locked place name isFolder (!rest.isEmpty))
    else .error (lockedError isFolder)
  | .absent place name rest =>
    if rest.all Text.isEmpty then .ok (.absent place name (!rest.isEmpty))
    else .error (absence name)
  | .link _ _ _ => .error .tooManyLinks

/-- What can be read at the end of a path that ends so. -/
def content : Arrival → Except LookupError Bytes
  | .folder _ => .error .isAFolder
  | .file _ _ content rest => if rest.isEmpty then .ok content else .error .notAFolder
  | .locked _ _ isFolder rest => .error (if rest.isEmpty then .denied else lockedError isFolder)
  | .absent _ name _ => .error (absence name)
  | .link _ _ _ => .error .tooManyLinks

/-- Whether there is anything at the end of a path that ends so. -/
def isHeld : Arrival → Bool
  | .folder _ => true
  | .file _ _ _ rest => rest.isEmpty
  | .locked _ _ isFolder rest => rest.all Text.isEmpty && (isFolder || rest.isEmpty)
  | _ => false

/-- Whether a path that ends so counts as that of a folder. -/
def isFolder : Arrival → Bool
  | .folder _ => true
  | .locked _ _ isFolder rest => isFolder && rest.all Text.isEmpty
  | _ => false

theorem target_eq_folder_iff {a : Arrival} {p : Trail} :
    a.target = .ok (.folder p) ↔ a = .folder p := by
  cases a with
  | folder place => simp [target]
  | link target place rest => simp [Arrival.target]
  | file place name content rest => cases hall : rest.all Text.isEmpty <;> simp [target, hall]
  | locked place name isFolder rest => cases hall : rest.all Text.isEmpty <;> simp [target, hall]
  | absent place name rest => cases hall : rest.all Text.isEmpty <;> simp [target, hall]

end Arrival

section Links

variable {top : Children} {links left : Nat} {place p : Trail} {names : List Text}

theorem arrive_of_follow_link {target : Text} {rest : List Text}
    (h : place.follow names = .link target p rest) :
    arrive top links place names =
      match links with
      | 0 => none
      | left + 1 =>
        arrive top left (if Path.isAbsolute target then ⟨top, []⟩ else p)
          (Path.pieces target ++ rest) := by
  rw [arrive, h]

theorem arrive_of_follow_folder (h : place.follow names = .folder p) :
    arrive top links place names = some (.folder p) := by
  rw [arrive, h]

theorem arrive_of_not_link
    (h : ∀ target p rest, place.follow names ≠ .link target p rest) :
    arrive top links place names = some (place.follow names) := by
  rw [arrive]
  split
  · rename_i target p rest heq
    exact absurd heq (h target p rest)
  · rfl

/-- A lookup gives what the arrival tells. -/
theorem resolve_eq (top : Children) (links : Nat) (place : Trail) (names : List Text) :
    resolve top false links place names =
      match arrive top links place names with
      | some arrival => arrival.target
      | none => .error .tooManyLinks := by
  fun_induction arrive top links place names with
  | case1 place names target p rest heq =>
    rw [resolve, heq]
    simp
  | case2 place names target p rest heq left start =>
    rename_i ih
    rw [resolve, heq, ← ih]
    simp [start]
  | case3 links place names hnot =>
    rw [resolve]
    cases hfollow : place.follow names with
    | link target p rest => exact absurd hfollow (hnot target p rest)
    | _ => simp [Arrival.target]

theorem arrive_eq_folder_iff :
    arrive top links place names = some (.folder p) ↔
      resolve top false links place names = .ok (.folder p) := by
  rw [resolve_eq]
  cases arrive top links place names with
  | none => simp
  | some a => simp [Arrival.target_eq_folder_iff]

/-- A link counts as a file unless it ends in a folder. -/
theorem countsAsFile_link (top : Children) (place : Trail) (name target : Text) :
    countsAsFile top place (name, .link target) =
      !(arrive top maxLinks place [name]).any Arrival.isFolder := by
  rw [countsAsFile, resolve_eq]
  cases arrive top maxLinks place [name] with
  | none => rfl
  | some a =>
    cases a with
    | folder p => rfl
    | link target p rest => rfl
    | file p m content rest =>
      cases hall : rest.all Text.isEmpty <;> simp [Arrival.target, Arrival.isFolder, hall]
    | locked p m isFolder rest =>
      cases hall : rest.all Text.isEmpty <;> simp [Arrival.target, Arrival.isFolder, hall]
    | absent p m rest =>
      cases hall : rest.all Text.isEmpty <;> simp [Arrival.target, Arrival.isFolder, hall]

/-- More links lead to the same end. -/
theorem arrive_mono {arrival : Arrival} (hle : left ≤ links)
    (h : arrive top left place names = some arrival) :
    arrive top links place names = some arrival := by
  fun_induction arrive top left place names generalizing links with
  | case1 => cases h
  | case2 place names target p rest heq left start =>
    rename_i ih
    obtain ⟨links, rfl⟩ := Nat.exists_eq_succ_of_ne_zero (Nat.ne_of_gt (Nat.zero_lt_of_lt hle))
    rw [arrive_of_follow_link heq]
    exact ih (Nat.le_of_succ_le_succ hle) h
  | case3 left place names hnot => rw [arrive_of_not_link hnot, h]

/-- Names can be followed in two parts. Links followed for the first part are used up. -/
theorem arrive_append (h : arrive top links place names = some (.folder p)) :
    ∃ left ≤ links, ∀ more, arrive top links place (names ++ more) = arrive top left p more := by
  fun_induction arrive top links place names with
  | case1 => cases h
  | case2 place names target q rest heq links start =>
    rename_i ih
    obtain ⟨left, hle, hleft⟩ := ih h
    refine ⟨left, Nat.le_succ_of_le hle, fun more => ?_⟩
    have hmore : place.follow (names ++ more) = .link target q (rest ++ more) := by
      rw [Trail.follow_append, heq]
    rw [arrive_of_follow_link hmore, ← hleft more, List.append_assoc]
  | case3 links place names hnot =>
    have hfolder : place.follow names = .folder p := Option.some.inj h
    refine ⟨links, Nat.le_refl links, fun more => ?_⟩
    rw [arrive, Trail.follow_append, hfolder, arrive]

end Links

/-! ## The end of a path -/

namespace Volume

variable {v : Volume} {p : Trail} {d name : Text}

/-- Where some names lead from the top, told for a path. -/
def ended (path : Text) : Option Arrival → Except FileError Arrival
  | some arrival => .ok arrival
  | none => .error (.lookup path .tooManyLinks)

/-- Where a path ends. -/
def arrival (v : Volume) (path : Text) : Except FileError Arrival := do
  let disk ← diskPath path
  match pathError? disk with
  | some cause => throw (.lookup path cause)
  | none => ended path (arrive v.top maxLinks ⟨v.top, []⟩ (v.namesFromTop disk))

theorem find_eq (v : Volume) (path : Text) :
    v.find path = v.arrival path >>= fun a => a.target.mapError (.lookup path) := by
  simp only [find, arrival, bind, Except.bind]
  cases diskPath path with
  | error e => rfl
  | ok disk =>
    simp only [resolvePath, resolveNames, resolve_eq]
    cases pathError? disk with
    | some cause => rfl
    | none => cases arrive v.top maxLinks ⟨v.top, []⟩ (v.namesFromTop disk) <;> rfl

theorem holds_eq (v : Volume) (path : Text) :
    v.holds path = match v.arrival path with
      | .ok a => a.isHeld
      | .error _ => false := by
  rw [holds, find_eq]
  cases v.arrival path with
  | error e => rfl
  | ok a =>
    simp only [bind, Except.bind]
    cases a with
    | folder place => rfl
    | link target place rest => rfl
    | file place name content rest =>
      cases rest with
      | nil => rfl
      | cons b more =>
        cases hall : (b :: more).all Text.isEmpty <;> rw [Arrival.target, hall] <;> rfl
    | locked place name isFolder rest =>
      cases hall : rest.all Text.isEmpty <;>
        simp [Arrival.target, Arrival.isHeld, hall, Except.mapError]
    | absent place name rest =>
      cases hall : rest.all Text.isEmpty <;> rw [Arrival.target, hall] <;> rfl

theorem read_eq (v : Volume) (path : Text) :
    v.read path = v.arrival path >>= fun a => a.content.mapError (.lookup path) := by
  rw [read, find_eq]
  cases v.arrival path with
  | error e => rfl
  | ok a =>
    simp only [bind, Except.bind]
    cases a with
    | folder place => rfl
    | link target place rest => rfl
    | file place name content rest =>
      cases rest with
      | nil => rfl
      | cons b more =>
        cases hall : (b :: more).all Text.isEmpty <;> rw [Arrival.target, hall] <;> rfl
    | locked place name isFolder rest =>
      cases rest with
      | nil => rfl
      | cons b more =>
        cases hall : (b :: more).all Text.isEmpty <;> rw [Arrival.target, hall] <;> rfl
    | absent place name rest =>
      cases hall : rest.all Text.isEmpty <;> rw [Arrival.target, hall] <;> rfl

theorem walk_eq (v : Volume) (path : Text) :
    v.walk path = match v.arrival path with
      | .ok (.folder place) => .ok (walkEntry v.top place.above path (.folder place.here))
      | .ok _ => .ok []
      | .error (.lookup _ _) => .ok []
      | .error e => .error e := by
  rw [walk, find_eq]
  cases v.arrival path with
  | error e => cases e <;> rfl
  | ok a =>
    simp only [bind, Except.bind]
    cases a with
    | folder place => rfl
    | link target place rest => rfl
    | file place name content rest =>
      cases hall : rest.all Text.isEmpty <;> rw [Arrival.target, hall] <;> rfl
    | locked place name isFolder rest =>
      cases hall : rest.all Text.isEmpty <;> rw [Arrival.target, hall] <;> rfl
    | absent place name rest =>
      cases hall : rest.all Text.isEmpty <;> rw [Arrival.target, hall] <;> rfl

theorem find_eq_folder_iff_arrival :
    v.find d = .ok (.folder p) ↔ v.arrival d = .ok (.folder p) := by
  rw [find_eq]
  cases v.arrival d with
  | error e => simp [bind, Except.bind]
  | ok a =>
    rw [Except.ok.injEq, ← Arrival.target_eq_folder_iff]
    cases htarget : a.target <;> simp [bind, Except.bind, htarget, Except.mapError]

theorem arrival_eq_folder_iff :
    v.arrival d = .ok (.folder p) ↔
      ∃ disk, diskPath d = .ok disk ∧ pathError? disk = none ∧
        arrive v.top maxLinks ⟨v.top, []⟩ (v.namesFromTop disk) = some (.folder p) := by
  rw [← find_eq_folder_iff_arrival, find_eq_folder_iff]
  simp only [resolveNames, arrive_eq_folder_iff]

/-- A name after a slash is followed from the folder before it. -/
theorem arrival_slash {a k : Text} (hname : IsDiskName name) (hk : diskPath a = .ok k)
    (hsize : diskSize (a ++ "/" ++ name) < maxPathSize)
    (hfolder : arrive v.top maxLinks ⟨v.top, []⟩ (v.namesBefore k) = some (.folder p)) :
    ∃ left ≤ maxLinks,
      v.arrival (a ++ "/" ++ name) = ended (a ++ "/" ++ name) (arrive v.top left p [name]) := by
  obtain ⟨hkept, hnul⟩ := diskPath_eq_ok_iff.mp hk
  have hwhole := Utf8.kept_slash hkept hname.kept
  have hdisk : diskPath (a ++ "/" ++ name) = .ok (k ++ "/" ++ name) :=
    diskPath_eq_ok_iff.mpr ⟨hwhole, by simp [hasNul_slash, hnul, hname.no_nul]⟩
  have hpath : pathError? (k ++ "/" ++ name) = none := by
    refine pathError?_eq_none_iff.mpr ⟨by simp [Text.isEmpty], ?_⟩
    rwa [diskSize_kept hwhole]
  obtain ⟨left, hle, hleft⟩ := arrive_append hfolder
  refine ⟨left, hle, ?_⟩
  simp only [arrival, hdisk, hpath, bind, Except.bind, namesFromTop_slash,
    Path.pieces_name hname.no_slash, hleft]

/-- A name in a folder is followed from that folder. -/
theorem arrival_join (hname : IsDiskName name) (hd : v.arrival d = .ok (.folder p))
    (hsize : diskSize (Path.join d name) < maxPathSize) :
    ∃ left ≤ maxLinks,
      v.arrival (Path.join d name) = ended (Path.join d name) (arrive v.top left p [name]) := by
  obtain ⟨disk, hdisk, hpath, hfolder⟩ := arrival_eq_folder_iff.mp hd
  obtain ⟨hne, -⟩ := pathError?_eq_none_iff.mp hpath
  obtain ⟨hkept, hnul⟩ := diskPath_eq_ok_iff.mp hdisk
  obtain ⟨he, -⟩ | ⟨before, rfl, hj⟩ | ⟨-, -, hj⟩ := Path.join_cases d hname.toIsName
  · rw [Path.eq_empty_of_isEmpty he] at hkept
    cases hkept
    simp [Text.isEmpty] at hne
  · obtain ⟨k, hk, rfl⟩ := Utf8.kept_of_append_slash hkept
    have hbefore : diskPath before = .ok k := by
      refine diskPath_eq_ok_iff.mpr ⟨hk, ?_⟩
      rw [Path.hasNul, Text.symbols_append] at hnul
      simp_all [Path.hasNul]
    rw [namesFromTop_append_slash] at hfolder
    rw [hj] at hsize ⊢
    refine arrival_slash hname hbefore hsize (arrive_eq_folder_iff.mpr ?_)
    exact resolve_of_append_empty (arrive_eq_folder_iff.mp hfolder)
  · rw [hj] at hsize ⊢
    rw [v.namesFromTop_eq_namesBefore hne] at hfolder
    exact arrival_slash hname hdisk hsize hfolder

theorem diskSize_of_arrival {path : Text} {a : Arrival} (h : v.arrival path = .ok a) :
    diskSize path < maxPathSize := by
  simp only [arrival, bind, Except.bind] at h
  split at h
  · cases h
  · rename_i disk hdisk
    split at h
    · cases h
    · rename_i hpath
      rw [← diskSize_kept (diskPath_eq_ok_iff.mp hdisk).1]
      exact (pathError?_eq_none_iff.mp hpath).2

/-- The path of a name in a folder ends where following this name ends, or where a link of this name
leads. -/
theorem arrival_join_follow {a : Arrival} (hname : IsDiskName name)
    (hd : v.arrival d = .ok (.folder p)) (h : v.arrival (Path.join d name) = .ok a) :
    a = p.follow [name] ∨
      ∃ target, Children.get? name p.here = some (.link target) ∧
        arrive v.top maxLinks p [name] = some a := by
  obtain ⟨left, hle, harrival⟩ := arrival_join hname hd (diskSize_of_arrival h)
  have harrive : arrive v.top left p [name] = some a := by
    rw [harrival] at h
    cases hleft : arrive v.top left p [name] with
    | none => simp [hleft, ended] at h
    | some b => simpa [hleft, ended] using h
  by_cases hlink : ∃ target, Children.get? name p.here = some (.link target)
  · obtain ⟨target, hget⟩ := hlink
    exact .inr ⟨target, hget, arrive_mono hle harrive⟩
  · have hfollow : ∀ target q rest, p.follow [name] ≠ .link target q rest := by
      intro target q rest heq
      simp only [Trail.follow, hname.nonempty, hname.ne_dot, hname.ne_dots, Bool.false_or,
        decide_false, Bool.false_eq_true, if_false] at heq
      split at heq
      · cases heq
      · cases heq
      · cases heq
      · rename_i hget
        exact hlink ⟨_, hget⟩
      · cases heq
    rw [arrive_of_not_link hfollow] at harrive
    exact .inl (Option.some.inj harrive).symm

/-- The folders below a folder are found under their paths. -/
theorem arrival_descend {place : Trail} (hplace : place.WellFormed)
    (hd : v.arrival d = .ok (.folder place)) {names : List Text} (hb : place.below names = some p)
    (hsize : diskSize (Path.descend d names) < maxPathSize) :
    v.arrival (Path.descend d names) = .ok (.folder p) := by
  induction names generalizing d place with
  | nil =>
    cases hb
    exact hd
  | cons name rest ih =>
    have hnames := Trail.below_names hplace hb
    obtain ⟨sub, hget, hrest⟩ := Trail.below_cons_eq_some_iff.mp hb
    have hname := hnames name List.mem_cons_self
    have hle := diskSize_le_descend (Path.join d name) fun n hn =>
      (hnames n (List.mem_cons_of_mem _ hn)).toIsName
    obtain ⟨left, -, harrival⟩ := arrival_join hname hd (hle.trans_lt hsize)
    rw [arrive_of_follow_folder (Trail.follow_name hname.toIsName hget)] at harrival
    exact ih (hplace.enter hget) harrival hrest hsize

/-- The folders of a walk are found under their paths. -/
theorem arrival_visit {place : Trail} (hplace : place.WellFormed)
    (hd : v.arrival d = .ok (.folder place)) {visit : Visit}
    (hvisit : visit ∈ walkEntry v.top place.above d (.folder place.here)) :
    ∃ p, p.WellFormed ∧ v.arrival visit.directory = .ok (.folder p) ∧
      visit.files = filesOf v.top p := by
  obtain ⟨names, p, hb, hsize, rfl⟩ := (mem_walkEntry_iff hplace).mp hvisit
  exact ⟨p, hplace.below hb, arrival_descend hplace hd hb hsize, rfl⟩

end Volume

/-! ## Links -/

/-- The folders of a disk with the given top. -/
inductive Trail.On (top : Children) : Trail → Prop where
  | top : Trail.On top ⟨top, []⟩
  | enter {place : Trail} {name : Text} {sub : Children} (h : Trail.On top place)
      (hget : Children.get? name place.here = some (.folder sub)) :
      Trail.On top ⟨sub, (name, place.here) :: place.above⟩

/-- The folder in which following names ended. -/
def Arrival.place : Arrival → Trail
  | .folder place => place
  | .file place _ _ _ => place
  | .locked place _ _ _ => place
  | .link _ place _ => place
  | .absent place _ _ => place

namespace Trail.On

variable {top : Children} {place p : Trail}

theorem up (h : place.On top) : place.up.On top := by
  cases h with
  | top => exact .top
  | enter h hget => exact h

theorem follow (h : place.On top) (names : List Text) : (place.follow names).place.On top := by
  fun_induction Trail.follow place names with
  | case1 => exact h
  | case2 place name rest hskip ih => exact ih h
  | case3 place rest hskip ih => exact ih h.up
  | case4 place name rest hskip hup sub hget ih => exact ih (h.enter hget)
  | case5 => exact h
  | case6 => exact h
  | case7 => exact h
  | case8 => exact h

theorem arrive (h : place.On top) {links : Nat} {names : List Text} {a : Arrival}
    (ha : Scribe.arrive top links place names = some a) : a.place.On top := by
  have hfollow := h.follow names
  fun_induction Scribe.arrive top links place names with
  | case1 => cases ha
  | case2 place names target q rest heq left start =>
    rename_i ih
    have hstart : start.On top := by
      rw [heq] at hfollow
      simp only [start]
      split
      · exact .top
      · exact hfollow
    exact ih hstart ha (hstart.follow _)
  | case3 links place names hnot =>
    obtain rfl := Option.some.inj ha
    exact hfollow

theorem wellFormed (h : place.On top) (htop : Children.WellFormed top) : place.WellFormed := by
  induction h with
  | top => exact ⟨htop, by simp⟩
  | enter h hget ih => exact ih.enter hget

end Trail.On

theorem Volume.on_of_arrival {v : Volume} {path : Text} {a : Arrival}
    (h : v.arrival path = .ok a) : a.place.On v.top := by
  simp only [arrival, bind, Except.bind] at h
  split at h
  · cases h
  · split at h
    · cases h
    · rename_i disk _ _ _
      cases harrive : arrive v.top maxLinks ⟨v.top, []⟩ (v.namesFromTop disk) with
      | none => simp [harrive, ended] at h
      | some b =>
        obtain rfl : b = a := by simpa [harrive, ended] using h
        exact Trail.On.top.arrive harrive

/-- Every folder that a walk visits is found under its path. -/
theorem Volume.arrival_of_mem_walk {v : Volume} {path : Text} {visits : List Visit} {visit : Visit}
    (hv : v.WellFormed) (hw : v.walk path = .ok visits) (hvisit : visit ∈ visits) :
    ∃ p, p.WellFormed ∧ v.arrival visit.directory = .ok (.folder p) ∧
      visit.files = filesOf v.top p := by
  rw [walk_eq] at hw
  split at hw
  · rename_i place harrival
    obtain rfl := Except.ok.inj hw
    exact arrival_visit ((on_of_arrival harrival).wellFormed hv) harrival hvisit
  · obtain rfl := Except.ok.inj hw
    cases hvisit
  · obtain rfl := Except.ok.inj hw
    cases hvisit
  · cases hw

mutual

/-- The links below an entry. The entry is in the folder `here` under the name `name`. -/
def linksBelow (here : Children) (above : List (Text × Children)) (name : Text) :
    Entry → List (Trail × Text)
  | .file _ => []
  | .link _ => [(⟨here, above⟩, name)]
  | .locked _ => []
  | .folder children => linksAmong children ((name, here) :: above) children

/-- The links below some entries of the folder `here`. -/
def linksAmong (here : Children) (above : List (Text × Children)) :
    List (Text × Entry) → List (Trail × Text)
  | [] => []
  | (name, e) :: rest => linksBelow here above name e ++ linksAmong here above rest

end

theorem linksAmong_eq_flatMap (here : Children) (above : List (Text × Children))
    (cs : List (Text × Entry)) :
    linksAmong here above cs = cs.flatMap fun c => linksBelow here above c.1 c.2 := by
  induction cs with
  | nil => rfl
  | cons c rest ih =>
    obtain ⟨name, e⟩ := c
    rw [linksAmong, ih, List.flatMap_cons]

theorem Children.mem_of_get?_eq_some {cs : Children} {name : Text} {e : Entry}
    (h : get? name cs = some e) : (name, e) ∈ cs := by
  obtain ⟨c, hfind, rfl⟩ := Option.map_eq_some_iff.mp h
  obtain rfl : c.1 = name := by simpa using List.find?_some hfind
  exact List.mem_of_find?_eq_some hfind

/-- All links of a disk, each with the folder that it is in. -/
def Volume.links (v : Volume) : List (Trail × Text) := linksAmong v.top [] v.top

/-- The links in and below a folder are among those of the disk. -/
theorem Volume.linksAmong_subset {v : Volume} {place : Trail} (h : place.On v.top) :
    linksAmong place.here place.above place.here ⊆ v.links := by
  induction h with
  | top => exact List.Subset.refl _
  | @enter place name sub h hget ih =>
    intro link hlink
    refine ih ?_
    rw [linksAmong_eq_flatMap, List.mem_flatMap]
    exact ⟨_, Children.mem_of_get?_eq_some hget, hlink⟩

theorem Volume.mem_links {v : Volume} {place : Trail} (h : place.On v.top) {name target : Text}
    (hget : Children.get? name place.here = some (.link target)) : (place, name) ∈ v.links := by
  refine linksAmong_subset h ?_
  rw [linksAmong_eq_flatMap, List.mem_flatMap]
  exact ⟨_, Children.mem_of_get?_eq_some hget, List.mem_singleton.mpr rfl⟩

/-- Where the links of a disk end that have a name to keep. -/
def Volume.linkEnds (v : Volume) (keep : Text → Bool) : List Arrival :=
  (v.links.filter (keep ·.2)).filterMap fun link => arrive v.top maxLinks link.1 [link.2]

/-- The path of a name in a folder ends where following this name ends, or where a link of this name
ends. -/
theorem Volume.arrival_join_cases {v : Volume} {p : Trail} {d name : Text} {a : Arrival}
    {keep : Text → Bool} (hname : IsDiskName name) (hkeep : keep name = true)
    (hd : v.arrival d = .ok (.folder p)) (h : v.arrival (Path.join d name) = .ok a) :
    a = p.follow [name] ∨ a ∈ v.linkEnds keep := by
  obtain hfollow | ⟨target, hget, harrive⟩ := arrival_join_follow hname hd h
  · exact .inl hfollow
  · have hon : p.On v.top := on_of_arrival hd
    have hlink : (p, name) ∈ v.links.filter (keep ·.2) :=
      List.mem_filter.mpr ⟨mem_links hon hget, hkeep⟩
    exact .inr (List.mem_filterMap.mpr ⟨_, hlink, harrive⟩)

end Scribe
