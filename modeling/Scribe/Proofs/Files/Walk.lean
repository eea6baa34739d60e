import Mathlib.Data.List.Nodup
import Mathlib.Data.List.Perm.Basic
import Scribe.Files.Walk
import Scribe.Proofs.Files.Lookup

/-!
# The visits of a walk

A walk visits exactly the folders that names lead down to without links, as long as their paths are
not too long, and it visits each of them once. A walk that starts at one of them visits those below
it, under the same paths.

## Main results

* `mem_walkEntry_iff`: the visits of a walk.
* `nodup_walkEntry`, `nodup_paths_walkEntry`: no folder is visited twice, and no file listed twice.
* `Volume.Walkable.descend`: every folder that is visited can be walked by its own path.
* `Volume.Walkable.chain_perm`: the visits on the way down to a folder are its chain of paths.
-/

namespace Scribe

/-- The folder that names lead down to. No link is followed. -/
def Trail.below (place : Trail) : List Text → Option Trail
  | [] => some place
  | name :: rest =>
    match Children.get? name place.here with
    | some (.folder sub) => Trail.below ⟨sub, (name, place.here) :: place.above⟩ rest
    | _ => none

namespace Trail

variable {place p : Trail} {names : List Text}

theorem below_cons_eq_some_iff {name : Text} :
    place.below (name :: names) = some p ↔
      ∃ sub, Children.get? name place.here = some (.folder sub) ∧
        below ⟨sub, (name, place.here) :: place.above⟩ names = some p := by
  rw [below]
  split <;> simp_all

theorem below_append (place : Trail) (names more : List Text) :
    place.below (names ++ more) = (place.below names).bind (·.below more) := by
  fun_induction Trail.below place names with
  | case1 => rfl
  | case2 place name rest sub hget ih => simpa [below, hget] using ih
  | case3 place name rest hget =>
    rw [List.cons_append, below]
    split
    · rename_i sub hsub
      exact absurd hsub (hget sub)
    · rfl

theorem below_names (h : place.WellFormed) (hb : place.below names = some p) :
    ∀ n ∈ names, IsDiskName n := by
  induction names generalizing place with
  | nil => simp
  | cons name rest ih =>
    obtain ⟨sub, hget, hrest⟩ := below_cons_eq_some_iff.mp hb
    intro n hn
    obtain rfl | hn := List.mem_cons.mp hn
    · exact h.here.name hget
    · exact ih (h.enter hget) hrest n hn

theorem WellFormed.below (h : place.WellFormed) (hb : place.below names = some p) :
    p.WellFormed := by
  induction names generalizing place with
  | nil =>
    cases hb
    exact h
  | cons name rest ih =>
    obtain ⟨sub, hget, hrest⟩ := below_cons_eq_some_iff.mp hb
    exact ih (h.enter hget) hrest

end Trail

theorem walkChildren_eq_flatMap (top here : Children) (above : List (Text × Children))
    (path : Text) (cs : List (Text × Entry)) :
    walkChildren top here above path cs =
      cs.flatMap fun c => walkEntry top ((c.1, here) :: above) (Path.join path c.1) c.2 := by
  induction cs with
  | nil => rfl
  | cons c rest ih =>
    obtain ⟨name, e⟩ := c
    rw [walkChildren, ih, List.flatMap_cons]

/-- A folder is visited before all that its entries lead to. -/
theorem walkEntry_folder (top : Children) (place : Trail) (path : Text) :
    walkEntry top place.above path (.folder place.here) =
      if maxPathSize ≤ diskSize path then []
      else ⟨path, filesOf top place⟩ :: place.here.flatMap fun c =>
        walkEntry top ((c.1, place.here) :: place.above) (Path.join path c.1) c.2 := by
  rw [walkEntry, walkChildren_eq_flatMap]

/-- The visits of a walk are the folders below, if their paths are not too long. -/
theorem mem_walkEntry_iff {top : Children} {place : Trail} {path : Text} {visit : Visit}
    (h : place.WellFormed) :
    visit ∈ walkEntry top place.above path (.folder place.here) ↔
      ∃ names p, place.below names = some p ∧
        diskSize (Path.descend path names) < maxPathSize ∧
        visit = ⟨Path.descend path names, filesOf top p⟩ := by
  obtain ⟨here, above⟩ := place
  have hhere := h.here
  dsimp only at *
  -- The induction is on the folder; the folders above it and its path vary with it.
  induction hhere generalizing above path with
  | @intro cs nodup namesOk folders ih =>
    by_cases hsize : diskSize path < maxPathSize
    · rw [walkEntry_folder top ⟨cs, above⟩, if_neg (Nat.not_le.mpr hsize), List.mem_cons,
        List.mem_flatMap]
      constructor
      · rintro (rfl | ⟨⟨name, e⟩, hc, hvisit⟩)
        · exact ⟨[], ⟨cs, above⟩, rfl, hsize, rfl⟩
        · cases e with
          | file content => simp [walkEntry] at hvisit
          | link target => simp [walkEntry] at hvisit
          | locked isFolder => simp [walkEntry] at hvisit
          | folder sub =>
            have hget := (Children.get?_eq_some_iff h.here).mpr hc
            obtain ⟨names, p, hb, hs, rfl⟩ := (ih name sub hc _ (h.enter hget)).mp hvisit
            exact ⟨name :: names, p, Trail.below_cons_eq_some_iff.mpr ⟨sub, hget, hb⟩, hs, rfl⟩
      · rintro ⟨names, p, hb, hs, rfl⟩
        cases names with
        | nil =>
          cases hb
          exact .inl rfl
        | cons name rest =>
          obtain ⟨sub, hget, hrest⟩ := Trail.below_cons_eq_some_iff.mp hb
          have hc := (Children.get?_eq_some_iff h.here).mp hget
          exact .inr ⟨_, hc, (ih name sub hc _ (h.enter hget)).mpr ⟨rest, p, hrest, hs, rfl⟩⟩
    · rw [walkEntry, if_pos (Nat.not_lt.mp hsize)]
      refine ⟨by simp, ?_⟩
      rintro ⟨names, p, hb, hs, -⟩
      have hnames := Trail.below_names h hb
      have hle := diskSize_le_descend path fun n hn => (hnames n hn).toIsName
      exact absurd (hle.trans_lt hs) hsize

/-- The walk of an entry of a folder stays below the name of the entry. -/
theorem exists_descend_of_mem_child {top : Children} {place : Trail} (h : place.WellFormed)
    {path d : Text} {c : Text × Entry} (hc : c ∈ place.here)
    (hd : d ∈ (walkEntry top ((c.1, place.here) :: place.above) (Path.join path c.1) c.2).map
      (·.directory)) :
    ∃ rest, (∀ n ∈ c.1 :: rest, Path.IsName n) ∧ d = Path.descend path (c.1 :: rest) := by
  obtain ⟨name, e⟩ := c
  obtain ⟨visit, hvisit, rfl⟩ := List.mem_map.mp hd
  cases e with
  | file content => simp [walkEntry] at hvisit
  | link target => simp [walkEntry] at hvisit
  | locked isFolder => simp [walkEntry] at hvisit
  | folder sub =>
    have hget := (Children.get?_eq_some_iff h.here).mpr hc
    obtain ⟨rest, p, hb, -, rfl⟩ := (mem_walkEntry_iff (h.enter hget)).mp hvisit
    have hnames := Trail.below_names h (Trail.below_cons_eq_some_iff.mpr ⟨sub, hget, hb⟩)
    exact ⟨rest, fun n hn => (hnames n hn).toIsName, rfl⟩

/-- No folder is visited twice. -/
theorem nodup_walkEntry {top : Children} {place : Trail} {path : Text} (h : place.WellFormed) :
    ((walkEntry top place.above path (.folder place.here)).map (·.directory)).Nodup := by
  obtain ⟨here, above⟩ := place
  have hhere := h.here
  dsimp only at *
  induction hhere generalizing above path with
  | @intro cs nodup namesOk folders ih =>
    by_cases hsize : diskSize path < maxPathSize
    · rw [walkEntry_folder top ⟨cs, above⟩, if_neg (Nat.not_le.mpr hsize), List.map_cons,
        List.map_flatMap, List.nodup_cons, List.nodup_flatMap]
      refine ⟨fun hmem => ?_, fun c hc => ?_, ?_⟩
      · obtain ⟨c, hc, hd⟩ := List.mem_flatMap.mp hmem
        obtain ⟨rest, hnames, hpath⟩ := exists_descend_of_mem_child h hc hd
        have hnil : [] = c.1 :: rest := Path.descend_inj (by simp) hnames hpath
        cases hnil
      · obtain ⟨name, e⟩ := c
        cases e with
        | file content => simp [walkEntry]
        | link target => simp [walkEntry]
        | locked isFolder => simp [walkEntry]
        | folder sub =>
          have hget := (Children.get?_eq_some_iff h.here).mpr hc
          exact ih name sub hc _ (h.enter hget)
      · refine (List.pairwise_map.mp nodup).imp_of_mem fun {a b} ha hb hne => ?_
        intro d hda hdb
        obtain ⟨rest, hnames, rfl⟩ := exists_descend_of_mem_child h ha hda
        obtain ⟨rest', hnames', hpath⟩ := exists_descend_of_mem_child h hb hdb
        exact hne (List.cons.inj (Path.descend_inj hnames hnames' hpath)).1
    · rw [walkEntry, if_pos (Nat.not_lt.mp hsize)]
      simp

/-! ## Files of a folder -/

theorem mem_filesOf {top : Children} {place : Trail} {name : Text} (h : name ∈ filesOf top place) :
    ∃ e, (name, e) ∈ place.here := by
  rw [filesOf] at h
  obtain ⟨⟨name, e⟩, hc, rfl⟩ := List.mem_map.mp h
  exact ⟨e, List.mem_of_mem_filter hc⟩

theorem nodup_filesOf {top : Children} {place : Trail} (h : place.WellFormed) :
    (filesOf top place).Nodup := by
  obtain ⟨hnodup, -, -⟩ := h.here
  rw [filesOf]
  exact hnodup.sublist (List.filter_sublist.map _)

theorem isDiskName_of_mem_filesOf {top : Children} {place : Trail} (h : place.WellFormed)
    {name : Text} (hf : name ∈ filesOf top place) : IsDiskName name := by
  obtain ⟨e, hc⟩ := mem_filesOf hf
  obtain ⟨-, hnames, -⟩ := h.here
  exact hnames _ hc

/-! ## Paths of files -/

/-- The path of a file tells the visit and the name. -/
theorem join_inj_of_mem_walkEntry {top : Children} {place : Trail} {path : Text}
    (h : place.WellFormed) {visit other : Visit}
    (hvisit : visit ∈ walkEntry top place.above path (.folder place.here))
    (hother : other ∈ walkEntry top place.above path (.folder place.here)) {name name' : Text}
    (hname : name ∈ visit.files) (hname' : name' ∈ other.files)
    (heq : Path.join visit.directory name = Path.join other.directory name') :
    visit = other ∧ name = name' := by
  obtain ⟨names, p, hb, -, rfl⟩ := (mem_walkEntry_iff h).mp hvisit
  obtain ⟨names', p', hb', -, rfl⟩ := (mem_walkEntry_iff h).mp hother
  have hn := (isDiskName_of_mem_filesOf (h.below hb) hname).toIsName
  have hn' := (isDiskName_of_mem_filesOf (h.below hb') hname').toIsName
  obtain ⟨rfl, rfl⟩ := Path.join_inj (fun n hn => (Trail.below_names h hb n hn).toIsName)
    (fun n hn => (Trail.below_names h hb' n hn).toIsName) hn hn' heq
  obtain rfl := Option.some.inj (hb.symm.trans hb')
  exact ⟨rfl, rfl⟩

/-- No two files of a walk have the same path, whichever of them are looked at. -/
theorem nodup_paths_walkEntry {top : Children} {place : Trail} {path : Text}
    (h : place.WellFormed) (keep : Text → Bool) :
    ((walkEntry top place.above path (.folder place.here)).flatMap fun visit =>
      (visit.files.filter keep).map (Path.join visit.directory)).Nodup := by
  rw [List.nodup_flatMap]
  constructor
  · intro visit hvisit
    have hfiles : visit.files.Nodup := by
      obtain ⟨names, p, hb, -, rfl⟩ := (mem_walkEntry_iff h).mp hvisit
      exact nodup_filesOf (h.below hb)
    refine (hfiles.filter _).map_on fun a ha b hb heq => ?_
    exact (join_inj_of_mem_walkEntry h hvisit hvisit (List.mem_of_mem_filter ha)
      (List.mem_of_mem_filter hb) heq).2
  · refine (List.pairwise_map.mp (nodup_walkEntry h)).imp_of_mem fun {u v} hu hv hne => ?_
    intro file hfile hfile'
    obtain ⟨a, ha, rfl⟩ := List.mem_map.mp hfile
    obtain ⟨b, hb, heq⟩ := List.mem_map.mp hfile'
    have hsame := join_inj_of_mem_walkEntry h hv hu (List.mem_of_mem_filter hb)
      (List.mem_of_mem_filter ha) heq
    exact hne (by rw [hsame.1])

/-! ## Walks on a disk -/

/-- What is there can be walked. -/
theorem walk_of_holds {v : Volume} {path : Text} (h : v.holds path = true) :
    ∃ visits, v.walk path = .ok visits := by
  unfold Volume.holds at h
  unfold Volume.walk
  split at h <;> simp_all

namespace Volume

/-- The names of the files that lie directly in the folder at a path. -/
def filesIn (v : Volume) (path : Text) : List Text :=
  match v.find path with
  | .ok (.folder place) => filesOf v.top place
  | _ => []

theorem nodup_filesIn {v : Volume} (hv : v.WellFormed) (path : Text) : (v.filesIn path).Nodup := by
  rw [filesIn]
  split
  · rename_i place hfind
    exact nodup_filesOf (find_wellFormed hv hfind)
  · exact List.nodup_nil

/-- A path without the character zero can be walked if it can be written as bytes. -/
theorem exists_walk (v : Volume) {path : Text} {bytes : Bytes} (hnul : Path.hasNul path = false)
    (hwritten : Utf8.writeLoose path = .ok bytes) : ∃ visits, v.walk path = .ok visits := by
  obtain ⟨disk, hdisk⟩ := exists_diskPath hnul hwritten
  have hfind : v.find path = (v.resolvePath disk).mapError (.lookup path) := by
    rw [find, hdisk]
    rfl
  rw [walk, hfind]
  cases v.resolvePath disk with
  | error cause => exact ⟨[], rfl⟩
  | ok target => cases target <;> exact ⟨_, rfl⟩

/-- No two files of a walk have the same path, whichever of them are looked at. -/
theorem nodup_paths_walk {v : Volume} (hv : v.WellFormed) {path : Text} {visits : List Visit}
    (hw : v.walk path = .ok visits) (keep : Text → Bool) :
    (visits.flatMap fun visit =>
      (visit.files.filter keep).map (Path.join visit.directory)).Nodup := by
  rw [walk] at hw
  split at hw
  · rename_i place hfind
    obtain rfl := Except.ok.inj hw
    exact nodup_paths_walkEntry (find_wellFormed hv hfind) keep
  · obtain rfl := Except.ok.inj hw
    exact List.nodup_nil
  · obtain rfl := Except.ok.inj hw
    exact List.nodup_nil
  · cases hw

/-- The folder at the path `root`, in a form in which it can be walked. -/
structure Walkable (v : Volume) (root : Text) (place : Trail) : Prop where
  wellFormed : place.WellFormed
  trimmed : Path.Trimmed root
  find : v.find root = .ok (.folder place)

namespace Walkable

variable {v : Volume} {root : Text} {place p : Trail} {names : List Text} {visits : List Visit}
  {visit : Visit}

theorem walk_eq (h : Walkable v root place) :
    v.walk root = .ok (walkEntry v.top place.above root (.folder place.here)) := by
  rw [walk, h.find]

theorem filesIn_eq (h : Walkable v root place) : v.filesIn root = filesOf v.top place := by
  rw [filesIn, h.find]

/-- A folder below can be walked by its own path, if that is not too long. -/
theorem descend (h : Walkable v root place) (hb : place.below names = some p)
    (hsize : diskSize (Path.descend root names) < maxPathSize) :
    Walkable v (Path.descend root names) p := by
  induction names generalizing root place with
  | nil =>
    cases hb
    exact h
  | cons name rest ih =>
    have hnames := Trail.below_names h.wellFormed hb
    obtain ⟨sub, hget, hrest⟩ := Trail.below_cons_eq_some_iff.mp hb
    have hname := hnames name List.mem_cons_self
    have hle := diskSize_le_descend (Path.join root name) fun n hn =>
      (hnames n (List.mem_cons_of_mem _ hn)).toIsName
    have hsub := find_join h.trimmed hname h.find hget (hle.trans_lt hsize)
    exact ih ⟨h.wellFormed.enter hget, Path.trimmed_join root hname.toIsName, hsub⟩ hrest hsize

theorem isName_of_below (h : Walkable v root place) (hb : place.below names = some p) :
    ∀ n ∈ names, Path.IsName n :=
  fun n hn => (Trail.below_names h.wellFormed hb n hn).toIsName

theorem mem_visits_iff (h : Walkable v root place) (hw : v.walk root = .ok visits) :
    visit ∈ visits ↔
      ∃ names p, place.below names = some p ∧
        diskSize (Path.descend root names) < maxPathSize ∧
        visit = ⟨Path.descend root names, filesOf v.top p⟩ := by
  obtain rfl := Except.ok.inj (h.walk_eq.symm.trans hw)
  exact mem_walkEntry_iff h.wellFormed

theorem nodup_visits (h : Walkable v root place) (hw : v.walk root = .ok visits) :
    (visits.map (·.directory)).Nodup := by
  obtain rfl := Except.ok.inj (h.walk_eq.symm.trans hw)
  exact nodup_walkEntry h.wellFormed

/-- A visit lists the files that lie in its folder. -/
theorem files_eq_filesIn (h : Walkable v root place) (hw : v.walk root = .ok visits)
    (hvisit : visit ∈ visits) : visit.files = v.filesIn visit.directory := by
  obtain ⟨names, p, hb, hsize, rfl⟩ := (h.mem_visits_iff hw).mp hvisit
  exact (h.descend hb hsize).filesIn_eq.symm

/-- The folder of a visit can itself be walked. -/
theorem visited (h : Walkable v root place) (hw : v.walk root = .ok visits)
    (hvisit : visit ∈ visits) :
    ∃ p, Walkable v visit.directory p ∧ visit.files = filesOf v.top p := by
  obtain ⟨names, p, hb, hsize, rfl⟩ := (h.mem_visits_iff hw).mp hvisit
  exact ⟨p, h.descend hb hsize, rfl⟩

theorem isDiskName_of_mem_files (h : Walkable v root place) (hw : v.walk root = .ok visits)
    (hvisit : visit ∈ visits) {name : Text} (hname : name ∈ visit.files) : IsDiskName name := by
  obtain ⟨p, hp, hfiles⟩ := h.visited hw hvisit
  exact isDiskName_of_mem_filesOf hp.wellFormed (hfiles ▸ hname)

/-- The path of a file tells the visit and the name. -/
theorem join_inj (h : Walkable v root place) (hw : v.walk root = .ok visits) {other : Visit}
    (hvisit : visit ∈ visits) (hother : other ∈ visits) {name name' : Text}
    (hname : name ∈ visit.files) (hname' : name' ∈ other.files)
    (heq : Path.join visit.directory name = Path.join other.directory name') :
    visit = other ∧ name = name' := by
  obtain rfl := Except.ok.inj (h.walk_eq.symm.trans hw)
  exact join_inj_of_mem_walkEntry h.wellFormed hvisit hother hname hname' heq

/-- A walk that starts at a visited folder visits those of the folders that have it on their
chain. -/
theorem mem_visits_below_iff (h : Walkable v root place) (hw : v.walk root = .ok visits)
    {other : Visit} (hother : other ∈ visits) {below : List Visit}
    (hbelow : v.walk other.directory = .ok below) :
    visit ∈ below ↔ visit ∈ visits ∧ other.directory ∈ Path.chain root visit.directory := by
  obtain ⟨front, q, hq, hsize, rfl⟩ := (h.mem_visits_iff hw).mp hother
  rw [(h.descend hq hsize).mem_visits_iff hbelow, h.mem_visits_iff hw]
  constructor
  · rintro ⟨back, p, hb, hsize', rfl⟩
    have hboth : place.below (front ++ back) = some p := by
      rw [Trail.below_append, hq]
      exact hb
    rw [← Path.descend_append] at hsize' ⊢
    refine ⟨⟨_, p, hboth, hsize', rfl⟩, ?_⟩
    exact (Path.mem_chain_descend (h.isName_of_below hboth)).mpr
      ⟨front, List.prefix_append front back, rfl⟩
  · rintro ⟨⟨names, p, hb, hsize', rfl⟩, hchain⟩
    obtain ⟨front', ⟨back, rfl⟩, heq⟩ :=
      (Path.mem_chain_descend (h.isName_of_below hb)).mp hchain
    have hnames := h.isName_of_below hb
    obtain rfl := Path.descend_inj (fun n hn => hnames n (List.mem_append_left back hn))
      (h.isName_of_below hq) heq
    rw [Trail.below_append, hq] at hb
    rw [Path.descend_append] at hsize' ⊢
    exact ⟨back, p, hb, hsize', rfl⟩

theorem mem_chain_self (h : Walkable v root place) (hw : v.walk root = .ok visits)
    (hvisit : visit ∈ visits) : visit.directory ∈ Path.chain root visit.directory := by
  obtain ⟨names, p, hb, -, rfl⟩ := (h.mem_visits_iff hw).mp hvisit
  exact (Path.mem_chain_descend (h.isName_of_below hb)).mpr ⟨names, List.prefix_rfl, rfl⟩

theorem nodup_chain (h : Walkable v root place) (hw : v.walk root = .ok visits)
    (hvisit : visit ∈ visits) : (Path.chain root visit.directory).Nodup := by
  obtain ⟨names, p, hb, -, rfl⟩ := (h.mem_visits_iff hw).mp hvisit
  exact Path.nodup_chain (h.isName_of_below hb)

/-- The visits on the way down to a folder of the walk are its chain of paths. -/
theorem chain_perm (h : Walkable v root place) (hw : v.walk root = .ok visits)
    (hvisit : visit ∈ visits) :
    (visits.filter (·.directory ∈ Path.chain root visit.directory)).Perm
      ((Path.chain root visit.directory).map fun d => ⟨d, v.filesIn d⟩) := by
  obtain ⟨names, p, hb, hsize, rfl⟩ := (h.mem_visits_iff hw).mp hvisit
  have hnames := h.isName_of_below hb
  have hleft : (visits.filter (·.directory ∈ Path.chain root (Path.descend root names))).Nodup :=
    (List.Nodup.of_map _ (h.nodup_visits hw)).filter _
  have hchain : (Path.chain root (Path.descend root names)).Nodup := Path.nodup_chain hnames
  have hright := hchain.map (f := fun d => (⟨d, v.filesIn d⟩ : Visit)) fun a b hab => by
    injection hab
  refine (List.perm_ext_iff_of_nodup hleft hright).mpr fun u => ?_
  rw [List.mem_filter, List.mem_map, decide_eq_true_eq]
  constructor
  · rintro ⟨hu, hchain⟩
    exact ⟨u.directory, hchain, by rw [← h.files_eq_filesIn hw hu]⟩
  · rintro ⟨d, hchain, rfl⟩
    refine ⟨?_, hchain⟩
    obtain ⟨front, ⟨back, rfl⟩, rfl⟩ := (Path.mem_chain_descend hnames).mp hchain
    rw [Trail.below_append] at hb
    obtain ⟨q, hq, -⟩ := Option.bind_eq_some_iff.mp hb
    have hle : diskSize (Path.descend root front) ≤ _ :=
      diskSize_le_descend _ fun n hn => hnames n (List.mem_append_right front hn)
    rw [← Path.descend_append] at hle
    have hshort := hle.trans_lt hsize
    exact (h.mem_visits_iff hw).mpr
      ⟨front, q, hq, hshort, by rw [(h.descend hq hshort).filesIn_eq]⟩

end Walkable

end Volume

end Scribe
