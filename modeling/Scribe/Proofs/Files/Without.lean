import Scribe.Proofs.Basic
import Scribe.Proofs.Files.Arrival

/-!
# Disks without some files

Two disks differ by files at some spots if they are the same without the files there: such files
are added, removed or rewritten, while folders and links stay. A path ends on the disk without them
as it does with them, unless it comes to one of these files. A walk visits the same folders, and
lists the same files apart from those at the spots.

## Main results

* `Volume.arrival_without`: where a path ends without some files.
* `walkEntry_without`, `Volume.walk_without`: what a walk visits without them.
* `Volume.toOption_read_without`, `Volume.read_without`: what can be read without them.
-/

namespace Scribe

/-- Spots for files: a folder, as the names that lead from it up to the top, and a name in it. -/
abbrev Spots := List Text → Text → Bool

/-- Whether an entry of a folder is a file at a spot. -/
def isAtSpot (spots : Spots) (path : List Text) : Text × Entry → Bool
  | (name, .file _) => spots path name
  | (name, .locked false) => spots path name
  | _ => false

mutual

/-- An entry without the files at some spots below it, the names up to the top being `path`. -/
def Entry.without (spots : Spots) (path : List Text) : Entry → Entry
  | .file content => .file content
  | .link target => .link target
  | .locked isFolder => .locked isFolder
  | .folder children => .folder (entriesWithout spots path children)

/-- Entries of a folder without the files at some spots. -/
def entriesWithout (spots : Spots) (path : List Text) : List (Text × Entry) → List (Text × Entry)
  | [] => []
  | (name, e) :: rest =>
    if isAtSpot spots path (name, e) then entriesWithout spots path rest
    else (name, e.without spots (name :: path)) :: entriesWithout spots path rest

end

variable (spots : Spots)

theorem entriesWithout_eq (path : List Text) (cs : List (Text × Entry)) :
    entriesWithout spots path cs =
      (cs.filter (!isAtSpot spots path ·)).map fun c =>
        (c.1, c.2.without spots (c.1 :: path)) := by
  induction cs with
  | nil => rfl
  | cons c rest ih =>
    obtain ⟨name, e⟩ := c
    rw [entriesWithout, ih, List.filter_cons]
    cases isAtSpot spots path (name, e) <;> rfl

/-- An entry that is left has its own entries left out. -/
theorem get?_entriesWithout {cs : Children} (h : (cs.map (·.1)).Nodup) (path : List Text)
    (name : Text) :
    Children.get? name (entriesWithout spots path cs) =
      (Children.get? name cs).bind fun e =>
        if isAtSpot spots path (name, e) then none else some (e.without spots (name :: path)) := by
  induction cs with
  | nil => rfl
  | cons c rest ih =>
    obtain ⟨n, e⟩ := c
    obtain ⟨hn, hrest⟩ := List.nodup_cons.mp h
    have hcons (e : Entry) (cs : Children) : Children.get? name ((n, e) :: cs) =
        if n = name then some e else Children.get? name cs := by
      by_cases heq : n = name <;> simp [Children.get?, heq]
    rw [entriesWithout, hcons]
    by_cases heq : n = name
    · -- No other entry has the name.
      have hnone : Children.get? name rest = none := by
        rw [Children.get?, Option.map_eq_none_iff, List.find?_eq_none]
        intro c hc hname
        exact hn (List.mem_map.mpr ⟨c, hc, by simpa [heq] using hname⟩)
      subst heq
      split
      · rename_i hspot
        rw [ih hrest, hnone, if_pos rfl]
        simp [hspot]
      · rename_i hspot
        simp [hspot, Children.get?]
    · rw [if_neg heq]
      split
      · exact ih hrest
      · rw [hcons, if_neg heq]
        exact ih hrest

/-! ## Following names -/

namespace Trail

/-- The names that lead from a folder up to the top. -/
def names (place : Trail) : List Text := place.above.map (·.1)

/-- The folders above without the files at some spots. -/
def aboveWithout (spots : Spots) : List (Text × Children) → List (Text × Children)
  | [] => []
  | (name, cs) :: rest =>
    (name, entriesWithout spots (rest.map (·.1)) cs) :: aboveWithout spots rest

/-- A folder, and those above it, without the files at some spots. -/
def without (spots : Spots) (place : Trail) : Trail :=
  ⟨entriesWithout spots place.names place.here, aboveWithout spots place.above⟩

theorem up_without (place : Trail) : (place.without spots).up = place.up.without spots := by
  obtain ⟨here, above⟩ := place
  cases above with
  | nil => rfl
  | cons f rest => rfl

end Trail

namespace Arrival

/-- Where following names ends without the files at some spots: a file there is not found. -/
def without (spots : Spots) : Arrival → Arrival
  | .folder place => .folder (place.without spots)
  | .file place name content rest =>
    if spots place.names name then .absent (place.without spots) name rest
    else .file (place.without spots) name content rest
  | .locked place name isFolder rest =>
    if !isFolder && spots place.names name then .absent (place.without spots) name rest
    else .locked (place.without spots) name isFolder rest
  | .link target place rest => .link target (place.without spots) rest
  | .absent place name rest => .absent (place.without spots) name rest

end Arrival

theorem Trail.get?_without {place : Trail} (h : place.WellFormed) (name : Text) :
    Children.get? name (place.without spots).here =
      (Children.get? name place.here).bind fun e =>
        if isAtSpot spots place.names (name, e) then none
        else some (e.without spots (name :: place.names)) := by
  obtain ⟨hnodup, -, -⟩ := h.here
  exact get?_entriesWithout spots hnodup place.names name

theorem Trail.follow_without {place : Trail} (h : place.WellFormed) (names : List Text) :
    (place.without spots).follow names = (place.follow names).without spots := by
  fun_induction Trail.follow place names with
  | case1 => rfl
  | case2 place name rest hskip ih => rw [follow, if_pos hskip, ih h]
  | case3 place rest hskip ih => rw [follow, if_neg hskip, if_pos rfl, up_without, ih h.up]
  | case4 place name rest hskip hup sub hget ih =>
    rw [follow, if_neg hskip, if_neg hup, get?_without spots h, hget]
    exact ih (h.enter hget)
  | case5 place name rest hskip hup content hget =>
    rw [follow, if_neg hskip, if_neg hup, get?_without spots h, hget]
    cases hspot : spots place.names name <;>
      simp [isAtSpot, hspot, Arrival.without, Entry.without]
  | case6 place name rest hskip hup isFolder hget =>
    rw [follow, if_neg hskip, if_neg hup, get?_without spots h, hget]
    cases isFolder with
    | true => rfl
    | false =>
      cases hspot : spots place.names name <;>
        simp [isAtSpot, hspot, Arrival.without, Entry.without]
  | case7 place name rest hskip hup target hget =>
    rw [follow, if_neg hskip, if_neg hup, get?_without spots h, hget]
    rfl
  | case8 place name rest hskip hup hget =>
    rw [follow, if_neg hskip, if_neg hup, get?_without spots h, hget]
    rfl

/-- Following names and links ends alike without some files. -/
theorem arrive_without {top : Children} (htop : Children.WellFormed top) (links : Nat)
    {place : Trail} (h : place.WellFormed) (names : List Text) :
    arrive (entriesWithout spots [] top) links (place.without spots) names =
      (arrive top links place names).map (Arrival.without spots) := by
  have hfollow := Trail.follow_without spots h names
  fun_induction arrive top links place names with
  | case1 place names target p rest heq =>
    rw [heq] at hfollow
    rw [arrive_of_follow_link hfollow]
    rfl
  | case2 place names target p rest heq left start =>
    rename_i ih
    have hp := h.follow names
    rw [heq] at hfollow hp
    have hstart : start.WellFormed := by
      simp only [start]
      split
      · exact ⟨htop, by simp⟩
      · exact hp
    have heither : start.without spots =
        if Path.isAbsolute target then ⟨entriesWithout spots [] top, []⟩ else p.without spots := by
      simp only [start]
      split <;> rfl
    rw [arrive_of_follow_link hfollow, ← ih hstart (Trail.follow_without spots hstart _), heither]
  | case3 links place names hnot =>
    rw [arrive, hfollow]
    cases hend : place.follow names with
    | link target p rest => exact absurd hend (hnot target p rest)
    | file p name content rest => cases hspot : spots p.names name <;> simp [Arrival.without, hspot]
    | locked p name isFolder rest =>
      cases hspot : !isFolder && spots p.names name <;> simp [Arrival.without, hspot]
    | _ => rfl

/-! ## The end of a path -/

namespace Volume

variable {v : Volume}

/-- A disk without the files at some spots. -/
def without (v : Volume) : Volume := ⟨entriesWithout spots [] v.top, v.workingDirectory⟩

/-- A path ends without some files as it does with them, unless it comes to one of them. -/
theorem arrival_without (hv : v.WellFormed) (path : Text) :
    (v.without spots).arrival path = (v.arrival path).map (Arrival.without spots) := by
  simp only [arrival, bind, Except.bind]
  cases diskPath path with
  | error e => rfl
  | ok disk =>
    dsimp only
    cases pathError? disk with
    | some cause => rfl
    | none =>
      have htop : Trail.WellFormed ⟨v.top, []⟩ := ⟨hv, by simp⟩
      have harrive : arrive (v.without spots).top maxLinks ⟨(v.without spots).top, []⟩
          ((v.without spots).namesFromTop disk) = _ :=
        arrive_without spots hv maxLinks htop (v.namesFromTop disk)
      rw [harrive]
      cases arrive v.top maxLinks ⟨v.top, []⟩ (v.namesFromTop disk) <;> rfl

end Volume

/-! ## Walks -/

/-- A visit that lists only the files whose names matter. -/
def Visit.narrow (matters : Text → Bool) (visit : Visit) : Visit :=
  ⟨visit.directory, visit.files.filter matters⟩

variable {spots}

theorem Arrival.isFolder_without (a : Arrival) : (a.without spots).isFolder = a.isFolder := by
  cases a with
  | file place name content rest =>
    cases hspot : spots place.names name <;> simp [without, isFolder, hspot]
  | locked place name isFolder rest =>
    cases isFolder with
    | true => rfl
    | false => cases hspot : spots place.names name <;> simp [without, Arrival.isFolder, hspot]
  | _ => rfl

/-- What is left of a folder counts as files as before. -/
theorem countsAsFile_without {top : Children} (htop : Children.WellFormed top) {place : Trail}
    (h : place.WellFormed) (c : Text × Entry) (path : List Text) :
    countsAsFile (entriesWithout spots [] top) (place.without spots)
      (c.1, c.2.without spots path) = countsAsFile top place c := by
  obtain ⟨name, e⟩ := c
  cases e with
  | file content => rfl
  | folder sub => rfl
  | locked isFolder => rfl
  | link target =>
    rw [Entry.without, countsAsFile_link, countsAsFile_link,
      arrive_without spots htop maxLinks h]
    cases arrive top maxLinks place [name] with
    | none => rfl
    | some a => simp [Arrival.isFolder_without]

/-- None of the files at some spots matters. -/
def Spots.Idle (spots : Spots) (matters : Text → Bool) : Prop :=
  ∀ path name, spots path name = true → matters name = false

variable {matters : Text → Bool}

theorem Spots.Idle.isAtSpot_eq_false (h : spots.Idle matters) (path : List Text)
    {c : Text × Entry} (hc : matters c.1 = true) : isAtSpot spots path c = false := by
  obtain ⟨name, e⟩ := c
  cases e with
  | file content => exact Bool.eq_false_iff.mpr fun hspot => by simp [h path name hspot] at hc
  | link target => rfl
  | folder sub => rfl
  | locked isFolder =>
    cases isFolder with
    | true => rfl
    | false => exact Bool.eq_false_iff.mpr fun hspot => by simp [h path name hspot] at hc

theorem Trail.here_without (place : Trail) :
    (place.without spots).here =
      (place.here.filter (!isAtSpot spots place.names ·)).map fun c =>
        (c.1, c.2.without spots (c.1 :: place.names)) :=
  entriesWithout_eq spots place.names place.here

/-- The files that matter are the same. -/
theorem filesOf_without (hidle : spots.Idle matters) {top : Children}
    (htop : Children.WellFormed top) {place : Trail} (h : place.WellFormed) :
    (filesOf (entriesWithout spots [] top) (place.without spots)).filter matters =
      (filesOf top place).filter matters := by
  rw [filesOf, filesOf, Trail.here_without]
  simp only [List.filter_map, List.filter_filter, List.map_map, Function.comp_def,
    countsAsFile_without htop h]
  congr 1
  refine List.filter_congr fun c _ => ?_
  cases hc : matters c.1 with
  | false => simp
  | true => simp [hidle.isAtSpot_eq_false place.names hc]

/-- A file has no visits, so nothing is missed when it is left out. -/
theorem walkEntry_of_isAtSpot {top : Children} {above : List (Text × Children)} {path : Text}
    {c : Text × Entry} {names more : List Text} (h : isAtSpot spots names c = true) :
    walkEntry top above path (c.2.without spots more) = [] := by
  obtain ⟨name, e⟩ := c
  cases e with
  | file content => rw [Entry.without, walkEntry]
  | locked isFolder => rw [Entry.without, walkEntry]
  | link target => cases h
  | folder sub => cases h

/-- A walk visits the same folders and lists the same files that matter. -/
theorem walkEntry_without (hidle : spots.Idle matters)
    {top : Children} (htop : Children.WellFormed top) {place : Trail} (h : place.WellFormed)
    (path : Text) :
    (walkEntry (entriesWithout spots [] top) (place.without spots).above path
        (.folder (place.without spots).here)).map (Visit.narrow matters) =
      (walkEntry top place.above path (.folder place.here)).map (Visit.narrow matters) := by
  obtain ⟨here, above⟩ := place
  have hhere := h.here
  dsimp only at hhere
  -- The induction is on the folder; the folders above it and its path vary with it.
  induction hhere generalizing above path with
  | @intro cs nodup namesOk folders ih =>
    rw [walkEntry_folder, walkEntry_folder]
    split
    · rfl
    · rw [List.map_cons, List.map_cons, List.map_flatMap, List.map_flatMap]
      congr 1
      · rw [Visit.narrow, Visit.narrow, filesOf_without hidle htop h]
      · -- Only folders are walked, and these are all left.
        rw [Trail.here_without, List.flatMap_map, flatMap_filter_of_eq_nil]
        · refine List.flatMap_congr fun c hc => ?_
          obtain ⟨name, e⟩ := c
          cases e with
          | file content => rw [Entry.without, walkEntry, walkEntry]
          | link target => rw [Entry.without, walkEntry, walkEntry]
          | locked isFolder => rw [Entry.without, walkEntry, walkEntry]
          | folder sub =>
            have hget := (Children.get?_eq_some_iff h.here).mpr hc
            have hsub := ih name sub hc (Path.join path name) _ (h.enter hget)
            rw [← Trail.here_without]
            exact hsub
        · intro c hc hspot
          rw [walkEntry_of_isAtSpot (by simpa using hspot), List.map_nil]

/-! ## What is found -/

namespace Arrival

/-- Whether a path that ends so leads to a file at a spot. -/
def endsAt (spots : Spots) : Arrival → Bool
  | .file place name _ rest => rest.isEmpty && spots place.names name
  | .locked place name isFolder rest => !isFolder && rest.isEmpty && spots place.names name
  | _ => false

/-- Whether a path that ends so comes to a file at a spot. Names may be left to follow. -/
def meets (spots : Spots) : Arrival → Bool
  | .file place name _ _ => spots place.names name
  | .locked place name isFolder _ => !isFolder && spots place.names name
  | _ => false

variable {a : Arrival}

theorem meets_of_endsAt (h : a.endsAt spots = true) : a.meets spots = true := by
  cases a with
  | file place name content rest => exact (Bool.and_eq_true_iff.mp h).2
  | locked place name isFolder rest => simp_all [endsAt, meets]
  | _ => cases h

/-- Following a name comes to the file of this name at most. -/
theorem spot_of_meets_follow {place : Trail} {name : Text} (hname : Path.IsName name)
    (h : (place.follow [name]).meets spots = true) : spots place.names name = true := by
  simp only [Trail.follow, hname.nonempty, hname.ne_dot, hname.ne_dots, Bool.false_or,
    decide_false, Bool.false_eq_true, if_false] at h
  split at h
  · cases h
  · exact h
  · exact (Bool.and_eq_true_iff.mp h).2
  · cases h
  · cases h

theorem isHeld_without (h : a.endsAt spots = false) : (a.without spots).isHeld = a.isHeld := by
  cases a with
  | file place name content rest =>
    cases hspot : spots place.names name <;> cases rest <;>
      simp_all [without, isHeld, endsAt]
  | locked place name isFolder rest =>
    cases isFolder <;> cases hspot : spots place.names name <;> cases rest <;>
      simp_all [without, isHeld, endsAt]
  | _ => rfl

theorem toOption_content_without (h : a.endsAt spots = false) :
    (a.without spots).content.toOption = a.content.toOption := by
  cases a with
  | file place name content rest =>
    cases hspot : spots place.names name <;> cases rest <;>
      simp_all [without, Arrival.content, endsAt, Except.toOption]
  | locked place name isFolder rest =>
    cases hspot : !isFolder && spots place.names name <;>
      simp [without, Arrival.content, hspot, Except.toOption]
  | _ => rfl

theorem content_without (h : a.meets spots = false) : (a.without spots).content = a.content := by
  cases a with
  | file place name content rest => simp_all [without, Arrival.content, meets]
  | locked place name isFolder rest =>
    rw [without, if_neg (by simpa [meets] using h), Arrival.content, Arrival.content]
  | _ => rfl

end Arrival

namespace Volume

variable {v : Volume}

/-- Whether a path leads to a file at a spot. -/
def endsAt (spots : Spots) (v : Volume) (path : Text) : Bool :=
  (v.arrival path).toOption.any (·.endsAt spots)

/-- Whether a path comes to a file at a spot. -/
def meets (spots : Spots) (v : Volume) (path : Text) : Bool :=
  (v.arrival path).toOption.any (·.meets spots)

theorem exists_of_endsAt {path : Text} (h : v.endsAt spots path = true) :
    ∃ a, v.arrival path = .ok a ∧ a.endsAt spots = true := by
  rw [endsAt] at h
  cases harrival : v.arrival path with
  | error e => simp [harrival, Except.toOption] at h
  | ok a => exact ⟨a, rfl, by simpa [harrival, Except.toOption] using h⟩

theorem endsAt_of_arrival {path : Text} {a : Arrival} (h : v.arrival path = .ok a) :
    v.endsAt spots path = a.endsAt spots := by
  rw [endsAt, h]
  rfl

theorem holds_without (hv : v.WellFormed) {path : Text} (h : v.endsAt spots path = false) :
    (v.without spots).holds path = v.holds path := by
  rw [holds_eq, holds_eq, arrival_without spots hv]
  rw [endsAt] at h
  cases harrival : v.arrival path with
  | error e => rfl
  | ok a => exact Arrival.isHeld_without (by simpa [harrival, Except.toOption] using h)

/-- A file that can be read is read as before, and no other one can. -/
theorem toOption_read_without (hv : v.WellFormed) {path : Text} (h : v.endsAt spots path = false) :
    ((v.without spots).read path).toOption = (v.read path).toOption := by
  rw [read_eq, read_eq, arrival_without spots hv]
  rw [endsAt] at h
  cases harrival : v.arrival path with
  | error e => rfl
  | ok a =>
    have hcontent := Arrival.toOption_content_without (by simpa [harrival, Except.toOption] using h)
    have hmap (x : Except LookupError Bytes) :
        (x.mapError (FileError.lookup path)).toOption = x.toOption := by cases x <;> rfl
    simp only [Except.map, bind, Except.bind, hmap, hcontent]

theorem read_without (hv : v.WellFormed) {path : Text} (h : v.meets spots path = false) :
    (v.without spots).read path = v.read path := by
  rw [read_eq, read_eq, arrival_without spots hv]
  rw [meets] at h
  cases harrival : v.arrival path with
  | error e => rfl
  | ok a =>
    have hcontent := Arrival.content_without (by simpa [harrival, Except.toOption] using h)
    simp only [Except.map, bind, Except.bind, hcontent]

/-- A walk visits the same folders, and lists the same files that matter. -/
theorem walk_without (hidle : spots.Idle matters) (hv : v.WellFormed) (path : Text) :
    ((v.without spots).walk path).map (List.map (Visit.narrow matters)) =
      (v.walk path).map (List.map (Visit.narrow matters)) := by
  rw [walk_eq, walk_eq, arrival_without spots hv]
  cases harrival : v.arrival path with
  | error e => cases e <;> rfl
  | ok a =>
    cases a with
    | folder place =>
      have hplace : place.WellFormed := (on_of_arrival harrival).wellFormed hv
      exact congrArg Except.ok (walkEntry_without hidle hv hplace path)
    | file place name content rest =>
      cases hspot : spots place.names name <;> simp [Except.map, Arrival.without, hspot]
    | locked place name isFolder rest =>
      cases hspot : !isFolder && spots place.names name <;>
        simp [Except.map, Arrival.without, hspot]
    | _ => rfl

end Volume

end Scribe
