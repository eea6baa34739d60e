import Mathlib.Data.List.Induction
import Mathlib.Data.List.Nodup
import Scribe.Proofs.Generator.Documentation

/-!
# The documentation of many methods

Documentation of methods is given by name. Each name is there once, in the place where it first came
up, with the last text that it got.

## Main results

* `Documentation.foldl_put_nil`: what giving names texts one after the other comes to.
* `Documentation.foldl_put`: to go on is to update by what comes after.
* `Client.isDictionary_documentMethods`: whatever is to be documented, the result is a dictionary.
-/

namespace Scribe

namespace Documentation

/-- Texts by name form a dictionary: no name is there twice, every name can be a key, and every
text says something. -/
structure IsDictionary (d : Documentation) : Prop where
  distinct : d.Pairwise fun a b => a.1.sameKey b.1 = false
  keys : ∀ entry ∈ d, entry.1.asKey = .ok entry.1
  texts : ∀ entry ∈ d, entry.2.isEmpty = false

theorem isDictionary_nil : IsDictionary [] := ⟨.nil, by simp, by simp⟩

theorem mem_put {name : Json} {text : Text} {d : Documentation} {entry : Json × Text}
    (h : entry ∈ d.put name text) :
    (entry.1 = name ∨ ∃ old ∈ d, entry.1 = old.1) ∧ (entry.2 = text ∨ entry ∈ d) := by
  induction d with
  | nil => simp_all [put]
  | cons first rest ih =>
    rw [put] at h
    grind

theorem IsDictionary.put {d : Documentation} (hd : d.IsDictionary) {name : Json} {text : Text}
    (hname : name.asKey = .ok name) (htext : text.isEmpty = false) :
    (d.put name text).IsDictionary where
  distinct := by
    have hdistinct := hd.distinct
    clear hd
    induction d with
    | nil => simp [Documentation.put]
    | cons first rest ih =>
      obtain ⟨hfirst, hrest⟩ := List.pairwise_cons.mp hdistinct
      rw [Documentation.put]
      split
      · exact List.pairwise_cons.mpr ⟨hfirst, hrest⟩
      · rename_i hother
        refine List.pairwise_cons.mpr ⟨?_, ih hrest⟩
        intro entry hentry
        obtain ⟨hkey | ⟨old, hold, hkey⟩, -⟩ := mem_put hentry
        · rw [hkey]
          simpa using hother
        · rw [hkey]
          exact hfirst old hold
  keys := by
    intro entry hentry
    obtain ⟨hkey | ⟨old, hold, hkey⟩, -⟩ := mem_put hentry
    · rw [hkey, hname]
    · rw [hkey, hd.keys old hold]
  texts := by
    intro entry hentry
    obtain ⟨-, htext' | hold⟩ := mem_put hentry
    · rw [htext', htext]
    · exact hd.texts entry hold

/-! ## Names that are texts -/

theorem sameKey_str_iff {key : Json} {name : Text} :
    key.sameKey (.str name) = true ↔ key = .str name := by
  cases key <;> simp [Json.sameKey, Json.integer?]

@[simp]
theorem put_nil (name : Json) (text : Text) : put name text [] = [(name, text)] := rfl

@[simp]
theorem put_cons_self (name text old : Text) (rest : Documentation) :
    put (.str name) text ((.str name, old) :: rest) = (.str name, text) :: rest := by
  rw [put, if_pos (sameKey_str_iff.mpr rfl)]

theorem put_cons_of_ne {key : Json} {name : Text} (h : key ≠ .str name) (text old : Text)
    (rest : Documentation) :
    put (.str name) text ((key, old) :: rest) = (key, old) :: put (.str name) text rest := by
  rw [put, if_neg (fun heq => h (sameKey_str_iff.mp heq))]

/-- Of two texts for a name the later counts. -/
theorem put_put_self (name text old : Text) (d : Documentation) :
    (d.put (.str name) old).put (.str name) text = d.put (.str name) text := by
  induction d with
  | nil => simp
  | cons entry rest ih =>
    obtain ⟨key, told⟩ := entry
    by_cases h : key = .str name
    · subst h
      simp
    · simp [put_cons_of_ne h, ih]

/-- A name that is there already can get its text before or after another name does. -/
theorem put_comm {name other : Text} (hne : other ≠ name) {d : Documentation}
    (hmem : Json.str name ∈ d.map Prod.fst) (text told : Text) :
    (d.put (.str name) text).put (.str other) told =
      (d.put (.str other) told).put (.str name) text := by
  induction d with
  | nil => simp at hmem
  | cons entry rest ih =>
    obtain ⟨key, old⟩ := entry
    by_cases hname : key = .str name
    · subst hname
      have hother : Json.str name ≠ .str other := by simpa using Ne.symm hne
      simp [put_cons_of_ne hother]
    · have hrest : Json.str name ∈ rest.map Prod.fst := by
        simpa [Ne.symm hname] using hmem
      by_cases hother : key = .str other
      · subst hother
        simp [put_cons_of_ne hname]
      · simp [put_cons_of_ne hname,
          put_cons_of_ne hother, ih hrest]

/-- All texts of another dictionary in its order, each given to its name. -/
def update (d other : Documentation) : Documentation :=
  other.foldl (fun d entry => d.put entry.1 entry.2) d

theorem mem_keys_put {name : Text} {d : Documentation} (h : Json.str name ∈ d.map Prod.fst)
    (other text : Text) : Json.str name ∈ (d.put (.str other) text).map Prod.fst := by
  induction d with
  | nil => simp at h
  | cons entry rest ih =>
    obtain ⟨key, old⟩ := entry
    by_cases hother : key = .str other
    · subst hother
      simpa using h
    · rw [put_cons_of_ne hother]
      simp only [List.map_cons, List.mem_cons] at h ⊢
      exact h.imp_right ih

theorem mem_keys_put_self (name text : Text) (d : Documentation) :
    Json.str name ∈ (d.put (.str name) text).map Prod.fst := by
  induction d with
  | nil => simp
  | cons entry rest ih =>
    obtain ⟨key, old⟩ := entry
    by_cases hname : key = .str name
    · subst hname
      simp
    · rw [put_cons_of_ne hname]
      exact List.mem_cons_of_mem _ ih

/-- A dictionary with given names. -/
def ofNames (names : List Text) (text : Text → Text) : Documentation :=
  names.map fun name => (.str name, text name)

theorem ofNames_cons (name : Text) (names : List Text) (f : Text → Text) :
    ofNames (name :: names) f = (.str name, f name) :: ofNames names f := rfl

theorem put_ofNames_self (name text : Text) (names : List Text) (f : Text → Text) :
    (ofNames (name :: names) f).put (.str name) text = (.str name, text) :: ofNames names f :=
  put_cons_self ..

theorem put_ofNames_of_ne {name other : Text} (h : other ≠ name) (text : Text) (names : List Text)
    (f : Text → Text) :
    (ofNames (other :: names) f).put (.str name) text =
      (.str other, f other) :: (ofNames names f).put (.str name) text :=
  put_cons_of_ne (by simpa using h) text _ _

/-- The text of a name that is there already can be changed before or after an update that leaves
the name alone. -/
theorem put_update {name : Text} {names : List Text} (hname : name ∉ names) {d : Documentation}
    (hmem : Json.str name ∈ d.map Prod.fst) (f : Text → Text) (text : Text) :
    (d.update (ofNames names f)).put (.str name) text =
      (d.put (.str name) text).update (ofNames names f) := by
  induction names generalizing d with
  | nil => rfl
  | cons other rest ih =>
    obtain ⟨hne, hrest⟩ : name ≠ other ∧ name ∉ rest := by simpa using hname
    have hput := ih hrest (mem_keys_put hmem other (f other))
    rw [← put_comm (Ne.symm hne) hmem] at hput
    exact hput

/-- Changing a text of an update changes it in what is updated. -/
theorem update_put {names : List Text} (hnodup : names.Nodup) (f : Text → Text) (name text : Text)
    (d : Documentation) :
    d.update ((ofNames names f).put (.str name) text) =
      (d.update (ofNames names f)).put (.str name) text := by
  induction names generalizing d with
  | nil => rfl
  | cons other rest ih =>
    obtain ⟨hother, hrest⟩ := List.nodup_cons.mp hnodup
    by_cases hname : other = name
    · subst hname
      have hupdate := put_update hother (mem_keys_put_self other (f other) d) f text
      rw [put_put_self] at hupdate
      rw [put_ofNames_self]
      exact hupdate.symm
    · rw [put_ofNames_of_ne hname]
      exact ih hrest (d.put (.str other) (f other))

/-! ## Texts told one after the other -/

/-- The last text told under a name. -/
def lastTold (told : List (Text × Text)) (name : Text) : Text :=
  ((told.filter (·.1 = name)).getLast?.map (·.2)).getD ""

/-- What has been told: the names in the order in which they first come up, each with the last text
told under it. -/
def collect (told : List (Text × Text)) : Documentation :=
  ofNames (told.map (·.1)).eraseDups (lastTold told)

theorem lastTold_concat (told : List (Text × Text)) (name text other : Text) :
    lastTold (told ++ [(name, text)]) other =
      if name = other then text else lastTold told other := by
  by_cases h : name = other <;> simp [lastTold, h]

theorem eraseDups_concat (names : List Text) (name : Text) :
    (names ++ [name]).eraseDups = names.eraseDups ++ if name ∈ names then [] else [name] := by
  rw [List.eraseDups_append]
  by_cases h : name ∈ names <;> simp [List.removeAll, h, List.eraseDups_cons]

theorem nodup_eraseDups (names : List Text) : names.eraseDups.Nodup := by
  induction names using List.reverseRecOn with
  | nil => simp
  | append_singleton names name ih =>
    rw [eraseDups_concat]
    split
    · simpa using ih
    · rename_i hname
      exact ih.append (List.nodup_singleton name) (by simpa using hname)

/-- A new name comes last, and an old one keeps its place. -/
theorem put_ofNames {names : List Text} (hnodup : names.Nodup) (f : Text → Text)
    (name text : Text) :
    (ofNames names f).put (.str name) text =
      ofNames (names ++ if name ∈ names then [] else [name])
        (fun other => if name = other then text else f other) := by
  induction names with
  | nil => simp [ofNames]
  | cons other rest ih =>
    obtain ⟨hother, hrest⟩ := List.nodup_cons.mp hnodup
    by_cases hname : other = name
    · subst hname
      have hsame : ofNames rest (fun n => if other = n then text else f n) = ofNames rest f := by
        refine List.map_congr_left ?_
        intro n hn
        have hne : other ≠ n := fun heq => hother (heq ▸ hn)
        simp [hne]
      rw [put_ofNames_self]
      simp [ofNames_cons, hsame]
    · rw [put_ofNames_of_ne hname, ih hrest]
      simp [ofNames_cons, Ne.symm hname]

/-- Texts given to names one after the other make up what has been told. -/
theorem foldl_put_nil (told : List (Text × Text)) :
    told.foldl (fun (d : Documentation) entry => d.put (.str entry.1) entry.2) [] =
      collect told := by
  induction told using List.reverseRecOn with
  | nil => rfl
  | append_singleton told entry ih =>
    obtain ⟨name, text⟩ := entry
    rw [List.foldl_concat, ih, collect, put_ofNames (nodup_eraseDups _), collect, List.map_append,
      List.map_singleton, eraseDups_concat]
    simp only [List.mem_eraseDups]
    congr 1
    funext other
    rw [lastTold_concat]

/-- To go on telling is to update by what is told. -/
theorem foldl_put (d : Documentation) (told : List (Text × Text)) :
    told.foldl (fun d entry => d.put (.str entry.1) entry.2) d = d.update (collect told) := by
  induction told using List.reverseRecOn with
  | nil => rfl
  | append_singleton told entry ih =>
    have hcollect : collect (told ++ [entry]) = (collect told).put (.str entry.1) entry.2 := by
      rw [← foldl_put_nil, List.foldl_concat, foldl_put_nil]
    rw [List.foldl_concat, ih, hcollect]
    exact (update_put (nodup_eraseDups _) _ _ _ d).symm

end Documentation

namespace Client

theorem entryFor_eq_ok {name answer : Json} {text : Text} (h : entryFor name answer = .ok text) :
    describe answer = .ok text ∧ name.asKey = .ok name := by
  have hself {key : Json} (hkey : name.asKey = .ok key) : key = name := by
    cases name <;> simp_all [Json.asKey]
  cases hdescribe : describe answer with
  | error e => simp [entryFor, hdescribe, bind, Except.bind] at h
  | ok told =>
    cases hkey : name.asKey with
    | error e => simp [entryFor, hdescribe, hkey, bind, Except.bind] at h
    | ok key =>
      have htold : told = text := by
        simpa [entryFor, hdescribe, hkey, bind, Except.bind, pure, Except.pure] using h
      exact ⟨by rw [htold], by rw [hself hkey]⟩

/-- Documenting methods one after the other keeps a dictionary. -/
theorem isDictionary_documentEach (c : Client) (language : Json) {done : Documentation}
    (hdone : done.IsDictionary) (subjects : List (Except Json.AccessError Prompt.Subject))
    (script : Script) {d : Documentation}
    (h : ((c.documentEach language done subjects).run script).value = .ok d) : d.IsDictionary := by
  induction subjects generalizing done script with
  | nil =>
    cases h
    exact hdone
  | cons subject rest ih =>
    cases subject with
    | error e => cases h
    | ok s =>
      rw [documentEach] at h
      split at h
      · exact ih hdone script h
      · split at h
        · cases h
        · rw [Work.run_bind] at h
          split at h
          · cases h
          · split at h
            · cases h
            · rename_i text hentry
              obtain ⟨htext, hkey⟩ := entryFor_eq_ok hentry
              exact ih (hdone.put hkey (describe_text htext).1) _ h

theorem isDictionary_failure (message : String) : (failure message).IsDictionary :=
  ⟨List.pairwise_singleton _ _, by simp [failure, Json.asKey], by
    simp only [failure, List.mem_singleton]
    rintro entry rfl
    rfl⟩

theorem isDictionary_settle {outcome : Except String Documentation}
    (h : ∀ d, outcome = .ok d → d.IsDictionary) (script : Script) :
    ((settle outcome).run script).value.IsDictionary := by
  cases outcome with
  | ok d => exact h d rfl
  | error message => exact isDictionary_failure message

/-- Whatever is to be documented, the result is a dictionary. -/
theorem isDictionary_documentMethods (c : Client) (language methods : Json) (script : Script) :
    ((c.documentMethods language methods).run script).value.IsDictionary := by
  unfold documentMethods
  split
  · refine isDictionary_settle ?_ script
    intro d hd
    cases hd
  · refine isDictionary_settle ?_ _
    intro d hd
    exact c.isDictionary_documentEach language Documentation.isDictionary_nil _ script hd

end Client

end Scribe
