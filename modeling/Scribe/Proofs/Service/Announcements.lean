import Scribe.Proofs.Generator.Reading
import Scribe.Proofs.Service.Blocks
import Scribe.Proofs.Service.Failures
import Scribe.Proofs.Service.Refusals

/-!
# What the model is told of missing documentation

A prompt about a method has a section for the documentation that the method has already. There is a
text for methods without any, but it stands in only where nothing is given at all. The service
always gives something: a method without documentation is handed over with a null, and the section
shows that null as any other value. So the model is told the same as for a method whose
documentation consists of this one word.

## Main results

* `Prompt.commentsIn?_eq_some_iff`: the section of a prompt, as it can be read back.
* `Service.mem_agenda_iff`: which files the service documents.
* `Service.undocumented_announced_iff`: when all methods without documentation are announced.
-/

namespace Scribe

/-! ## The section of a prompt -/

namespace Prompt

/-- A prompt about a method, up to the section for its documentation. -/
def beforeComments (language name : Text) : Text :=
  lines
    ["",
     "        Analyze the following " ++ language
       ++ " method and generate detailed documentation.",
     "        ",
     "        Method Name: " ++ name,
     "        ",
     "        Documentation Comments: ",
     "        "]

/-- A prompt about a method, from the end of that section on. -/
def afterComments (source : Text) : Text :=
  lines
    ["",
     "        ",
     "        Method Source Code:",
     "        " ++ source,
     "        ",
     "        Instructions:",
     "        1. Document this method's purpose and functionality",
     "        2. Parameters and their types",
     "        3. Return values and types",
     "        4. Key algorithms or logic",
     "        5. Usage examples where helpful",
     "        6. Any important dependencies or requirements",
     "        "]

theorem lines_singleton (a : Text) : lines [a] = a := by
  ext1
  simp [lines, Text.intercalate, Text.join]

theorem lines_cons_cons (a b : Text) (rest : List Text) :
    lines (a :: b :: rest) = a ++ ("\n" ++ lines (b :: rest)) := by
  ext1
  simp [lines, Text.intercalate, Text.join]

theorem method_eq (language : Json) (s : Subject) :
    method language s =
      beforeComments language.display s.name.display ++ s.docComment.display ++
        afterComments s.sourceCode.display := by
  have hempty (t : Text) : ("" : Text) ++ t = t := rfl
  simp only [method, beforeComments, afterComments, lines_cons_cons, lines_singleton,
    Text.append_assoc, hempty]

/-- What a prompt has in the section for documentation, if it is a prompt about the method with the
given name and source. -/
def commentsIn? (language name source prompt : Text) : Option Text :=
  ((prompt.symbols.dropPrefix? (beforeComments language name).symbols).bind
    (·.dropSuffix? (afterComments source).symbols)).map Text.mk

theorem commentsIn?_eq_some_iff {language name source prompt comments : Text} :
    commentsIn? language name source prompt = some comments ↔
      prompt = beforeComments language name ++ comments ++ afterComments source := by
  simp only [commentsIn?, Option.map_eq_some_iff, Option.bind_eq_some_iff,
    List.dropPrefix?_eq_some_iff, List.dropSuffix?_eq_some_iff, beq_iff_eq]
  constructor
  · rintro ⟨middle, ⟨rest, ⟨start, hprompt, rfl⟩, stop, rfl, rfl⟩, rfl⟩
    ext1
    simp [hprompt]
  · rintro rfl
    exact ⟨comments.symbols, ⟨_, ⟨_, by simp, rfl⟩, _, rfl, rfl⟩, rfl⟩

end Prompt

/-! ## The section of a request -/

/-- What a request about a method has in the section for documentation. -/
def Task.commentsIn? (t : Task) (r : Request) : Option Text :=
  r.prompt?.bind (Prompt.commentsIn? t.language.tag t.method.name t.method.sourceCode)

/-- The section has the documentation of the method, or the null that stands for none. -/
theorem Task.commentsIn?_request (t : Task) (c : Client) (url : String) :
    t.commentsIn? (c.request url (.str t.prompt)) =
      some (Text.ofString (t.method.docComment.getD "None")) := by
  rw [commentsIn?, c.prompt?_request, Option.bind_some, Prompt.commentsIn?_eq_some_iff, prompt,
    Prompt.method_eq, Prompt.display_docComment_ofMethod]
  rfl

namespace Inquiry

/-- The requests of an inquiry. -/
def requests (c : Client) (q : Inquiry) : List Request := Event.requests (q.traffic c)

/-- A client that can send its requests sends at least one, and sends all of them alike. -/
theorem requests_of_ready {c : Client} {url : String} (hready : c.Ready url 3 1) (q : Inquiry) :
    q.requests c ≠ [] ∧ ∀ r ∈ q.requests c, r = c.request url (.str q.prompt) := by
  have hrequests : q.requests c =
      List.replicate q.block.replies.length (c.request url (.str q.prompt)) := by
    rw [requests, (called_spec hready q).2.2, Block.requests_events]
    rfl
  rw [hrequests]
  refine ⟨?_, fun r hr => List.eq_of_mem_replicate hr⟩
  have hpos := q.complete_block.nonempty
  rw [Ne, List.replicate_eq_nil_iff]
  omega

theorem requests_of_url_eq_error {c : Client} {e : Client.AddressError} (hurl : c.url = .error e)
    (hretries : c.maxRetries = .int 3) (q : Inquiry) : q.requests c = [] := by
  have htraffic : q.traffic c = [] :=
    (Client.call_of_url_eq_error hurl hretries (.str q.prompt) q.script).2
  rw [requests, htraffic]
  rfl

end Inquiry

namespace Service

/-! ## The methods that are handed over -/

/-- The files that the service documents are those of the walk whose language is known and has a
parser. -/
theorem mem_agenda_iff {w : Workspace} {root : Text} {place : Trail} {visits : List Visit}
    (h : w.volume.Walkable root place) (hw : w.volume.walk root = .ok visits)
    (has : Language → Bool) {l : Language} {path : Text} {outcome : Except Text (List Method)} :
    ⟨l, path, outcome⟩ ∈ agenda w has visits ↔
      l ≠ .unknown ∧ has l = true ∧ path ∈ Workspace.selected l visits ∧
        outcome = w.fileMethods path := by
  constructor
  · intro hj
    obtain ⟨visit, hvisit, name, hname, hknown, heq⟩ := exists_of_mem_agenda h hw has hj
    cases heq
    have hcount := count_agenda h hw has hvisit hname hknown
    have hpos : 0 < (agenda w has visits).countP
        (·.entry.path = Path.join visit.directory name) :=
      List.countP_pos_iff.mpr ⟨_, hj, decide_eq_true rfl⟩
    refine ⟨hknown, ?_, Workspace.mem_selected_iff.mpr ⟨visit, hvisit, name, hname, rfl, rfl⟩, rfl⟩
    by_contra hnot
    rw [if_neg hnot] at hcount
    omega
  · rintro ⟨hknown, hhas, hpath, rfl⟩
    obtain ⟨visit, hvisit, name, hname, rfl, rfl⟩ := Workspace.mem_selected_iff.mp hpath
    have hcount := count_agenda h hw has hvisit hname hknown
    rw [if_pos hhas, ← Volume.length_chainFiles] at hcount
    have hpos := List.length_pos_of_mem (h.mem_chainFiles_self hw hvisit hname)
    have hjobs := filter_path_agenda h hw has hvisit hname
    have hmem : ⟨Language.ofPath name, Path.join visit.directory name, w.fileMethods
        (Path.join visit.directory name)⟩ ∈ (agenda w has visits).filter
          (·.entry.path = Path.join visit.directory name) := by
      rw [hjobs, List.mem_replicate]
      exact ⟨by omega, rfl⟩
    exact (List.mem_filter.mp hmem).1

/-- The methods that a request hands over are those of such files. -/
theorem exists_inquiryFor_iff {s : Service} {r : Web.Request} {given : Text}
    (hv : s.workspace.volume.WellFormed) (hadmitted : s.admitted? r = some given)
    (st : ServiceState) {t : Task} :
    (∃ q ∈ s.inquiriesFor r st, q.toTask = t) ↔
      t.language ≠ .unknown ∧ s.workspace.hasParser st.parsers t.language = true ∧
        t.path ∈ Workspace.selected t.language (s.workspace.visits (s.root given)) ∧
        t.method ∈ s.workspace.methodsIn t.path := by
  cases hholds : s.workspace.volume.holds (s.root given) with
  | false =>
    have hnone : s.workspace.visits (s.root given) = [] := Workspace.visits_of_not_holds hholds
    have hnot : ∀ other, s.admitted? r = some other →
        s.workspace.volume.holds (s.root other) = false := by
      intro other hother
      obtain rfl := Option.some.inj (hadmitted.symm.trans hother)
      exact hholds
    simp [inquiriesFor_eq_nil hnot, hnone, Workspace.selected]
  | true =>
    obtain ⟨visits, hw⟩ := walk_of_holds hholds
    have hvisits : s.workspace.visits (s.root given) = visits := by rw [Workspace.visits, hw]
    have hagenda : (∃ q ∈ s.inquiriesFor r st, q.toTask = t) ↔
        t ∈ (agenda s.workspace (s.workspace.hasParser st.parsers) visits).flatMap Job.tasks := by
      rw [inquiriesFor_of_admitted hadmitted hw, inquiriesOf, ← List.mem_map,
        map_toTask_inquiries]
    rw [hagenda, hvisits]
    obtain rfl | ⟨place, h⟩ := walkable_root hv hw
    · simp [agenda, Workspace.selected]
    · rw [List.mem_flatMap]
      constructor
      · rintro ⟨⟨l, path, outcome⟩, hj, ht⟩
        obtain ⟨hknown, hparser, hpath, rfl⟩ := (mem_agenda_iff h hw _).mp hj
        obtain ⟨m, hm, rfl⟩ := List.mem_map.mp ht
        exact ⟨hknown, hparser, hpath, hm⟩
      · rintro ⟨hknown, hparser, hpath, hmethod⟩
        refine ⟨⟨t.language, t.path, s.workspace.fileMethods t.path⟩,
          (mem_agenda_iff h hw _).mpr ⟨hknown, hparser, hpath, rfl⟩, ?_⟩
        exact List.mem_map.mpr ⟨t.method, hmethod, rfl⟩

/-- All requests of a run are those of its inquiries. -/
theorem requests_process (s : Service) (r : Web.Request) (st : ServiceState) :
    Event.requests ((s.process r).run st).events =
      (s.inquiriesFor r st).flatMap (·.requests s.client) := by
  obtain ⟨hasked, hrun⟩ | ⟨given, message, hasked, hline, hrun⟩ |
    ⟨given, hadmitted, hholds, hrun⟩ | ⟨given, hadmitted, hholds, -⟩ := s.process_cases r st
  · rw [hrun, inquiriesFor_eq_nil (by simp [admitted?_eq_some_iff, hasked])]
    rfl
  · rw [hrun, inquiriesFor_eq_nil (by simp [admitted?_eq_some_iff, hasked, hline])]
    rfl
  · rw [hrun, inquiriesFor_eq_nil (by simp [hadmitted, hholds])]
    rfl
  · obtain ⟨visits, hw, -, -, htraffic⟩ := process_answered hadmitted hholds st
    rw [← Event.requests_traffic, htraffic, (s.transcribes_agenda st visits).traffic,
      inquiriesFor_of_admitted hadmitted hw, Event.requests, List.filterMap_flatMap]
    rfl

/-- A request about a method shows the documentation of the method in the section for it, and the
word for null if the method has none. So all methods without documentation are announced as such
exactly if nothing can be sent, or if all methods have documentation, of all files of the walk whose
language is known and has a parser. -/
theorem undocumented_announced_iff {s : Service} {r : Web.Request} {st : ServiceState} {key : Text}
    {machine : Machine} (hclient : Client.create {} (some key) machine = .ok s.client)
    (hv : s.workspace.volume.WellFormed) :
    let qs := s.inquiriesFor r st
    Event.requests ((s.process r).run st).events = qs.flatMap (·.requests s.client) ∧
    (∀ q ∈ qs, ∀ request ∈ q.requests s.client,
      q.commentsIn? request = some (Text.ofString (q.method.docComment.getD "None"))) ∧
    ((∀ q ∈ qs, q.method.docComment = none → ∀ request ∈ q.requests s.client,
        q.commentsIn? request = some "No documentation provided") ↔
      key.hasHalf = true ∨
        ∀ given, s.admitted? r = some given → ∀ l, l ≠ .unknown →
          s.workspace.hasParser st.parsers l = true →
          ∀ path ∈ Workspace.selected l (s.workspace.visits (s.root given)),
            ∀ m ∈ s.workspace.methodsIn path, m.docComment ≠ none) := by
  intro qs
  have hretries := Client.maxRetries_of_create hclient
  refine ⟨s.requests_process r st, ?_⟩
  cases hkey : key.hasHalf with
  | true =>
    obtain ⟨e, hurl⟩ := Client.url_of_hasHalf (Client.key_of_create hclient) hkey
    simp [Inquiry.requests_of_url_eq_error hurl hretries]
  | false =>
    obtain ⟨url, hready⟩ := Client.ready_of_create hclient hkey
    have hshown : ∀ q ∈ qs, ∀ request ∈ q.requests s.client,
        q.commentsIn? request = some (Text.ofString (q.method.docComment.getD "None")) := by
      intro q _ request hrequest
      rw [(q.requests_of_ready hready).2 request hrequest]
      exact q.commentsIn?_request s.client url
    refine ⟨hshown, ?_⟩
    simp only [Bool.false_eq_true, false_or]
    constructor
    · -- Each inquiry sends some request, and its section has another text.
      intro hall given hadmitted l hknown hparser path hpath m hm hnone
      obtain ⟨q, hq, htask⟩ := (exists_inquiryFor_iff hv hadmitted st).mpr
        (show (⟨path, l, m⟩ : Task).language ≠ .unknown ∧ _ from ⟨hknown, hparser, hpath, hm⟩)
      have hmethod : q.method.docComment = none := by rw [htask]; exact hnone
      obtain ⟨request, hrequest⟩ :=
        List.exists_mem_of_ne_nil _ (q.requests_of_ready hready).1
      have hsection :=
        (hshown q hq request hrequest).symm.trans (hall q hq hmethod request hrequest)
      rw [hmethod] at hsection
      exact absurd (Option.some.inj hsection) (by decide)
    · intro hall q hq hnone
      cases hadmitted : s.admitted? r with
      | none =>
        rw [show qs = [] from inquiriesFor_eq_nil (by simp [hadmitted]) st] at hq
        cases hq
      | some given =>
        obtain ⟨hknown, hparser, hpath, hmethod⟩ :=
          (exists_inquiryFor_iff hv hadmitted st).mp ⟨q, hq, rfl⟩
        exact absurd hnone (hall given hadmitted _ hknown hparser _ hpath _ hmethod)

/-- A tree of Java with a comment before its only method. -/
def commentedTree : Node :=
  .ofSource [109] "program" ⟨0, 1⟩ true []
    [.ofSource [109] "block_comment" ⟨0, 1⟩ true [] [],
     .ofSource [109] "method_declaration" ⟨0, 1⟩ true []
       [.ofSource [109] "identifier" ⟨0, 1⟩ true [] []]]

/-- The methods of the small service are not announced as methods without documentation, since they
have none. If a comment stands before each of them there is nothing to announce. -/
theorem nested_unannounced :
    let st : ServiceState := ⟨.fresh, [answerReply]⟩
    let announced (s : Service) : Prop := ∀ q ∈ s.inquiriesFor requestHere st,
      q.method.docComment = none → ∀ request ∈ q.requests s.client,
        q.commentsIn? request = some "No documentation provided"
    (nested.workspace.volume.WellFormed ∧ ¬ announced nested ∧
      ∃ q ∈ nested.inquiriesFor requestHere st, ∃ request ∈ q.requests nested.client,
        q.commentsIn? request = some "None") ∧
    announced (nestedWith (.ok commentedTree)) := by
  intro st announced
  have hv : nested.workspace.volume.WellFormed := by decide +kernel
  obtain ⟨-, hshown, hiff⟩ := @undocumented_announced_iff nested requestHere st _ _ create_nested hv
  obtain ⟨-, -, hcommented⟩ :=
    @undocumented_announced_iff (nestedWith (.ok commentedTree)) requestHere st _ _ create_nested hv
  have hmethod : ∃ m ∈ nested.workspace.methodsIn "/w/A.java", m.docComment = none := by
    decide +kernel
  refine ⟨⟨hv, fun hall => ?_, ?_⟩, hcommented.mpr (.inr fun given hadmitted l _ _ => ?_)⟩
  · obtain hhalf | hdocumented := hiff.mp hall
    · exact absurd hhalf (by decide)
    · obtain ⟨m, hm, hnone⟩ := hmethod
      exact hdocumented "." (by decide +kernel) .java (by decide) (by decide +kernel) "/w/A.java"
        (by decide +kernel) m hm hnone
  · have hfirst : ∃ q ∈ nested.inquiriesFor requestHere st, q.method.docComment = none ∧
        q.requests nested.client ≠ [] := by
      decide +kernel
    obtain ⟨q, hq, hnone, hne⟩ := hfirst
    obtain ⟨request, hrequest⟩ := List.exists_mem_of_ne_nil _ hne
    refine ⟨q, hq, request, hrequest, ?_⟩
    rw [hshown q hq request hrequest, hnone]
    rfl
  · have hasked := (admitted?_eq_some_iff.mp hadmitted).1
    obtain rfl := Option.some.inj (hasked.symm.trans asked?_requestHere)
    have hall : ∀ l ∈ Language.all,
        ∀ path ∈ Workspace.selected l ((nestedWith (.ok commentedTree)).workspace.visits
          ((nestedWith (.ok commentedTree)).root ".")),
        ∀ m ∈ (nestedWith (.ok commentedTree)).workspace.methodsIn path, m.docComment ≠ none := by
      decide +kernel
    exact hall l (Language.mem_all l)

end Service

end Scribe
