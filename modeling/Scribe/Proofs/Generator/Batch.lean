import Scribe.Proofs.Generator.Breaks

/-!
# Documenting methods one by one

To document many methods is to make one call for each that has a name, in order, each on the replies
that the calls before it left. The texts that the calls tell are put under the names. An answer that
is something but no text ends this, and so do a method that cannot be told of and a call that breaks
off; nothing that was told before is kept.

## Main results

* `Client.run_documentEach`: what the calls for some methods come to.
* `Client.documentMethods_by_turns`: documentation of many methods, call by call.
-/

namespace Scribe

/-- A method that is to be documented, under a name. -/
structure Topic where
  name : Text
  subject : Prompt.Subject

namespace Topic

/-- What an object says about a method. -/
def subjectOf (fields : List (Text × Json)) : Prompt.Subject :=
  ⟨(Json.lookup "name" fields).getD .null,
    (Json.lookup "doc_comment" fields).getD (.str "No documentation provided"),
    (Json.lookup "source_code" fields).getD (.str "")⟩

/-- The topic of an object. Without a name there is none. -/
def ofFields? (fields : List (Text × Json)) : Option Topic :=
  match Json.lookup "name" fields with
  | some (.str name) => if name.isEmpty then none else some ⟨name, subjectOf fields⟩
  | _ => none

/-- A topic whose name is that of its method. -/
structure Named (t : Topic) : Prop where
  name_eq : t.subject.name = .str t.name
  ne_empty : t.name.isEmpty = false

theorem named_of_ofFields? {fields : List (Text × Json)} {t : Topic}
    (h : ofFields? fields = some t) : t.Named := by
  unfold ofFields? at h
  split at h
  · rename_i name hname
    split at h
    · cases h
    · rename_i hne
      cases h
      exact ⟨by simp [subjectOf, hname], by simpa using hne⟩
  · cases h

end Topic

/-- A turn in documenting methods: a name and what became of the call for it. -/
structure Turn where
  name : Text
  done : Done Script (Except String Json)

namespace Turn

/-- Whether a result is something but no text. -/
def isStray (result : Json) : Bool := result.isTruthy && result.text?.isNone

/-- Why a turn is the last: there is no result, or the result is stray. -/
def failure? (t : Turn) : Option String :=
  match t.done.value with
  | .error message => some message
  | .ok result =>
    if isStray result then some (Json.AccessError.noOperation result.kind "startswith").message
    else none

/-- What the result tells about a method: itself if it is a text that says something and no error,
else why there is none. -/
def text (t : Turn) : Text :=
  match t.done.value with
  | .ok (.str s) =>
    if s.isEmpty then "Failed to generate documentation: Unknown error"
    else if s.startsWith "Error:" then "Failed to generate documentation: " ++ s
    else s
  | _ => "Failed to generate documentation: Unknown error"

/-- The turns that are taken: no more after one that fails. -/
def taken : List Turn → List Turn
  | [] => []
  | t :: rest => if t.failure?.isSome then [t] else t :: taken rest

/-- The replies that some turns leave. -/
def left (script : Script) (turns : List Turn) : Script :=
  (turns.getLast?.map (·.done.state)).getD script

theorem left_cons (script : Script) (t : Turn) (rest : List Turn) :
    left script (t :: rest) = left t.done.state rest := by
  cases h : rest.getLast? <;> simp [left, List.getLast?_cons, h]

end Turn

namespace Client

variable {c : Client}

/-- The turn for a topic. A topic that cannot be told gets no call. -/
def turn (c : Client) (language : Json) (t : Topic) (script : Script) : Turn :=
  match Prompt.obstacle? (Prompt.told language t.subject) with
  | some o => ⟨t.name, .error (o.message .literal), script, []⟩
  | none =>
    let call := (c.call (.str (Prompt.method language t.subject))).run script
    ⟨t.name, call.value.mapError CallError.message, call.state, call.events⟩

/-- The turns for some topics, each on the replies that the ones before have left. -/
def turns (c : Client) (language : Json) : List Topic → Script → List Turn
  | [], _ => []
  | t :: rest, script =>
    c.turn language t script :: c.turns language rest (c.turn language t script).done.state

@[simp]
theorem name_turn (c : Client) (language : Json) (t : Topic) (script : Script) :
    (c.turn language t script).name = t.name := by
  rw [turn]
  split <;> rfl

/-- A result is described by what its turn tells, unless it is stray. -/
theorem describe_result {t : Turn} {result : Json} (h : t.done.value = .ok result) :
    describe result =
      if Turn.isStray result then .error (.noOperation result.kind "startswith")
      else .ok t.text := by
  have hunknown : failedText "Unknown error" =
      "Failed to generate documentation: Unknown error" := by
    decide +kernel
  obtain ⟨hfalsy, hdescribe⟩ | ⟨htruthy, hnone, hdescribe⟩ | ⟨s, rfl, hne, hdescribe⟩ :=
    describe_cases result
  · have htext : t.text = failedText "Unknown error" := by
      rw [hunknown, Turn.text, h]
      cases result with
      | str s =>
        have hempty : s.isEmpty = true := by simpa [Json.isTruthy] using hfalsy
        simp only [hempty, if_true]
      | _ => rfl
    rw [hdescribe, htext, Turn.isStray, hfalsy]
    rfl
  · rw [hdescribe, Turn.isStray, htruthy, hnone]
    rfl
  · rw [hdescribe, Turn.isStray, Turn.text, h]
    simp [Json.text?, hne, failedText]

theorem entryFor_str (name : Text) (answer : Json) :
    entryFor (.str name) answer = describe answer := by
  cases h : describe answer <;> simp [entryFor, h, Json.asKey, bind, Except.bind, pure, Except.pure]

/-- One turn of documenting methods. -/
theorem run_documentEach_cons (c : Client) {topic : Topic} (hnamed : topic.Named) (language : Json)
    (script : Script) (before : Documentation)
    (subjects : List (Except Json.AccessError Prompt.Subject)) :
    let turn := c.turn language topic script
    let more := (c.documentEach language (before.put (.str turn.name) turn.text) subjects).run
      turn.done.state
    (c.documentEach language before (.ok topic.subject :: subjects)).run script =
      match turn.failure? with
      | some message => ⟨.error message, turn.done.state, turn.done.events⟩
      | none => ⟨more.value, more.state, turn.done.events ++ more.events⟩ := by
  intro turn more
  have htruthy : topic.subject.name.isTruthy = true := by
    simp [hnamed.name_eq, Json.isTruthy, hnamed.ne_empty]
  rw [documentEach, htruthy]
  cases htold : Prompt.obstacle? (Prompt.told language topic.subject) with
  | some o => simp [turn, Client.turn, htold, Turn.failure?]
  | none =>
    cases hcall : ((c.call (.str (Prompt.method language topic.subject))).run script).value with
    | error e => simp [turn, Client.turn, htold, hcall, Turn.failure?, Except.mapError]
    | ok answer =>
      have hturn : turn = ⟨topic.name, .ok answer,
          ((c.call (.str (Prompt.method language topic.subject))).run script).state,
          ((c.call (.str (Prompt.method language topic.subject))).run script).events⟩ := by
        simp [turn, Client.turn, htold, hcall, Except.mapError]
      have hentry : entryFor (.str topic.name) answer =
          if Turn.isStray answer then .error (.noOperation answer.kind "startswith")
          else .ok turn.text := by
        rw [entryFor_str]
        exact describe_result (by rw [hturn])
      cases hstray : Turn.isStray answer with
      | true =>
        rw [hstray] at hentry
        simp [hcall, hnamed.name_eq, hentry, hturn, Turn.failure?, hstray]
      | false =>
        rw [hstray] at hentry
        simp [hcall, hnamed.name_eq, hentry, hturn, Turn.failure?, hstray, more]

/-- What the calls for some methods come to. The induction is on the methods, with what has been
told before in hand. -/
theorem run_documentEach (c : Client) (language : Json) {topics : List Topic}
    (hnamed : ∀ t ∈ topics, t.Named) (before : Documentation) (script : Script) :
    let turns := c.turns language topics script
    (c.documentEach language before (topics.map fun t => .ok t.subject)).run script =
      ⟨match turns.findSome? Turn.failure? with
        | some message => .error message
        | none => .ok (turns.foldl (fun d t => d.put (.str t.name) t.text) before),
        Turn.left script (Turn.taken turns), (Turn.taken turns).flatMap (·.done.events)⟩ := by
  induction topics generalizing before script with
  | nil => rfl
  | cons topic rest ih =>
    have hstep := run_documentEach_cons c (hnamed topic List.mem_cons_self) language script before
      (rest.map fun t => .ok t.subject)
    have hrest := ih (fun t ht => hnamed t (List.mem_cons_of_mem _ ht))
    rw [List.map_cons, hstep, hrest, turns]
    cases hfails : (c.turn language topic script).failure? with
    | some message => simp [Turn.taken, hfails, Turn.left]
    | none => simp [Turn.taken, hfails, Turn.left_cons]

/-- Methods without a name are passed over. -/
theorem documentEach_topics (c : Client) (language : Json) {methods : List (List (Text × Json))}
    (hnames : ∀ fields ∈ methods, Json.lookup "name" fields = none ∨
      ∃ name, Json.lookup "name" fields = some (.str name)) (before : Documentation) :
    c.documentEach language before (methods.map fun fields => .ok (Topic.subjectOf fields)) =
      c.documentEach language before
        ((methods.filterMap Topic.ofFields?).map fun t => .ok t.subject) := by
  induction methods generalizing before with
  | nil => rfl
  | cons fields rest ih =>
    have hrest := ih fun other hother => hnames other (List.mem_cons_of_mem _ hother)
    have hpassed (hname : (Topic.subjectOf fields).name.isTruthy = false)
        (hnone : Topic.ofFields? fields = none) :
        c.documentEach language before
            ((fields :: rest).map fun fields => .ok (Topic.subjectOf fields)) =
          c.documentEach language before
            (((fields :: rest).filterMap Topic.ofFields?).map fun t => .ok t.subject) := by
      rw [List.map_cons, documentEach, hname, List.filterMap_cons_none hnone]
      exact hrest before
    obtain hmissing | ⟨name, hname⟩ := hnames fields List.mem_cons_self
    · exact hpassed (by simp [Topic.subjectOf, hmissing, Json.isTruthy])
        (by simp [Topic.ofFields?, hmissing])
    · cases hempty : name.isEmpty with
      | true =>
        exact hpassed (by simp [Topic.subjectOf, hname, Json.isTruthy, hempty])
          (by simp [Topic.ofFields?, hname, hempty])
      | false =>
        have hsome : Topic.ofFields? fields = some ⟨name, Topic.subjectOf fields⟩ := by
          simp [Topic.ofFields?, hname, hempty]
        rw [List.map_cons, documentEach, List.filterMap_cons_some hsome, List.map_cons,
          documentEach]
        simp only [hrest]

theorem turns_append (c : Client) (language : Json) (a b : List Topic) (script : Script) :
    c.turns language (a ++ b) script =
      c.turns language a script ++
        c.turns language b (Turn.left script (c.turns language a script)) := by
  induction a generalizing script with
  | nil => rfl
  | cons t rest ih => rw [List.cons_append, turns, turns, ih, Turn.left_cons, List.cons_append]

end Client

namespace Turn

theorem taken_eq_self {turns : List Turn} (h : ∀ t ∈ turns, t.failure? = none) :
    taken turns = turns := by
  induction turns with
  | nil => rfl
  | cons t rest ih =>
    rw [taken, h t List.mem_cons_self, ih fun u hu => h u (List.mem_cons_of_mem _ hu)]
    rfl

theorem taken_of_failure {before : List Turn} (hbefore : ∀ t ∈ before, t.failure? = none) {t : Turn}
    {message : String} (ht : t.failure? = some message) (after : List Turn) :
    taken (before ++ t :: after) = before ++ [t] := by
  induction before with
  | nil => simp [taken, ht]
  | cons u rest ih =>
    rw [List.cons_append, taken, hbefore u List.mem_cons_self,
      ih fun v hv => hbefore v (List.mem_cons_of_mem _ hv)]
    rfl

theorem left_append (script : Script) (a b : List Turn) :
    left script (a ++ b) = left (left script a) b := by
  induction a generalizing script with
  | nil => rfl
  | cons t rest ih => rw [List.cons_append, left_cons, left_cons, ih]

end Turn

namespace Client

variable {c : Client} {n delay : Int}

/-- What documenting the methods of some objects comes to. -/
theorem run_documentMethods (c : Client) (language : Json) {methods : List (List (Text × Json))}
    (hnames : ∀ fields ∈ methods, Json.lookup "name" fields = none ∨
      ∃ name, Json.lookup "name" fields = some (.str name)) (script : Script) :
    let turns := c.turns language (methods.filterMap Topic.ofFields?) script
    (c.documentMethods language (.arr (methods.map .obj))).run script =
      match turns.findSome? Turn.failure? with
      | none =>
        ⟨.collect (turns.map fun t => (t.name, t.text)), Turn.left script turns,
          turns.flatMap (·.done.events)⟩
      | some message =>
        ⟨failure message, Turn.left script (Turn.taken turns),
          (Turn.taken turns).flatMap (·.done.events) ++
            [.printed ("Documentation generation error: " ++ message : String)]⟩ := by
  intro turns
  have hnamed : ∀ t ∈ methods.filterMap Topic.ofFields?, t.Named := by
    intro t ht
    obtain ⟨fields, -, hfields⟩ := List.mem_filterMap.mp ht
    exact Topic.named_of_ofFields? hfields
  have hsubjects : c.documentMethods language (.arr (methods.map .obj)) =
      c.documentEach language []
        ((methods.filterMap Topic.ofFields?).map fun t => .ok t.subject) >>= settle := by
    rw [← documentEach_topics c language hnames, documentMethods, Json.elements]
    simp only [documentSubjects, List.map_map]
    rfl
  have hrun := c.run_documentEach language hnamed [] script
  rw [hsubjects, Work.run_bind, hrun]
  cases hfind : turns.findSome? Turn.failure? with
  | none =>
    have htaken : Turn.taken turns = turns :=
      Turn.taken_eq_self (List.findSome?_eq_none_iff.mp hfind)
    have hcollect := Documentation.foldl_put_nil (turns.map fun t => (t.name, t.text))
    rw [List.foldl_map] at hcollect
    simp only [turns] at htaken hcollect
    simp [htaken, hcollect, settle, turns]
  | some message => simp [settle, turns]

theorem exists_topic_of_mem_turns {language : Json} {topics : List Topic} {script : Script}
    {t : Turn} (h : t ∈ c.turns language topics script) :
    ∃ topic ∈ topics, ∃ rest, t = c.turn language topic rest := by
  induction topics generalizing script with
  | nil => cases h
  | cons topic more ih =>
    obtain rfl | h := List.mem_cons.mp h
    · exact ⟨topic, List.mem_cons_self, script, rfl⟩
    · obtain ⟨other, hother, hturn⟩ := ih h
      exact ⟨other, List.mem_cons_of_mem _ hother, hturn⟩

/-- If no turn fails, all that the calls tell is kept. -/
theorem run_documentMethods_of_texts {language : Json} {methods : List (List (Text × Json))}
    (hnames : ∀ fields ∈ methods, Json.lookup "name" fields = none ∨
      ∃ name, Json.lookup "name" fields = some (.str name)) {script : Script} {turns : List Turn}
    (hturns : c.turns language (methods.filterMap Topic.ofFields?) script = turns)
    (htexts : ∀ t ∈ turns, t.failure? = none) :
    (c.documentMethods language (.arr (methods.map .obj))).run script =
      ⟨.collect (turns.map fun t => (t.name, t.text)), Turn.left script turns,
        turns.flatMap (·.done.events)⟩ := by
  have hfind : turns.findSome? Turn.failure? = none := List.findSome?_eq_none_iff.mpr htexts
  rw [c.run_documentMethods language hnames, hturns, hfind]

/-- Methods can be documented in two parts, the second on the replies that the first has left. -/
theorem documentMethods_append {language : Json} {ms ms' : List (List (Text × Json))}
    (hnames : ∀ fields ∈ ms ++ ms', Json.lookup "name" fields = none ∨
      ∃ name, Json.lookup "name" fields = some (.str name)) {script : Script}
    (htexts : ∀ t ∈ c.turns language ((ms ++ ms').filterMap Topic.ofFields?) script,
      t.failure? = none) :
    let done := (c.documentMethods language (.arr ((ms ++ ms').map .obj))).run script
    let first := (c.documentMethods language (.arr (ms.map .obj))).run script
    let second := (c.documentMethods language (.arr (ms'.map .obj))).run first.state
    done.value = first.value.update second.value ∧ done.state = second.state ∧
      done.events = first.events ++ second.events := by
  intro done first second
  let a := c.turns language (ms.filterMap Topic.ofFields?) script
  let b := c.turns language (ms'.filterMap Topic.ofFields?) (Turn.left script a)
  have hboth : c.turns language ((ms ++ ms').filterMap Topic.ofFields?) script = a ++ b := by
    rw [List.filterMap_append, turns_append]
  rw [hboth] at htexts
  have hdone : done = _ := run_documentMethods_of_texts hnames hboth htexts
  have hfirst : first = _ := run_documentMethods_of_texts
    (fun fields h => hnames fields (List.mem_append_left ms' h))
    (show c.turns language (ms.filterMap Topic.ofFields?) script = a from rfl)
    (fun t h => htexts t (List.mem_append_left b h))
  have hstate : first.state = Turn.left script a := by rw [hfirst]
  have hsecond : second = _ := run_documentMethods_of_texts
    (fun fields h => hnames fields (List.mem_append_right ms h))
    (show c.turns language (ms'.filterMap Topic.ofFields?) first.state = b by rw [hstate])
    (fun t h => htexts t (List.mem_append_right a h))
  refine ⟨?_, ?_, ?_⟩
  · rw [hdone, hfirst, hsecond]
    simp only [List.map_append]
    rw [← Documentation.foldl_put, ← Documentation.foldl_put_nil, List.foldl_append,
      Documentation.foldl_put_nil]
  · rw [hdone, hsecond, hstate]
    exact Turn.left_append script a b
  · rw [hdone, hfirst, hsecond]
    exact List.flatMap_append

/-- What can be told gets one call, which has a result if the clock makes its pauses. -/
theorem turn_of_waits (hretries : c.maxRetries = .int n) (hdelay : c.retryDelay = .int delay)
    (hwaits : ∀ i : Nat, i + 1 < n → c.refusalAfter? delay (i + 1) = none) {language : Json}
    {topic : Topic} (htold : Prompt.obstacle? (Prompt.told language topic.subject) = none)
    (script : Script) :
    ∃ result state events,
      (c.call (.str (Prompt.method language topic.subject))).run script =
        ⟨.ok result, state, events⟩ ∧
      c.turn language topic script = ⟨topic.name, .ok result, state, events⟩ := by
  obtain ⟨result, hresult⟩ := exists_answer_of_waits hretries hdelay hwaits
    (.str (Prompt.method language topic.subject)) script
  refine ⟨result, _, _, by rw [← hresult], ?_⟩
  simp [turn, htold, hresult, Except.mapError]

end Client

end Scribe
