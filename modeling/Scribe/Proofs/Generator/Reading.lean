import Scribe.Java.Server
import Scribe.Proofs.Generator.Call

/-!
# Reading the answers of the model services

A service hands its text over at a fixed place of a value: some fields and first items lead to it.
The readers of such values are written in two ways. Some test whether a name is mentioned before
they look under it, others look with a default in hand. Names can be mentioned by lists and texts
too, and texts have first symbols, so a value of another shape can take a reader several steps
along. It never takes it to an answer: a reader finds the text if there is one at the place, and
otherwise nothing, its own substitute for a missing text, or a reason why it cannot look further.

## Main results

* `Client.reads_answerOf`, `Provider.reads_answerOf`: the readers find what is at the place.
* `readers_agree`: so do the client and the Java servers that use them.
-/

namespace Scribe

namespace Json

/-! ## Places in a value -/

/-- A step into a value. -/
inductive Step where
  | field (name : Text)
  | first
  deriving DecidableEq, Repr

/-- Where a step leads: to a field of an object, or to the first item of a list. -/
def step? (v : Json) : Step → Option Json
  | .field name => match v with
    | obj fields => lookup name fields
    | _ => none
  | .first => match v with
    | arr (item :: _) => some item
    | _ => none

/-- Where some steps lead. -/
def at? (v : Json) : List Step → Option Json
  | [] => some v
  | step :: rest => (v.step? step).bind (·.at? rest)

theorem at?_cons (v : Json) (step : Step) (rest : List Step) :
    v.at? (step :: rest) = (v.step? step).bind (·.at? rest) := rfl

/-- What a reader makes of a value that has `part` at the place where it should look. If there is
nothing, it may still give a substitute of its own. -/
def Reads (substitute : Option Json) (reading : Except AccessError (Option Json)) :
    (part : Option Json) → Prop
  | some t => reading = .ok (some t)
  | none => reading = .ok none ∨ (∃ a, substitute = some a ∧ reading = .ok (some a)) ∨
      ∃ e, reading = .error e

variable {substitute : Option Json} {f : Json → Except AccessError (Option Json)}
  {path : List Step} {name : Text}

theorem reads_found (part : Json) : Reads substitute (.ok (some part)) (part.at? []) := rfl

theorem reads_nothing : Reads substitute (.ok none) none := .inl rfl

theorem reads_substitute (a : Json) : Reads (some a) (.ok (some a)) none :=
  .inr (.inl ⟨a, rfl, rfl⟩)

theorem reads_error (e : AccessError) : Reads substitute (.error e) none :=
  .inr (.inr ⟨e, rfl⟩)

/-- What is given for a reading: the part that was found, or else what stands for nothing or for an
error. -/
def settled (nothing : Json) (failed : AccessError → Json) :
    Except AccessError (Option Json) → Json
  | .ok (some t) => t
  | .ok none => nothing
  | .error e => failed e

theorem Reads.settled_eq {reading : Except AccessError (Option Json)} {t : Json}
    (h : Reads substitute reading (some t)) (nothing : Json) (failed : AccessError → Json) :
    settled nothing failed reading = t := by
  rw [Reads] at h
  rw [h, settled]

theorem Reads.settled_cases {reading : Except AccessError (Option Json)}
    (h : Reads substitute reading none) (nothing : Json) (failed : AccessError → Json) :
    settled nothing failed reading = nothing ∨
      substitute = some (settled nothing failed reading) ∨
      ∃ e, settled nothing failed reading = failed e := by
  obtain hnothing | ⟨a, ha, hsubstitute⟩ | ⟨e, herror⟩ := h
  · exact .inl (by rw [hnothing, settled])
  · exact .inr (.inl (by rw [hsubstitute, settled, ha]))
  · exact .inr (.inr ⟨e, by rw [herror, settled]⟩)

/-- Reading under a name. -/
theorem reads_field (hf : ∀ part, Reads substitute (f part) (part.at? path)) (v : Json) :
    Reads substitute (v.field name >>= f) (v.at? (.field name :: path)) := by
  cases v with
  | obj fields =>
    rw [at?_cons, step?, field]
    cases hpart : lookup name fields with
    | none => exact reads_error _
    | some part => exact hf part
  | _ => exact reads_error _

/-- Reading under a name that is mentioned. A list or a text that mentions it has nothing there. -/
theorem reads_mentioned (hf : ∀ part, Reads substitute (f part) (part.at? path)) (v : Json) :
    Reads substitute
      (v.mentions name >>= fun mentioned =>
        if (!mentioned) = true then pure none else v.field name >>= f)
      (v.at? (.field name :: path)) := by
  have hfield : Reads substitute (v.field name >>= f) _ := reads_field hf v
  have hnone : v.mentions name ≠ .ok true → v.at? (.field name :: path) = none := by
    intro hmention
    rw [at?_cons]
    cases v with
    | obj fields => cases hpart : lookup name fields <;> simp_all [mentions, step?]
    | _ => rfl
  cases hmention : v.mentions name with
  | error e =>
    rw [hnone (by simp [hmention])]
    exact reads_error e
  | ok mentioned =>
    cases mentioned with
    | true => exact hfield
    | false =>
      rw [hnone (by simp [hmention])]
      exact reads_nothing

/-- Reading under a name with a default in hand, below which there is nothing. -/
theorem reads_fieldD {default : Json} (hf : ∀ part, Reads substitute (f part) (part.at? path))
    (hdefault : Reads substitute (f default) none) (v : Json) :
    Reads substitute (v.fieldD name default >>= f) (v.at? (.field name :: path)) := by
  cases v with
  | obj fields =>
    rw [at?_cons, step?, fieldD]
    cases lookup name fields with
    | none => exact hdefault
    | some part => exact hf part
  | _ => exact reads_error _

/-- Reading the first item. The first symbol of a text is a text, in which no step leads further. -/
theorem reads_first {step : Step}
    (hf : ∀ item, Reads substitute (f item) (item.at? (step :: path))) (v : Json) :
    Reads substitute (v.first >>= f) (v.at? (.first :: step :: path)) := by
  cases v with
  | arr items =>
    cases items with
    | nil => exact reads_error _
    | cons item more => exact hf item
  | str s =>
    rw [first]
    cases s.symbols with
    | nil => exact reads_error _
    | cons c more =>
      have hnone : (str ⟨[c]⟩).at? (step :: path) = none := by cases step <;> rfl
      have hitem := hf (str ⟨[c]⟩)
      rw [hnone] at hitem
      exact hitem
  | _ => exact reads_error _

/-- What counts as nothing has no first item. -/
theorem step?_first_of_not_isTruthy {v : Json} (h : v.isTruthy = false) :
    v.step? .first = none := by
  cases v with
  | arr items =>
    cases items with
    | nil => rfl
    | cons item more => simp [isTruthy] at h
  | _ => rfl

/-- Reading the first item of what counts as something. -/
theorem reads_first_of_truthy {step : Step}
    (hf : ∀ item, Reads substitute (f item) (item.at? (step :: path))) (v : Json) :
    Reads substitute (if (!v.isTruthy) = true then pure none else v.first >>= f)
      (v.at? (.first :: step :: path)) := by
  have hfirst := reads_first hf v
  cases htruthy : v.isTruthy with
  | true => exact hfirst
  | false =>
    rw [at?_cons, step?_first_of_not_isTruthy htruthy]
    exact reads_nothing

end Json

open Json

/-! ## The two ways of reading -/

/-- Where the text stands in an answer with candidates. -/
def candidatePath : List Step :=
  [.field "candidates", .first, .field "content", .field "parts", .first, .field "text"]

/-- Where the text stands in an answer with choices. -/
def choicePath : List Step :=
  [.field "choices", .first, .field "message", .field "content"]

/-- The client finds the text of the first part of the first candidate. For a part without a text
it gives an empty one. -/
theorem Client.reads_answerOf (v : Json) :
    Reads (some (.str "")) (answerOf v) (v.at? candidatePath) := by
  refine reads_mentioned (fun candidates => ?_) v
  refine reads_first_of_truthy (fun candidate => ?_) candidates
  refine reads_mentioned (fun content => ?_) candidate
  refine reads_mentioned (fun parts => ?_) content
  refine reads_first (fun part => ?_) parts
  exact reads_fieldD (f := fun text => .ok (some text)) reads_found (reads_substitute _) part

namespace Provider

/-- Where a service puts its text. -/
def answerPath : Provider → List Step
  | gemini => candidatePath
  | _ => choicePath

/-- What a reader gives for a missing text. -/
def substitute : Provider → Option Json
  | gemini => some .null
  | _ => none

theorem eq_of_substitute {p : Provider} {a : Json} (h : p.substitute = some a) :
    p = gemini ∧ a = .null := by
  cases p <;> simp_all [substitute]

theorem reads_textOf_choice {p : Provider} (hp : p ≠ gemini) (choices : Json) :
    Reads none (if (!choices.isTruthy) = true then pure none else some <$> p.textOf choices)
      (choices.at? [.first, .field "message", .field "content"]) := by
  have hkey : p.keyInAddress = false := by cases p <;> simp_all [keyInAddress]
  simp only [textOf, hkey, Bool.false_eq_true, if_false, map_bind]
  refine reads_first_of_truthy (fun choice => ?_) choices
  refine reads_field (fun message => ?_) choice
  exact reads_field (f := fun text => .ok (some text)) reads_found message

theorem reads_textOf_candidate (candidates : Json) :
    Reads (some .null)
      (if (!candidates.isTruthy) = true then pure none else some <$> gemini.textOf candidates)
      (candidates.at? [.first, .field "content", .field "parts", .first, .field "text"]) := by
  simp only [textOf, keyInAddress, if_true, map_bind]
  refine reads_first_of_truthy (fun candidate => ?_) candidates
  have hpart (part : Json) : Reads (some .null) (some <$> part.fieldD "text" .null)
      (part.at? [.field "text"]) :=
    reads_fieldD (f := fun text => .ok (some text)) reads_found (reads_substitute _) part
  have hparts (parts : Json) : Reads (some .null)
      (parts.first >>= fun part => some <$> part.fieldD "text" .null)
      (parts.at? [.first, .field "text"]) := reads_first hpart parts
  refine reads_fieldD (fun content => ?_) ?_ candidate
  · exact reads_fieldD hparts (hparts (.arr [.obj []])) content
  · exact hparts (.arr [.obj []])

/-- The reader of a service finds the text where the service puts it. -/
theorem reads_answerOf (p : Provider) (v : Json) :
    Reads p.substitute (p.answerOf v) (v.at? p.answerPath) := by
  cases p with
  | gemini => exact reads_mentioned reads_textOf_candidate v
  | llama => exact reads_mentioned (reads_textOf_choice (by decide)) v
  | deepseek => exact reads_mentioned (reads_textOf_choice (by decide)) v

end Provider

/-! ## Calls that end in a value -/

/-- A response whose status stands for no error is read as the value in its body. -/
theorem yieldOf_of_read {x : Response} {v : Json} (hstatus : ¬ (400 ≤ x.status ∧ x.status < 600))
    (hread : Json.read x.body = .ok v) (url : String) : yieldOf url (.ok x) = .value v := by
  have hnone : x.statusError? url = none := by
    rw [Response.statusError?]
    split_ifs <;> first | rfl | omega
  simp [yieldOf, hnone, hread]

theorem Script.taken_append {before : List Reply} (hbefore : ∀ r ∈ before, r.isRetryable = true)
    {last : Reply} (hlast : last.isRetryable = false) (rest : Script) {left : Nat}
    (hlength : before.length < left) :
    Script.taken (before ++ last :: rest) left = before ++ [last] := by
  induction before generalizing left with
  | nil =>
    obtain ⟨left, rfl⟩ := Nat.exists_eq_succ_of_ne_zero (Nat.ne_of_gt hlength)
    simp [taken_succ, next, hlast]
  | cons r more ih =>
    obtain ⟨left, rfl⟩ := Nat.exists_eq_succ_of_ne_zero (Nat.ne_of_gt (Nat.zero_lt_of_lt hlength))
    have hmore := ih (fun q hq => hbefore q (List.mem_cons_of_mem _ hq))
      (Nat.lt_of_succ_lt_succ hlength)
    simp [taken_succ, next, hbefore r List.mem_cons_self, hmore]

namespace Client

variable {c : Client} {url : String} {n : Int} {prompt : Json} {before : List Reply}
  {last : Reply}

/-- A first reply that is not retryable settles a call, whatever the delay. -/
theorem call_value_of_first (hurl : c.url = .ok url)
    (hwritable : (c.request url prompt).body.obstacle? .strict = none)
    (hretries : c.maxRetries = .int n) (hn : 0 < n) (hlast : last.isRetryable = false)
    (rest : Script) :
    ((c.call prompt).run (last :: rest)).value = .ok (answerTo c.machine.console url last) := by
  obtain ⟨left, hleft⟩ : ∃ left : Nat, n.toNat = left + 1 := ⟨n.toNat - 1, by omega⟩
  -- The first attempt is that of a client which does not wait.
  have hsends : Sends { c with retryDelay := .int 0 } url 0 prompt := ⟨hurl, hwritable, rfl⟩
  have hstep : (c.attempt prompt).run (last :: rest) = _ := run_attempt hsends _
  rw [call_eq_attempts hretries, hleft, attempts]
  obtain ⟨-, hretry, -⟩ | ⟨-, hretry, -⟩ | ⟨-, ⟨message, hjudge⟩ | ⟨v, hjudge⟩ | ⟨v, hjudge⟩⟩ :=
    judge_cases url last
  · rw [hlast] at hretry
    cases hretry
  · rw [hlast] at hretry
    cases hretry
  · simp [hstep, Script.next, hjudge, answerTo, giveUp]
  · cases hprint : c.machine.console.refusal? (unexpected v) <;>
      simp [hstep, Script.next, hjudge, answerTo, giveUp, hprint]
  · simp [hstep, Script.next, hjudge, answerTo]

/-- A call is settled by the first reply after which it does not try again. The pauses matter only
if there are replies before that. -/
theorem call_value (hurl : c.url = .ok url)
    (hwritable : (c.request url prompt).body.obstacle? .strict = none)
    (hretries : c.maxRetries = .int n) (hlength : before.length < n)
    (hbefore : ∀ r ∈ before, r.isRetryable = true)
    (hpauses : before ≠ [] → ∃ delay, c.retryDelay = .int delay ∧
      ∀ made ≤ before.length, c.refusalAfter? delay made = none)
    (hlast : last.isRetryable = false) (rest : Script) :
    ((c.call prompt).run (before ++ last :: rest)).value =
      .ok (answerTo c.machine.console url last) := by
  cases before with
  | nil =>
    exact call_value_of_first hurl hwritable hretries (by simpa using hlength) hlast rest
  | cons r more =>
    obtain ⟨delay, hdelay, hwaits⟩ := hpauses (List.cons_ne_nil r more)
    have hsends : c.Sends url delay prompt := ⟨hurl, hwritable, hdelay⟩
    have htaken := Script.taken_append hbefore hlast rest (show _ < n.toNat by omega)
    have hspec := attempts_spec hsends n.toNat 0 (r :: more ++ last :: rest) (by
      intro i hi
      refine hwaits _ ?_
      -- No pause follows the reply that is not retryable.
      by_contra hlong
      have hretry := hi.2.1 (r :: more).length (by omega)
      rw [Script.replyAt, List.drop_left] at hretry
      exact absurd hretry (by simp [Script.next, hlast]))
    rw [call_eq_attempts hretries, hspec.1, htaken, answerAfter, List.getLast?_concat]
    rfl

/-- The answer to a response with a value is what the reader makes of the value. -/
theorem answerTo_of_read {x : Response} {v : Json}
    (hstatus : ¬ (400 ≤ x.status ∧ x.status < 600)) (hread : Json.read x.body = .ok v)
    (console : Console) (url : String) :
    (Reply.response x).isRetryable = false ∧
      ∃ nothing, (nothing = .null ∨ ∃ message : String, nothing = .str ("Error: " ++ message)) ∧
        answerTo console url (.response x) =
          settled nothing (fun e => .str ("Error: " ++ e.message)) (answerOf v) := by
  have hyield := yieldOf_of_read hstatus hread url
  have hrefusal : (Reply.response x).isRefusal = false := by
    simp only [Reply.isRefusal, decide_eq_false_iff_not]
    omega
  constructor
  · rw [isRetryable_eq url, Reply.outcome, hyield]
  · rw [answerTo, judge_of_not_refusal url hrefusal, Reply.outcome, hyield, judgeYield]
    cases hprint : console.refusal? (unexpected v) with
    | none =>
      refine ⟨.null, .inl rfl, ?_⟩
      rcases answerOf v with e | _ | answer <;> simp [settled, hprint]
    | some message =>
      refine ⟨_, .inr ⟨message, rfl⟩, ?_⟩
      rcases answerOf v with e | _ | answer <;> simp [settled, hprint]

end Client

namespace JavaServer

/-- A server with a key that can be sent. -/
structure Sends (s : JavaServer) : Prop where
  key : s.key.isTruthy = true
  shown : s.provider.keyInAddress = false → s.key.obstacle? .literal = none
  header : s.provider.keyInAddress = false →
    isHeaderValue ("Bearer " ++ s.key.display) = true

/-- Requests hold texts only. -/
theorem obstacle?_request (s : JavaServer) (content : Json) :
    (s.request content).body.obstacle? .strict = none := by
  cases hp : s.provider <;>
    simp [request, Request.post, hp, Provider.body, Provider.keyInAddress, Json.obstacle?,
      Json.maxDepth, Json.obstacleWithin?, Json.itemsObstacle?, Json.fieldsObstacle?]

theorem obstacle?_told {s : JavaServer} (h : s.Sends) {content : Json}
    (hcontent : content.obstacle? .literal = none) : Prompt.obstacle? (s.told content) = none := by
  cases hkey : s.provider.keyInAddress with
  | true => simp [Prompt.obstacle?, told, hkey, hcontent]
  | false => simp [Prompt.obstacle?, told, hkey, hcontent, h.shown hkey]

/-- Documenting a file is one exchange. -/
theorem run_document {s : JavaServer} (h : s.Sends) {content : Json}
    (hcontent : content.obstacle? .literal = none) (script : Script) :
    (s.document content).run script =
      ⟨judge s.provider (s.request content).url script.next.outcome, script.tail,
        [.sent (s.request content)]⟩ := by
  have hheader : (s.request content).authorization.filter (fun value => !isHeaderValue value) =
      none := by
    cases hkey : s.provider.keyInAddress with
    | true => simp [request, Request.post, hkey]
    | false => simp [request, Request.post, hkey, Option.filter, h.header hkey]
  have hsend : (send (s.request content)).run script =
      ⟨script.next.outcome, script.tail, [.sent (s.request content)]⟩ := by
    simp only [Work.run, send, hheader, obstacle?_request]
    rcases script with _ | ⟨_ | _, rest⟩ <;> rfl
  simp [document, h.key, obstacle?_told h hcontent, hsend]

/-- A response with a value is judged by what the reader makes of the value. -/
theorem judge_of_read {x : Response} {v : Json} (hstatus : ¬ (400 ≤ x.status ∧ x.status < 600))
    (hread : Json.read x.body = .ok v) (p : Provider) (url : String) :
    judge p url (.ok x) =
      settled (.str "Error: Invalid response format from API")
        (fun e => .str ("Unexpected error: " ++ e.message)) (p.answerOf v) := by
  rw [judge, yieldOf_of_read hstatus hread]
  dsimp only
  rcases p.answerOf v with e | _ | answer <;> rfl

end JavaServer

/-- The client and the Java servers give the text of a value that has one at the place of the
service, whatever else the value holds and whatever stands there. For any other value the client
gives nothing, an empty text or an error, and a server gives nothing, the error of an ill-formed
answer, or an unexpected one; nothing at all is given only by the server that asks for
candidates. -/
theorem readers_agree {x : Response} {v : Json} (hstatus : ¬ (400 ≤ x.status ∧ x.status < 600))
    (hread : Json.read x.body = .ok v) :
    (∀ (c : Client) (url : String) (n : Int) (before : List Reply) (rest : Script) (prompt : Text),
      c.url = .ok url → (c.request url (.str prompt)).body.obstacle? .strict = none →
      c.maxRetries = .int n → before.length < n → (∀ r ∈ before, r.isRetryable = true) →
      (before ≠ [] → ∃ delay, c.retryDelay = .int delay ∧
        ∀ made ≤ before.length, c.refusalAfter? delay made = none) →
      let answer := ((c.call (.str prompt)).run (before ++ .response x :: rest)).value
      (∀ t, v.at? candidatePath = some t → answer = .ok t) ∧
      (v.at? candidatePath = none →
        answer = .ok .null ∨ answer = .ok (.str "") ∨
          ∃ why : Text, answer = .ok (.str ("Error: " ++ why)))) ∧
    ∀ (s : JavaServer) (content : Json) (rest : Script), s.Sends →
      content.obstacle? .literal = none →
      let answer := ((s.document content).run (.response x :: rest)).value
      (∀ t, v.at? s.provider.answerPath = some t → answer = t) ∧
      (v.at? s.provider.answerPath = none →
        s.provider = .gemini ∧ answer = .null ∨
          answer = .str "Error: Invalid response format from API" ∨
          ∃ why : Text, answer = .str ("Unexpected error: " ++ why)) := by
  constructor
  · intro c url n before rest prompt hurl hwritable hretries hlength hbefore hpauses answer
    obtain ⟨hstop, nothing, hnothing, hanswer⟩ :=
      Client.answerTo_of_read hstatus hread c.machine.console url
    have hvalue : answer = .ok (Client.answerTo c.machine.console url (.response x)) :=
      Client.call_value hurl hwritable hretries hlength hbefore hpauses hstop rest
    have hreads := Client.reads_answerOf v
    rw [hvalue, hanswer]
    constructor
    · intro t ht
      rw [ht] at hreads
      rw [hreads.settled_eq]
    · intro hnone
      rw [hnone] at hreads
      obtain hsettled | hempty | ⟨e, herror⟩ := hreads.settled_cases nothing _
      · rw [hsettled]
        obtain rfl | ⟨message, rfl⟩ := hnothing
        · exact .inl rfl
        · exact .inr (.inr ⟨message, rfl⟩)
      · exact .inr (.inl (by rw [← Option.some.inj hempty]))
      · exact .inr (.inr ⟨e.message, by rw [herror]⟩)
  · intro s content rest hsends hcontent answer
    have hvalue : answer = JavaServer.judge s.provider (s.request content).url (.ok x) := by
      simp only [answer, JavaServer.run_document hsends hcontent]
      rfl
    have hreads := s.provider.reads_answerOf v
    rw [hvalue, JavaServer.judge_of_read hstatus hread]
    constructor
    · intro t ht
      rw [ht] at hreads
      rw [hreads.settled_eq]
    · intro hnone
      rw [hnone] at hreads
      obtain hnothing | hnull | ⟨e, herror⟩ := hreads.settled_cases (.str _) _
      · exact .inr (.inl hnothing)
      · exact .inl (Provider.eq_of_substitute hnull)
      · exact .inr (.inr ⟨e.message, herror⟩)

/-- A text at the place for candidates is found by the client, at its second attempt, and by the
server that asks for candidates. A server that asks for choices finds none. -/
theorem candidate_read :
    let x : Response := ⟨200, "OK", "\x7b\"candidates\": [\x7b\"content\": " ++
      "\x7b\"parts\": [\x7b\"text\": \"d\"\x7d]\x7d\x7d]\x7d"⟩
    let c : Client := ⟨.str "k", .str "gemini-2.0-flash", .int 1000, .int 3, .int 1, .keeping⟩
    let answer (p : Provider) : Json :=
      ((JavaServer.document ⟨p, "k", .str "k"⟩ (.str "class A")).run [.response x]).value
    ((c.call (.str "p")).run [.failure .exhausted, .response x]).value = .ok (.str "d") ∧
      answer .gemini = .str "d" ∧
      (answer .llama = .str "Error: Invalid response format from API" ∨
        ∃ why : Text, answer .llama = .str ("Unexpected error: " ++ why)) := by
  intro x c answer
  have hvalue : (Json.read x.body).toBool = true := by decide +kernel
  have htext : ((Json.read x.body).toOption.bind (·.at? candidatePath)).bind Json.text? =
      some "d" := by decide +kernel
  have hchoices : ((Json.read x.body).toOption.bind (·.at? choicePath)).isNone = true := by
    decide +kernel
  cases hread : Json.read x.body with
  | error e => simp [hread, Except.toBool] at hvalue
  | ok v =>
    rw [hread] at htext hchoices
    obtain ⟨t, hat, ht⟩ := Option.bind_eq_some_iff.mp htext
    obtain rfl : t = .str "d" := by cases t <;> simp_all [Json.text?]
    have hnone : v.at? choicePath = none := Option.isNone_iff_eq_none.mp hchoices
    obtain ⟨hclient, hserver⟩ := readers_agree (x := x) (by decide) hread
    have hheader : isHeaderValue ("Bearer " ++ (Json.str "k").display) = true := by decide +kernel
    have hkey (p : Provider) : JavaServer.Sends ⟨p, "k", .str "k"⟩ :=
      ⟨rfl, fun _ => rfl, fun _ => hheader⟩
    refine ⟨?_, (hserver _ _ [] (hkey .gemini) rfl).1 _ hat, ?_⟩
    · exact (hclient c (Client.endpoint ++ "?key=k") 3 [.failure .exhausted] [] "p"
        (by decide +kernel) (by decide +kernel) rfl (by decide) (by decide)
        (fun _ => ⟨1, rfl, by decide +kernel⟩)).1 _ hat
    · obtain ⟨hgemini, -⟩ | hother := (hserver _ (.str "class A") [] (hkey .llama) rfl).2 hnone
      · cases hgemini
      · exact hother

end Scribe
