import Scribe.Proofs.Generator.Prompts
import Scribe.Proofs.Service.Inquiries
import Scribe.Proofs.Service.Reports

/-!
# Requests and answer of the service correspond

With the settings that its callers leave out, the client of the service makes up to three attempts
for a method. All that the service sends falls into blocks, one for each method of the report: the
same request again and again, until a reply that is not retryable or the third attempt. The request
puts the template to the model, filled with what was extracted of the method. The replies of the
blocks are the next ones of the script, and the text of a method depends on its name and on the last
reply of its own block. A key that cannot be written into an address is the one exception: with it
nothing is sent, and every method gets the reason for that.

## Main results

* `Service.replies_inquiries`: the replies that calls take follow each other in the script.
* `Service.answered_inBlocks`: the requests of an answered request in blocks.
-/

namespace Scribe

/-- The prompt about a method. A method without documentation is shown with the word for null. -/
def Task.filled (t : Task) : String :=
  Prompt.filled t.language.tag t.method.name (t.method.docComment.getD "None") t.method.sourceCode

theorem Task.prompt_eq (t : Task) : t.prompt = t.filled :=
  Prompt.method_eq_filled rfl (Prompt.display_docComment_ofMethod t.method) rfl t.language.tag

/-- The exchange about one method: the replies that its call takes. -/
structure Block extends Task where
  replies : List Reply

namespace Block

/-- The reply that settles the answer. -/
def last (b : Block) : Reply := b.replies.getLastD (.failure .exhausted)

/-- What a report has of a method of some name, as the last reply settles it. -/
def entryOf (console : Console) (url : String) (name : String) (last : Reply) : MethodReport :=
  ⟨name, Client.textFor name (Client.told (.ok (Client.answerTo console url last)))⟩

/-- The request of the block. -/
def request (c : Client) (url : String) (b : Block) : Request := c.request url (.str b.prompt)

/-- What is seen of the block: its requests, and pauses of one and two seconds between them. -/
def events (c : Client) (url : String) (b : Block) : List Event :=
  Client.exchanges (b.request c url) 1 0 b.replies

/-- A block of one to three attempts, which goes on after retryable replies only and does not end
before the third attempt with one. -/
structure Complete (b : Block) : Prop where
  nonempty : 1 ≤ b.replies.length
  length_le : b.replies.length ≤ 3
  retried : ∀ r ∈ b.replies.dropLast, r.isRetryable = true
  settled : b.replies.length < 3 → b.last.isRetryable = false

theorem requests_events (c : Client) (url : String) (b : Block) :
    Event.requests (b.events c url) = List.replicate b.replies.length (b.request c url) :=
  Client.requests_exchanges ..

/-- The pauses of a block are some of one and two seconds, in this order. -/
theorem sleeps_events {b : Block} (h : b.Complete) (c : Client) (url : String) :
    (Event.sleeps (b.events c url)).Sublist [.whole 1, .whole 2] := by
  rw [events, Client.sleeps_exchanges]
  have hlength : b.replies.dropLast.length ≤ 2 := by
    have := h.length_le
    rw [List.length_dropLast]
    omega
  refine (List.filter_sublist.map _).trans ?_
  match b.replies.dropLast, hlength with
  | [], _ => simp
  | [_], _ => simp
  | [_, _], _ => simp

end Block

namespace Inquiry

variable {c : Client} {url : String}

/-- The exchange about the method of an inquiry. -/
def block (q : Inquiry) : Block := ⟨q.toTask, q.script.taken 3⟩

theorem getLast?_replies (q : Inquiry) : q.block.replies.getLast? = some q.block.last := by
  have hne : q.block.replies ≠ [] := Script.taken_ne_nil q.script 2
  rw [Block.last, List.getLast?_eq_some_getLast hne, List.getLastD_eq_getLast?,
    List.getLast?_eq_some_getLast hne, Option.getD_some]

theorem complete_block (q : Inquiry) : q.block.Complete where
  nonempty := List.length_pos_iff.mpr (Script.taken_ne_nil q.script 2)
  length_le := Script.length_taken_le q.script 3
  retried _ hr := Script.isRetryable_of_mem_dropLast hr
  settled hlt := by
    obtain ⟨last, hlast, hstop⟩ := Script.taken_of_length_lt hlt
    obtain rfl := Option.some.inj (q.getLast?_replies.symm.trans hlast)
    exact hstop

/-- The call for a method is its block. -/
theorem called_spec (hready : c.Ready url 3 1) (q : Inquiry) :
    (q.called c).value = .ok (Client.answerTo c.machine.console url q.block.last) ∧
      (q.called c).state = q.script.drop q.block.replies.length ∧
      q.traffic c = q.block.events c url := by
  obtain ⟨hvalue, hrest⟩ := Client.call_spec hready q.prompt q.script
  have htaken : q.script.taken (3 : Int).toNat = q.block.replies := rfl
  refine ⟨?_, hrest⟩
  rw [called, hvalue, Client.answerAfter, htaken, q.getLast?_replies]
  rfl

theorem state_handed (hready : c.Ready url 3 1) {q : Inquiry} (hname : q.method.name ≠ "") :
    (q.handed c).state = q.script.drop q.block.replies.length :=
  (handed_spec c hname).2.1.trans (called_spec hready q).2.1

theorem entry_eq (hready : c.Ready url 3 1) (q : Inquiry) :
    q.entry c = Block.entryOf c.machine.console url q.method.name q.block.last := by
  rw [entry, (called_spec hready q).1, Block.entryOf]

end Inquiry

namespace Service

/-- The replies that calls take follow each other in the script. The induction is on the methods:
what the first call leaves is the script of the others. -/
theorem replies_inquiries {c : Client} {url : String} (hready : c.Ready url 3 1)
    {tasks : List Task} (hnamed : ∀ t ∈ tasks, t.method.name ≠ "") (script : Script) :
    let replies := (inquiries c script tasks).flatMap (·.block.replies)
    replies = script.upcoming replies.length ∧
      scriptAfter c script tasks = script.drop replies.length := by
  induction tasks generalizing script with
  | nil => exact ⟨rfl, rfl⟩
  | cons t rest ih =>
    have hstate : (Inquiry.handed c ⟨t, script⟩).state =
        script.drop (Inquiry.block ⟨t, script⟩).replies.length :=
      Inquiry.state_handed hready (hnamed t List.mem_cons_self)
    have htaken : (Inquiry.block ⟨t, script⟩).replies = _ := Script.taken_eq_upcoming script 3
    obtain ⟨hmore, hafter⟩ := ih (fun u hu => hnamed u (List.mem_cons_of_mem _ hu))
      (script.drop (Inquiry.block ⟨t, script⟩).replies.length)
    dsimp only
    rw [inquiries, scriptAfter, hstate, List.flatMap_cons, List.length_append]
    constructor
    · rw [Script.upcoming_add, ← hmore]
      exact congrArg (· ++ _) htaken
    · rw [hafter, List.drop_drop]

/-- What a report has of a method about which no request could be sent. -/
def unsentEntry (e : Client.AddressError) (name : String) : MethodReport :=
  ⟨name, "Failed to generate documentation: Error: " ++ e.message⟩

theorem failedText_error (message : String) :
    Client.failedText ("Error: " ++ message) =
      "Failed to generate documentation: Error: " ++ message := by
  rw [Client.failedText, ← Text.append_assoc, ← Text.ofString_append]
  exact congrArg (· ++ Text.ofString message) (by decide)

theorem entry_of_url_eq_error {c : Client} {e : Client.AddressError} (hurl : c.url = .error e)
    (hretries : c.maxRetries = .int 3) (q : Inquiry) :
    q.entry c = unsentEntry e q.method.name := by
  have hstart : Text.startsWith ("Error: " ++ e.message) "Error:" = true := by
    rw [Text.startsWith_append_of_le e.message (by decide)]
    decide
  rw [Inquiry.entry, Inquiry.called, Client.run_call_of_url_eq_error hurl hretries, Client.told,
    Client.describe_of_error hstart, failedText_error]
  rfl

/-- Calls without an address leave the script as it is and send nothing. -/
theorem inquiries_unsent {c : Client} {e : Client.AddressError} (hurl : c.url = .error e)
    (hretries : c.maxRetries = .int 3) {tasks : List Task}
    (hnamed : ∀ t ∈ tasks, t.method.name ≠ "") (script : Script) :
    scriptAfter c script tasks = script ∧
      (inquiries c script tasks).flatMap (·.traffic c) = [] := by
  induction tasks with
  | nil => exact ⟨rfl, rfl⟩
  | cons t rest ih =>
    obtain ⟨hcalled, htraffic⟩ := Client.call_of_url_eq_error hurl hretries (.str t.prompt) script
    have hstate : (Inquiry.handed c ⟨t, script⟩).state = script := by
      obtain ⟨-, hhanded, -⟩ := Inquiry.handed_spec c (q := ⟨t, script⟩)
        (hnamed t List.mem_cons_self)
      exact hhanded.trans hcalled
    obtain ⟨hafter, hrest⟩ := ih fun u hu => hnamed u (List.mem_cons_of_mem _ hu)
    rw [scriptAfter, inquiries, hstate, List.flatMap_cons, hrest, List.append_nil]
    exact ⟨hafter, htraffic⟩

/-- What a run of the service has to do with its answer: all its traffic in blocks. -/
structure InBlocks (s : Service) (st : ServiceState) (run : Done ServiceState Web.Answer)
    (report : Report) (url : String) (blocks : List Block) : Prop where
  answer : run.value = .json 200 report.toJson
  /-- The answer can be read. -/
  reads : Report.ofJson? report.toJson = some report
  /-- The blocks belong to the methods of the report, in order, and the last reply of a block
  settles the text of its method. -/
  entries : report.entries =
    blocks.map fun b =>
      (b.path, b.language, Block.entryOf s.client.machine.console url b.method.name b.last)
  /-- They are about all methods that the files of the report give. -/
  methods : (report.files.flatMap fun f =>
      (s.workspace.methodsIn f.path).map fun m => (⟨f.path, f.language, m⟩ : Task)) =
    blocks.map (·.toTask)
  complete : ∀ b ∈ blocks, b.Complete
  /-- No request and no pause is outside of the blocks. -/
  traffic : Event.traffic run.events = blocks.flatMap (·.events s.client url)
  /-- The requests of a block put the template to the model, filled with the method. -/
  prompts : ∀ b ∈ blocks, (b.request s.client url).prompt? =
    some (Text.ofString (Prompt.filled b.language.tag b.method.name
      (b.method.docComment.getD "None") b.method.sourceCode))
  requests : Event.requests run.events =
    blocks.flatMap fun b => List.replicate b.replies.length (b.request s.client url)
  sleeps : Event.sleeps run.events = blocks.flatMap fun b => Event.sleeps (b.events s.client url)
  sleeps_sublist : ∀ b ∈ blocks,
    (Event.sleeps (b.events s.client url)).Sublist [.whole 1, .whole 2]
  /-- The blocks take the replies of the script, one after the other. -/
  replies : blocks.flatMap (·.replies) =
    st.script.upcoming (blocks.flatMap (·.replies)).length
  script : run.state.script = st.script.drop (blocks.flatMap (·.replies)).length

/-- The report of the agenda is about the methods of its files. -/
theorem methods_agenda (s : Service) (st : ServiceState) (visits : List Visit) :
    let jobs := agenda s.workspace (s.workspace.hasParser st.parsers) visits
    (((jobReports s.client jobs).run st.script).value.files.flatMap fun f =>
        (s.workspace.methodsIn f.path).map fun m => (⟨f.path, f.language, m⟩ : Task)) =
      jobs.flatMap Job.tasks := by
  intro jobs
  have htasks (j : Job) (hj : j ∈ jobs) :
      j.tasks =
        (s.workspace.methodsIn j.entry.path).map fun m => ⟨j.entry.path, j.language, m⟩ := by
    rw [Job.tasks, Workspace.methodsIn, ← outcome_of_mem_agenda hj]
  have hfiles := congrArg
    (List.flatMap fun p : Text × Language =>
      (s.workspace.methodsIn p.1).map fun m => (⟨p.1, p.2, m⟩ : Task))
    (files_jobReports s.client jobs st.script)
  rw [List.flatMap_map, List.flatMap_map] at hfiles
  rw [hfiles]
  exact (List.flatMap_congr htasks).symm

/-- Without an address, each method of the files of the report has the reason for its text. -/
theorem entries_unsent {s : Service} {e : Client.AddressError} (hurl : s.client.url = .error e)
    (hretries : s.client.maxRetries = .int 3) (st : ServiceState) (visits : List Visit) :
    let report := ((jobReports s.client
      (agenda s.workspace (s.workspace.hasParser st.parsers) visits)).run st.script).value
    report.entries = report.files.flatMap fun f =>
      (s.workspace.methodsIn f.path).map fun m => (f.path, f.language, unsentEntry e m.name) := by
  -- The methods of the files are those of the inquiries, and each inquiry has the same entry.
  have hsame : (s.inquiriesOf st visits).map (·.toTask) = _ := map_toTask_inquiries ..
  have hmethods := congrArg
    (List.map fun t : Task => (t.path, t.language, unsentEntry e t.method.name))
    ((methods_agenda s st visits).trans hsame.symm)
  rw [List.map_flatMap] at hmethods
  simp only [List.map_map] at hmethods
  refine (s.transcribes_agenda st visits).entries.trans (Eq.trans ?_ hmethods.symm)
  refine List.map_congr_left fun q _ => ?_
  rw [entry_of_url_eq_error hurl hretries]
  rfl

/-- The small service with half of a pair for a key. -/
def torn : Service := ⟨nested.workspace, { nested.client with key := .str ⟨[.half 0x480]⟩ }⟩

end Service

end Scribe
