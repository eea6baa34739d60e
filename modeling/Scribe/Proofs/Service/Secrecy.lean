import Scribe.Proofs.Service.Blocks
import Scribe.Proofs.Service.Refusals
import Scribe.Proofs.Service.Written
import Scribe.Proofs.Text.Percent

/-!
# When an answer tells the key

The key of the client stands in the address of every request. A client that gives up after a status
that stands for an error tells the address, and so the key, to whoever asked for the documentation.
After any other last reply the text of a method does not depend on the key. A key that cannot be
written is told in another way: where it has half of a pair, and which.

## Main results

* `Block.entryOf_congr`, `Block.entryOf_of_tells`: which entries depend on the address.
* `Service.swapped_jobReports`: how reports under two keys differ in their written form.
* `Service.answers_agree_iff`: when two keys are answered alike.
-/

namespace Scribe

/-- Whether giving up after a reply tells the address: its status stands for an error and the
request was not refused. -/
def Reply.tellsAddress : Reply → Bool
  | response x => 400 < x.status && x.status < 600
  | failure _ => false

namespace Client

variable {console : Console} {last : Reply}

theorem statusError?_of_tells {x : Response} (h : (Reply.response x).tellsAddress = true) :
    ∃ before : String, ∀ url : String, x.statusError? url = some (before ++ url) := by
  obtain ⟨hlow, hhigh⟩ : 400 < x.status ∧ x.status < 600 := by simpa [Reply.tellsAddress] using h
  by_cases hclient : x.status < 500
  · refine ⟨toString x.status ++ " " ++ "Client" ++ " Error: " ++ x.reason ++ " for url: ",
      fun url => ?_⟩
    rw [Response.statusError?, if_pos ⟨by omega, hclient⟩]
  · refine ⟨toString x.status ++ " " ++ "Server" ++ " Error: " ++ x.reason ++ " for url: ",
      fun url => ?_⟩
    rw [Response.statusError?, if_neg (by omega), if_pos ⟨by omega, hhigh⟩]

/-- After a reply that does not tell the address, the answer does not depend on it. -/
theorem answerTo_congr (h : last.tellsAddress = false) (url url' : String) :
    answerTo console url last = answerTo console url' last := by
  cases hrefusal : last.isRefusal with
  | true =>
    obtain ⟨text, hjudge⟩ := judge_of_refusal url hrefusal
    obtain ⟨text', hjudge'⟩ := judge_of_refusal url' hrefusal
    rw [answerTo, answerTo, hjudge, hjudge']
  | false =>
    have hyield : yieldOf url last.outcome = yieldOf url' last.outcome := by
      cases last with
      | failure f => rfl
      | response x =>
        have hstatus (url : String) : x.statusError? url = none := by
          have hno : (x.statusError? url).isSome = false := by
            rw [statusError?_isSome]
            simp only [Reply.tellsAddress, Reply.isRefusal] at h hrefusal
            grind
          simpa using hno
        rw [Reply.outcome, yieldOf, yieldOf, hstatus, hstatus]
    rw [answerTo, answerTo, judge_of_not_refusal url hrefusal, judge_of_not_refusal url' hrefusal,
      hyield]

/-- After any other reply, what is told of a method ends with the address. -/
theorem told_of_tells (h : last.tellsAddress = true) :
    ∃ before : Text, ∀ url : String,
      told (.ok (answerTo console url last)) = .ok (before ++ url) := by
  cases last with
  | failure f => cases h
  | response x =>
    obtain ⟨before, hstatus⟩ := statusError?_of_tells h
    have hrefusal : (Reply.response x).isRefusal = false := by
      simp only [Reply.tellsAddress, Reply.isRefusal] at h ⊢
      grind
    refine ⟨failedText ("Error: API request failed - " ++ before), fun url => ?_⟩
    have hanswer : answerTo console url (.response x) =
        .str ("Error: API request failed - " ++ Text.ofString (before ++ url)) := by
      rw [answerTo, judge_of_not_refusal url hrefusal, Reply.outcome, yieldOf, hstatus]
      rfl
    have herror : (("Error: API request failed - " : Text) ++
        Text.ofString (before ++ url)).startsWith "Error:" = true := by
      rw [Text.startsWith_append_of_le _ (by decide)]
      decide
    rw [hanswer, told, describe_of_error herror]
    simp [Except.mapError, failedText, Text.append_assoc, Text.ofString_append]

end Client

namespace Block

variable {console : Console} {last : Reply}

theorem entryOf_congr (h : last.tellsAddress = false) (name : String) (url url' : String) :
    entryOf console url name last = entryOf console url' name last := by
  rw [entryOf, entryOf, Client.answerTo_congr h url url']

/-- The text of a method ends with the address that it tells. -/
theorem entryOf_of_tells (h : last.tellsAddress = true) (name : String) :
    ∃ before : Text, ∀ url : String, entryOf console url name last = ⟨name, before ++ url⟩ := by
  obtain ⟨before, htold⟩ := Client.told_of_tells h
  refine ⟨before, fun url => ?_⟩
  rw [entryOf, htold, Client.textFor]

end Block

/-! ## Two keys -/

namespace Service

section Keys

variable {c c' : Client} {front value value' : String} (hready : c.Ready (front ++ value) 3 1)
  (hready' : c'.Ready (front ++ value') 3 1)

section Inquiries

include hready hready'

/-- What is handed over under one key is handed over under the other, with the same replies. -/
theorem inquiries_congr {tasks : List Task} (hnamed : ∀ t ∈ tasks, t.method.name ≠ "")
    (script : Script) :
    inquiries c script tasks = inquiries c' script tasks ∧
      scriptAfter c script tasks = scriptAfter c' script tasks := by
  induction tasks generalizing script with
  | nil => exact ⟨rfl, rfl⟩
  | cons t rest ih =>
    have hname := hnamed t List.mem_cons_self
    have hstate : (Inquiry.handed c ⟨t, script⟩).state = (Inquiry.handed c' ⟨t, script⟩).state := by
      rw [Inquiry.state_handed hready hname, Inquiry.state_handed hready' hname]
    obtain ⟨hinquiries, hafter⟩ := ih (fun u hu => hnamed u (List.mem_cons_of_mem _ hu))
      (Inquiry.handed c ⟨t, script⟩).state
    rw [inquiries, inquiries, scriptAfter, scriptAfter, ← hstate, hinquiries, hafter]
    exact ⟨rfl, rfl⟩

theorem dossiers_congr {jobs : List Job}
    (hnamed : ∀ t ∈ jobs.flatMap Job.tasks, t.method.name ≠ "") (script : Script) :
    dossiers c script jobs = dossiers c' script jobs := by
  induction jobs generalizing script with
  | nil => rfl
  | cons j rest ih =>
    rw [List.flatMap_cons, List.forall_mem_append] at hnamed
    obtain ⟨hinquiries, hafter⟩ := inquiries_congr hready hready' hnamed.1 script
    rw [dossiers, dossiers, hinquiries, hafter, ih hnamed.2]

end Inquiries

variable (hmachine : c'.machine = c.machine)

include hready hready' hmachine

/-- The text of an inquiry differs at most in the key that it ends with. -/
theorem swapped_entry (q : Inquiry) :
    Swapped (escaped value) (escaped value') (if q.block.last.tellsAddress then 1 else 0)
      (q.entry c).toJson.render.toList (q.entry c').toJson.render.toList := by
  rw [q.entry_eq hready, q.entry_eq hready', hmachine]
  split
  · rename_i htells
    obtain ⟨before, hentry⟩ := Block.entryOf_of_tells htells q.method.name
    have htext (value : String) : escaped (before ++ Text.ofString (front ++ value)) =
        escaped (before ++ front) ++ escaped value := by
      rw [Text.ofString_append, ← Text.append_assoc, escaped_append]
    rw [hentry, hentry, MethodReport.toList_render, MethodReport.toList_render, htext, htext]
    exact ((Swapped.swap.append_left _).append_right _).append_left _
  · rename_i htells
    rw [Block.entryOf_congr (by simpa using htells)]
    exact .same _

theorem isFailed_congr (q : Inquiry) : q.isFailed c = q.isFailed c' := by
  rw [Inquiry.isFailed, Inquiry.isFailed, (Inquiry.called_spec hready q).1,
    (Inquiry.called_spec hready' q).1, hmachine]
  cases htells : q.block.last.tellsAddress with
  | false => rw [Client.answerTo_congr htells]
  | true =>
    obtain ⟨before, htold⟩ := Client.told_of_tells htells
    rw [htold, htold]
    rfl

/-- So does the entry of a file, once for each of its methods that tells the address. -/
theorem swapped_file (path : Text) (l : Language) (qs : List Inquiry) :
    Swapped (escaped value) (escaped value') (qs.countP (·.block.last.tellsAddress))
      (FileReport.toJson ⟨path, l, qs.map (·.entry c)⟩).render.toList
      (FileReport.toJson ⟨path, l, qs.map (·.entry c')⟩).render.toList := by
  have hcount : qs.countP (·.block.last.tellsAddress) =
      (qs.map fun q => if q.block.last.tellsAddress then 1 else 0).sum := by
    rw [List.sum_map_ite, List.countP_eq_length_filter]
    simp
  rw [hcount, FileReport.toList_render, FileReport.toList_render, List.map_map, List.map_map]
  refine (((((Swapped.intercalate _ fun q _ => ?_).append_right _).append_left _).append_left
    _).append_left _ |>.append_left _).append_left _
  exact swapped_entry hready hready' hmachine q

/-- The written reports under two keys differ in as many places as there are methods that tell the
address. -/
theorem swapped_jobReports {jobs : List Job}
    (hnamed : ∀ j ∈ jobs, ∀ m ∈ j.entry.methods, m.name ≠ "") (script : Script) :
    Swapped (escaped value) (escaped value')
      ((inquiries c script (jobs.flatMap Job.tasks)).countP (·.block.last.tellsAddress))
      ((jobReports c jobs).run script).value.toJson.render.toList
      ((jobReports c' jobs).run script).value.toJson.render.toList := by
  have htasks := named_flatMap_tasks hnamed
  have hfiles := files_eq_map_dossiers c hnamed script
  have hfiles' := files_eq_map_dossiers c' hnamed script
  rw [← dossiers_congr hready hready' htasks] at hfiles'
  have hstats : ((jobReports c jobs).run script).value.stats =
      ((jobReports c' jobs).run script).value.stats := by
    have htranscript := transcribes_jobReports c hnamed script
    have htranscript' := transcribes_jobReports c' hnamed script
    have hinquiries := (inquiries_congr hready hready' htasks script).1
    have hfailed := isFailed_congr hready hready' hmachine
    ext1
    · rw [htranscript.processed, htranscript'.processed, hinquiries]
      exact List.countP_congr fun q _ => by rw [hfailed]
    · rw [htranscript.failed, htranscript'.failed, hinquiries]
      exact List.countP_congr fun q _ => by rw [hfailed]
  rw [Report.toList_render, Report.toList_render, hstats, hfiles, hfiles', List.map_map,
    List.map_map, ← flatMap_dossiers, List.countP_flatMap]
  refine (Swapped.append_right _ (Swapped.intercalate _ fun d _ => ?_)).append_left _
  exact swapped_file hready hready' hmachine d.1.entry.path d.1.language d.2

end Keys

/-! ## Answers -/

theorem lineRefusal?_congr (w : Workspace) {c c' : Client} (hmachine : c'.machine = c.machine)
    (directory : Text) : lineRefusal? ⟨w, c'⟩ directory = lineRefusal? ⟨w, c⟩ directory := by
  rw [lineRefusal?, lineRefusal?, hmachine]

theorem admitted?_congr (w : Workspace) {c c' : Client} (hmachine : c'.machine = c.machine)
    (r : Web.Request) : admitted? ⟨w, c'⟩ r = admitted? ⟨w, c⟩ r := by
  simp only [admitted?, lineRefusal?_congr w hmachine]
  rfl

/-- A request for nothing that there is, is answered without the client. -/
theorem run_process_congr {w : Workspace} {c c' : Client} (hmachine : c'.machine = c.machine)
    {r : Web.Request}
    (h : ∀ given, admitted? ⟨w, c⟩ r = some given → w.volume.holds (root ⟨w, c⟩ given) = false)
    (st : ServiceState) : (process ⟨w, c⟩ r).run st = (process ⟨w, c'⟩ r).run st := by
  cases hasked : asked? r with
  | none => rw [process_of_not_asked hasked, process_of_not_asked hasked]
  | some given =>
    have hsame := lineRefusal?_congr w hmachine (root ⟨w, c'⟩ given)
    rw [process_of_asked hasked, process_of_asked hasked]
    cases hline : lineRefusal? ⟨w, c⟩ (root ⟨w, c⟩ given) with
    | some message =>
      rw [run_document_of_lineRefusal hline, run_document_of_lineRefusal (hsame.trans hline)]
    | none =>
      have hholds := h given (admitted?_eq_some_iff.mpr ⟨hasked, hline⟩)
      have hholds' : w.volume.holds (root ⟨w, c'⟩ given) = false := hholds
      rw [run_document_of_not_holds hline hholds,
        run_document_of_not_holds (hsame.trans hline) hholds']
      rfl

theorem escapeChar_of_isUnreserved {c : Char} (h : Text.isUnreserved c = true) :
    Json.escapeChar c = [c] := by
  obtain ⟨hlow, hhigh, hslash⟩ := Text.toNat_of_isUnreserved h
  have hne (d : Char) (hd : d.toNat < 0x2d ∨ d.toNat = 0x5c) : c ≠ d := by
    rintro rfl
    omega
  have hquote := hne '"' (by decide)
  have hback := hne '\\' (by decide)
  have hfeed := hne '\n' (by decide)
  have hreturn := hne '\r' (by decide)
  have htab := hne '\t' (by decide)
  have hprinted : (decide (0x20 ≤ c.toNat) && decide (c.toNat < 0x7f)) = true := by
    rw [Bool.and_eq_true, decide_eq_true_eq, decide_eq_true_eq]
    omega
  rw [Json.escapeChar, if_neg (by simp [hquote, hback]), if_neg hfeed, if_neg hreturn, if_neg htab,
    if_neg (by omega), if_neg (by omega), if_pos hprinted]

/-- A value of a query parameter stands in an answer as it is. -/
theorem escaped_formBytes (bytes : Bytes) :
    escaped (.ofString (String.ofList (bytes.flatMap Text.formByte))) =
      bytes.flatMap Text.formByte := by
  have hplain : ∀ c ∈ bytes.flatMap Text.formByte, Json.escapeChar c = [c] := by
    intro c hc
    obtain ⟨b, -, hc⟩ := List.mem_flatMap.mp hc
    obtain rfl | rfl | hunreserved := Text.mem_formByte hc
    · decide
    · decide
    · exact escapeChar_of_isUnreserved hunreserved
  rw [escaped, Text.ofString, String.toList_ofList, Text.ofList, List.flatMap_map]
  exact (List.flatMap_congr hplain).trans (List.flatMap_singleton' _)

/-- No two keys stand in an answer in the same way. -/
theorem escaped_eq_iff {key key' : Text} {value value' : String} (hkey : key.hasHalf = false)
    (hkey' : key'.hasHalf = false) (hvalue : Text.formEncode key = .ok value)
    (hvalue' : Text.formEncode key' = .ok value') :
    escaped value = escaped value' ↔ key = key' := by
  obtain ⟨key, rfl⟩ := Utf8.exists_ofString_of_not_hasHalf hkey
  obtain ⟨key', rfl⟩ := Utf8.exists_ofString_of_not_hasHalf hkey'
  constructor
  · intro heq
    rw [Text.formEncode_ofString] at hvalue hvalue'
    obtain rfl := Except.ok.inj hvalue
    obtain rfl := Except.ok.inj hvalue'
    rw [escaped_formBytes, escaped_formBytes] at heq
    have hsame : Text.formEncode (.ofString key) = Text.formEncode (.ofString key') := by
      rw [Text.formEncode_ofString, Text.formEncode_ofString, heq]
    rw [Text.formEncode_inj hsame]
  · intro heq
    rw [Except.ok.inj (hvalue.symm.trans (heq ▸ hvalue'))]

/-- Reports under two keys are written alike exactly if the keys are the same, or if no method had a
last reply that tells the address. -/
theorem jobReports_agree_iff {c c' : Client} {key key' : Text} {machine : Machine}
    (hc : Client.create {} (some key) machine = .ok c)
    (hc' : Client.create {} (some key') machine = .ok c')
    (hkey : key.hasHalf = false) (hkey' : key'.hasHalf = false) {jobs : List Job}
    (hnamed : ∀ j ∈ jobs, ∀ m ∈ j.entry.methods, m.name ≠ "") (script : Script) :
    ((jobReports c jobs).run script).value.toJson.render.toList =
        ((jobReports c' jobs).run script).value.toJson.render.toList ↔
      key = key' ∨
        ∀ q ∈ inquiries c script (jobs.flatMap Job.tasks), q.block.last.tellsAddress = false := by
  have hmachine : c'.machine = c.machine :=
    (Client.machine_of_create hc').trans (Client.machine_of_create hc).symm
  obtain ⟨value, hencoded, hready⟩ := Client.ready_address_of_create hc hkey
  obtain ⟨value', hencoded', hready'⟩ := Client.ready_address_of_create hc' hkey'
  have hswapped := swapped_jobReports hready hready' hmachine hnamed script
  rw [hswapped.eq_iff, escaped_eq_iff hkey hkey' hencoded hencoded', List.countP_eq_zero]
  simp

/-- Under a key that cannot be written, every text of a report tells why. -/
theorem documentation_of_write_eq_error {c : Client} {key : Text} {machine : Machine}
    {e : Utf8.LoneHalves} (hc : Client.create {} (some key) machine = .ok c)
    (hwrite : Utf8.write key = .error e)
    {jobs : List Job} (hnamed : ∀ j ∈ jobs, ∀ m ∈ j.entry.methods, m.name ≠ "") (script : Script) :
    ∀ f ∈ ((jobReports c jobs).run script).value.files, ∀ m ∈ f.methods,
      m.documentation = Client.failedText ("Error: " ++ e.message) := by
  intro f hf m hm
  have hretries := Client.maxRetries_of_create hc
  have hurl := Client.url_of_write_eq_error (Client.key_of_create hc) hwrite
  have hmem := Report.mem_entries hf hm
  rw [(transcribes_jobReports c hnamed script).entries] at hmem
  obtain ⟨q, -, heq⟩ := List.mem_map.mp hmem
  obtain rfl : q.entry c = m := congrArg (·.2.2) heq
  rw [entry_of_url_eq_error hurl hretries, unsentEntry, failedText_error]
  rfl

/-- Two keys are answered with the same status. The bodies are the same exactly if so are the keys,
or if no method had a last reply that tells the address. Under a key that cannot be written, every
text tells why. -/
theorem answers_agree_iff {w : Workspace} {c c' : Client} {key key' : Text} {machine : Machine}
    (hc : Client.create {} (some key) machine = .ok c)
    (hc' : Client.create {} (some key') machine = .ok c')
    (r : Web.Request) (st : ServiceState) :
    let work := (process ⟨w, c⟩ r).run st
    let work' := (process ⟨w, c'⟩ r).run st
    work.value.status = work'.value.status ∧
    (key.hasHalf = false → key'.hasHalf = false →
      (work.value.body = work'.value.body ↔
        key = key' ∨ ∀ q ∈ inquiriesFor ⟨w, c⟩ r st, q.block.last.tellsAddress = false)) ∧
    (∀ e, Utf8.write key = .error e → work.value.status = 200 →
      ∃ report : Report, work.value = .json 200 report.toJson ∧
        ∀ f ∈ report.files, ∀ m ∈ f.methods,
          m.documentation = Client.failedText ("Error: " ++ e.message)) := by
  intro work work'
  have hmachine : c'.machine = c.machine :=
    (Client.machine_of_create hc').trans (Client.machine_of_create hc).symm
  by_cases hasks : ∃ given, admitted? ⟨w, c⟩ r = some given ∧
      w.volume.holds (root ⟨w, c⟩ given) = true
  · obtain ⟨given, hadmitted, hholds⟩ := hasks
    have hadmitted' := (admitted?_congr w hmachine r).trans hadmitted
    obtain ⟨visits, hwalk, hvalue, -, -⟩ := process_answered hadmitted hholds st
    obtain ⟨visits', hwalk', hvalue', -, -⟩ := process_answered hadmitted' hholds st
    obtain rfl : visits = visits' := Except.ok.inj (hwalk.symm.trans hwalk')
    have hnamed : ∀ j ∈ agenda w (w.hasParser st.parsers) visits, ∀ m ∈ j.entry.methods,
        m.name ≠ "" := fun _ hj => named_of_mem_agenda hj
    refine ⟨?_, fun hkey hkey' => ?_, fun e hwrite _ => ⟨_, hvalue, ?_⟩⟩
    · simp only [work, work', hvalue, hvalue', Web.Answer.status_json]
    · simp only [work, work', hvalue, hvalue']
      rw [Web.Answer.body_json_inj, jobReports_agree_iff hc hc' hkey hkey' hnamed,
        inquiriesFor_of_admitted hadmitted hwalk, inquiriesOf]
    · exact documentation_of_write_eq_error hc hwrite hnamed st.script
  · have hnot : ∀ given, admitted? ⟨w, c⟩ r = some given →
        w.volume.holds (root ⟨w, c⟩ given) = false := by
      intro given hadmitted
      by_contra hholds
      exact hasks ⟨given, hadmitted, by simpa using hholds⟩
    have hsame : work = work' := run_process_congr hmachine hnot st
    refine ⟨by rw [hsame], fun _ _ => ?_, fun _ _ hstatus => ?_⟩
    · rw [hsame, inquiriesFor_eq_nil hnot]
      simp
    · exact absurd (admitted_of_status hstatus) hasks

/-- A reply of a service that is out of order. -/
def brokenReply : Reply := .response ⟨500, "Internal Server Error", ""⟩

/-- The client of the small service under some key. -/
def clientOf (key : Text) : Client :=
  ⟨.str key, .str "gemini-2.0-flash", .int 1000, .int 3, .int 1, .keeping⟩

/-- Two keys are answered alike if the model answers, and told apart if it is out of order. -/
theorem nested_agree :
    let body (key : Text) (script : Script) : String :=
      ((process ⟨nested.workspace, clientOf key⟩ requestHere).run ⟨.fresh, script⟩).value.body
    body "k" [answerReply, answerReply, answerReply] =
        body "l" [answerReply, answerReply, answerReply] ∧
      body "k" [brokenReply, brokenReply, brokenReply] ≠
        body "l" [brokenReply, brokenReply, brokenReply] := by
  have hk : Client.create {} (some ("k" : Text)) .keeping = .ok (clientOf "k") :=
    Client.create_eq_ok_iff.mpr ⟨by decide, rfl⟩
  have hl : Client.create {} (some ("l" : Text)) .keeping = .ok (clientOf "l") :=
    Client.create_eq_ok_iff.mpr ⟨by decide, rfl⟩
  have hiff (script : Script) := (answers_agree_iff (w := nested.workspace) hk hl requestHere
    ⟨.fresh, script⟩).2.1 (by decide) (by decide)
  constructor
  · exact (hiff _).mpr (.inr (by decide +kernel))
  · intro hsame
    obtain hkeys | hquiet := (hiff _).mp hsame
    · exact absurd hkeys (by decide)
    · exact absurd hquiet (by decide +kernel)

end Service

end Scribe
