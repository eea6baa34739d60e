import Scribe.Proofs.Files.Walk
import Scribe.Proofs.Generator.Reading
import Scribe.Web.JavaDocs

/-!
# How a Java server accounts for files and replies

A server meets the Java files of a walk one after the other. For a file that can be read, a server
with a key that can be sent sends one request and takes the next reply; for any other file, and
without such a key, nothing is sent and no reply taken. So the replies stay paired with the files
that can be read, whatever the replies are and wherever the other files stand.

## Main results

* `JavaServer.run_entry`: what is made of one file.
* `JavaServer.run_entriesOf`: what is made of many, by induction.
* `JavaServer.repository_accounts`: the account of a directory.
-/

namespace Scribe

/-- Whether a text has only characters from `!` to `~`. -/
def Text.isVisible (t : Text) : Bool :=
  t.symbols.all (·.satisfies fun c => 0x21 ≤ c.toNat && c.toNat ≤ 0x7e)

theorem isHeaderValue_of_not_mem {t : Text} (hfeed : .char '\n' ∉ t.symbols)
    (hreturn : .char '\r' ∉ t.symbols) : isHeaderValue t = true := by
  have hlast : t.symbols.getLast? ≠ some (.char '\n') :=
    fun h => hfeed (List.mem_of_getLast? h)
  simp [isHeaderValue, hlast, hfeed, hreturn]

/-- A visible key can be sent in a header. -/
theorem isHeaderValue_bearer {key : Text} (h : key.isVisible = true) :
    isHeaderValue ("Bearer " ++ key) = true := by
  have hkey (c : Char) (hc : c.toNat < 0x21) : .char c ∉ key.symbols := by
    intro hmem
    have := List.all_eq_true.mp h _ hmem
    simp only [Symbol.satisfies, Bool.and_eq_true, decide_eq_true_eq] at this
    omega
  apply isHeaderValue_of_not_mem
  · rw [Text.symbols_append, List.mem_append, not_or]
    exact ⟨by decide, hkey '\n' (by decide)⟩
  · rw [Text.symbols_append, List.mem_append, not_or]
    exact ⟨by decide, hkey '\r' (by decide)⟩

/-- A Java file as a server meets it. -/
structure JavaFile where
  path : Text
  content : Except TextError String
  /-- The reply that was taken for the file. -/
  reply : Option Reply

namespace JavaFile

/-- Whether the file could be read. -/
def isRead (f : JavaFile) : Bool := f.content.toBool

/-- The replies that were taken for some files. -/
def replies (files : List JavaFile) : List Reply := files.flatMap (·.reply.toList)

theorem replies_cons (f : JavaFile) (rest : List JavaFile) :
    replies (f :: rest) = f.reply.toList ++ replies rest := rfl

theorem exists_content {f : JavaFile} (h : f.isRead = true) :
    ∃ content, f.content = .ok content := by
  rw [isRead] at h
  cases hcontent : f.content with
  | ok content => exact ⟨content, rfl⟩
  | error e => simp [hcontent, Except.toBool] at h

end JavaFile

namespace JavaServer

/-- Whether the key of a server has a place in a header. -/
def fitsHeader (s : JavaServer) : Bool :=
  (s.key.obstacle? .literal).isNone && isHeaderValue ("Bearer " ++ s.key.display)

/-- Whether a server has a key that can be sent. -/
def canSend (s : JavaServer) : Bool :=
  s.key.isTruthy && (s.provider.keyInAddress || s.fitsHeader)

theorem sends_of_canSend {s : JavaServer} (h : s.canSend = true) : s.Sends := by
  rw [canSend, Bool.and_eq_true, Bool.or_eq_true] at h
  obtain ⟨hkey, hfits⟩ := h
  have hheader (haddress : s.provider.keyInAddress = false) : s.fitsHeader = true :=
    hfits.resolve_left (by rw [haddress]; exact Bool.false_ne_true)
  simp only [fitsHeader, Bool.and_eq_true, Option.isNone_iff_eq_none] at hheader
  exact ⟨hkey, fun haddress => (hheader haddress).1, fun haddress => (hheader haddress).2⟩

/-- A visible key can be sent by every server. -/
theorem canSend_of_isVisible {s : JavaServer} {key : Text} (hkey : s.key = .str key)
    (hsome : key.isEmpty = false) (hvisible : key.isVisible = true) : s.canSend = true := by
  have hheader := isHeaderValue_bearer hvisible
  have hfits : s.fitsHeader = true := by
    rw [fitsHeader, hkey, Json.display_str, hheader]
    rfl
  rw [canSend, hkey, Json.isTruthy, hsome, hfits, Bool.or_true]
  rfl

/-- What a server that cannot send says of any content. -/
def unsent (s : JavaServer) : Json :=
  if s.key.isTruthy then
    match s.key.obstacle? .literal with
    | some o => .str ("Unexpected error: " ++ o.message .literal)
    | none =>
      .str ("Error making API request: " ++
        (Failure.badHeader ("Bearer " ++ s.key.display)).message)
  else .str "Error: API key not configured"

/-- The address that a server sends to. -/
def url (s : JavaServer) : String := Text.tidyAddress (s.provider.address s.startKey)

/-- What a server says of a content after a reply to its request, if it sent one. -/
def answerTo (s : JavaServer) : Option Reply → Json
  | some r => judge s.provider s.url r.outcome
  | none => s.unsent

/-- The entry of a file. -/
def entryOf (s : JavaServer) (f : JavaFile) : JavaEntry :=
  ⟨f.path,
    match f.content with
    | .error e => .error e.message
    | .ok _ =>
      if (s.answerTo f.reply).isTruthy then .ok (s.answerTo f.reply)
      else .error "Failed to generate documentation."⟩

/-- The requests that are sent for a file. -/
def requestsFor (s : JavaServer) (f : JavaFile) : List Request :=
  match f.content, f.reply with
  | .ok content, some _ => [s.request (.str content)]
  | _, _ => []

/-- The file at a path, met when some replies are still to come. -/
def fileAt (s : JavaServer) (v : Volume) (script : Script) (path : Text) : JavaFile :=
  ⟨path, v.readText path,
    if s.canSend && (v.readText path).toBool then some script.next else none⟩

/-- The files at some paths, met one after the other. -/
def filesAt (s : JavaServer) (v : Volume) : Script → List Text → List JavaFile
  | _, [] => []
  | script, path :: rest =>
    let f := s.fileAt v script path
    f :: s.filesAt v (script.drop f.reply.toList.length) rest

variable {s : JavaServer} {v : Volume} {f : JavaFile}

theorem run_document_of_not_canSend (h : s.canSend = false) {content : Json}
    (hcontent : content.obstacle? .literal = none) (script : Script) :
    (s.document content).run script = ⟨s.unsent, script, []⟩ := by
  cases hkey : s.key.isTruthy with
  | false => simp [document, unsent, hkey]
  | true =>
    obtain ⟨haddress, hfits⟩ : s.provider.keyInAddress = false ∧ s.fitsHeader = false := by
      simpa [canSend, hkey] using h
    have htold : Prompt.obstacle? (s.told content) = s.key.obstacle? .literal := by
      cases hshown : s.key.obstacle? .literal <;>
        simp [Prompt.obstacle?, told, haddress, hcontent, hshown]
    cases hshown : s.key.obstacle? .literal with
    | some o => simp [document, unsent, hkey, htold, hshown]
    | none =>
      have hheader : isHeaderValue ("Bearer " ++ s.key.display) = false := by
        simpa [fitsHeader, hshown] using hfits
      have hfilter : (s.request content).authorization.filter
          (fun value => !isHeaderValue value) = some ("Bearer " ++ s.key.display) := by
        simp [request, Request.post, haddress, Option.filter, hheader]
      have hsend : (send (s.request content)).run script =
          ⟨.error (.badHeader ("Bearer " ++ s.key.display)), script, []⟩ := by
        simp only [Work.run, send, hfilter]
      simp [document, unsent, hkey, htold, hshown, hsend, judge, yieldOf, Failure.badHeader,
        FailureKind.ofExchange, Failure.message]

/-- One step: what is made of one file. -/
theorem run_entry (s : JavaServer) (v : Volume) (path : Text) (script : Script) :
    (s.entry v path).run script =
      let f := s.fileAt v script path
      ⟨s.entryOf f, script.drop f.reply.toList.length, (s.requestsFor f).map .sent⟩ := by
  cases hread : v.readText path with
  | error e =>
    simp [entry, fileAt, hread, Except.toBool, entryOf, requestsFor]
  | ok content =>
    cases hsend : s.canSend with
    | false =>
      have hdocument := run_document_of_not_canSend hsend (Json.obstacle?_str _ content) script
      simp [entry, fileAt, hread, hsend, Except.toBool, entryOf, requestsFor, answerTo, hdocument]
    | true =>
      have hdocument := run_document (sends_of_canSend hsend) (Json.obstacle?_str _ content) script
      simp [entry, fileAt, hread, hsend, Except.toBool, entryOf, requestsFor, answerTo, hdocument,
        url, request, Request.post]

/-- The run over many files. The induction is on the paths; each file leaves to the rest the
replies that it has not taken. -/
theorem run_entriesOf (s : JavaServer) (v : Volume) (paths : List Text) (script : Script) :
    (s.entriesOf v paths).run script =
      let files := s.filesAt v script paths
      ⟨files.map s.entryOf, script.drop (JavaFile.replies files).length,
        (files.flatMap s.requestsFor).map .sent⟩ := by
  induction paths generalizing script with
  | nil => simp [entriesOf, filesAt, JavaFile.replies]
  | cons path rest ih =>
    simp [entriesOf, filesAt, JavaFile.replies, run_entry, ih, List.drop_drop]

theorem path_filesAt (s : JavaServer) (v : Volume) (script : Script) (paths : List Text) :
    (s.filesAt v script paths).map JavaFile.path = paths := by
  induction paths generalizing script with
  | nil => rfl
  | cons path rest ih => simp [filesAt, ih, fileAt]

/-- What is known of each file: its content, and whether a reply was taken for it. -/
theorem mem_filesAt {script : Script} {paths : List Text} (h : f ∈ s.filesAt v script paths) :
    f.content = v.readText f.path ∧ f.reply.isSome = (s.canSend && f.isRead) := by
  induction paths generalizing script with
  | nil => cases h
  | cons path rest ih =>
    rw [filesAt, List.mem_cons] at h
    obtain rfl | h := h
    · refine ⟨rfl, ?_⟩
      rw [fileAt, JavaFile.isRead]
      split <;> simp_all
    · exact ih h

/-- The replies are taken in order, and none is left out. -/
theorem replies_filesAt (s : JavaServer) (v : Volume) (script : Script) (paths : List Text) :
    JavaFile.replies (s.filesAt v script paths) =
      script.upcoming (JavaFile.replies (s.filesAt v script paths)).length := by
  induction paths generalizing script with
  | nil => rfl
  | cons path rest ih =>
    have htaken : (s.fileAt v script path).reply.toList =
        script.upcoming (s.fileAt v script path).reply.toList.length := by
      rw [fileAt]
      split <;> rfl
    rw [filesAt, JavaFile.replies_cons, List.length_append, Script.upcoming_add, ← htaken, ← ih]

/-- An entry has a documentation that counts as something or an error, and not both. -/
theorem toJson_entryOf (s : JavaServer) (f : JavaFile) :
    (∃ documentation : Json, documentation.isTruthy = true ∧ (s.entryOf f).toJson =
      .obj [("file_path", .str f.path), ("documentation", documentation)]) ∨
    ∃ message : Text, (s.entryOf f).toJson =
      .obj [("file_path", .str f.path), ("error", .str message)] := by
  rw [entryOf]
  cases f.content with
  | error e => exact .inr ⟨_, rfl⟩
  | ok content =>
    cases hanswer : (s.answerTo f.reply).isTruthy with
    | true => exact .inl ⟨_, hanswer, by simp [JavaEntry.toJson]⟩
    | false => exact .inr ⟨"Failed to generate documentation.", by simp [JavaEntry.toJson]⟩

/-- A directory whose walk is known. -/
theorem run_repository {path : Text} {visits : List Visit} (h : v.walk path = .ok visits)
    (s : JavaServer) (script : Script) :
    (s.repository v (.str path)).run script =
      let files := s.filesAt v script (javaPaths visits)
      ⟨.ok (files.map s.entryOf), script.drop (JavaFile.replies files).length,
        (files.flatMap s.requestsFor).map .sent⟩ := by
  have hplace : (Json.str path).asPath = .ok path := rfl
  simp [repository, hplace, h, run_entriesOf]

/-! ## With a key that can be sent -/

section Files

variable (files : List JavaFile)

/-- If a reply was taken for exactly the files that could be read, these have the replies in
order. -/
theorem map_reply_filter (h : ∀ f ∈ files, f.reply.isSome = f.isRead) :
    (files.filter JavaFile.isRead).map JavaFile.reply = (JavaFile.replies files).map some := by
  induction files with
  | nil => rfl
  | cons f rest ih =>
    have hf := h f List.mem_cons_self
    have hrest := ih fun g hg => h g (List.mem_cons_of_mem _ hg)
    rw [JavaFile.replies_cons, List.map_append, ← hrest]
    cases hreply : f.reply with
    | none =>
      rw [hreply] at hf
      simp [← hf]
    | some r =>
      rw [hreply] at hf
      simp [← hf, hreply]

/-- For the files that could be read one request each was sent, in order. -/
theorem flatMap_requestsFor (s : JavaServer) (h : ∀ f ∈ files, f.reply.isSome = f.isRead) :
    files.flatMap s.requestsFor =
      (files.filterMap (·.content.toOption)).map fun content : String =>
        s.request (.str content) := by
  induction files with
  | nil => rfl
  | cons f rest ih =>
    have hf := h f List.mem_cons_self
    have hrest := ih fun g hg => h g (List.mem_cons_of_mem _ hg)
    rw [List.flatMap_cons, hrest]
    obtain ⟨path, content | content, reply | reply⟩ := f <;>
      simp_all [requestsFor, JavaFile.isRead, Except.toBool, Except.toOption]

end Files

variable {script : Script} {paths : List Text}

theorem isSome_reply (hsend : s.canSend = true) (hf : f ∈ s.filesAt v script paths) :
    f.reply.isSome = f.isRead := by
  rw [(mem_filesAt hf).2, hsend, Bool.true_and]

/-- As many replies are taken as files can be read. -/
theorem length_replies_filesAt (hsend : s.canSend = true) :
    (JavaFile.replies (s.filesAt v script paths)).length =
      ((s.filesAt v script paths).filter JavaFile.isRead).length := by
  have hreplies := map_reply_filter (s.filesAt v script paths) fun _ => isSome_reply hsend
  simpa using (congrArg List.length hreplies).symm

/-- The replies stay paired with the files that can be read. -/
theorem reply_of_isRead (hsend : s.canSend = true) {j : Nat}
    (hj : ((s.filesAt v script paths).filter JavaFile.isRead)[j]? = some f) :
    f.reply = some (script.replyAt j) := by
  have hreplies := map_reply_filter (s.filesAt v script paths) fun _ => isSome_reply hsend
  have hlt : j < (JavaFile.replies (s.filesAt v script paths)).length := by
    rw [length_replies_filesAt hsend]
    exact (List.getElem?_eq_some_iff.mp hj).1
  have hreply := congrArg (·[j]?) hreplies
  rw [replies_filesAt, Script.upcoming_eq_map] at hreply
  simpa [hj, hlt] using hreply

/-! ## Without one -/

theorem reply_eq_none (hnever : (s.canSend && f.isRead) = false)
    (hf : f ∈ s.filesAt v script paths) : f.reply = none := by
  have hreply := (mem_filesAt hf).2
  rw [hnever] at hreply
  simpa using hreply

theorem replies_eq_nil (hsend : s.canSend = false) :
    JavaFile.replies (s.filesAt v script paths) = [] := by
  rw [JavaFile.replies, List.flatMap_eq_nil_iff]
  intro f hf
  rw [reply_eq_none (by rw [hsend, Bool.false_and]) hf]
  rfl

theorem requests_eq_nil (hsend : s.canSend = false) :
    (s.filesAt v script paths).flatMap s.requestsFor = [] := by
  rw [List.flatMap_eq_nil_iff]
  intro f hf
  rw [requestsFor, reply_eq_none (by rw [hsend, Bool.false_and]) hf]
  cases f.content <;> rfl

theorem entryOf_of_no_key (hkey : s.key.isTruthy = false) (hread : f.isRead = true)
    (hreply : f.reply = none) :
    s.entryOf f = ⟨f.path, .ok (.str "Error: API key not configured")⟩ := by
  have hanswer : s.answerTo f.reply = .str "Error: API key not configured" := by
    rw [hreply, answerTo, unsent, hkey]
    rfl
  have htruthy : (Json.str "Error: API key not configured").isTruthy = true := by decide
  obtain ⟨content, hcontent⟩ := JavaFile.exists_content hread
  simp only [entryOf, hcontent, hanswer, htruthy, if_true]

/-! ## Directories -/

/-- Every directory that can be named on a disk is accounted for. Its Java files have one entry
each, in the order of the walk, with a documentation or an error. With a key, one request is sent
for each file that can be read, and the entry of the `j`-th such file is that of the `j`-th reply;
for any other file nothing is sent or taken. Without a key nothing is sent for any file, and the
documentation says so. -/
theorem repository_accounts {key path : Text} {bytes : Bytes} (hkey : s.key = .str key)
    (hvisible : key.isVisible = true) (hv : v.WellFormed) (hnul : Path.hasNul path = false)
    (hwritten : Utf8.writeLoose path = .ok bytes) (script : Script) :
    let done := (s.repository v (.str path)).run script
    ∃ (visits : List Visit) (files : List JavaFile),
      v.walk path = .ok visits ∧
      done.value = .ok (files.map s.entryOf) ∧
      files.map JavaFile.path = javaPaths visits ∧ (javaPaths visits).Nodup ∧
      (∀ f ∈ files, f.content = v.readText f.path) ∧
      (∀ f ∈ files,
        (∃ documentation : Json, documentation.isTruthy = true ∧ (s.entryOf f).toJson =
          .obj [("file_path", .str f.path), ("documentation", documentation)]) ∨
        ∃ message : Text, (s.entryOf f).toJson =
          .obj [("file_path", .str f.path), ("error", .str message)]) ∧
      (∀ f ∈ files, f.isRead = false → f.reply = none) ∧
      (key.isEmpty = false →
        (∀ j f, (files.filter JavaFile.isRead)[j]? = some f →
          f.reply = some (script.replyAt j)) ∧
        done.events = (files.filterMap (·.content.toOption)).map
          (fun content : String => .sent (s.request (.str content))) ∧
        done.state = script.drop (files.filter JavaFile.isRead).length) ∧
      (key.isEmpty = true →
        (∀ f ∈ files, f.isRead = true →
          s.entryOf f = ⟨f.path, .ok (.str "Error: API key not configured")⟩) ∧
        done.events = [] ∧ done.state = script) := by
  intro done
  obtain ⟨visits, hwalk⟩ := v.exists_walk hnul hwritten
  have hdone : done = _ := run_repository hwalk s script
  have htruthy : s.key.isTruthy = !key.isEmpty := by rw [hkey, Json.isTruthy]
  refine ⟨visits, s.filesAt v script (javaPaths visits), hwalk, by rw [hdone],
    path_filesAt s v script _, Volume.nodup_paths_walk hv hwalk isJavaName,
    fun f hf => (mem_filesAt hf).1, fun f _ => s.toJson_entryOf f,
    fun f hf hread => reply_eq_none (by rw [hread, Bool.and_false]) hf,
    fun hsome => ?_, fun hnone => ?_⟩
  · have hsend := canSend_of_isVisible hkey hsome hvisible
    refine ⟨fun j f => reply_of_isRead hsend, ?_, ?_⟩
    · have hrequests := flatMap_requestsFor (s.filesAt v script (javaPaths visits)) s
        fun _ => isSome_reply hsend
      simp [hdone, hrequests]
    · simp [hdone, length_replies_filesAt hsend]
  · have hkey' : s.key.isTruthy = false := by rw [htruthy, hnone]; rfl
    have hsend : s.canSend = false := by rw [canSend, hkey', Bool.false_and]
    refine ⟨fun f hf hread => entryOf_of_no_key hkey' hread ?_, ?_, ?_⟩
    · exact reply_eq_none (by rw [hsend, Bool.false_and]) hf
    · simp [hdone, requests_eq_nil hsend]
    · simp [hdone, replies_eq_nil hsend]

/-- A folder with two files that can be read and one that cannot, next to one that is no Java. -/
def mixed : Volume :=
  ⟨[("w", .folder
    [("A.java", .file [97]), ("B.java", .file [255]), ("notes", .file []),
      ("sub", .folder [("C.java", .file [98])])])], "/w"⟩

/-- What a walk of the folder visits. -/
def mixedVisits : List Visit := [⟨".", ["A.java", "B.java", "notes"]⟩, ⟨"./sub", ["C.java"]⟩]

theorem walk_mixed : mixed.walk "." = .ok mixedVisits := by decide +kernel

theorem javaPaths_mixed :
    javaPaths mixedVisits = [("./A.java" : Text), "./B.java", "./sub/C.java"] := by
  decide +kernel

/-- The file that cannot be read leaves the replies to the others. -/
theorem mixed_accounts :
    let s : JavaServer := ⟨.llama, "k", .str "k"⟩
    let refused : Reply := .response ⟨503, "Service Unavailable", ""⟩
    let script : Script := [.failure ⟨.timeout, "late"⟩, refused, .response ⟨200, "OK", "1"⟩]
    let done := (s.repository mixed (.str ".")).run script
    ∃ a b c : JavaFile,
      a.path = "./A.java" ∧ b.path = "./B.java" ∧ c.path = "./sub/C.java" ∧
      a.reply = some (.failure ⟨.timeout, "late"⟩) ∧ b.reply = none ∧ c.reply = some refused ∧
      done.value = .ok [s.entryOf a, s.entryOf b, s.entryOf c] ∧
      done.events = [.sent (s.request (.str "a")), .sent (s.request (.str "b"))] ∧
      done.state = [.response ⟨200, "OK", "1"⟩] := by
  intro s refused script done
  have hwritten : Utf8.writeLoose "." = .ok [46] := by decide +kernel
  obtain ⟨visits, files, hwalk, hvalue, hpaths, -, hcontent, -, hunread, hsent, -⟩ :=
    repository_accounts (s := s) (v := mixed) rfl (by decide) (by decide) (by decide) hwritten
      script
  obtain rfl := Except.ok.inj (walk_mixed.symm.trans hwalk)
  obtain ⟨hreplies, hevents, hstate⟩ := hsent (by decide)
  rw [javaPaths_mixed] at hpaths
  obtain ⟨a, rest, rfl, ha, hrest⟩ := List.map_eq_cons_iff.mp hpaths
  obtain ⟨b, rest, rfl, hb, hrest⟩ := List.map_eq_cons_iff.mp hrest
  obtain ⟨c, rest, rfl, hc, hrest⟩ := List.map_eq_cons_iff.mp hrest
  obtain rfl := List.map_eq_nil_iff.mp hrest
  have hfirst : a.content = .ok "a" := by
    rw [hcontent a (by simp), ha]
    decide +kernel
  obtain ⟨e, hsecond⟩ : ∃ e, b.content = .error e := by
    rw [hcontent b (by simp), hb]
    exact ⟨.decoding ⟨0, 255, 1, .start⟩, by decide +kernel⟩
  have hthird : c.content = .ok "b" := by
    rw [hcontent c (by simp), hc]
    decide +kernel
  have hfilter : [a, b, c].filter JavaFile.isRead = [a, c] := by
    simp [List.filter, JavaFile.isRead, hfirst, hsecond, hthird, Except.toBool]
  rw [hfilter] at hreplies hstate
  have hunread : b.reply = none :=
    hunread b (by simp) (by simp [JavaFile.isRead, hsecond, Except.toBool])
  refine ⟨a, b, c, ha, hb, hc, hreplies 0 a rfl, hunread, hreplies 1 c rfl, hvalue, ?_, hstate⟩
  simpa [hfirst, hsecond, hthird, Except.toOption] using hevents

/-- A path can be without the character zero and yet be none on any disk. -/
theorem half_unaccounted :
    let path : Text := ⟨[.half 0]⟩
    Path.hasNul path = false ∧
      (((JavaServer.mk .llama "k" (.str "k")).repository mixed (.str path)).run []).value.toBool =
        false := by
  decide +kernel

end JavaServer

end Scribe
