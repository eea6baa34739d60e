import Scribe.Proofs.Java.Accounts
import Scribe.Proofs.Web.Routes

/-!
# Keys in headers

A server that sends its key in a header tells it to the model service alone. Two servers with keys
that can be sent meet the same files and take the same replies, and no message that finds its way
into an entry is made from the key: the addresses are fixed, and a header that can be sent is not
complained about.

## Main results

* `JavaServer.filesAt_congr`, `JavaServer.entryOf_congr`: what is made of a file.
* `JavaServer.serve_hides_key`: two keys are answered alike.
-/

namespace Scribe

/-- A request with another header. -/
def Request.authorized (r : Request) (value : Text) : Request :=
  { r with authorization := some value }

/-- Two runs that come to the same and send the same requests, each with its own header. -/
structure Done.SameBut {σ α : Type} (header header' : Text) (d d' : Done σ α) : Prop where
  value : d.value = d'.value
  state : d.state = d'.state
  events : ∃ requests : List Request,
    d.events = requests.map (fun r => .sent (r.authorized header)) ∧
      d'.events = requests.map (fun r => .sent (r.authorized header'))

namespace Done.SameBut

variable {σ α β : Type} {header header' : Text} {w w' : Work σ α} {state : σ}

theorem pure (a : α) (state : σ) :
    SameBut header header' ((Pure.pure a : Work σ α).run state)
      ((Pure.pure a : Work σ α).run state) :=
  ⟨rfl, rfl, [], rfl, rfl⟩

theorem map (f : α → β) (h : SameBut header header' (w.run state) (w'.run state)) :
    SameBut header header' ((f <$> w).run state) ((f <$> w').run state) := by
  rw [Work.run_map, Work.run_map]
  exact ⟨congrArg f h.value, h.state, h.events⟩

end Done.SameBut

namespace JavaServer

variable {s s' : JavaServer} {v : Volume}

/-- Which files are met depends on the server only in whether it can send. -/
theorem filesAt_congr (h : s.canSend = s'.canSend) (v : Volume) (script : Script)
    (paths : List Text) : s.filesAt v script paths = s'.filesAt v script paths := by
  have hfile (script : Script) (path : Text) :
      s.fileAt v script path = s'.fileAt v script path := by
    rw [fileAt, fileAt, h]
  induction paths generalizing script with
  | nil => rfl
  | cons path rest ih => simp only [filesAt, hfile, ih]

/-- What is made of a file does not depend on a key that can be sent. -/
theorem entryOf_congr (hp : s.provider = s'.provider) (hurl : s.url = s'.url) {f : JavaFile}
    (h : f.reply.isSome = f.isRead) : s.entryOf f = s'.entryOf f := by
  obtain ⟨path, content | content, reply | r⟩ := f
  · rfl
  · rfl
  · simp [JavaFile.isRead, Except.toBool] at h
  · have hanswer : s.answerTo (some r) = s'.answerTo (some r) := by
      rw [answerTo, answerTo, hp, hurl]
    simp only [entryOf, hanswer]

theorem url_of_header (h : s.provider.keyInAddress = false) :
    s.url = Text.tidyAddress "https://openrouter.ai/api/v1/chat/completions" := by
  rw [url, Provider.address, h]
  rfl

/-- A server with a key that it sends in a header. -/
structure HeaderKey (s : JavaServer) (key : Text) : Prop where
  header : s.provider.keyInAddress = false
  key_eq : s.key = .str key
  canSend : s.canSend = true

variable {key key' : Text}

/-- The key stands in the header of a request and nowhere else. -/
theorem HeaderKey.request_eq (h : s.HeaderKey key) (content : Json) :
    s.request content =
      (Request.post s.url (s.provider.body (Prompt.java content)) none none).authorized
        ("Bearer " ++ key) := by
  simp only [request, h.header, h.key_eq, Json.display_str]
  rfl

/-- A directory is documented alike under two keys. -/
theorem sameBut_repository (h : s.HeaderKey key) (h' : s'.HeaderKey key')
    (hp : s.provider = s'.provider) (v : Volume) (directory : Json) (script : Script) :
    Done.SameBut ("Bearer " ++ key) ("Bearer " ++ key')
      ((s.repository v directory).run script) ((s'.repository v directory).run script) := by
  cases directory with
  | str path =>
    cases hwalk : v.walk path with
    | error e =>
      simp only [repository, Json.asPath, hwalk]
      exact .pure _ script
    | ok visits =>
      have hurl : s.url = s'.url := by rw [url_of_header h.header, url_of_header h'.header]
      have hfiles := filesAt_congr (h'.canSend.trans h.canSend.symm) v script (javaPaths visits)
      have htaken (f : JavaFile) (hf : f ∈ s.filesAt v script (javaPaths visits)) :=
        isSome_reply h.canSend hf
      -- Both runs are over the same files, so they are compared file by file.
      rw [run_repository hwalk, run_repository hwalk, hfiles]
      refine ⟨?_, rfl, ((s.filesAt v script (javaPaths visits)).filterMap (·.content.toOption)).map
        fun content : String =>
          .post s.url (s.provider.body (Prompt.java (.str content))) none none, ?_, ?_⟩
      · exact congrArg Except.ok
          (List.map_congr_left fun f hf => entryOf_congr hp hurl (htaken f hf))
      · simp [flatMap_requestsFor _ s htaken, h.request_eq]
      · simp [flatMap_requestsFor _ s' htaken, h'.request_eq, hp, hurl]
  | _ => exact .pure _ script

/-- What is answered once a directory is documented. -/
def answerFor : Except PlaceError (List JavaEntry) → Web.Answer
  | .ok entries => .json 200 (report entries)
  | .error e => .error 500 e.message

/-- Which directory is documented for a request, if any is, does not depend on the server. -/
theorem generateDocs_cases (v : Volume) (r : Web.Request) :
    (∃ answer, ∀ s : JavaServer, s.generateDocs v r = pure answer) ∨
      ∃ directory, ∀ s : JavaServer,
        s.generateDocs v r = answerFor <$> s.repository v directory := by
  unfold generateDocs
  cases r.value with
  | error e => exact .inl ⟨_, fun _ => rfl⟩
  | ok data =>
    dsimp only
    cases data.fieldD "directory_path" .null with
    | error e => exact .inl ⟨_, fun _ => rfl⟩
    | ok directory =>
      cases htruthy : directory.isTruthy with
      | false => exact .inl ⟨_, fun _ => by simp only [htruthy]; rfl⟩
      | true =>
        rcases hplace : v.locate directory with e | _ | place
        · exact .inl ⟨_, fun _ => by simp only [htruthy, hplace]; rfl⟩
        · exact .inl ⟨_, fun _ => by simp only [htruthy, hplace]; rfl⟩
        · refine .inr ⟨directory, fun s => ?_⟩
          simp only [htruthy, hplace, map_eq_pure_bind, Bool.not_true, Bool.false_eq_true, if_false]
          congr 1
          funext outcome
          cases outcome <;> rfl

/-- A request is served alike under two keys. -/
theorem sameBut_serve (h : s.HeaderKey key) (h' : s'.HeaderKey key')
    (hp : s.provider = s'.provider) (v : Volume) (r : Web.Request) (script : Script) :
    Done.SameBut ("Bearer " ++ key) ("Bearer " ++ key') (((s.routes v).serve r).run script)
      (((s'.routes v).serve r).run script) := by
  have hplace : (s'.routes v).place = (s.routes v).place := rfl
  cases haccepts : (s.routes v).accepts r with
  | false =>
    obtain ⟨outcome, houtcome⟩ := Web.Routes.exists_outcome_of_not_accepts haccepts
    rw [houtcome (s.routes v) rfl rfl, houtcome (s'.routes v) rfl hplace]
    exact .pure outcome script
  | true =>
    have haccepts' : (s'.routes v).accepts r = true := by
      rw [Web.Routes.accepts_congr hplace, haccepts]
    rw [Web.Routes.serve_of_accepts haccepts, Web.Routes.serve_of_accepts haccepts']
    refine .map Except.ok ?_
    obtain ⟨answer, hanswer⟩ | ⟨directory, hdirectory⟩ := generateDocs_cases v r
    · have hpost : (s.routes v).post r = pure answer := hanswer s
      have hpost' : (s'.routes v).post r = pure answer := hanswer s'
      rw [hpost, hpost']
      exact .pure answer script
    · have hpost : (s.routes v).post r = answerFor <$> s.repository v directory := hdirectory s
      have hpost' : (s'.routes v).post r = answerFor <$> s'.repository v directory :=
        hdirectory s'
      rw [hpost, hpost']
      exact .map answerFor (sameBut_repository h h' hp v directory script)

/-- Two keys that are sent in a header are answered alike: the status and body of every answer, the
replies that are left and the requests are the same, but for the header with the key. -/
theorem serve_hides_key (hp : s.provider = s'.provider) (hheader : s.provider ≠ .gemini)
    (hkey : s.key = .str key) (hsome : key.isEmpty = false) (hvisible : key.isVisible = true)
    (hkey' : s'.key = .str key') (hsome' : key'.isEmpty = false)
    (hvisible' : key'.isVisible = true) (v : Volume) (r : Web.Request) (script : Script) :
    let run (s : JavaServer) := ((s.routes v).serve r).run script
    (run s).value = (run s').value ∧ (run s).state = (run s').state ∧
      ∃ requests : List Request,
        (run s).events = requests.map (fun q => .sent (q.authorized ("Bearer " ++ key))) ∧
        (run s').events = requests.map (fun q => .sent (q.authorized ("Bearer " ++ key'))) := by
  have haddress : s.provider.keyInAddress = false := by
    cases hprovider : s.provider with
    | gemini => exact absurd hprovider hheader
    | llama => rfl
    | deepseek => rfl
  have h : s.HeaderKey key := ⟨haddress, hkey, canSend_of_isVisible hkey hsome hvisible⟩
  have h' : s'.HeaderKey key' :=
    ⟨hp ▸ haddress, hkey', canSend_of_isVisible hkey' hsome' hvisible'⟩
  have hsame := sameBut_serve h h' hp v r script
  exact ⟨hsame.value, hsame.state, hsame.events⟩

/-- Two keys send two requests each for a folder with two files that can be read. -/
theorem mixed_hides_key :
    let r : Web.Request :=
      ⟨"POST", "/generate-docs", some "application/json", "\x7b\"directory_path\": \".\"\x7d"⟩
    let script : Script := [.response ⟨503, "Service Unavailable", ""⟩]
    let server (key : Text) : JavaServer := ⟨.llama, key, .str key⟩
    let run (key : Text) := (((server key).routes mixed).serve r).run script
    (run "k").value = (run "other").value ∧ (run "k").state = (run "other").state ∧
      ∃ requests : List Request, requests.length = 2 ∧
        (run "k").events = requests.map (fun q => .sent (q.authorized "Bearer k")) ∧
        (run "other").events = requests.map (fun q => .sent (q.authorized "Bearer other")) := by
  intro r script server run
  have hprovider : (server "k").provider = (server "other").provider := rfl
  obtain ⟨hvalue, hstate, requests, hevents, hevents'⟩ :=
    serve_hides_key hprovider (by decide) rfl (by decide) (by decide) rfl (by decide) (by decide)
      mixed r script
  have hlength : (run "k").events.length = 2 := by decide +kernel
  refine ⟨hvalue, hstate, requests, ?_, hevents, hevents'⟩
  rw [← hlength]
  simp only [run, hevents, List.length_map]

end JavaServer

end Scribe
