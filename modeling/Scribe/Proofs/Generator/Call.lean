import Mathlib.Data.List.Basic
import Scribe.Generator.Client
import Scribe.Proofs.Text.Kept

/-!
# One call of the model

A client whose address and settings can be sent makes a call that takes replies from the script:
retryable ones, up to the first that is not, and never more than it has attempts. What the call
answers is settled by the last reply it takes, and the events that others see are one request for
each reply, with a pause after each that was not refused and is not the last.

## Main results

* `Client.attempts_spec`: what a call answers, which replies it leaves, and what is seen of it.
* `Client.requests_exchanges`, `Client.sleeps_exchanges`: the requests and pauses of a call.
* `Client.attempts_break`: where a call breaks off.
* `Client.ready_of_create`, `Client.url_of_hasHalf`: when the client of the service can send its
  requests.
-/

namespace Scribe

namespace Event

/-- Whether an event is a request or a pause. -/
def isTraffic : Event → Bool
  | sent _ => true
  | slept _ => true
  | _ => false

/-- The requests and pauses among some events. -/
def traffic (events : List Event) : List Event := events.filter isTraffic

@[simp]
theorem traffic_append (a b : List Event) : traffic (a ++ b) = traffic a ++ traffic b :=
  List.filter_append ..

@[simp]
theorem traffic_nil : traffic [] = [] := rfl

@[simp]
theorem traffic_sent (r : Request) (events : List Event) :
    traffic (.sent r :: events) = .sent r :: traffic events := rfl

@[simp]
theorem traffic_slept (t : Seconds) (events : List Event) :
    traffic (.slept t :: events) = .slept t :: traffic events := rfl

@[simp]
theorem traffic_printed (line : Text) (events : List Event) :
    traffic (.printed line :: events) = traffic events := rfl

@[simp]
theorem requests_traffic (events : List Event) : requests (traffic events) = requests events := by
  rw [requests, requests, traffic, List.filterMap_filter]
  congr 1
  funext e
  cases e <;> rfl

@[simp]
theorem sleeps_traffic (events : List Event) : sleeps (traffic events) = sleeps events := by
  rw [sleeps, sleeps, traffic, List.filterMap_filter]
  congr 1
  funext e
  cases e <;> rfl

/-- Printed lines are no traffic. -/
theorem traffic_eq_nil {events : List Event} (h : ∀ e ∈ events, ∃ line, e = .printed line) :
    traffic events = [] := by
  rw [traffic, List.filter_eq_nil_iff]
  intro e he
  obtain ⟨line, rfl⟩ := h e he
  simp [isTraffic]

end Event

/-! ## Replies -/

namespace Reply

/-- What a request that meets a reply comes to. -/
def outcome : Reply → Except Failure Response
  | response x => .ok x
  | failure f => .error f

/-- Whether a reply refuses the request as ill-formed. -/
def isRefusal : Reply → Bool
  | response x => x.status = 400
  | failure _ => false

/-- Whether a request is worth sending again after a reply: its status stands for an error, the
exchange failed, or the body is ill-formed. -/
def isRetryable : Reply → Bool
  | response x =>
    (400 ≤ x.status && x.status < 600) ||
      match Json.read x.body with
      | .ok _ => false
      | .error e => !e.isLimit
  | failure f => f.kind.ofExchange

end Reply

namespace Script

/-- The reply to the next request. -/
def next (script : Script) : Reply := script.headD (.failure .exhausted)

/-- The replies to the next `n` requests. -/
def upcoming (script : Script) : Nat → List Reply
  | 0 => []
  | n + 1 => next script :: upcoming script.tail n

/-- The reply to the request after `i` others. -/
def replyAt (script : Script) (i : Nat) : Reply := next (script.drop i)

theorem upcoming_eq_map (script : Script) (n : Nat) :
    upcoming script n = (List.range n).map (replyAt script) := by
  induction n generalizing script with
  | zero => rfl
  | succ n ih =>
    have htail : replyAt script.tail = replyAt script ∘ Nat.succ := by
      funext i
      rw [Function.comp_apply, replyAt, replyAt, List.drop_tail]
    rw [upcoming, ih, List.range_succ_eq_map, List.map_cons, List.map_map, htail]
    rfl

/-- The replies that a call with `left` attempts takes. -/
def taken (script : Script) : Nat → List Reply
  | 0 => []
  | left + 1 =>
    if (next script).isRetryable then next script :: taken script.tail left else [next script]

theorem taken_succ (script : Script) (left : Nat) :
    taken script (left + 1) =
      if (next script).isRetryable then next script :: taken script.tail left
      else [next script] := rfl

theorem taken_ne_nil (script : Script) (left : Nat) : taken script (left + 1) ≠ [] := by
  rw [taken_succ]
  split <;> simp

theorem length_taken_le (script : Script) (left : Nat) : (taken script left).length ≤ left := by
  induction left generalizing script with
  | zero => simp [taken]
  | succ left ih =>
    rw [taken_succ]
    split
    · simpa using ih script.tail
    · simp

/-- A call takes the replies that come next. -/
theorem taken_eq_upcoming (script : Script) (left : Nat) :
    taken script left = upcoming script (taken script left).length := by
  induction left generalizing script with
  | zero => rfl
  | succ left ih =>
    rw [taken_succ]
    split
    · rw [List.length_cons, upcoming, ← ih]
    · rfl

/-- A call that has attempts left has met a reply that is not retryable. -/
theorem taken_of_length_lt {script : Script} {left : Nat}
    (h : (taken script left).length < left) :
    ∃ last, (taken script left).getLast? = some last ∧ last.isRetryable = false := by
  induction left generalizing script with
  | zero => simp at h
  | succ left ih =>
    rw [taken_succ] at h ⊢
    split at h
    · rename_i hretry
      obtain ⟨last, hlast, hstop⟩ := ih (by simpa using h)
      rw [if_pos hretry]
      refine ⟨last, ?_, hstop⟩
      rw [List.getLast?_cons, hlast, Option.getD_some]
    · rename_i hstop
      rw [if_neg hstop]
      exact ⟨next script, rfl, by simpa using hstop⟩

/-- Every reply before the last that a call takes is retryable. -/
theorem isRetryable_of_mem_dropLast {script : Script} {left : Nat} {r : Reply}
    (h : r ∈ (taken script left).dropLast) : r.isRetryable = true := by
  induction left generalizing script with
  | zero => simp [taken] at h
  | succ left ih =>
    rw [taken_succ] at h
    split at h
    · rename_i hretry
      cases hrest : taken script.tail left with
      | nil => simp [hrest] at h
      | cons a more =>
        rw [hrest, List.dropLast_cons_cons, ← hrest] at h
        obtain rfl | h := List.mem_cons.mp h
        · exact hretry
        · exact ih h
    · simp at h

theorem upcoming_add (script : Script) (m n : Nat) :
    upcoming script (m + n) = upcoming script m ++ upcoming (script.drop m) n := by
  induction m generalizing script with
  | zero => simp [upcoming]
  | succ m ih =>
    rw [Nat.add_right_comm, upcoming, upcoming, ih, List.cons_append, List.drop_tail]

/-- Whether a call with `n` attempts pauses after the reply to its attempt number `i`, counted from
zero: another attempt is left, the replies so far are retryable, and this one is no refusal. -/
def PausesAfter (script : Script) (n i : Nat) : Prop :=
  i + 1 < n ∧ (∀ j ≤ i, (script.replyAt j).isRetryable = true) ∧
    (script.replyAt i).isRefusal = false

theorem replyAt_tail (script : Script) (i : Nat) :
    replyAt script.tail i = replyAt script (i + 1) := by
  rw [replyAt, replyAt, List.drop_tail]

theorem pausesAfter_zero {script : Script} {n : Nat} (hn : 1 < n)
    (hretry : script.next.isRetryable = true) (hrefusal : script.next.isRefusal = false) :
    script.PausesAfter n 0 := by
  refine ⟨hn, ?_, hrefusal⟩
  intro j hj
  obtain rfl : j = 0 := Nat.le_zero.mp hj
  exact hretry

/-- After a retryable reply, the pauses are those of the rest of the script. -/
theorem pausesAfter_succ_iff {script : Script} {n i : Nat}
    (hretry : script.next.isRetryable = true) :
    script.PausesAfter (n + 1) (i + 1) ↔ PausesAfter script.tail n i := by
  rw [PausesAfter, PausesAfter, replyAt_tail]
  refine and_congr (by omega) (and_congr_left' ⟨fun h j hj => ?_, fun h j hj => ?_⟩)
  · rw [replyAt_tail]
    exact h (j + 1) (by omega)
  · cases j with
    | zero => exact hretry
    | succ j =>
      rw [← replyAt_tail]
      exact h j (by omega)

end Script

/-! ## Calls -/

namespace Client

/-- The answer that the last reply to a call settles. -/
def answerTo (console : Console) (url : String) (last : Reply) : Json :=
  match judge url last.outcome with
  | .refused _ => .str "Error: Invalid request format"
  | .failed message => .str ("Error: API request failed - " ++ message)
  | .broken message => .str ("Error: " ++ message)
  | .shapeless v =>
    match console.refusal? (unexpected v) with
    | some message => .str ("Error: " ++ message)
    | none => .null
  | .answered v => v

/-- The answer of a call that takes some replies. Without any there is none. -/
def answerAfter (console : Console) (url : String) (replies : List Reply) : Json :=
  (replies.getLast?.map (answerTo console url)).getD .null

/-- What is seen of a call that sends the same request again and again, `made` attempts having been
made before. -/
def exchanges (request : Request) (delay : Int) : (made : Nat) → List Reply → List Event
  | _, [] => []
  | _, [_] => [.sent request]
  | made, r :: rest =>
    .sent request ::
      ((if r.isRefusal then [] else [.slept (.whole (delay * (made + 1)))]) ++
        exchanges request delay (made + 1) rest)

/-- A client that can send a prompt. -/
structure Sends (c : Client) (url : String) (delay : Int) (prompt : Json) : Prop where
  url_eq : c.url = .ok url
  writable : (c.request url prompt).body.obstacle? .strict = none
  delay_eq : c.retryDelay = .int delay

/-- Why the clock of a client does not make the pause after some attempts. -/
def refusalAfter? (c : Client) (delay : Int) (made : Nat) : Option PauseError :=
  c.machine.clock.refusal? (.whole (delay * made))

/-- A client that can send every text, and whose clock makes its pauses. -/
structure Ready (c : Client) (url : String) (n delay : Int) : Prop where
  url_eq : c.url = .ok url
  writable : c.maxTokens.obstacleWithin? .strict (Json.maxDepth - 2) = none
  retries_eq : c.maxRetries = .int n
  delay_eq : c.retryDelay = .int delay
  waits : ∀ made : Nat, made < n → c.refusalAfter? delay made = none

/-- What a yield comes to. -/
def judgeYield : Yield → Attempt
  | .failed message => .failed message
  | .broken message => .broken message
  | .value v =>
    match answerOf v with
    | .ok (some answer) => .answered answer
    | .ok none => .shapeless v
    | .error e => .broken e.message

theorem judge_of_refusal (url : String) {r : Reply} (h : r.isRefusal = true) :
    ∃ text, judge url r.outcome = .refused text := by
  obtain ⟨status, reason, body⟩ | f := r
  · obtain rfl : status = 400 := by simpa [Reply.isRefusal] using h
    exact ⟨body, rfl⟩
  · simp [Reply.isRefusal] at h

theorem judge_of_not_refusal (url : String) {r : Reply} (h : r.isRefusal = false) :
    judge url r.outcome = judgeYield (yieldOf url r.outcome) := by
  obtain ⟨status, reason, body⟩ | f := r
  · have hstatus : status ≠ 400 := by simpa [Reply.isRefusal] using h
    rw [Reply.outcome, judge]
    · rfl
    · rintro reason' body' heq
      injection heq with heq
      injection heq with heq
      exact hstatus heq
  · rfl

theorem statusError?_isSome (x : Response) (url : String) :
    (x.statusError? url).isSome = (400 ≤ x.status && x.status < 600) := by
  rw [Response.statusError?]
  split_ifs <;> grind

theorem isRetryable_eq (url : String) (r : Reply) :
    r.isRetryable =
      match yieldOf url r.outcome with
      | .failed _ => true
      | _ => false := by
  obtain x | f := r
  · have hstatus := statusError?_isSome x url
    rw [Reply.isRetryable, ← hstatus, Reply.outcome, yieldOf]
    cases x.statusError? url with
    | some message => rfl
    | none =>
      cases Json.read x.body with
      | ok v => rfl
      | error e => cases hlimit : e.isLimit <;> simp [hlimit]
  · cases hkind : f.kind.ofExchange <;> simp [Reply.isRetryable, Reply.outcome, yieldOf, hkind]

/-- A request is sent again after exactly the retryable replies. -/
theorem judge_cases (url : String) (r : Reply) :
    (r.isRefusal = true ∧ r.isRetryable = true ∧ ∃ text, judge url r.outcome = .refused text) ∨
    (r.isRefusal = false ∧ r.isRetryable = true ∧
      ∃ message, judge url r.outcome = .failed message) ∨
    (r.isRetryable = false ∧
      ((∃ message, judge url r.outcome = .broken message) ∨
        (∃ v, judge url r.outcome = .shapeless v) ∨ ∃ v, judge url r.outcome = .answered v)) := by
  cases hrefusal : r.isRefusal with
  | true =>
    refine .inl ⟨rfl, ?_, judge_of_refusal url hrefusal⟩
    obtain ⟨status, reason, body⟩ | f := r
    · simp_all [Reply.isRefusal, Reply.isRetryable]
    · simp [Reply.isRefusal] at hrefusal
  | false =>
    rw [judge_of_not_refusal url hrefusal, isRetryable_eq url]
    cases yieldOf url r.outcome with
    | failed message => exact .inr (.inl ⟨rfl, rfl, message, rfl⟩)
    | broken message => exact .inr (.inr ⟨rfl, .inl ⟨message, rfl⟩⟩)
    | value v =>
      refine .inr (.inr ⟨rfl, ?_⟩)
      dsimp only [judgeYield]
      rcases answerOf v with e | _ | answer
      · exact .inl ⟨_, rfl⟩
      · exact .inr (.inl ⟨_, rfl⟩)
      · exact .inr (.inr ⟨_, rfl⟩)

variable {c : Client} {url : String} {n delay : Int} {prompt : Json}

/-- What keeps a request with a text from being written is in the settings. -/
theorem obstacle?_request (c : Client) (url : String) (prompt : Text) :
    (c.request url (.str prompt)).body.obstacle? .strict =
      c.maxTokens.obstacleWithin? .strict (Json.maxDepth - 2) := by
  have htemperature : temperature.isFinite = true := by decide +kernel
  have htopP : topP.isFinite = true := by decide +kernel
  have htopK : 40 < 10 ^ Json.maxIntegerDigits := by decide +kernel
  simp [request, Request.post, Json.obstacle?, Json.maxDepth, Json.obstacleWithin?,
    Json.itemsObstacle?, Json.fieldsObstacle?, htemperature, htopP, htopK]

theorem Ready.sends (h : c.Ready url n delay) (prompt : Text) :
    c.Sends url delay (.str prompt) :=
  ⟨h.url_eq, (obstacle?_request c url prompt).trans h.writable, h.delay_eq⟩

/-- An attempt whose request can be sent meets the next reply. -/
theorem run_attempt (h : c.Sends url delay prompt) (script : Script) :
    (c.attempt prompt).run script =
      ⟨judge url script.next.outcome, script.tail, [.sent (c.request url prompt)]⟩ := by
  have hsend : (send (c.request url prompt)).run script =
      ⟨script.next.outcome, script.tail, [.sent (c.request url prompt)]⟩ := by
    have hnone : (c.request url prompt).authorization = none := rfl
    simp only [Work.run, send, hnone, Option.filter_none, h.writable]
    rcases script with _ | ⟨_ | _, rest⟩ <;> rfl
  simp [attempt, h.url_eq, hsend]

/-- A pause is made or refused by the clock. -/
theorem run_pause (hdelay : c.retryDelay = .int delay) (made : Nat) (script : Script) :
    (c.pause made).run script =
      match c.refusalAfter? delay made with
      | some e => ⟨.error (.pause e), script, []⟩
      | none => ⟨.ok (), script, [.slept (.whole (delay * made))]⟩ := by
  rw [pause, pauseAfter, hdelay]
  dsimp only
  rw [← refusalAfter?]
  cases c.refusalAfter? delay made <;> rfl

theorem exchanges_cons (request : Request) (delay : Int) (made : Nat) (r : Reply)
    {rest : List Reply} (h : rest ≠ []) :
    exchanges request delay made (r :: rest) =
      .sent request ::
        ((if r.isRefusal then [] else [.slept (.whole (delay * (made + 1)))]) ++
          exchanges request delay (made + 1) rest) := by
  cases rest with
  | nil => contradiction
  | cons a more => rfl

theorem answerAfter_cons (console : Console) (url : String) (r : Reply) {rest : List Reply}
    (h : rest ≠ []) : answerAfter console url (r :: rest) = answerAfter console url rest := by
  rw [answerAfter, answerAfter, List.getLast?_cons]
  cases hlast : rest.getLast? with
  | none => exact absurd (List.getLast?_eq_none_iff.mp hlast) h
  | some last => rfl

/-- What attempts come to if the clock makes the pauses that the replies ask for. The induction is
on the attempts left; after a retryable reply the rest of the script is met by one attempt less. -/
theorem attempts_spec (h : c.Sends url delay prompt) (left made : Nat) (script : Script)
    (hwaits : ∀ i, script.PausesAfter left i → c.refusalAfter? delay (made + i + 1) = none) :
    let done := (c.attempts prompt left made).run script
    done.value = .ok (answerAfter c.machine.console url (script.taken left)) ∧
      done.state = script.drop (script.taken left).length ∧
      Event.traffic done.events =
        exchanges (c.request url prompt) delay made (script.taken left) := by
  induction left generalizing made script with
  | zero => exact ⟨rfl, rfl, rfl⟩
  | succ left ih =>
    have hstep : (c.attempt prompt).run script = _ := run_attempt h script
    have hrest (hretry : script.next.isRetryable = true) (i : Nat)
        (hi : Script.PausesAfter script.tail left i) :
        c.refusalAfter? delay (made + 1 + i + 1) = none := by
      rw [Nat.add_assoc made 1 i, Nat.add_comm 1 i]
      exact hwaits (i + 1) ((Script.pausesAfter_succ_iff hretry).mpr hi)
    obtain ⟨hrefusal, hretry, text, hjudge⟩ | ⟨hrefusal, hretry, message, hjudge⟩ |
      ⟨hstop, ⟨message, hjudge⟩ | ⟨v, hjudge⟩ | ⟨v, hjudge⟩⟩ := judge_cases url script.next
    · cases left with
      | zero =>
        simp [attempts, hstep, hjudge, Script.taken, answerAfter, answerTo, exchanges]
      | succ left =>
        obtain ⟨hvalue, hstate, htraffic⟩ := ih (made + 1) script.tail (hrest hretry)
        have hne := Script.taken_ne_nil script.tail left
        rw [Script.taken_succ, if_pos hretry, answerAfter_cons _ url _ hne,
          exchanges_cons _ _ _ _ hne]
        rw [attempts]
        simp [hstep, hjudge, hvalue, hstate, htraffic, hrefusal]
    · cases left with
      | zero =>
        simp [attempts, hstep, hjudge, Script.taken, answerAfter, answerTo, exchanges]
      | succ left =>
        obtain ⟨hvalue, hstate, htraffic⟩ := ih (made + 1) script.tail (hrest hretry)
        have hne := Script.taken_ne_nil script.tail left
        have hpause := run_pause h.delay_eq (made + 1) script.tail
        rw [hwaits 0 (Script.pausesAfter_zero (by omega) hretry hrefusal)] at hpause
        rw [Script.taken_succ, if_pos hretry, answerAfter_cons _ url _ hne,
          exchanges_cons _ _ _ _ hne]
        rw [attempts]
        simp [hstep, hjudge, hpause, hvalue, hstate, htraffic, hrefusal]
    · simp [attempts, hstep, hjudge, Script.taken_succ, hstop, answerAfter, answerTo, exchanges,
        giveUp]
    · cases hprint : c.machine.console.refusal? (unexpected v) <;>
        simp [attempts, hstep, hjudge, Script.taken_succ, hstop, answerAfter, answerTo, exchanges,
          hprint, giveUp]
    · simp [attempts, hstep, hjudge, Script.taken_succ, hstop, answerAfter, answerTo, exchanges]

/-- Attempts break off where the clock refuses a pause, if it has made the pauses before. The
induction is on the number of replies before. -/
theorem attempts_break (h : c.Sends url delay prompt) {i left : Nat} (made : Nat)
    {script : Script} {e : PauseError} (hpause : script.PausesAfter left i)
    (hrefused : c.refusalAfter? delay (made + i + 1) = some e)
    (hbefore : ∀ j < i, script.PausesAfter left j → c.refusalAfter? delay (made + j + 1) = none) :
    let done := (c.attempts prompt left made).run script
    done.value = .error (.pause e) ∧ done.state = script.drop (i + 1) ∧
      Event.traffic done.events =
        exchanges (c.request url prompt) delay made (script.upcoming (i + 1)) := by
  obtain ⟨left, rfl⟩ : ∃ k, left = k + 2 := ⟨left - 2, by have := hpause.1; omega⟩
  induction i generalizing left made script with
  | zero =>
    obtain ⟨-, hretry, hrefusal⟩ := hpause
    have hretry : script.next.isRetryable = true := hretry 0 (Nat.le_refl 0)
    have hrefusal : script.next.isRefusal = false := hrefusal
    obtain ⟨message, hjudge⟩ : ∃ message, judge url script.next.outcome = .failed message := by
      have := judge_cases url script.next
      grind
    have hstep := run_attempt h script
    have hbreak := run_pause h.delay_eq (made + 1) script.tail
    rw [hrefused] at hbreak
    rw [attempts]
    simp [hstep, hjudge, hbreak, Script.upcoming, exchanges]
  | succ i ih =>
    have hretry : script.next.isRetryable = true := hpause.2.1 0 (Nat.zero_le _)
    have hpause' := (Script.pausesAfter_succ_iff hretry).mp hpause
    obtain ⟨left, rfl⟩ : ∃ k, left = k + 1 := ⟨left - 1, by have := hpause'.1; omega⟩
    have hrefused' : c.refusalAfter? delay (made + 1 + i + 1) = some e := by
      rwa [Nat.add_assoc made 1 i, Nat.add_comm 1 i]
    have hbefore' (j : Nat) (hj : j < i) (hpauses : Script.PausesAfter script.tail (left + 2) j) :
        c.refusalAfter? delay (made + 1 + j + 1) = none := by
      rw [Nat.add_assoc made 1 j, Nat.add_comm 1 j]
      exact hbefore (j + 1) (by omega) ((Script.pausesAfter_succ_iff hretry).mpr hpauses)
    obtain ⟨hvalue, hstate, htraffic⟩ := ih (made + 1) hrefused' left hpause' hbefore'
    have hstep := run_attempt h script
    have hne : Script.upcoming script.tail (i + 1) ≠ [] := List.cons_ne_nil _ _
    rw [Script.upcoming, exchanges_cons _ _ _ _ hne, attempts]
    cases hrefusal : script.next.isRefusal with
    | true =>
      obtain ⟨text, hjudge⟩ := judge_of_refusal url hrefusal
      simp [hstep, hjudge, hvalue, hstate, htraffic]
    | false =>
      obtain ⟨message, hjudge⟩ : ∃ message, judge url script.next.outcome = .failed message := by
        have := judge_cases url script.next
        grind
      have hwait := run_pause h.delay_eq (made + 1) script.tail
      rw [hbefore 0 (Nat.succ_pos i) (Script.pausesAfter_zero (by omega) hretry hrefusal)] at hwait
      simp [hstep, hjudge, hwait, hvalue, hstate, htraffic]

/-- One request is sent for each reply. -/
theorem requests_exchanges (request : Request) (delay : Int) (made : Nat) (replies : List Reply) :
    Event.requests (exchanges request delay made replies) =
      List.replicate replies.length request := by
  fun_induction exchanges request delay made replies with
  | case1 => rfl
  | case2 => rfl
  | case3 made r rest hne ih =>
    have hpause : Event.requests
        (if r.isRefusal then [] else [.slept (.whole (delay * (made + 1)))]) = [] := by
      split <;> rfl
    rw [← List.singleton_append, Event.requests_append, Event.requests_append, hpause, ih]
    rfl

/-- A pause follows each reply that is no refusal, save the last. -/
theorem sleeps_exchanges (request : Request) (delay : Int) (made : Nat) (replies : List Reply) :
    Event.sleeps (exchanges request delay made replies) =
      ((replies.dropLast.zipIdx made).filter fun p => !p.1.isRefusal).map fun p =>
        .whole (delay * (p.2 + 1)) := by
  fun_induction exchanges request delay made replies with
  | case1 => rfl
  | case2 => rfl
  | case3 made r rest hne ih =>
    cases rest with
    | nil => exact (hne rfl).elim
    | cons a more =>
      rw [← List.singleton_append, Event.sleeps_append, Event.sleeps_append, ih,
        List.dropLast_cons_cons, List.zipIdx_cons]
      cases hrefusal : r.isRefusal <;> simp [hrefusal, Event.sleeps]

theorem call_eq_attempts (h : c.maxRetries = .int n) (prompt : Json) :
    c.call prompt = c.attempts prompt n.toNat 0 := by
  simp [call, attemptCount, h, Json.integer?]

/-- The course of a call of a client that is ready. -/
theorem call_spec (h : c.Ready url n delay) (prompt : Text) (script : Script) :
    let done := (c.call (.str prompt)).run script
    done.value = .ok (answerAfter c.machine.console url (script.taken n.toNat)) ∧
      done.state = script.drop (script.taken n.toNat).length ∧
      Event.traffic done.events =
        exchanges (c.request url (.str prompt)) delay 0 (script.taken n.toNat) := by
  rw [call_eq_attempts h.retries_eq]
  refine attempts_spec (h.sends prompt) _ 0 script ?_
  intro i hi
  exact h.waits _ (by have := hi.1; omega)

/-! ## Clients of the service -/

section Create

variable {key : Text} {machine : Machine}

theorem create_eq_ok_iff :
    create {} (some key) machine = .ok c ↔
      key.isEmpty = false ∧
        c = ⟨.str key, .str "gemini-2.0-flash", .int 1000, .int 3, .int 1, machine⟩ := by
  cases hempty : key.isEmpty with
  | false => simp [create, Json.isTruthy, hempty, eq_comm]
  | true => simp [create, Json.isTruthy, hempty]

/-- A key that can be written stands at the end of the address. -/
theorem url_eq_of_create (h : create {} (some key) machine = .ok c) (hkey : key.hasHalf = false) :
    ∃ value, Text.formEncode key = .ok value ∧ c.url = .ok (endpoint ++ "?key=" ++ value) := by
  obtain ⟨-, rfl⟩ := create_eq_ok_iff.mp h
  obtain ⟨key, rfl⟩ := Utf8.exists_ofString_of_not_hasHalf hkey
  obtain ⟨value, hvalue⟩ : ∃ value, Text.formEncode key = .ok value := by
    rw [Text.formEncode, Utf8.write_ofString]
    exact ⟨_, rfl⟩
  refine ⟨value, hvalue, ?_⟩
  have hjoin : endpoint ++ "?key=" ++ value =
      endpoint ++ "?" ++ "&".intercalate ["key=" ++ value] := by
    have hparameter : "?key=" ++ value = "?" ++ ("key=" ++ value) := by
      rw [← String.append_assoc]
      rfl
    rw [String.intercalate_singleton, String.append_assoc, String.append_assoc, hparameter]
  have hencoded : encoded (.str key) = .ok value := by
    simp only [encoded, Json.obstacle?_str, Json.display_str, hvalue]
    rfl
  rw [hjoin]
  simp only [url, keyParts, partValues, Json.text?, List.filterMap_cons, List.filterMap_nil,
    List.flatMap_cons, List.flatMap_nil, List.append_nil, List.mapM_cons, List.mapM_nil,
    Utf8.write_ofString, hencoded]
  rfl

/-- A client with a key that can be written, and else the settings that callers leave out, can send
its requests to the address with that key. Its pauses are short. -/
theorem ready_address_of_create (h : create {} (some key) machine = .ok c)
    (hkey : key.hasHalf = false) :
    ∃ value, Text.formEncode key = .ok value ∧ c.Ready (endpoint ++ "?key=" ++ value) 3 1 := by
  obtain ⟨value, hvalue, hurl⟩ := url_eq_of_create h hkey
  obtain ⟨-, rfl⟩ := create_eq_ok_iff.mp h
  refine ⟨value, hvalue, hurl, ?_, rfl, rfl, ?_⟩
  · have hdigits : 1000 < 10 ^ Json.maxIntegerDigits := by decide +kernel
    simp [Json.obstacleWithin?, hdigits]
  · intro made hmade
    rw [refusalAfter?, Int.one_mul]
    exact machine.clock.refusal?_whole made (by omega)

theorem ready_of_create (h : create {} (some key) machine = .ok c) (hkey : key.hasHalf = false) :
    ∃ url, c.Ready url 3 1 := by
  obtain ⟨value, -, hready⟩ := ready_address_of_create h hkey
  exact ⟨_, hready⟩

/-- With any other key there is no address to send to. -/
theorem url_of_write_eq_error {e : Utf8.LoneHalves} (h : c.key = .str key)
    (hkey : Utf8.write key = .error e) : c.url = .error (.unwritable e) := by
  simp only [url, h, keyParts, Json.text?, List.filterMap_cons, List.filterMap_nil, List.mapM_cons,
    hkey]
  rfl

theorem url_of_hasHalf (h : c.key = .str key) (hkey : key.hasHalf = true) :
    ∃ e, c.url = .error e := by
  obtain ⟨e, he⟩ := Utf8.exists_write_eq_error hkey
  exact ⟨_, url_of_write_eq_error h he⟩

theorem key_of_create (h : create {} (some key) machine = .ok c) : c.key = .str key := by
  rw [(create_eq_ok_iff.mp h).2]

theorem maxRetries_of_create (h : create {} (some key) machine = .ok c) :
    c.maxRetries = .int 3 := by
  rw [(create_eq_ok_iff.mp h).2]

theorem machine_of_create (h : create {} (some key) machine = .ok c) : c.machine = machine := by
  rw [(create_eq_ok_iff.mp h).2]

end Create

/-! ## Attempts that fail for good -/

/-- An attempt that fails for good is the last. -/
theorem run_attempts_of_broken {message : String} {script : Script}
    (h : (c.attempt prompt).run script = ⟨.broken message, script, []⟩) (left made : Nat) :
    (c.attempts prompt (left + 1) made).run script =
      ⟨.ok (.str ("Error: " ++ message)), script,
        [.printed ("Unexpected error: " ++ message : String)]⟩ := by
  rw [attempts]
  simp [h, giveUp]

theorem run_attempt_of_url_eq_error {e : AddressError} (hurl : c.url = .error e) (prompt : Json)
    (script : Script) : (c.attempt prompt).run script = ⟨.broken e.message, script, []⟩ := by
  rw [attempt, hurl]
  rfl

/-- A call without an address is one attempt that fails. -/
theorem run_call_of_url_eq_error {e : AddressError} (hurl : c.url = .error e)
    (hretries : c.maxRetries = .int 3) (prompt : Json) (script : Script) :
    (c.call prompt).run script =
      ⟨.ok (.str ("Error: " ++ e.message)), script,
        [.printed ("Unexpected error: " ++ e.message : String)]⟩ := by
  rw [call_eq_attempts hretries]
  exact run_attempts_of_broken (run_attempt_of_url_eq_error hurl prompt script) 2 0

/-- A call without an address takes no reply and sends nothing. -/
theorem call_of_url_eq_error {e : AddressError} (hurl : c.url = .error e)
    (hretries : c.maxRetries = .int 3) (prompt : Json) (script : Script) :
    ((c.call prompt).run script).state = script ∧
      Event.traffic ((c.call prompt).run script).events = [] := by
  rw [run_call_of_url_eq_error hurl hretries]
  exact ⟨rfl, rfl⟩

/-- A call of the client of the service always has an answer. -/
theorem exists_answer_of_create {key : Text} {machine : Machine}
    (h : create {} (some key) machine = .ok c) (prompt : Text) (script : Script) :
    ∃ answer, ((c.call (.str prompt)).run script).value = .ok answer := by
  have hretries := maxRetries_of_create h
  cases hkey : key.hasHalf with
  | false =>
    obtain ⟨url, hready⟩ := ready_of_create h hkey
    exact ⟨_, (call_spec hready prompt script).1⟩
  | true =>
    obtain ⟨e, hurl⟩ := url_of_hasHalf (key_of_create h) hkey
    exact ⟨_, by rw [run_call_of_url_eq_error hurl hretries]⟩

end Client

end Scribe
