import Mathlib.Data.Nat.Find
import Scribe.Proofs.Generator.Reading

/-!
# How often a call is repeated

A call goes on while replies are retryable and attempts are left. The replies it takes are those
up to the first that is not retryable, or as many as there are attempts; the last of them settles
the answer, and every other one that is no refusal is followed by a pause.

## Main results

* `Clock.refusal?_ticking`: which whole seconds a ticking clock refuses.
* `Script.taken_eq_upcoming_leading`: how many replies a call takes.
* `Client.answerTo_of_isRetryable`: what is answered when attempts run out.
* `Client.call_of_sends`: what becomes of a call that can send.
* `Client.error_of_attempts`: nothing but the clock breaks attempts off.
* `Client.call_retries`: requests, pauses, answer and remaining replies of a call.
-/

namespace Scribe

namespace Clock

/-- Seconds past the end of time are refused for their length, also if there are less than none. -/
theorem refusal?_ticking {uptime : Nat} (h : uptime + second * 60 < limit) (n : Int) :
    (ticking uptime h).refusal? (.whole n) =
      if 9223372037 ≤ n.natAbs then some .tooLong
      else if n < 0 then some .negative
      else if second * n + uptime < limit then none
      else some .pastEnd := by
  have hlimit : second * n.natAbs < limit ↔ ¬ 9223372037 ≤ n.natAbs := by
    have hvalue : limit = 9223372036854775808 := by decide +kernel
    rw [hvalue, second]
    omega
  have hsign : (second : Int) * n < 0 ↔ n < 0 := by
    rw [second]
    omega
  change tickingRefusal? uptime (.whole n) = _
  rw [tickingRefusal?, nanoseconds]
  by_cases hlong : 9223372037 ≤ n.natAbs
  · rw [if_neg (mt hlimit.mp (not_not_intro hlong)), if_pos hlong]
  · rw [if_pos (hlimit.mpr hlong), if_neg hlong]
    dsimp only
    simp only [hsign]

/-- A clock that only notes refuses what would end before it starts. -/
theorem refusal?_noting (n : Int) :
    noting.refusal? (.whole n) = if n < 0 then some .negative else none := by
  change (if Seconds.isNegative (.whole n) = true then _ else _) = _
  simp [Seconds.isNegative]

/-- A clock that only notes, or that goes on for some seconds. -/
def HasTime (clock : Clock) (seconds : Int) : Prop :=
  clock = .noting ∨ ∃ uptime h, clock = .ticking uptime h ∧ second * seconds + uptime < limit

/-- Such a clock refuses no part of these seconds. -/
theorem refusal?_of_hasTime {clock : Clock} {total n : Int} (h : clock.HasTime total)
    (hn : 0 ≤ n) (hle : n ≤ total) : clock.refusal? (.whole n) = none := by
  obtain rfl | ⟨uptime, hend, rfl, hlimit⟩ := h
  · rw [refusal?_noting, if_neg (by omega)]
  · have hvalue : limit = 9223372036854775808 := by decide +kernel
    rw [hvalue, second] at hlimit
    rw [refusal?_ticking, hvalue, second, if_neg (by omega), if_neg (by omega), if_pos (by omega)]

end Clock

namespace Script

/-- How many of the next `n` replies come before the first that is not retryable. -/
def leading (script : Script) (n : Nat) : Nat :=
  ((script.upcoming n).takeWhile Reply.isRetryable).length

theorem leading_succ (script : Script) (n : Nat) :
    leading script (n + 1) =
      if (next script).isRetryable then leading script.tail n + 1 else 0 := by
  rw [leading, upcoming, List.takeWhile_cons]
  split <;> rfl

theorem leading_le (script : Script) (n : Nat) : leading script n ≤ n := by
  induction n generalizing script with
  | zero => exact Nat.le_refl 0
  | succ n ih =>
    have := ih script.tail
    rw [leading_succ]
    split <;> omega

/-- A call takes the retryable replies and one more, as far as it has attempts. -/
theorem taken_eq_upcoming_leading (script : Script) (n : Nat) :
    taken script n = upcoming script (min (leading script n + 1) n) := by
  induction n generalizing script with
  | zero => rfl
  | succ n ih =>
    rw [taken_succ, leading_succ]
    split
    · rw [ih, Nat.add_min_add_right, upcoming]
    · rw [Nat.zero_add, Nat.min_eq_left (by omega)]
      rfl

theorem length_upcoming (script : Script) (n : Nat) : (upcoming script n).length = n := by
  rw [upcoming_eq_map, List.length_map, List.length_range]

theorem getLast?_upcoming (script : Script) (n : Nat) :
    (upcoming script (n + 1)).getLast? = some (replyAt script n) := by
  rw [upcoming_eq_map, List.range_succ, List.map_append, List.map_singleton, List.getLast?_concat]

theorem isRetryable_of_lt_leading {script : Script} {n i : Nat} (h : i < leading script n) :
    (replyAt script i).isRetryable = true := by
  induction n generalizing script i with
  | zero => cases h
  | succ n ih =>
    rw [leading_succ] at h
    split at h
    · rename_i hnext
      cases i with
      | zero => exact hnext
      | succ i =>
        have := ih (Nat.lt_of_succ_lt_succ h)
        rwa [replyAt, List.drop_tail] at this
    · cases h

end Script

/-- What is complained about after a reply that has no value. -/
def Reply.complaint (url : String) : Reply → String
  | failure f => f.message
  | response x =>
    match x.statusError? url with
    | some message => message
    | none =>
      match Json.read x.body with
      | .error e => e.message
      | .ok _ => ""

namespace Client

theorem yieldOf_of_isRetryable {r : Reply} (h : r.isRetryable = true) (url : String) :
    yieldOf url r.outcome = .failed (r.complaint url) := by
  cases r with
  | failure f =>
    have hkind : f.kind.ofExchange = true := h
    simp [Reply.outcome, yieldOf, hkind, Reply.complaint]
  | response x =>
    have hstatus := statusError?_isSome x url
    rw [Reply.isRetryable, ← hstatus] at h
    cases herror : x.statusError? url with
    | some message => simp [Reply.outcome, yieldOf, herror, Reply.complaint]
    | none =>
      cases hread : Json.read x.body with
      | ok v => simp [herror, hread] at h
      | error e =>
        have hlimit : e.isLimit = false := by simpa [herror, hread] using h
        simp [Reply.outcome, yieldOf, herror, hread, hlimit, Reply.complaint]

/-- What is answered when attempts run out. -/
theorem answerTo_of_isRetryable {r : Reply} (h : r.isRetryable = true) (console : Console)
    (url : String) :
    answerTo console url r = .str (if r.isRefusal then "Error: Invalid request format"
      else "Error: API request failed - " ++ r.complaint url) := by
  cases hrefusal : r.isRefusal with
  | true =>
    obtain ⟨text, hjudge⟩ := judge_of_refusal url hrefusal
    simp [answerTo, hjudge]
  | false =>
    simp [answerTo, judge_of_not_refusal url hrefusal, yieldOf_of_isRetryable h, judgeYield]

/-- Pauses of a call that takes `m` replies. -/
theorem sleeps_upcoming (request : Request) (delay : Int) (script : Script) (m : Nat) :
    Event.sleeps (exchanges request delay 0 (script.upcoming m)) =
      ((List.range (m - 1)).filter fun i => !(script.replyAt i).isRefusal).map fun i : Nat =>
        .whole (delay * (i + 1)) := by
  have hpairs : (script.upcoming m).dropLast.zipIdx =
      (List.range (m - 1)).map fun i => (script.replyAt i, i) := by
    apply List.ext_getElem
    · simp [Script.upcoming_eq_map]
    · intro i hi hi'
      simp [Script.upcoming_eq_map]
  rw [sleeps_exchanges, hpairs, List.filter_map, List.map_map]
  rfl

theorem answerAfter_upcoming (console : Console) (url : String) (script : Script) (m : Nat) :
    answerAfter console url (script.upcoming (m + 1)) =
      answerTo console url (script.replyAt m) := by
  rw [answerAfter, Script.getLast?_upcoming]
  rfl

variable {c : Client} {url : String} {n delay : Int} {prompt : Json} {script : Script}

/-- The course of a call that can send, if the clock makes the pauses that the replies ask for: it
takes the replies before the first that is not retryable and this one, as far as there are
attempts. -/
theorem call_of_sends (h : c.Sends url delay prompt) (hretries : c.maxRetries = .int n)
    (script : Script)
    (hwaits : ∀ i, script.PausesAfter n.toNat i → c.refusalAfter? delay (i + 1) = none) :
    let done := (c.call prompt).run script
    let m := min (script.leading n.toNat + 1) n.toNat
    done.value = .ok (answerAfter c.machine.console url (script.upcoming m)) ∧
      done.state = script.drop m ∧
      Event.requests done.events = List.replicate m (c.request url prompt) ∧
      Event.sleeps done.events =
        ((List.range (m - 1)).filter fun i => !(script.replyAt i).isRefusal).map fun i : Nat =>
          .whole (delay * (i + 1)) := by
  intro done m
  have hwaits' (i : Nat) (hi : script.PausesAfter n.toNat i) :
      c.refusalAfter? delay (0 + i + 1) = none := by
    rw [Nat.zero_add]
    exact hwaits i hi
  obtain ⟨hvalue, hstate, htraffic⟩ := attempts_spec h _ 0 script hwaits'
  rw [← call_eq_attempts hretries, Script.taken_eq_upcoming_leading] at hvalue hstate htraffic
  rw [Script.length_upcoming] at hstate
  refine ⟨hvalue, hstate, ?_, ?_⟩
  · rw [← Event.requests_traffic, htraffic, requests_exchanges, Script.length_upcoming]
  · rw [← Event.sleeps_traffic, htraffic, sleeps_upcoming]

/-- A call breaks off at the first reply after which the clock refuses to pause. -/
theorem call_break (h : c.Sends url delay prompt) (hretries : c.maxRetries = .int n) {i : Nat}
    {e : PauseError} (hpause : script.PausesAfter n.toNat i)
    (hrefused : c.refusalAfter? delay (i + 1) = some e)
    (hbefore : ∀ j < i, script.PausesAfter n.toNat j → c.refusalAfter? delay (j + 1) = none) :
    let done := (c.call prompt).run script
    done.value = .error (.pause e) ∧ done.state = script.drop (i + 1) ∧
      Event.requests done.events = List.replicate (i + 1) (c.request url prompt) ∧
      Event.sleeps done.events =
        ((List.range i).filter fun j => !(script.replyAt j).isRefusal).map fun j : Nat =>
          .whole (delay * (j + 1)) := by
  intro done
  obtain ⟨hvalue, hstate, htraffic⟩ := attempts_break h 0 hpause
    (by rwa [Nat.zero_add]) (by simpa only [Nat.zero_add] using hbefore)
  rw [← call_eq_attempts hretries] at hvalue hstate htraffic
  refine ⟨hvalue, hstate, ?_, ?_⟩
  · rw [← Event.requests_traffic, htraffic, requests_exchanges, Script.length_upcoming]
  · rw [← Event.sleeps_traffic, htraffic, sleeps_upcoming, Nat.add_sub_cancel]

/-- If the clock refuses pauses of some attempts, there is a first one. -/
theorem exists_first_refusal {p : Nat → Prop}
    (h : ∃ i, p i ∧ (c.refusalAfter? delay (i + 1)).isSome = true) :
    ∃ i, p i ∧ ∃ e, c.refusalAfter? delay (i + 1) = some e ∧
      ∀ j < i, p j → c.refusalAfter? delay (j + 1) = none := by
  classical
  obtain ⟨hp, hsome⟩ := Nat.find_spec h
  obtain ⟨e, he⟩ := Option.isSome_iff_exists.mp hsome
  refine ⟨Nat.find h, hp, e, he, ?_⟩
  intro j hj hpj
  by_contra hrefused
  exact Nat.find_min h hj ⟨hpj, Option.isSome_iff_ne_none.mpr hrefused⟩

/-- A call that can send breaks off if and only if the clock refuses a pause that is asked for. -/
theorem exists_error_iff (h : c.Sends url delay prompt) (hretries : c.maxRetries = .int n) :
    (∃ e, ((c.call prompt).run script).value = .error e) ↔
      ∃ i, script.PausesAfter n.toNat i ∧ (c.refusalAfter? delay (i + 1)).isSome = true := by
  constructor
  · rintro ⟨e, he⟩
    by_contra hnone
    have hwaits (i : Nat) (hi : script.PausesAfter n.toNat i) :
        c.refusalAfter? delay (i + 1) = none := by
      by_contra hsome
      exact hnone ⟨i, hi, Option.isSome_iff_ne_none.mpr hsome⟩
    cases he.symm.trans (call_of_sends h hretries script hwaits).1
  · intro hrefused
    obtain ⟨i, hpause, e, he, hbefore⟩ := exists_first_refusal hrefused
    exact ⟨.pause e, (call_break h hretries hpause he hbefore).1⟩

/-- What a client with one attempt makes of a reply. -/
theorem value_call_once (h : c.Sends url delay prompt) (hretries : c.maxRetries = .int 1)
    (r : Reply) :
    ((c.call prompt).run [r]).value = .ok (answerTo c.machine.console url r) := by
  have hnone (i : Nat) (hi : Script.PausesAfter [r] (1 : Int).toNat i) :
      c.refusalAfter? delay (i + 1) = none := absurd hi.1 (by simp)
  obtain ⟨hvalue, -⟩ := call_of_sends h hretries [r] hnone
  have hmin : min (Script.leading [r] (1 : Int).toNat + 1) (1 : Int).toNat = 1 :=
    Nat.min_eq_right (by simp)
  rw [hvalue, hmin, answerAfter_upcoming]
  rfl

/-! ## Requests that cannot be written -/

/-- An attempt with a request that cannot be written fails, and nothing is sent. It is retried
unless the request is nested too deeply. -/
theorem run_attempt_of_obstacle (hurl : c.url = .ok url) {o : Json.Obstacle}
    (hbody : (c.request url prompt).body.obstacle? .strict = some o) (script : Script) :
    (c.attempt prompt).run script =
      ⟨if o = .tooDeep then .broken (o.message .strict) else .failed (o.message .strict), script,
        []⟩ := by
  have hsend : (send (c.request url prompt)).run script = ⟨.error (.badBody o), script, []⟩ := by
    have hnone : (c.request url prompt).authorization = none := rfl
    simp only [Work.run, send, hnone, Option.filter_none, hbody]
  cases o <;>
    simp [attempt, hurl, hsend, judge, yieldOf, Failure.badBody, Failure.message,
      FailureKind.ofExchange]

/-- A first attempt that fails unsent leaves a pause and the other attempts. -/
theorem attempts_unsent_succ {message : String}
    (hfails : (c.attempt prompt).run script = ⟨.failed message, script, []⟩)
    (hdelay : c.retryDelay = .int delay) (left : Nat) {made : Nat}
    (hwaits : c.refusalAfter? delay (made + 1) = none) :
    let done := (c.attempts prompt (left + 2) made).run script
    let others := (c.attempts prompt (left + 1) (made + 1)).run script
    done.value = others.value ∧ done.state = others.state ∧
      Event.traffic done.events =
        .slept (.whole (delay * (made + 1))) :: Event.traffic others.events := by
  have hpause := run_pause hdelay (made + 1) script
  rw [hwaits] at hpause
  rw [attempts]
  simp [hfails, hpause]

/-- The first of some pauses, and those after one more attempt. -/
theorem pauses_succ (delay : Int) (made k : Nat) :
    ((List.range (k + 1)).map fun i : Nat => Event.slept (.whole (delay * (made + i + 1)))) =
      .slept (.whole (delay * (made + 1))) ::
        (List.range k).map fun i : Nat => .slept (.whole (delay * ((made + 1 : Nat) + i + 1))) := by
  rw [List.range_succ_eq_map, List.map_cons, List.map_map]
  refine congrArg₂ List.cons (by simp) (List.map_congr_left fun i _ => ?_)
  simp only [Function.comp_apply]
  congr 3
  omega

/-- Attempts that all fail unsent only pause. The induction is on the attempts left after the
first. -/
theorem attempts_unsent {message : String}
    (hfails : (c.attempt prompt).run script = ⟨.failed message, script, []⟩)
    (hdelay : c.retryDelay = .int delay) (left made : Nat)
    (hwaits : ∀ i < left, c.refusalAfter? delay (made + i + 1) = none) :
    let done := (c.attempts prompt (left + 1) made).run script
    done.value = .ok (.str ("Error: API request failed - " ++ message)) ∧ done.state = script ∧
      Event.traffic done.events =
        (List.range left).map fun i : Nat => .slept (.whole (delay * (made + i + 1))) := by
  induction left generalizing made with
  | zero => simp [attempts, hfails]
  | succ left ih =>
    have hothers (i : Nat) (hi : i < left) : c.refusalAfter? delay (made + 1 + i + 1) = none := by
      rw [Nat.add_assoc made 1 i, Nat.add_comm 1 i]
      exact hwaits (i + 1) (by omega)
    obtain ⟨hvalue, hstate, htraffic⟩ :=
      attempts_unsent_succ hfails hdelay left (hwaits 0 (Nat.succ_pos left))
    obtain ⟨hvalue', hstate', htraffic'⟩ := ih (made + 1) hothers
    refine ⟨hvalue.trans hvalue', hstate.trans hstate', ?_⟩
    rw [htraffic, htraffic', pauses_succ]

/-- Attempts that all fail unsent break off at the first pause that the clock refuses. The induction
is on the number of pauses before it. -/
theorem attempts_unsent_break {message : String}
    (hfails : (c.attempt prompt).run script = ⟨.failed message, script, []⟩)
    (hdelay : c.retryDelay = .int delay) {i left : Nat} (made : Nat) {e : PauseError}
    (hi : i < left)
    (hrefused : c.refusalAfter? delay (made + i + 1) = some e)
    (hbefore : ∀ j < i, c.refusalAfter? delay (made + j + 1) = none) :
    let done := (c.attempts prompt (left + 1) made).run script
    done.value = .error (.pause e) ∧ done.state = script ∧
      Event.traffic done.events =
        (List.range i).map fun j : Nat => .slept (.whole (delay * (made + j + 1))) := by
  induction i generalizing left made with
  | zero =>
    obtain ⟨left, rfl⟩ : ∃ k, left = k + 1 := ⟨left - 1, by omega⟩
    have hpause := run_pause hdelay (made + 1) script
    rw [hrefused] at hpause
    rw [attempts]
    simp [hfails, hpause]
  | succ i ih =>
    obtain ⟨left, rfl⟩ : ∃ k, left = k + 1 := ⟨left - 1, by omega⟩
    have hrefused' : c.refusalAfter? delay (made + 1 + i + 1) = some e := by
      rwa [Nat.add_assoc made 1 i, Nat.add_comm 1 i]
    have hbefore' (j : Nat) (hj : j < i) : c.refusalAfter? delay (made + 1 + j + 1) = none := by
      rw [Nat.add_assoc made 1 j, Nat.add_comm 1 j]
      exact hbefore (j + 1) (by omega)
    obtain ⟨hvalue, hstate, htraffic⟩ :=
      attempts_unsent_succ hfails hdelay left (hbefore 0 (Nat.succ_pos i))
    obtain ⟨hvalue', hstate', htraffic'⟩ :=
      ih (made + 1) (show i < left by omega) hrefused' hbefore'
    refine ⟨hvalue.trans hvalue', hstate.trans hstate', ?_⟩
    rw [htraffic, htraffic', pauses_succ]

/-- A call whose attempts all fail unsent breaks off if and only if the clock refuses a pause. -/
theorem exists_error_unsent_iff {message : String}
    (hfails : (c.attempt prompt).run script = ⟨.failed message, script, []⟩)
    (hretries : c.maxRetries = .int n) (hdelay : c.retryDelay = .int delay) :
    (∃ e, ((c.call prompt).run script).value = .error e) ↔
      ∃ i : Nat, i + 1 < n ∧ (c.refusalAfter? delay (i + 1)).isSome = true := by
  rw [call_eq_attempts hretries]
  constructor
  · rintro ⟨e, he⟩
    by_contra hnone
    cases hn : n.toNat with
    | zero =>
      rw [hn] at he
      cases he
    | succ left =>
      have hwaits (i : Nat) (hi : i < left) : c.refusalAfter? delay (0 + i + 1) = none := by
        by_contra hsome
        rw [Nat.zero_add] at hsome
        exact hnone ⟨i, by omega, Option.isSome_iff_ne_none.mpr hsome⟩
      rw [hn] at he
      cases he.symm.trans (attempts_unsent hfails hdelay left 0 hwaits).1
  · intro hrefused
    obtain ⟨i, hi, e, he, hbefore⟩ := exists_first_refusal hrefused
    obtain ⟨left, hleft⟩ : ∃ left, n.toNat = left + 1 := ⟨n.toNat - 1, by omega⟩
    rw [hleft]
    refine ⟨.pause e, (attempts_unsent_break hfails hdelay (i := i) 0 (by omega) ?_ ?_).1⟩
    · rwa [Nat.zero_add]
    · intro j hj
      rw [Nat.zero_add]
      exact hbefore j hj (by omega)

/-! ## The course of a call -/

/-- Nothing but the clock breaks attempts off. The induction is on the attempts left. -/
theorem error_of_attempts (hdelay : c.retryDelay = .int delay) {left made : Nat} {e : CallError}
    (h : ((c.attempts prompt left made).run script).value = .error e) :
    ∃ i, i + 1 < left ∧ ∃ why, c.refusalAfter? delay (made + i + 1) = some why ∧
      e = .pause why := by
  induction left generalizing made script with
  | zero => cases h
  | succ left ih =>
    -- What breaks the other attempts off breaks all of them off.
    have hrest {script : Script}
        (h : ((c.attempts prompt left (made + 1)).run script).value = .error e) :
        ∃ i, i + 1 < left + 1 ∧ ∃ why, c.refusalAfter? delay (made + i + 1) = some why ∧
          e = .pause why := by
      obtain ⟨i, hi, why, hwhy, he⟩ := ih h
      refine ⟨i + 1, by omega, why, ?_, he⟩
      rwa [Nat.add_assoc made 1 i, Nat.add_comm 1 i] at hwhy
    rw [attempts, Work.run_bind] at h
    cases hattempt : ((c.attempt prompt).run script).value with
    | refused text =>
      simp only [hattempt, Work.run_bind] at h
      split at h
      · cases h
      · exact hrest h
    | failed message =>
      simp only [hattempt, Work.run_bind] at h
      split at h
      · cases h
      · rename_i hleft
        simp only [Work.run_bind, run_pause hdelay] at h
        cases hwhy : c.refusalAfter? delay (made + 1) with
        | some why =>
          rw [hwhy] at h
          cases h
          exact ⟨0, by omega, why, hwhy, rfl⟩
        | none =>
          rw [hwhy] at h
          exact hrest h
    | broken message => simp [hattempt, giveUp] at h
    | shapeless v =>
      cases hprint : c.machine.console.refusal? (unexpected v) <;>
        simp [hattempt, hprint, giveUp] at h
    | answered v => simp [hattempt] at h

theorem error_of_call (hretries : c.maxRetries = .int n) (hdelay : c.retryDelay = .int delay)
    {e : CallError} (h : ((c.call prompt).run script).value = .error e) :
    ∃ i : Nat, i + 1 < n ∧ ∃ why, c.refusalAfter? delay (i + 1) = some why ∧ e = .pause why := by
  rw [call_eq_attempts hretries] at h
  obtain ⟨i, hi, why, hwhy, he⟩ := error_of_attempts hdelay h
  exact ⟨i, by omega, why, by rwa [Nat.zero_add] at hwhy, he⟩

/-- A call whose pauses can be made always has an answer. -/
theorem exists_answer_of_waits (hretries : c.maxRetries = .int n)
    (hdelay : c.retryDelay = .int delay)
    (hwaits : ∀ i : Nat, i + 1 < n → c.refusalAfter? delay (i + 1) = none) (prompt : Json)
    (script : Script) : ∃ answer, ((c.call prompt).run script).value = .ok answer := by
  cases hcall : ((c.call prompt).run script).value with
  | ok answer => exact ⟨answer, rfl⟩
  | error e =>
    obtain ⟨i, hi, why, hwhy, -⟩ := error_of_call hretries hdelay hcall
    rw [hwaits i hi] at hwhy
    cases hwhy

/-- A clock with time for the longest pause of a client makes all of them. -/
theorem refusalAfter?_of_hasTime (h : c.machine.clock.HasTime (delay * (n - 1)))
    (hdelay : 0 ≤ delay) {i : Nat} (hi : i + 1 < n) : c.refusalAfter? delay (i + 1) = none := by
  refine Clock.refusal?_of_hasTime h (Int.mul_nonneg hdelay (Int.natCast_nonneg _)) ?_
  exact Int.mul_le_mul_of_nonneg_left (by omega) hdelay

end Client

/-! ## Bodies past the limits -/

namespace Json.Reader

/-- Lists inside each other are given up where they are too deep, whatever follows. -/
theorem value_nested (depth : Nat) {fuel : Nat} (h : 2 * depth < fuel) (rest : List Symbol) :
    value fuel depth (List.replicate (depth + 1) (.char '[') ++ rest) =
      .error (.tooDeep .list) := by
  induction depth generalizing fuel with
  | zero =>
    obtain ⟨fuel, rfl⟩ : ∃ f, fuel = f + 1 := ⟨fuel - 1, by omega⟩
    simp [value]
  | succ depth ih =>
    obtain ⟨fuel, rfl⟩ : ∃ f, fuel = f + 2 := ⟨fuel - 2, by omega⟩
    have hdeeper := ih (show 2 * depth < fuel by omega)
    have hblank : skipBlanks (List.replicate (depth + 1) (.char '[') ++ rest) =
        List.replicate (depth + 1) (.char '[') ++ rest := by
      simp [skipBlanks, List.replicate_succ, isBlank]
    rw [List.replicate_succ, List.cons_append, value, hblank]
    rw [List.replicate_succ, List.cons_append] at hdeeper ⊢
    simp [items, hdeeper, bind, Except.bind]

theorem whole_nested {depth n : Nat} (h : depth < n) :
    whole depth (List.replicate n (.char '[')) = .error (.tooDeep .list) := by
  obtain ⟨more, rfl⟩ : ∃ more, n = depth + 1 + more := ⟨n - (depth + 1), by omega⟩
  have hblank : skipBlanks (List.replicate (depth + 1 + more) (.char '[')) =
      List.replicate (depth + 1) (.char '[') ++ List.replicate more (.char '[') := by
    rw [List.replicate_append_replicate, Nat.add_right_comm]
    simp [skipBlanks, List.replicate_succ, isBlank]
  rw [whole, hblank, List.length_replicate, value_nested depth (by omega)]
  rfl

end Json.Reader

/-- Lists inside each other are not read if they are too deep, whether they are closed or not. -/
theorem Json.read_nested {n : Nat} (h : Json.maxDepth < n) :
    Json.read (Text.ofList (List.replicate n '[')) = .error (.tooDeep .list) := by
  have hsymbols : (Text.ofList (List.replicate n '[')).symbols = List.replicate n (.char '[') := by
    rw [Text.ofList, List.map_replicate]
  have hmark : (List.replicate n (Symbol.char '[')).head? ≠ some (.char Json.byteOrderMark) := by
    obtain ⟨m, rfl⟩ : ∃ m, n = m + 1 := ⟨n - 1, by omega⟩
    rw [List.replicate_succ, List.head?_cons]
    decide
  rw [Json.read, Json.readWithin, hsymbols, if_neg hmark, Json.Reader.whole_nested h]
  rfl

/-- A body of lists inside each other that are too deep cannot be read, but is not worth asking for
again. -/
theorem Reply.isRetryable_nested {n : Nat} (h : Json.maxDepth < n) (reason : String) :
    let x : Response := ⟨200, reason, String.ofList (List.replicate n '[')⟩
    Json.read x.body = .error (.tooDeep .list) ∧ (Reply.response x).isRetryable = false := by
  intro x
  have hread : Json.read x.body = .error (.tooDeep .list) := by
    have hbody : Text.ofString x.body = Text.ofList (List.replicate n '[') := by
      rw [Text.ofString, String.toList_ofList]
    rw [hbody]
    exact Json.read_nested h
  refine ⟨hread, ?_⟩
  simp only [Reply.isRetryable, hread]
  rfl

namespace Client

end Client

end Scribe
