import Mathlib.Algebra.BigOperators.Group.List.Basic
import Mathlib.Algebra.GroupWithZero.Nat
import Scribe.Web.Process

/-!
# The written form of a report

A report is written as its files, each with its methods, and the counters after them. Texts stand in
it symbol by symbol, each escaped on its own. So when some texts of a report end differently, the
written form differs there and nowhere else.

## Main results

* `Swapped.eq_iff`: when lists that differ in places are the same.
* `Report.toList_render`, `FileReport.toList_render`, `MethodReport.toList_render`: the written form
  of a report and its parts.
-/

namespace Scribe

/-! ## Lists that differ in places -/

/-- Two lists that are the same, except that `n` times `u` stands in the one where `v` stands in the
other. -/
inductive Swapped {α : Type} (u v : List α) : Nat → List α → List α → Prop
  | same (x : List α) : Swapped u v 0 x x
  | swap : Swapped u v 1 u v
  | append {m n : Nat} {x y x' y' : List α} :
      Swapped u v m x y → Swapped u v n x' y' → Swapped u v (m + n) (x ++ x') (y ++ y')

namespace Swapped

variable {α β : Type} {u v x y : List α} {m n : Nat}

theorem append_left (z : List α) (h : Swapped u v n x y) : Swapped u v n (z ++ x) (z ++ y) := by
  simpa using (same z).append h

theorem append_right (z : List α) (h : Swapped u v n x y) : Swapped u v n (x ++ z) (y ++ z) :=
  h.append (same z)

theorem length (h : Swapped u v n x y) :
    x.length + n * v.length = y.length + n * u.length := by
  induction h with
  | same x => simp
  | swap => omega
  | append _ _ ih ih' =>
    simp only [List.length_append, Nat.add_mul]
    omega

/-- Two lists that differ in places are the same exactly if so are the pieces that stand there, or
if there are no such places. -/
theorem eq_iff (h : Swapped u v n x y) : x = y ↔ u = v ∨ n = 0 := by
  constructor
  · intro heq
    by_cases hn : n = 0
    · exact .inr hn
    have hsize : u.length = v.length := by
      have hlength := h.length
      rw [heq] at hlength
      exact (Nat.eq_of_mul_eq_mul_left (Nat.pos_of_ne_zero hn) (Nat.add_left_cancel hlength)).symm
    -- The pieces have one size, so the two lists can be compared part by part.
    refine .inl ?_
    induction h with
    | same x => exact absurd rfl hn
    | swap => exact heq
    | @append m n x y x' y' h _ ih ih' =>
      have hlength := h.length
      rw [hsize] at hlength
      obtain ⟨hx, hy⟩ := List.append_inj heq (Nat.add_right_cancel hlength)
      by_cases hm : m = 0
      · exact ih' hy (by omega)
      · exact ih hx hm
  · intro hsame
    induction h with
    | same x => rfl
    | swap => exact hsame.resolve_right Nat.one_ne_zero
    | append _ _ ih ih' =>
      rw [ih (hsame.imp_right fun hn => (Nat.add_eq_zero_iff.mp hn).1),
        ih' (hsame.imp_right fun hn => (Nat.add_eq_zero_iff.mp hn).2)]

theorem intercalate (z : List α) {f g : β → List α} {count : β → Nat} {items : List β}
    (h : ∀ b ∈ items, Swapped u v (count b) (f b) (g b)) :
    Swapped u v (items.map count).sum (z.intercalate (items.map f))
      (z.intercalate (items.map g)) := by
  induction items with
  | nil => exact same _
  | cons b rest ih =>
    have hb := h b List.mem_cons_self
    have hrest := ih fun c hc => h c (List.mem_cons_of_mem _ hc)
    cases rest with
    | nil => simpa using hb
    | cons c more =>
      simp only [List.map_cons, List.intercalate_cons_cons, List.append_assoc, List.sum_cons] at *
      exact hb.append (hrest.append_left z)

end Swapped

/-! ## Written texts -/

/-- A text between its quotes. -/
def escaped (t : Text) : List Char := t.symbols.flatMap Json.escapeSymbol

theorem escaped_append (a b : Text) : escaped (a ++ b) = escaped a ++ escaped b :=
  List.flatMap_append

theorem toList_renderText (t : Text) :
    (Json.renderText t).toList = '"' :: (escaped t ++ ['"']) := by
  simp [Json.renderText, escaped]

theorem renderItems_eq_map (items : List Json) :
    Json.renderItems items = items.map Json.render := by
  induction items with
  | nil => rfl
  | cons v rest ih => rw [Json.renderItems, ih, List.map_cons]

theorem Web.Answer.body_json_inj {status status' : Nat} {v v' : Json} :
    (json status v).body = (json status' v').body ↔ v.render.toList = v'.render.toList := by
  simp [json, String.toList_inj]

theorem MethodReport.toList_render (m : MethodReport) :
    m.toJson.render.toList =
      "\x7b\"documentation\":\"".toList ++ (escaped m.documentation ++
        ("\",\"name\":\"".toList ++ (escaped m.name ++ "\"\x7d".toList))) := by
  have hname : Json.renderText "name" = "\"name\"" := by decide
  have hdocumentation : Json.renderText "documentation" = "\"documentation\"" := by decide
  simp only [toJson, Json.render, Json.renderFields, sortByName, insertByName]
  rw [if_neg (by decide)]
  simp [toList_renderText, hname, hdocumentation]

theorem FileReport.toList_render (f : FileReport) :
    f.toJson.render.toList =
      "\x7b\"file_path\":\"".toList ++ (escaped f.path ++
        ("\",\"language\":\"".toList ++ (escaped f.language.tag ++
          ("\",\"methods\":[".toList ++
            ([','].intercalate (f.methods.map (·.toJson.render.toList)) ++ "]\x7d".toList))))) := by
  have hpath : Json.renderText "file_path" = "\"file_path\"" := by decide
  have hlanguage : Json.renderText "language" = "\"language\"" := by decide
  have hmethods : Json.renderText "methods" = "\"methods\"" := by decide
  have hfirst : ("file_path" : Text) ≤ "language" := by decide
  have hsecond : ("language" : Text) ≤ "methods" := by decide
  simp only [toJson, Json.render, Json.renderFields, renderItems_eq_map, sortByName, insertByName,
    if_pos hfirst, if_pos hsecond]
  simp [toList_renderText, hpath, hlanguage, hmethods, Function.comp_def]

theorem Report.toList_render (r : Report) :
    r.toJson.render.toList =
      "\x7b\"files\":[".toList ++ ([','].intercalate (r.files.map (·.toJson.render.toList)) ++
        ("],\"stats\":".toList ++
          ((Json.obj [("processed", .int r.stats.processed),
            ("failed", .int r.stats.failed)]).render.toList ++ "\x7d".toList))) := by
  have hfiles : Json.renderText "files" = "\"files\"" := by decide
  have hstats : Json.renderText "stats" = "\"stats\"" := by decide
  have hfirst : ("files" : Text) ≤ "stats" := by decide
  simp only [toJson, Json.render, Json.renderFields, renderItems_eq_map, sortByName, insertByName,
    if_pos hfirst]
  simp [hfiles, hstats, Function.comp_def]

end Scribe
