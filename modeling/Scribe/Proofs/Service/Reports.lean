import Scribe.Proofs.Generator.Reading
import Scribe.Web.Process

/-!
# Reports as they are read

A report is answered as a value. Whoever reads the fields of the value by their names finds the
report: its files with their paths, languages and methods, and its counters.

## Main results

* `Report.ofJson?_toJson`: reading a report gives the report.
-/

namespace Scribe

/-- Reading what was written, item by item. -/
theorem mapM_map_eq_some {α β : Type} {write : α → β} {read? : β → Option α}
    (h : ∀ a, read? (write a) = some a) (items : List α) :
    (items.map write).mapM read? = some items := by
  induction items with
  | nil => rfl
  | cons a rest ih => simp [List.mapM_cons, h, ih]

theorem Text.plain?_ofString (s : String) : (ofString s).plain? = some s := by
  have hchars : (ofString s).symbols.mapM Symbol.char? = some s.toList :=
    @mapM_map_eq_some _ _ Symbol.char _ (fun _ => rfl) s.toList
  rw [plain?, hchars, Option.map_eq_map, Option.map_some, String.ofList_toList]

namespace Json

/-- The text under a name. -/
def textAt? (v : Json) (name : Text) : Option Text := (v.at? [.field name]).bind text?

/-- The items of the list under a name. -/
def itemsAt? (v : Json) (name : Text) : Option (List Json) :=
  match v.at? [.field name] with
  | some (.arr items) => some items
  | _ => none

/-- The number under a name below another one. -/
def countAt? (v : Json) (outer inner : Text) : Option Nat :=
  match v.at? [.field outer, .field inner] with
  | some (.int n) => if 0 ≤ n then some n.toNat else none
  | _ => none

end Json

namespace MethodReport

def ofJson? (v : Json) : Option MethodReport := do
  let name ← (← v.textAt? "name").plain?
  let documentation ← v.textAt? "documentation"
  return ⟨name, documentation⟩

theorem ofJson?_toJson (m : MethodReport) : ofJson? m.toJson = some m := by
  have hname : m.toJson.textAt? "name" = some (Text.ofString m.name) := rfl
  have hdocumentation : m.toJson.textAt? "documentation" = some m.documentation := rfl
  simp [ofJson?, hname, hdocumentation, Text.plain?_ofString]

end MethodReport

namespace FileReport

def ofJson? (v : Json) : Option FileReport := do
  let path ← v.textAt? "file_path"
  let language ← Language.ofTag? (← (← v.textAt? "language").plain?)
  let methods ← (← v.itemsAt? "methods").mapM MethodReport.ofJson?
  return ⟨path, language, methods⟩

theorem ofJson?_toJson (f : FileReport) : ofJson? f.toJson = some f := by
  have hpath : f.toJson.textAt? "file_path" = some f.path := rfl
  have hlanguage : f.toJson.textAt? "language" = some (Text.ofString f.language.tag) := rfl
  have hmethods : f.toJson.itemsAt? "methods" = some (f.methods.map MethodReport.toJson) := rfl
  simp [ofJson?, hpath, hlanguage, hmethods, Text.plain?_ofString, Language.ofTag?_tag,
    mapM_map_eq_some MethodReport.ofJson?_toJson]

end FileReport

namespace Report

/-- Reads a report by the names of its fields. -/
def ofJson? (v : Json) : Option Report := do
  let files ← (← v.itemsAt? "files").mapM FileReport.ofJson?
  let processed ← v.countAt? "stats" "processed"
  let failed ← v.countAt? "stats" "failed"
  return ⟨files, processed, failed⟩

/-- Reading a report gives the report. -/
theorem ofJson?_toJson (r : Report) : ofJson? r.toJson = some r := by
  have hfiles : r.toJson.itemsAt? "files" = some (r.files.map FileReport.toJson) := rfl
  have hprocessed : r.toJson.countAt? "stats" "processed" = some r.stats.processed := rfl
  have hfailed : r.toJson.countAt? "stats" "failed" = some r.stats.failed := rfl
  simp [ofJson?, hfiles, hprocessed, hfailed, mapM_map_eq_some FileReport.ofJson?_toJson]

end Report

end Scribe
