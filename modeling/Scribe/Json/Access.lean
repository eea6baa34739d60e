import Scribe.Json.Value
import Scribe.Text.Quoted

/-!
# Looking into values of unknown shape

A reply of a model service may have any shape. Each way of looking into a value either answers or
names the reason why this value cannot be looked into that way.
-/

namespace Scribe.Json

/-- Why a value cannot be used in some way. -/
inductive AccessError where
  /-- Values of this kind do not have this operation. -/
  | noOperation (kind : String) (operation : String)
  /-- Values of this kind have no parts to pick from. -/
  | notSubscriptable (kind : String)
  /-- Values of this kind hold nothing to search. -/
  | notSearchable (kind : String)
  /-- Values of this kind hold nothing to go through. -/
  | notIterable (kind : String)
  /-- Values of this kind cannot be the key of an entry. -/
  | notAKey (kind : String)
  | missingField (name : Text)
  /-- There is nothing under a key, which is given as it is shown. -/
  | missingKey (literal : String)
  | missingPosition (index : Nat)
  | listPastEnd
  | textPastEnd
  /-- A list was asked for a named part. -/
  | listByName
  /-- A text was asked for a named part. -/
  | textByName
  deriving DecidableEq, Repr

def AccessError.message : AccessError → String
  | noOperation kind operation => "'" ++ kind ++ "' object has no attribute '" ++ operation ++ "'"
  | notSubscriptable kind => "'" ++ kind ++ "' object is not subscriptable"
  | notSearchable kind => "argument of type '" ++ kind ++ "' is not iterable"
  | notIterable kind => "'" ++ kind ++ "' object is not iterable"
  | notAKey kind => "unhashable type: '" ++ kind ++ "'"
  | missingField name => Text.quoted name
  | missingKey literal => literal
  | missingPosition index => toString index
  | listPastEnd => "list index out of range"
  | textPastEnd => "string index out of range"
  | listByName => "list indices must be integers or slices, not str"
  | textByName => "string indices must be integers, not 'str'"

/-- Whether one list occurs inside another. -/
def occursIn {α : Type} [BEq α] (part : List α) : List α → Bool
  | [] => part.isEmpty
  | a :: rest => part.isPrefixOf (a :: rest) || occursIn part rest

/-- Whether a value mentions a name: as a field, as an item or inside a text. -/
def mentions (v : Json) (name : Text) : Except AccessError Bool :=
  match v with
  | obj fields => .ok (lookup name fields).isSome
  | arr items => .ok (items.any fun item => match item with
    | str s => s == name
    | _ => false)
  | str s => .ok (occursIn name.symbols s.symbols)
  | _ => .error (.notSearchable v.kind)

/-- The part of a value under a name. -/
def field (v : Json) (name : Text) : Except AccessError Json :=
  match v with
  | obj fields => match lookup name fields with
    | some part => .ok part
    | none => .error (.missingField name)
  | arr _ => .error .listByName
  | str _ => .error .textByName
  | _ => .error (.notSubscriptable v.kind)

/-- The first item or symbol. -/
def first : Json → Except AccessError Json
  | arr (item :: _) => .ok item
  | arr [] => .error .listPastEnd
  | str s => match s.symbols with
    | c :: _ => .ok (str ⟨[c]⟩)
    | [] => .error .textPastEnd
  | obj _ => .error (.missingPosition 0)
  | v => .error (.notSubscriptable v.kind)

/-- The field of an object, or a default if it has none. -/
def fieldD (v : Json) (name : Text) (default : Json) : Except AccessError Json :=
  match v with
  | obj fields => .ok ((lookup name fields).getD default)
  | _ => .error (.noOperation v.kind "get")

/-- Whether a value is a text that starts with another one. -/
def startsWith (v : Json) (start : Text) : Except AccessError Bool :=
  match v with
  | str s => .ok (s.startsWith start)
  | _ => .error (.noOperation v.kind "startswith")

/-- The items, symbols or field names that a value holds. -/
def elements : Json → Except AccessError (List Json)
  | arr items => .ok items
  | str s => .ok (s.symbols.map fun c => str ⟨[c]⟩)
  | obj fields => .ok (fields.map fun f => str f.1)
  | v => .error (.notIterable v.kind)

/-- Values without changeable parts can be keys. -/
def asKey : Json → Except AccessError Json
  | arr items => .error (.notAKey (arr items).kind)
  | obj fields => .error (.notAKey (obj fields).kind)
  | v => .ok v

end Scribe.Json
