import Promptuary.Execution.Recorder
import Promptuary.Statistics.Scalar
import Promptuary.Store.Basic
import Promptuary.Template.Criteria
import Promptuary.Text.Case

/-!
Questions to the store: compiling and checking a stored template, and searching. A search filters
the live records, sorts them by a key, those of equal keys staying in the order of the store, and
cuts out a page.
-/

namespace Promptuary

open Calendar (Moment)
open Operation

namespace Store

/-! ### One template -/

/-- A template, or one of its versions, or a failure. -/
def lookUp (id : String) (label : Option String) : Operation Store Template := do
  match (← own).find? id label with
  | some t => return t
  | none => throw (.notFound id label)

/-- Compiles a stored template against bindings. -/
def compile (id : String) (bindings : Fields) (label : Option String := none) :
    Operation Store String :=
  onFailure (announceFailure id "compile" [("version", Datum.ofText? label)]) do
    let t ← lookUp id label
    match t.compile (← own).options (.ofFields bindings) with
    | .error e => throw (.ofCompile t e)
    | .ok text =>
      announce (.templateCompiled id t.version text.length)
      return text

/-- Checks bindings against a stored template. -/
def validate (id : String) (bindings : Fields) (label : Option String := none) :
    Operation Store Verdict := do
  let t ← lookUp id label
  return t.validate (← own).options bindings

/-! ### Filters -/

/-- Whether a text occurs in another. -/
def occursIn (part : List Char) : List Char → Bool
  | [] => part.isEmpty
  | c :: rest => part.isPrefixOf (c :: rest) || occursIn part rest

/-- Whether a query occurs in a text, whatever the case of letters. -/
def matchesQuery (query text : String) : Bool :=
  occursIn (Text.lower query).toList (Text.lower text).toList

/-- A filter by a text; an empty one lets everything pass. -/
def byText (wanted : Option String) (p : String → Template → Bool) (t : Template) : Bool :=
  match wanted with
  | some wanted => wanted.isEmpty || p wanted t
  | none => true

/-- A filter by a truth value. -/
def byTruth (wanted : Option Bool) (actual : Template → Bool) (t : Template) : Bool :=
  match wanted with
  | some wanted => actual t == wanted
  | none => true

/-- Whether a template passes the filters before those by time. -/
def passesFirst (c : Criteria) (t : Template) : Bool :=
  byText c.query
      (fun query t =>
        matchesQuery query t.name || matchesQuery query t.description || matchesQuery query t.body)
      t &&
    byText c.category (fun category t => t.category = category) t &&
    (c.tags.isEmpty || c.tags.any t.tags.contains) &&
    byText c.createdBy (fun author t => t.createdBy = some author) t

/-- Whether a template passes the filters after those by time. -/
def passesLast (c : Criteria) (t : Template) : Bool :=
  byTruth c.isActive Template.isActive t &&
    byTruth c.hasVariables (fun t => !t.declarations.isEmpty) t

/-- A filter by a moment. -/
def byMoment (limit : Option Moment) (p : Moment → Except Calendar.CalendarError Bool)
    (templates : List Template) : Except Calendar.CalendarError (List Template) :=
  if limit.isNone then .ok templates else templates.filterM fun t => p t.createdAt

/-- The templates that pass all filters. -/
def filtered (c : Criteria) (templates : List Template) :
    Except Calendar.CalendarError (List Template) := do
  let first := templates.filter (passesFirst c)
  let after ← byMoment c.createdAfter (fun t => (c.createdAfter.getD t).le? t) first
  let before ← byMoment c.createdBefore (fun t => t.le? (c.createdBefore.getD t)) after
  return before.filter (passesLast c)

/-! ### Order -/

/-- Items in order of a key, ascending or descending; items of equal keys keep their order. -/
def sortBy {κ : Type} (le : κ → κ → Bool) (descending : Bool) (key : Template → κ)
    (templates : List Template) : List Template :=
  templates.mergeSort fun a b => if descending then le (key b) (key a) else le (key a) (key b)

/-- Templates in order of a time. -/
def sortByTime (descending : Bool) (key : Template → Moment) (templates : List Template) :
    Except Calendar.CalendarError (List Template) :=
  if Moment.agree (templates.map key) then
    .ok (sortBy (fun s t => !t.isBefore s) descending key templates)
  else .error .mixedZones

/-- How the executions of templates rank them. -/
structure Ranking (α : Type) where
  usage : String → Nat
  score : String → Except Failure α

variable {α : Type} [Scalar α]

/-- The ranking by the executions that a recorder keeps. Without a recorder all templates rank the
same. -/
def Ranking.ofRecorder (recorder : Option (Recorder α)) : Ranking α where
  usage id := match recorder with
    | some r => r.usage id
    | none => 0
  score id := match recorder with
    | some r => r.score id
    | none => .ok Scalar.zero

/-- Templates in the order that criteria ask for. -/
def inOrder (r : Ranking α) (c : Criteria) (templates : List Template) :
    Except Failure (List Template) :=
  let down := c.descending
  match c.sortBy with
  | none => .ok templates
  | some .createdAt => (sortByTime down Template.createdAt templates).mapError .calendar
  | some .updatedAt => (sortByTime down Template.updatedAt templates).mapError .calendar
  | some .name => .ok (sortBy (fun a b => !(b < a)) down (fun t => Text.lower t.name) templates)
  | some .usage => .ok (sortBy (fun a b => a ≤ b) down (fun t => r.usage t.id) templates)
  | some .performance => do
    let scored ← templates.mapM fun t => return (t, ← r.score t.id)
    let le (a b : Template × α) : Bool := !Scalar.lt b.2 a.2
    return (scored.mergeSort fun a b => if down then le b a else le a b).map (·.1)

/-- The page of a list that criteria ask for. -/
def page (c : Criteria) (templates : List Template) : List Template :=
  let rest := templates.drop c.offset.toNat
  match c.limit with
  | some limit => rest.take limit.toNat
  | none => rest

/-- The live templates that criteria ask for. -/
def search (s : Store) (r : Ranking α) (c : Criteria) : Except Failure (List Template) := do
  let found ← (filtered c s.live.values).mapError .calendar
  return page c (← inOrder r c found)

end Store

end Promptuary
