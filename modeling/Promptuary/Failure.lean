import Promptuary.Json.Reader
import Promptuary.Schema.Issue
import Promptuary.Template.Check

/-!
Why an operation failed. The library's own failures carry a code and details; the others say what
kind of data or calculation could not be dealt with. All wording is here or with the cause itself.
-/

namespace Promptuary

/-- Why a calculation with numbers has no result. -/
inductive NumberError where
  /-- An integer lies beyond the range of floats. -/
  | beyondFloat
  /-- A quotient of integers lies beyond the range of floats. -/
  | quotientBeyondFloat
  /-- An infinite number cannot be rounded to an integer. -/
  | roundInfinite
  /-- What is not a number cannot be rounded to an integer. -/
  | roundUndefined
  /-- A percentile was asked for outside of zero to one hundred. -/
  | percentage
  /-- As many values as weights are needed. -/
  | lengths (values weights : Nat)
deriving DecidableEq, Repr

/-- The wording of a number error. -/
def NumberError.message : NumberError → String
  | .beyondFloat => Number.beyondFloat
  | .quotientBeyondFloat => "integer division result too large for a float"
  | .roundInfinite => "cannot convert float infinity to integer"
  | .roundUndefined => "cannot convert float NaN to integer"
  | .percentage => "Percentiles must be in the range [0, 100]"
  | .lengths n m => s!"shapes ({n},) and ({m},) not aligned: {n} (dim 0) != {m} (dim 0)"

/-- Why an operation failed. -/
inductive Failure where
  /-- A failure of the library without a kind of its own. -/
  | general (message : String) (code : Option String) (details : Fields)
  /-- A template or its definition breaks rules; all of them are listed. -/
  | validation (message : String) (errors : List String) (templateId : Option String)
  /-- A template could not be compiled. -/
  | compilation (message : String) (missing : List String) (templateId label : Option String)
  /-- A label is taken already. -/
  | conflict (templateId label : String)
  /-- There is no such template, or no such version of it. -/
  | notFound (templateId : String) (label : Option String)
  /-- A repository could not do what it was asked. -/
  | storage (message : String) (space key : Option String)
  /-- Data does not have the shape of a record. -/
  | schema (issues : List Schema.Issue)
  | calendar (cause : Calendar.CalendarError)
  | number (cause : NumberError)
  | integer (cause : Number.IntegerError)
  | check (cause : CheckError)
  /-- A stored text is no document. -/
  | document (cause : Json.ReadError)
  /-- More calls would lie in one another than may. -/
  | tooManyCalls
  /-- Data of the callers' own are nested too deeply to be stored. -/
  | tooNested
  /-- The particulars of an event are nested too deeply to be sent. -/
  | unsendable
  /-- Snapshots of minutes are not rolled up. -/
  | minuteRollup
  /-- There is no interval of this name. -/
  | unknownInterval (name : String)
  /-- There is no type of event of this name. -/
  | unknownEvent (name : String)
  /-- A list has no item at a position. -/
  | noSuchItem
  /-- The medium of a repository is full. -/
  | disk
deriving Inhabited

namespace Failure

/-- The wording where data are nested too deeply. -/
def tooDeep : String := "Maximum serialization depth exceeded"

/-- The wording of a failure. -/
def message : Failure → String
  | .general message _ _ => message
  | .validation message _ _ => message
  | .compilation message _ _ _ => message
  | .conflict templateId label => s!"Version {label} already exists for template {templateId}"
  | .notFound templateId label =>
    match label with
    | some label =>
      if label = "" then s!"Template not found: {templateId}"
      else s!"Template version not found: {templateId}@{label}"
    | none => s!"Template not found: {templateId}"
  | .storage message _ _ => message
  | .schema issues => Schema.messageOfAll issues
  | .calendar cause => cause.message
  | .number cause => cause.message
  | .integer cause => cause.message
  | .check cause => cause.message
  | .document cause => cause.message
  | .tooManyCalls => "maximum recursion depth exceeded"
  | .tooNested => tooDeep
  | .unsendable => "Error serializing to JSON: ValueError: " ++ tooDeep
  | .minuteRollup => "Minute snapshots are updated in real time, not rolled up"
  | .unknownInterval name => Text.quoted name ++ " is not a valid SnapshotInterval"
  | .unknownEvent name => Text.quoted name ++ " is not a valid EventType"
  | .noSuchItem => "list index out of range"
  | .disk => "disk full"

/-- The code and the details that the library's own failures carry. -/
def particulars? : Failure → Option (Option String × Fields)
  | .general _ code details => some (code, details)
  | .validation _ errors templateId =>
    some (some "VALIDATION_ERROR",
      [("template_id", Datum.ofText? templateId), ("errors", .list (errors.map .text))])
  | .compilation _ missing templateId label =>
    some (some "COMPILATION_ERROR",
      [("template_id", Datum.ofText? templateId), ("version", Datum.ofText? label),
       ("missing_variables", .list (missing.map .text))])
  | .conflict templateId label =>
    some (some "VERSION_CONFLICT", [("template_id", .text templateId), ("version", .text label)])
  | .notFound templateId label =>
    some (some "NOT_FOUND",
      [("template_id", .text templateId), ("version", Datum.ofText? label)])
  | .storage _ space key =>
    some (some "STORAGE_ERROR",
      [("namespace", Datum.ofText? space), ("key", Datum.ofText? key)])
  | _ => none

/-- The failure to compile a template. -/
def ofCompile (t : Template) (e : CompileError) : Failure :=
  .compilation e.message e.missingNames (some t.id) (some t.version)

end Failure

end Promptuary
