import Promptuary.Schema.Form
import Promptuary.Statistics.Scalar

/-!
Executions of compiled prompts as the providers report them, and the summary of several of them.
-/

namespace Promptuary

open Schema

variable {α : Type} [Scalar α]

/-- Token counts from the fields of an object, or as such. -/
def TokenUsage.shape : Shape TokenUsage
  | .usage u => .valid u
  | d =>
    record "TokenUsage" (fun fields =>
      TokenUsage.mk
        <$> fieldOr "prompt" integer 0 fields
        <*> fieldOr "completion" integer 0 fields
        <*> fieldOr "total" integer 0 fields) d

/-- One execution of a compiled prompt. -/
structure Execution (α : Type) where
  templateId : String
  label : String
  bindings : Fields
  provider : String
  model : String
  response : String
  /-- In milliseconds. -/
  responseTime : α
  tokens : TokenUsage
  cost : α
  success : Bool
  error : Option String
  quality : Option α
  executedAt : Calendar.Moment

namespace Execution

/-- An execution from the fields of an object. A time that is absent is the one given. -/
def shape (now : Calendar.Moment) : Shape (Execution α) := record "ExecutionRecord" fun fields =>
  Execution.mk
    <$> field "template_id" text fields
    <*> field "version" text fields
    <*> fieldOr "variables" (mapping anything) [] fields
    <*> field "provider" text fields
    <*> field "model" text fields
    <*> fieldOr "response" text "" fields
    <*> field "response_time" Scalar.shape fields
    <*> fieldOr "token_usage" TokenUsage.shape {} fields
    <*> fieldOr "cost" Scalar.shape Scalar.zero fields
    <*> fieldOr "success" truth true fields
    <*> fieldOr "error" (nullable text) none fields
    <*> fieldOr "quality_score" (nullable Scalar.shape) none fields
    <*> fieldOr "executed_at" moment now fields

/-- An execution as an object. -/
def toDatum (form : Form) (e : Execution α) : Datum :=
  .object
    [("template_id", .text e.templateId),
     ("version", .text e.label),
     ("variables", form.freeFields e.bindings),
     ("provider", .text e.provider),
     ("model", .text e.model),
     ("response", .text e.response),
     ("response_time", Scalar.toDatum e.responseTime),
     ("token_usage", Datum.ofUsage e.tokens),
     ("cost", Scalar.toDatum e.cost),
     ("success", .bool e.success),
     ("error", orNull .text e.error),
     ("quality_score", orNull Scalar.toDatum e.quality),
     ("executed_at", form.moment e.executedAt)]

end Execution

/-- What several executions of a template amount to. -/
structure Summary (α : Type) where
  total : Int
  successRate : α
  responseTime : α
  tokenUsage : α
  cost : α
  lastExecuted : Option Calendar.Moment
  quality : Option α

namespace Summary

/-- The summary of nothing. -/
def none : Summary α :=
  ⟨0, Scalar.zero, Scalar.zero, Scalar.zero, Scalar.zero, .none, .none⟩

/-- A summary from the fields of an object. -/
def shape : Shape (Summary α) := record "TemplateMetrics" fun fields =>
  Summary.mk
    <$> fieldOr "total_executions" integer 0 fields
    <*> fieldOr "success_rate" Scalar.shape Scalar.zero fields
    <*> fieldOr "avg_response_time" Scalar.shape Scalar.zero fields
    <*> fieldOr "avg_token_usage" Scalar.shape Scalar.zero fields
    <*> fieldOr "avg_cost" Scalar.shape Scalar.zero fields
    <*> fieldOr "last_executed" (nullable moment) .none fields
    <*> fieldOr "quality_score" (nullable Scalar.shape) .none fields

/-- A summary as an object. -/
def toDatum (form : Form) (s : Summary α) : Datum :=
  .object
    [("total_executions", .int s.total),
     ("success_rate", Scalar.toDatum s.successRate),
     ("avg_response_time", Scalar.toDatum s.responseTime),
     ("avg_token_usage", Scalar.toDatum s.tokenUsage),
     ("avg_cost", Scalar.toDatum s.cost),
     ("last_executed", orNull form.moment s.lastExecuted),
     ("quality_score", orNull Scalar.toDatum s.quality)]

end Summary

end Promptuary
