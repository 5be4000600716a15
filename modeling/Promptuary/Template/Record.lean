import Promptuary.Schema.Shape
import Promptuary.Schema.Form
import Promptuary.Template.Check
import Promptuary.Template.Label

/-!
Templates, their versions and their declarations as data: the shapes in which callers and documents
hold them, and the forms in which they are written. Reading what was written gives the record back.
-/

namespace Promptuary

open Schema

/-! ### Declarations -/

/-- Constraints from the fields of an object. -/
def Constraints.shape : Shape Constraints := record "VariableConstraints" fun fields =>
  Constraints.mk
    <$> fieldOr "pattern" (nullable text) none fields
    <*> fieldOr "min_length" (nullable integer) none fields
    <*> fieldOr "max_length" (nullable integer) none fields
    <*> fieldOr "min" (nullable number) none fields
    <*> fieldOr "max" (nullable number) none fields
    <*> fieldOr "enum" (nullable (list anything)) none fields

/-- Constraints as an object. -/
def Constraints.toDatum (form : Form) (c : Constraints) : Datum :=
  .object
    [("pattern", orNull .text c.pattern),
     ("min_length", orNull .int c.minLength),
     ("max_length", orNull .int c.maxLength),
     ("min", orNull .float c.min),
     ("max", orNull .float c.max),
     ("enum", orNull (fun options => .list (options.map form.free)) c.options)]

/-- A variable's type by its name. -/
def VariableType.shape : Shape VariableType := word (all.map name) ofName?

/-- A declaration from the fields of an object. -/
def Variable.shape : Shape Variable := record "PromptVariable" fun fields =>
  Variable.mk
    <$> field "name" text fields
    <*> fieldOr "type" VariableType.shape .string fields
    <*> fieldOr "required" truth true fields
    <*> fieldOr "description" (nullable text) none fields
    <*> fieldOr "default" (nullable anything) none fields
    <*> fieldOr "constraints" (nullable Constraints.shape) none fields

/-- A declaration as an object. -/
def Variable.toDatum (form : Form) (x : Variable) : Datum :=
  .object
    [("name", .text x.name),
     ("type", .text x.type.name),
     ("required", .bool x.required),
     ("description", orNull .text x.description),
     ("default", orNull form.free x.default),
     ("constraints", orNull (·.toDatum form) x.constraints)]

/-- Declarations as a list. -/
def variablesDatum (form : Form) (declared : List Variable) : Datum :=
  .list (declared.map (·.toDatum form))

/-! ### Templates -/

/-- Tags, each one once. -/
def tagsShape : Shape (List String) := refined (list text) fun tags => .ok tags.eraseDups

/-- A template from the fields of an object. An identifier and a time that are absent are those
given. -/
def Template.shape (id : String) (now : Calendar.Moment) : Shape Template :=
  record "PromptTemplate" fun fields =>
    Template.mk
      <$> fieldOr "id" text id fields
      <*> field "name" text fields
      <*> fieldOr "description" text "" fields
      <*> field "category" text fields
      <*> field "template" text fields
      <*> fieldOr "variables" (list Variable.shape) [] fields
      <*> fieldOr "version" text Label.initial fields
      <*> fieldOr "is_active" truth true fields
      <*> fieldOr "created_at" moment now fields
      <*> fieldOr "updated_at" moment now fields
      <*> fieldOr "created_by" (nullable text) none fields
      <*> fieldOr "tags" tagsShape [] fields
      <*> fieldOr "metadata" (mapping anything) [] fields

/-- The fields of a template. -/
def Template.fields (form : Form) (t : Template) : Fields :=
  [("id", .text t.id),
   ("name", .text t.name),
   ("description", .text t.description),
   ("category", .text t.category),
   ("template", .text t.body),
   ("variables", variablesDatum form t.declarations),
   ("version", .text t.version),
   ("is_active", .bool t.isActive),
   ("created_at", form.moment t.createdAt),
   ("updated_at", form.moment t.updatedAt),
   ("created_by", orNull .text t.createdBy),
   ("tags", texts t.tags),
   ("metadata", form.freeFields t.metadata)]

/-- A template as an object. -/
def Template.toDatum (form : Form) (t : Template) : Datum := .object (t.fields form)

/-! ### Definitions -/

/-- What callers supply to create a template. -/
structure Definition where
  name : String
  description : String := ""
  category : String
  body : String
  declarations : List Variable := []
  createdBy : Option String := none
  tags : List String := []
  metadata : Fields := []

/-- A definition from the fields of an object. -/
def Definition.shape : Shape Definition := record "PromptTemplateCreate" fun fields =>
  Definition.mk
    <$> field "name" text fields
    <*> fieldOr "description" text "" fields
    <*> field "category" text fields
    <*> field "template" text fields
    <*> fieldOr "variables" (list Variable.shape) [] fields
    <*> fieldOr "created_by" (nullable text) none fields
    <*> fieldOr "tags" (list text) [] fields
    <*> fieldOr "metadata" (mapping anything) [] fields

/-- The fields of a definition. -/
def Definition.fields (form : Form) (d : Definition) : Fields :=
  [("name", .text d.name),
   ("description", .text d.description),
   ("category", .text d.category),
   ("template", .text d.body),
   ("variables", variablesDatum form d.declarations),
   ("created_by", orNull .text d.createdBy),
   ("tags", texts d.tags),
   ("metadata", form.freeFields d.metadata)]

/-- A definition as an object. -/
def Definition.toDatum (form : Form) (d : Definition) : Datum := .object (d.fields form)

/-! ### Versions -/

/-- A text and its declarations as they were when a label was given to them. -/
structure Version where
  templateId : String
  label : String
  body : String
  declarations : List Variable
  changelog : String := ""
  createdAt : Calendar.Moment
  createdBy : Option String := none

/-- A version from the fields of an object. A time that is absent is the one given. -/
def Version.shape (now : Calendar.Moment) : Shape Version := record "PromptVersion" fun fields =>
  Version.mk
    <$> field "template_id" text fields
    <*> field "version" text fields
    <*> field "template" text fields
    <*> field "variables" (list Variable.shape) fields
    <*> fieldOr "changelog" text "" fields
    <*> fieldOr "created_at" moment now fields
    <*> fieldOr "created_by" (nullable text) none fields

/-- A version as an object. -/
def Version.toDatum (form : Form) (v : Version) : Datum :=
  .object
    [("template_id", .text v.templateId),
     ("version", .text v.label),
     ("template", .text v.body),
     ("variables", variablesDatum form v.declarations),
     ("changelog", .text v.changelog),
     ("created_at", form.moment v.createdAt),
     ("created_by", orNull .text v.createdBy)]

/-! ### Options and verdicts -/

/-- Compile options from the fields of an object. -/
def CompileOptions.shape : Shape CompileOptions := record "CompilationOptions" fun fields =>
  CompileOptions.mk
    <$> fieldOr "strict_mode" truth true fields
    <*> fieldOr "missing_value" text "" fields
    <*> fieldOr "preserve_whitespace" truth false fields
    <*> fieldOr "escape_html" truth true fields

/-- Compile options as an object. -/
def CompileOptions.toDatum (o : CompileOptions) : Datum :=
  .object
    [("strict_mode", .bool o.strict),
     ("missing_value", .text o.missingText),
     ("preserve_whitespace", .bool o.keepLayout),
     ("escape_html", .bool o.escape)]

/-- A verdict as an object. -/
def Verdict.toDatum (v : Verdict) : Datum :=
  .object
    [("is_valid", .bool v.isValid),
     ("errors", texts v.errors),
     ("warnings", texts v.warnings),
     ("missing_variables", texts v.missing),
     ("unused_variables", texts v.unused),
     ("compiled_prompt", orNull .text v.compiled)]

end Promptuary
