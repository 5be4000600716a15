import Promptuary.Proofs.Template.Evaluation
import Promptuary.Proofs.Template.Verdict

/-!
What is missing to the check of bindings, and what to strict compiling. The check asks for variables
that are required; strict compiling asks for every name in a tag that the blocks leave. Main
statement: where the check misses nothing, strict compiling still misses the variables that are not
required (`strict_compile_misses_optional`).
-/

namespace Promptuary

open Token

variable {o : CompileOptions} {t : Template} {bindings : Fields} {constraints : Bool}
  {name : String} {declared : String → Option Variable}

/-- A name that stands for nothing: it is not bound, and its variable is not required and has no
default. -/
structure Template.LeavesOpen (t : Template) (bindings : Fields) (name : String) : Prop where
  unbound : bindings.has name = false
  optional : ∃ x, t.declared? name = some x ∧ x.required = false ∧ x.hasDefault = false

/-- The check reports what is required and neither bound nor has a default, whatever else it
finds. -/
theorem validate_missing : (t.validate o bindings constraints).missing = t.unbound bindings := by
  unfold Template.validate
  rcases checkBound bindings constraints t.declarations with ⟨problems, _ | stop⟩
  · cases t.compile o (.ofFields bindings) <;> rfl
  · rfl

theorem resolve_ofFields_eq_none :
    resolve (.ofFields bindings) declared name = none ↔
      bindings.has name = false ∧ ∀ x, declared name = some x → x.hasDefault = false := by
  rw [Entries.has_eq_isSome]
  unfold resolve Bindings.ofFields Variable.hasDefault
  cases bindings.get? name with
  | some d => simp
  | none =>
    cases declared name with
    | none => simp
    | some x => simp

/-- Where the check misses nothing of a template that declares what it reads, a name without a value
is left open. -/
theorem Template.leavesOpen_of_unresolved
    (closed : ∀ name ∈ extractVariables t.body, ∃ x ∈ t.declarations, x.name = name)
    (complete : (t.validate o bindings constraints).missing = [])
    (reads : name ∈ extractVariables t.body)
    (unknown : resolve (.ofFields bindings) t.declared? name = none) :
    t.LeavesOpen bindings name := by
  obtain ⟨unbound, bare⟩ := resolve_ofFields_eq_none.1 unknown
  obtain ⟨y, declares, named⟩ := closed name reads
  obtain ⟨x, found⟩ : ∃ x, t.declared? name = some x := by
    refine Option.isSome_iff_exists.1 ?_
    rw [declared?, List.find?_isSome]
    exact ⟨y, declares, by simpa using named⟩
  refine ⟨unbound, x, found, ?_, bare x found⟩
  refine Bool.eq_false_iff.2 fun required => ?_
  have bound := unbound_eq_nil.1 (validate_missing.symm.trans complete) x
    (List.mem_of_find?_eq_some found) required (bare x found)
  have same : x.name = name := by simpa using List.find?_some found
  rw [same, unbound] at bound
  cases bound

theorem Template.LeavesOpen.unresolved (leaves : t.LeavesOpen bindings name) :
    resolve (.ofFields bindings) t.declared? name = none := by
  obtain ⟨unbound, x, found, -, bare⟩ := leaves
  refine resolve_ofFields_eq_none.2 ⟨unbound, fun y found' => ?_⟩
  cases found.symm.trans found'
  exact bare

/-- Strict compiling does not ask whether a variable is required. For a template that declares what
it reads, and bindings to which the check says that nothing is missing, it misses the names that are
left open and stand in a tag that the blocks leave, and no others. -/
theorem strict_compile_misses_optional (strict : o.strict = true)
    (closed : ∀ name ∈ extractVariables t.body, ∃ x ∈ t.declarations, x.name = name)
    (complete : (t.validate o bindings constraints).missing = []) (name : String) :
    (∃ names, t.compile o (.ofFields bindings) = .error (.missing names) ∧ name ∈ names) ↔
      t.LeavesOpen bindings name ∧ ∃ kept property source,
        Evaluates (.ofFields bindings) t.declared? (ofText t.body) kept ∧
          .tag (.variable name property) source ∈ kept := by
  have ends := compile_ends o t (.ofFields bindings)
  constructor
  · rintro ⟨names, failed, mem⟩
    rw [failed] at ends
    cases ends with
    | misses evaluates =>
      obtain ⟨property, source, left, unknown⟩ := mem_unresolved.1 mem
      have reads : name ∈ extractVariables t.body :=
        mem_referencedNames.2 ⟨_, source, mem_of_blocks evaluates.blocks left, rfl⟩
      exact ⟨t.leavesOpen_of_unresolved closed complete reads unknown, _, property, source,
        evaluates, left⟩
  · rintro ⟨leaves, kept, property, source, evaluates, left⟩
    have mem : name ∈ unresolved (.ofFields bindings) t.declared? kept :=
      mem_unresolved.2 ⟨property, source, left, leaves.unresolved⟩
    generalize t.compile o (.ofFields bindings) = result at ends
    cases ends with
    | stuck never => exact absurd evaluates (never kept)
    | misses evaluates' =>
      obtain rfl := evaluates.unique evaluates'
      exact ⟨_, rfl, mem⟩
    | gives evaluates' none =>
      obtain rfl := evaluates.unique evaluates'
      rw [none strict] at mem
      exact absurd mem List.not_mem_nil

/-- A template with a title that is not required. -/
def titledTemplate : Template :=
  { sampleTemplate with
    body := "Hello \x7b\x7bname\x7d\x7d\x7b\x7btitle\x7d\x7d"
    declarations := [{ name := "name" }, { name := "title", required := false }] }

/-- Without a title nothing is missing to the check, but to strict compiling the title is. -/
theorem strict_compile_misses_optional_titledTemplate :
    (titledTemplate.validate {} [("name", .text "Eve")]).missing = [] ∧
      (∃ e, titledTemplate.compile {} (.ofFields [("name", .text "Eve")]) = .error e ∧
        e.missingNames = ["title"]) ∧
      titledTemplate.LeavesOpen [("name", .text "Eve")] "title" := by
  have complete : (titledTemplate.validate {} [("name", .text "Eve")]).missing = [] := by
    decide +kernel
  have closed : ∀ name ∈ extractVariables titledTemplate.body,
      ∃ x ∈ titledTemplate.declarations, x.name = name := by
    have names : extractVariables titledTemplate.body = ["name", "title"] := by decide +kernel
    rw [names]
    simp [titledTemplate]
  have misses : (((titledTemplate.compile {} (.ofFields [("name", .text "Eve")])).map
      fun _ => []).tryCatch fun e => .ok e.missingNames).toOption = some ["title"] := by
    decide +kernel
  cases ran : titledTemplate.compile {} (.ofFields [("name", .text "Eve")]) with
  | ok text =>
    rw [ran] at misses
    cases misses
  | error e =>
    rw [ran] at misses
    cases e with
    | evaluation cause => cases misses
    | missing names =>
      obtain rfl : names = ["title"] := Option.some.inj misses
      have title := strict_compile_misses_optional rfl closed complete "title"
      obtain ⟨leaves, -⟩ := title.1 ⟨_, ran, List.mem_singleton_self _⟩
      exact ⟨complete, ⟨_, rfl, rfl⟩, leaves⟩

end Promptuary
