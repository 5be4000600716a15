import Promptuary.Proofs.Template.Valid

/-!
What the check of bindings reports. Its verdict is favourable just if there is nothing to complain
about (`validate_isValid_iff`). What it complains about is everything that the single checks find,
unless one of them is cut short: then the checks after it and the compilation are left out
(`validate_errors_eq`).
-/

namespace Promptuary

variable {o : CompileOptions} {t : Template} {bindings : Fields} {constraints : Bool}
  {xs : List Variable} {before after : List (Variable × Datum)} {x : Variable} {d : Datum}
  {e : CheckError}

/-! ### Verdicts -/

/-- Bindings with which a template becomes a text, and that leave nothing to complain about: what is
required is bound or has a default, and what is bound satisfies its declaration. -/
structure Template.Accepts (o : CompileOptions) (t : Template) (bindings : Fields)
    (constraints : Bool) (text : String) : Prop where
  complete : ∀ x ∈ t.declarations, x.required = true → x.hasDefault = false →
    bindings.has x.name = true
  satisfied : ∀ x ∈ t.declarations, ∀ d, bindings.get? x.name = some d →
    x.check d constraints = .ok []
  compiles : t.compile o (.ofFields bindings) = .ok text

theorem unbound_eq_nil :
    t.unbound bindings = [] ↔
      ∀ x ∈ t.declarations, x.required = true → x.hasDefault = false →
        bindings.has x.name = true := by
  rw [Template.unbound, List.map_eq_nil_iff, List.filter_eq_nil_iff]
  refine forall₂_congr fun x _ => ?_
  cases x.required <;> cases x.hasDefault <;> simp

theorem exists_accepts_iff :
    (∃ text, t.Accepts o bindings constraints text) ↔
      (t.validate o bindings constraints).errors = [] := by
  rw [validate_errors_eq_nil, unbound_eq_nil, checkBound_eq_nil]
  constructor
  · rintro ⟨text, complete, satisfied, compiles⟩
    exact ⟨complete, satisfied, text, compiles⟩
  · rintro ⟨complete, satisfied, text, compiles⟩
    exact ⟨text, complete, satisfied, compiles⟩

/-- The verdict is favourable just if there are no errors. -/
theorem validate_isValid :
    (t.validate o bindings constraints).isValid =
      (t.validate o bindings constraints).errors.isEmpty := by
  unfold Template.validate
  rcases checkBound bindings constraints t.declarations with ⟨problems, _ | stop⟩
  · cases t.compile o (.ofFields bindings) <;> simp
  · simp

theorem validate_unused :
    (t.validate o bindings constraints).unused = t.unread := by
  unfold Template.validate
  rcases checkBound bindings constraints t.declarations with ⟨problems, _ | stop⟩
  · cases t.compile o (.ofFields bindings) <;> rfl
  · rfl

/-- What compiles is given, unless a check was cut short. -/
theorem validate_compiled {text : String} (compiles : t.compile o (.ofFields bindings) = .ok text)
    (whole : (checkBound bindings constraints t.declarations).2 = none) :
    (t.validate o bindings constraints).compiled = some text := by
  unfold Template.validate
  rcases checked : checkBound bindings constraints t.declarations with ⟨problems, _ | stop⟩
  · simp [compiles]
  · rw [checked] at whole
    cases whole

/-- The verdict is sound and complete: it is favourable just for bindings that the template accepts;
then the text it gives is the compiled one. What it says is unused are the names declared and not
read. -/
theorem validate_isValid_iff (o : CompileOptions) (t : Template) (bindings : Fields)
    (constraints : Bool) :
    ((t.validate o bindings constraints).isValid = true ↔
      ∃ text, t.Accepts o bindings constraints text) ∧
    (∀ text, t.Accepts o bindings constraints text →
      (t.validate o bindings constraints).compiled = some text) ∧
    (t.validate o bindings constraints).unused =
      (t.declarations.map (·.name)).filter (· ∉ extractVariables t.body) := by
  refine ⟨?_, ?_, ?_⟩
  · rw [validate_isValid, List.isEmpty_iff, exists_accepts_iff]
  · intro text accepted
    refine validate_compiled accepted.compiles ?_
    rw [checkBound_eq_nil.2 accepted.satisfied]
  · rw [validate_unused, Template.unread]
    refine List.filter_congr fun name _ => ?_
    simp

/-! ### Complaints -/

/-- The declarations that are bound, each with what it is bound to. -/
def boundAmong (bindings : Fields) (xs : List Variable) : List (Variable × Datum) :=
  xs.filterMap fun x => (bindings.get? x.name).map (x, ·)

/-- What the checks of bound declarations find that are not cut short. -/
def findings (constraints : Bool) (pairs : List (Variable × Datum)) : List String :=
  pairs.flatMap fun (x, d) => (x.check d constraints).toOption.getD []

/-- The complaints about what is required and neither bound nor has a default. -/
def Template.gaps (t : Template) (bindings : Fields) : List String :=
  (t.unbound bindings).map fun name => s!"Required variable '{name}' is missing"

/-- The complaint about a template that does not compile. -/
def Template.obstacles (o : CompileOptions) (t : Template) (bindings : Fields) : List String :=
  match t.compile o (.ofFields bindings) with
  | .ok _ => []
  | .error e => ["Compilation error: " ++ e.message]

/-- Everything there is to complain about, found by each check on its own. -/
def Template.complaints (o : CompileOptions) (t : Template) (bindings : Fields)
    (constraints : Bool) : List String :=
  t.gaps bindings ++ findings constraints (boundAmong bindings t.declarations) ++
    t.obstacles o bindings

theorem findings_append :
    findings constraints (before ++ after) =
      findings constraints before ++ findings constraints after :=
  List.flatMap_append

theorem boundAmong_cons_of_none (unbound : bindings.get? x.name = none) :
    boundAmong bindings (x :: xs) = boundAmong bindings xs := by
  simp [boundAmong, unbound]

theorem boundAmong_cons_of_some (binds : bindings.get? x.name = some d) :
    boundAmong bindings (x :: xs) = (x, d) :: boundAmong bindings xs := by
  simp [boundAmong, binds]

/-- Checks that are not cut short find what each of them finds. -/
theorem checkBound_of_returns
    (returns : ∀ pair ∈ boundAmong bindings xs, (pair.1.check pair.2 constraints).isOk = true) :
    checkBound bindings constraints xs = (findings constraints (boundAmong bindings xs), none) := by
  induction xs with
  | nil => rfl
  | cons x xs ih =>
    rw [checkBound]
    cases binds : bindings.get? x.name with
    | none =>
      rw [boundAmong_cons_of_none binds] at returns ⊢
      exact ih returns
    | some d =>
      rw [boundAmong_cons_of_some binds, List.forall_mem_cons] at returns
      obtain ⟨problems, checked⟩ := Outcome.exists_of_isOk returns.1
      rw [boundAmong_cons_of_some binds, ih returns.2]
      simp [checked, findings, Except.toOption]

/-- The first check that is cut short ends the checks. -/
theorem checkBound_of_cut (bound : boundAmong bindings xs = before ++ (x, d) :: after)
    (returns : ∀ pair ∈ before, (pair.1.check pair.2 constraints).isOk = true)
    (cut : x.check d constraints = .error e) :
    checkBound bindings constraints xs = (findings constraints before, some e) := by
  induction xs generalizing before with
  | nil => cases before <;> cases bound
  | cons y xs ih =>
    rw [checkBound]
    cases binds : bindings.get? y.name with
    | none =>
      rw [boundAmong_cons_of_none binds] at bound
      exact ih bound returns
    | some own =>
      rw [boundAmong_cons_of_some binds] at bound
      cases before with
      | nil =>
        cases bound
        simp [cut, findings]
      | cons first before =>
        obtain ⟨rfl, rest⟩ := List.cons.inj bound
        rw [List.forall_mem_cons] at returns
        obtain ⟨problems, checked⟩ := Outcome.exists_of_isOk returns.1
        simp [checked, ih rest returns.2, findings, Except.toOption]

/-! ### Wording -/

/-- A message that begins with the name of a variable. -/
def Names (name message : String) : Prop := ∃ rest, message = "Variable '" ++ name ++ rest

theorem Names.intro (name : String) : Names name ("Variable '" ++ name) :=
  ⟨"", String.append_empty.symm⟩

theorem Names.append {name message : String} (names : Names name message) (more : String) :
    Names name (message ++ more) := by
  obtain ⟨rest, rfl⟩ := names
  exact ⟨rest ++ more, String.append_assoc⟩

/-- What names a variable is not about the check as a whole. -/
theorem Names.ne_validation {name message : String} (names : Names name message) (cause : String) :
    message ≠ "Validation error: " ++ cause := by
  obtain ⟨rest, rfl⟩ := names
  intro same
  have letters := congrArg String.toList same
  simp at letters

/-- Messages of which each begins with the name of a variable. -/
def AllName (name : String) (messages : List String) : Prop :=
  ∀ message ∈ messages, Names name message

theorem AllName.nil {name : String} : AllName name [] := by simp [AllName]

theorem AllName.single {name message : String} (names : Names name message) :
    AllName name [message] := by
  simpa [AllName] using names

theorem AllName.join {name : String} {earlier later : List String} (first : AllName name earlier)
    (second : AllName name later) : AllName name (earlier ++ later) :=
  List.forall_mem_append.2 ⟨first, second⟩

theorem allName_typeProblems {v : Value} : AllName x.name (typeProblems x v) := by
  unfold typeProblems
  split
  · exact .nil
  · exact .single ((((Names.intro _).append _).append _).append _ |>.append _)

theorem allName_patternProblems {name s : String} {pattern : Option String}
    {problems : List String} (checked : patternProblems name s pattern = .ok problems) :
    AllName name problems := by
  unfold patternProblems at checked
  split at checked
  · cases checked
    exact .nil
  · split at checked
    · cases checked
      exact .nil
    · split at checked <;> cases checked
      · exact .nil
      · exact .single (((Names.intro _).append _).append _)
      · exact .single (((Names.intro _).append _).append _)

theorem allName_limitProblems {name words : String} {violates : Int → Bool} {limit : Option Int}
    {problems : List String} (checked : limitProblems name words violates limit = .ok problems) :
    AllName name problems := by
  unfold limitProblems at checked
  split at checked
  · cases checked
    exact .nil
  · split at checked
    · split at checked <;> cases checked
      exact .single (((((Names.intro _).append _).append _).append _).append _ |>.append _)
    · cases checked
      exact .nil

theorem allName_lengthProblems {name s : String} {c : Constraints} {problems : List String}
    (checked : lengthProblems name s c = .ok problems) : AllName name problems := by
  obtain ⟨short, least, checked⟩ := Outcome.exists_of_bind_eq_ok checked
  obtain ⟨long, most, checked⟩ := Outcome.exists_of_bind_eq_ok checked
  cases checked
  exact .join (allName_limitProblems least) (allName_limitProblems most)

theorem allName_textProblems {name s : String} {c : Constraints} {problems : List String}
    (checked : textProblems name s c = .ok problems) : AllName name problems := by
  obtain ⟨unmatched, matched, checked⟩ := Outcome.exists_of_bind_eq_ok checked
  obtain ⟨lengths, measured, checked⟩ := Outcome.exists_of_bind_eq_ok checked
  cases checked
  exact .join (allName_patternProblems matched) (allName_lengthProblems measured)

theorem allName_boundProblems {name : String} {n : Number.Quantity} {c : Constraints} :
    AllName name (boundProblems name n c) := by
  refine .join ?_ ?_
  · split
    · split
      · exact .single (((Names.intro _).append _).append _)
      · exact .nil
    · exact .nil
  · split
    · split
      · exact .single (((Names.intro _).append _).append _)
      · exact .nil
    · exact .nil

theorem allName_optionProblems {name : String} {options : Option (List Datum)}
    {problems : List String} (checked : optionProblems name d options = .ok problems) :
    AllName name problems := by
  unfold optionProblems at checked
  split at checked
  · cases checked
    exact .nil
  · split at checked
    · cases checked
      exact .nil
    · split at checked <;> cases checked
      exact .single (((Names.intro _).append _).append _)

theorem allName_valueProblems {name : String} {v : Value} {c : Constraints}
    {problems : List String} (checked : valueProblems name v c = .ok problems) :
    AllName name problems := by
  unfold valueProblems at checked
  split at checked
  · exact allName_textProblems checked
  · cases checked
    exact allName_boundProblems
  · cases checked
    exact .nil

theorem allName_constraintProblems {name : String} {c : Constraints} {problems : List String}
    (checked : constraintProblems name d c = .ok problems) : AllName name problems := by
  obtain ⟨own, single, checked⟩ := Outcome.exists_of_bind_eq_ok checked
  obtain ⟨unlisted, listed, checked⟩ := Outcome.exists_of_bind_eq_ok checked
  cases checked
  exact .join (allName_valueProblems single) (allName_optionProblems listed)

/-- Every complaint about a datum names the variable it is bound to. -/
theorem allName_check {problems : List String} (checked : x.check d constraints = .ok problems) :
    AllName x.name problems := by
  unfold Variable.check at checked
  split at checked
  · cases checked
    exact allName_typeProblems
  · obtain ⟨violations, violated, checked⟩ := Outcome.exists_of_bind_eq_ok checked
    cases checked
    exact .join allName_typeProblems (allName_constraintProblems violated)

/-! ### Causes -/

/-- What cuts the check of a datum short: a pattern that breaks off, or a limit or an option that
cannot be written. -/
inductive Constraints.Cuts (c : Constraints) (d : Datum) : CheckError → Prop
  | pattern {s pattern : String} {cause : Pattern.Break} (text : Value.of d = .string s)
      (asked : c.pattern = some pattern)
      (broken : Pattern.search pattern s = .error (.broken cause)) : Cuts c d (.pattern cause)
  | limit {limit : Int} {cause : Number.IntegerError}
      (asked : c.minLength = some limit ∨ c.maxLength = some limit)
      (unwritten : Number.writeInt limit = .error cause) : Cuts c d (.integer cause)
  | option {options : List Datum} {option : Datum} {cause : Number.IntegerError}
      (asked : c.options = some options) (mem : option ∈ options)
      (unwritten : option.message = .error cause) : Cuts c d (.integer cause)

theorem broken_of_patternProblems {name s : String} {pattern : Option String}
    (cut : patternProblems name s pattern = .error e) :
    ∃ asked cause, pattern = some asked ∧ Pattern.search asked s = .error (.broken cause) ∧
      e = .pattern cause := by
  unfold patternProblems at cut
  split at cut
  · cases cut
  · next asked =>
    split at cut
    · cases cut
    · split at cut <;> cases cut
      next cause broken => exact ⟨asked, cause, rfl, broken, rfl⟩

theorem unwritten_of_limitProblems {name words : String} {violates : Int → Bool}
    {limit : Option Int} (cut : limitProblems name words violates limit = .error e) :
    ∃ asked cause, limit = some asked ∧ Number.writeInt asked = .error cause ∧
      e = .integer cause := by
  unfold limitProblems at cut
  split at cut
  · cases cut
  · next asked =>
    split at cut
    · split at cut <;> cases cut
      next cause unwritten => exact ⟨asked, cause, rfl, unwritten, rfl⟩
    · cases cut

theorem unwritten_of_optionProblems {name : String} {options : Option (List Datum)}
    (cut : optionProblems name d options = .error e) :
    ∃ asked, options = some asked ∧ ∃ option ∈ asked, ∃ cause,
      option.message = .error cause ∧ e = .integer cause := by
  unfold optionProblems at cut
  split at cut
  · cases cut
  · next asked =>
    split at cut
    · cases cut
    · split at cut <;> cases cut
      next cause unwritten =>
      obtain ⟨option, mem, failed⟩ := Outcome.exists_mem_of_mapM_eq_error unwritten
      exact ⟨asked, rfl, option, mem, cause, failed, rfl⟩

theorem cuts_of_valueProblems {name : String} {c : Constraints}
    (cut : valueProblems name (.of d) c = .error e) : c.Cuts d e := by
  unfold valueProblems at cut
  split at cut
  · next s text =>
    rcases Outcome.eq_error_of_bind cut with cut | ⟨unmatched, -, cut⟩
    · obtain ⟨pattern, cause, asked, broken, rfl⟩ := broken_of_patternProblems cut
      exact .pattern text asked broken
    · rcases Outcome.eq_error_of_bind cut with cut | ⟨lengths, -, cut⟩
      · rcases Outcome.eq_error_of_bind cut with cut | ⟨short, -, cut⟩
        · obtain ⟨limit, cause, asked, unwritten, rfl⟩ := unwritten_of_limitProblems cut
          exact .limit (.inl asked) unwritten
        · rcases Outcome.eq_error_of_bind cut with cut | ⟨long, -, cut⟩
          · obtain ⟨limit, cause, asked, unwritten, rfl⟩ := unwritten_of_limitProblems cut
            exact .limit (.inr asked) unwritten
          · cases cut
      · cases cut
  · cases cut
  · cases cut

/-- A check is cut short by the constraints of the declaration only, when they are asked for. -/
theorem cuts_of_check (cut : x.check d constraints = .error e) :
    constraints = true ∧ ∃ c, x.constraints = some c ∧ c.Cuts d e := by
  unfold Variable.check at cut
  split at cut
  · cases cut
  · next c given =>
    cases constraints with
    | false => cases given
    | true =>
      refine ⟨rfl, c, given, ?_⟩
      rcases Outcome.eq_error_of_bind cut with cut | ⟨violations, -, cut⟩
      · rcases Outcome.eq_error_of_bind cut with cut | ⟨own, -, cut⟩
        · exact cuts_of_valueProblems cut
        · rcases Outcome.eq_error_of_bind cut with cut | ⟨unlisted, -, cut⟩
          · obtain ⟨options, asked, option, mem, cause, unwritten, rfl⟩ :=
              unwritten_of_optionProblems cut
            exact .option asked mem unwritten
          · cases cut
      · cases cut

/-! ### Errors -/

theorem errors_of_checkBound {problems : List String}
    (checked : checkBound bindings constraints t.declarations = (problems, none)) :
    (t.validate o bindings constraints).errors =
      t.gaps bindings ++ problems ++ t.obstacles o bindings := by
  unfold Template.validate Template.obstacles
  rw [checked]
  cases t.compile o (.ofFields bindings) <;> simp [Template.gaps]

theorem errors_of_checkBound_cut {problems : List String}
    (checked : checkBound bindings constraints t.declarations = (problems, some e)) :
    (t.validate o bindings constraints).errors =
        t.gaps bindings ++ problems ++ ["Validation error: " ++ e.message] ∧
      (t.validate o bindings constraints).compiled = none := by
  unfold Template.validate
  rw [checked]
  exact ⟨rfl, rfl⟩

/-- That the check was cut short is none of the complaints. -/
theorem validationError_not_mem (cause : String) (pairs : List (Variable × Datum)) :
    "Validation error: " ++ cause ∉ findings constraints pairs ++ t.obstacles o bindings := by
  intro mem
  rcases List.mem_append.1 mem with found | stops
  · obtain ⟨⟨x, d⟩, -, found⟩ := List.mem_flatMap.1 found
    cases checked : x.check d constraints with
    | error e => simp [checked, Except.toOption] at found
    | ok problems =>
      have listed : "Validation error: " ++ cause ∈ problems := by
        simpa [checked, Except.toOption] using found
      exact (allName_check checked _ listed).ne_validation cause rfl
  · unfold Template.obstacles at stops
    split at stops
    · cases stops
    · have letters := congrArg String.toList (List.mem_singleton.1 stops)
      simp at letters

/-- What is left of the complaints about earlier declarations when a message comes after them that
is none of the complaints. -/
theorem complaints_sublist_iff {gaps found rest : List String} {last : String}
    (other : last ∉ rest) :
    (gaps ++ (found ++ rest)).Sublist (gaps ++ found ++ [last]) ↔ rest = [] := by
  rw [← List.append_assoc, List.append_sublist_append_left]
  constructor
  · intro within
    cases rest with
    | nil => rfl
    | cons first rest =>
      have same := List.mem_singleton.1 (within.subset List.mem_cons_self)
      exact absurd (same ▸ List.mem_cons_self) other
  · rintro rfl
    exact List.nil_sublist _

/-- The errors are all complaints, unless a check is cut short. The first one that is takes the
place of what comes after it, of which nothing is missing only if there is nothing to complain about
in later declarations and the template compiles. -/
theorem validate_errors_eq (o : CompileOptions) (t : Template) (bindings : Fields)
    (constraints : Bool) :
    ((∀ pair ∈ boundAmong bindings t.declarations,
        (pair.1.check pair.2 constraints).isOk = true) ∧
      (t.validate o bindings constraints).errors = t.complaints o bindings constraints) ∨
    ∃ before x d after e,
      boundAmong bindings t.declarations = before ++ (x, d) :: after ∧
      (∀ pair ∈ before, (pair.1.check pair.2 constraints).isOk = true) ∧
      x.check d constraints = .error e ∧
      (constraints = true ∧ ∃ c, x.constraints = some c ∧ c.Cuts d e) ∧
      (t.validate o bindings constraints).errors =
        t.gaps bindings ++ findings constraints before ++ ["Validation error: " ++ e.message] ∧
      (t.validate o bindings constraints).compiled = none ∧
      ((t.complaints o bindings constraints).Sublist
          (t.validate o bindings constraints).errors ↔
        findings constraints after = [] ∧ ∃ text, t.compile o (.ofFields bindings) = .ok text) := by
  cases first : (boundAmong bindings t.declarations).find?
      fun pair => !(pair.1.check pair.2 constraints).isOk with
  | none =>
    have returns : ∀ pair ∈ boundAmong bindings t.declarations,
        (pair.1.check pair.2 constraints).isOk = true := by
      simpa using List.find?_eq_none.1 first
    exact .inl ⟨returns, errors_of_checkBound (checkBound_of_returns returns)⟩
  | some pair =>
    obtain ⟨x, d⟩ := pair
    obtain ⟨fails, before, after, bound, earlier⟩ := List.find?_eq_some_iff_append.1 first
    have returns : ∀ pair ∈ before, (pair.1.check pair.2 constraints).isOk = true := by
      simpa using earlier
    cases cut : x.check d constraints with
    | ok problems => simp [cut, Except.isOk, Except.toBool] at fails
    | error e =>
      obtain ⟨errors, uncompiled⟩ :=
        errors_of_checkBound_cut (o := o) (checkBound_of_cut bound returns cut)
      refine .inr ⟨before, x, d, after, e, bound, returns, cut, cuts_of_check cut, errors,
        uncompiled, ?_⟩
      have complaints : t.complaints o bindings constraints =
          t.gaps bindings ++ (findings constraints before ++
            (findings constraints after ++ t.obstacles o bindings)) := by
        have nothing : findings constraints ((x, d) :: after) = findings constraints after := by
          simp [findings, cut, Except.toOption]
        rw [Template.complaints, bound, findings_append, nothing]
        simp only [List.append_assoc]
      rw [complaints, errors, complaints_sublist_iff (validationError_not_mem _ _),
        List.append_eq_nil_iff]
      refine and_congr_right fun _ => ?_
      unfold Template.obstacles
      cases t.compile o (.ofFields bindings) <;> simp

/-- A code whose pattern asks for more repeats than can be counted. -/
def crampedCode : Variable :=
  { name := "code", constraints := some { pattern := some "a\x7b4294967295\x7d" } }

/-- A level, which is a number. -/
def plainLevel : Variable := { name := "level", type := .number }

def crampedTemplate : Template where
  id := "order"
  name := "Order"
  category := "test"
  body := "\x7b\x7bcode\x7d\x7d\x7b\x7blevel\x7d\x7d"
  declarations := [crampedCode, plainLevel]
  createdAt := ⟨0, none⟩
  updatedAt := ⟨0, none⟩

/-- A text for the code and a text for the level. -/
def crampedBindings : Fields := [("code", .text "x"), ("level", .text "y")]

/-- That the level should be a number is not reported when the pattern of the code breaks off. -/
theorem validate_errors_eq_crampedTemplate :
    "Variable 'level' must be a number, got string" ∈
        crampedTemplate.complaints {} crampedBindings true ∧
      (crampedTemplate.validate {} crampedBindings true).errors =
        ["Validation error: the repetition number is too large"] ∧
      ¬ (crampedTemplate.complaints {} crampedBindings true).Sublist
        (crampedTemplate.validate {} crampedBindings true).errors := by
  have breaks : (crampedCode.check (.text "x") true).isOk = false := by decide +kernel
  have differs : findings true [(plainLevel, .text "y")] =
      ["Variable 'level' must be a number, got string"] := by decide +kernel
  have pairs : boundAmong crampedBindings crampedTemplate.declarations =
      [(crampedCode, .text "x"), (plainLevel, .text "y")] := rfl
  have reported : (crampedTemplate.validate {} crampedBindings true).errors =
      ["Validation error: the repetition number is too large"] := by decide +kernel
  refine ⟨?_, reported, ?_⟩
  · rw [Template.complaints, pairs, ← List.singleton_append, findings_append, differs]
    simp
  · rcases validate_errors_eq {} crampedTemplate crampedBindings true with
      ⟨returns, -⟩ | ⟨before, x, d, after, e, bound, returns, -, -, -, -, within⟩
    · have returned := returns (crampedCode, .text "x") (by simp [pairs])
      rw [breaks] at returned
      cases returned
    · rw [within]
      rw [pairs] at bound
      cases before with
      | nil =>
        obtain ⟨-, rfl⟩ := List.cons.inj bound
        simp [differs]
      | cons first before =>
        obtain ⟨rfl, -⟩ := List.cons.inj bound
        have returned := returns _ List.mem_cons_self
        rw [breaks] at returned
        cases returned

end Promptuary
