import Promptuary.Proofs.Entries
import Promptuary.Proofs.Outcome
import Promptuary.Template.Check

/-!
Templates that pass the check against themselves. The check collects every complaint, so that a
template that passes has given no reason for any of them; and a template without such a reason
passes. Main statement: the templates that pass are exactly the valid ones
(`exists_valid_verdict_iff`).
-/

namespace Promptuary

variable {o : CompileOptions} {t : Template} {bindings : Fields} {xs : List Variable}

/-- A template without a reason for complaint: its texts and the names it declares are not blank,
its declarations have different names and defaults that satisfy them, and with stand-ins of the
declared types it compiles where undeclared names are allowed. -/
structure Template.Valid (o : CompileOptions) (t : Template) : Prop where
  name : Text.isAllBlank t.name = false
  body : Text.isAllBlank t.body = false
  category : Text.isAllBlank t.category = false
  named : ∀ x ∈ t.declarations, Text.isAllBlank x.name = false
  distinct : (t.declarations.map (·.name)).Nodup
  defaults : ∀ x ∈ t.declarations, ∀ d, x.default = some d → x.check d = .ok []
  compiles : ∃ bindings, t.standIns = .ok bindings ∧
    (∀ x ∈ t.declarations, ∃ d, bindings.get? x.name = some d ∧ x.type.admits (.of d) = true) ∧
    ∃ text, t.compile { o with strict := false } (.ofFields bindings) = .ok text

/-! ### Variables -/

/-- Without its constraints a declaration asks for its type only. -/
theorem check_unconstrained_eq_nil {x : Variable} {d : Datum} :
    x.check d false = .ok [] ↔ x.type.admits (.of d) = true := by
  have plain : x.check d false = .ok (typeProblems x (.of d)) := rfl
  rw [plain, typeProblems]
  split
  · next admitted => exact iff_of_true rfl admitted
  · next refused => exact iff_of_false (by simp) refused

/-- What is complained of in one declaration, given the names declared before. -/
theorem variableProblems_cons {seen : List String} {x : Variable}
    (named : Text.isAllBlank x.name = false) :
    variableProblems seen (x :: xs) = do
      let duplicate :=
        if seen.contains x.name then [s!"Duplicate variable name: {x.name}"] else []
      let default ← x.default.elim (.ok []) fun d => x.check d
      return duplicate ++ default.map ("Default value invalid: " ++ ·) ++
        (← variableProblems (x.name :: seen) xs) := by
  rw [variableProblems, if_neg (by simp [named])]
  cases x.default <;> rfl

theorem variableProblems_cons_eq_nil {seen : List String} {x : Variable} :
    variableProblems seen (x :: xs) = .ok [] ↔
      Text.isAllBlank x.name = false ∧ x.name ∉ seen ∧
        (∀ d, x.default = some d → x.check d = .ok []) ∧
        variableProblems (x.name :: seen) xs = .ok [] := by
  cases blank : Text.isAllBlank x.name with
  | true =>
    refine iff_of_false ?_ (by simp)
    rw [variableProblems, if_pos blank]
    intro none
    obtain ⟨rest, -, complaint⟩ := Outcome.exists_of_bind_eq_ok none
    cases complaint
  | false =>
    rw [variableProblems_cons blank]
    constructor
    · intro none
      obtain ⟨problems, checked, none⟩ := Outcome.exists_of_bind_eq_ok none
      obtain ⟨rest, later, none⟩ := Outcome.exists_of_bind_eq_ok none
      have parts := Except.ok.inj none
      rw [List.append_eq_nil_iff, List.append_eq_nil_iff, List.map_eq_nil_iff] at parts
      obtain ⟨⟨fresh, rfl⟩, rfl⟩ := parts
      refine ⟨rfl, ?_, ?_, later⟩
      · intro known
        simp [known] at fresh
      · intro d default
        rw [default] at checked
        exact checked
    · rintro ⟨-, fresh, fits, later⟩
      have checked : (x.default.elim (.ok []) fun d => x.check d) = .ok [] := by
        cases default : x.default with
        | none => rfl
        | some d => exact fits d default
      rw [checked, later]
      simp [fresh, pure, Except.pure]

/-- There is nothing to complain about declarations just if their names are not blank and all
different, and their defaults satisfy them. -/
theorem variableProblems_eq_nil {seen : List String} :
    variableProblems seen xs = .ok [] ↔
      (∀ x ∈ xs, Text.isAllBlank x.name = false ∧ x.name ∉ seen ∧
        ∀ d, x.default = some d → x.check d = .ok []) ∧ (xs.map (·.name)).Nodup := by
  induction xs generalizing seen with
  | nil => exact iff_of_true rfl ⟨by simp, List.nodup_nil⟩
  | cons x xs ih =>
    rw [variableProblems_cons_eq_nil, ih, List.map_cons, List.nodup_cons, List.forall_mem_cons]
    constructor
    · rintro ⟨named, fresh, fits, others, distinct⟩
      refine ⟨⟨⟨named, fresh, fits⟩, ?_⟩, ?_, distinct⟩
      · intro y mem
        obtain ⟨named, fresh, fits⟩ := others y mem
        exact ⟨named, fun known => fresh (List.mem_cons_of_mem _ known), fits⟩
      · intro twice
        obtain ⟨y, mem, same⟩ := List.mem_map.1 twice
        obtain ⟨-, fresh, -⟩ := others y mem
        exact fresh (same ▸ List.mem_cons_self)
    · rintro ⟨⟨⟨named, fresh, fits⟩, others⟩, apart, distinct⟩
      refine ⟨named, fresh, fits, ?_, distinct⟩
      intro y mem
      obtain ⟨named, fresh, fits⟩ := others y mem
      refine ⟨named, ?_, fits⟩
      intro known
      rcases List.mem_cons.1 known with same | known
      · exact apart (List.mem_map.2 ⟨y, mem, same⟩)
      · exact fresh known

/-! ### Bindings -/

/-- There is nothing to complain about bindings just if each that is declared satisfies its
declaration. -/
theorem checkBound_eq_nil {constraints : Bool} :
    checkBound bindings constraints xs = ([], none) ↔
      ∀ x ∈ xs, ∀ d, bindings.get? x.name = some d → x.check d constraints = .ok [] := by
  induction xs with
  | nil => exact iff_of_true rfl (by simp)
  | cons x xs ih =>
    rw [checkBound, List.forall_mem_cons, ← ih]
    cases bound : bindings.get? x.name with
    | none => simp
    | some d =>
      cases checked : x.check d constraints with
      | error e => simp [checked]
      | ok problems => simp [checked, Prod.ext_iff, List.append_eq_nil_iff, and_assoc]

theorem validate_errors_eq_nil {constraints : Bool} :
    (t.validate o bindings constraints).errors = [] ↔
      t.unbound bindings = [] ∧ checkBound bindings constraints t.declarations = ([], none) ∧
        ∃ text, t.compile o (.ofFields bindings) = .ok text := by
  unfold Template.validate
  rcases checkBound bindings constraints t.declarations with ⟨problems, _ | stop⟩
  · cases compiled : t.compile o (.ofFields bindings) with
    | error e => simp
    | ok text => simp [List.append_eq_nil_iff]
  · simp

/-! ### Stand-ins -/

theorem isEmpty_of_named {x : Variable} (named : Text.isAllBlank x.name = false) :
    x.name.isEmpty = false := by
  cases empty : x.name.isEmpty with
  | false => rfl
  | true =>
    rw [String.isEmpty_iff.1 empty] at named
    cases named

/-- Every declaration of a name of its own has its stand-in. -/
theorem get?_standIns (named : ∀ x ∈ t.declarations, Text.isAllBlank x.name = false)
    (distinct : (t.declarations.map (·.name)).Nodup) (standIns : t.standIns = .ok bindings)
    {x : Variable} (declared : x ∈ t.declarations) :
    ∃ d, x.standIn = .ok d ∧ bindings.get? x.name = some d := by
  have all : t.declarations.filter (!·.name.isEmpty) = t.declarations :=
    List.filter_eq_self.2 fun x mem => by simp [isEmpty_of_named (named x mem)]
  unfold Template.standIns at standIns
  rw [all] at standIns
  obtain ⟨pairs, ran, rfl⟩ := Outcome.exists_of_map_eq_ok standIns
  have step : ∀ {x : Variable} {pair : String × Datum},
      x.standIn.map (x.name, ·) = .ok pair → pair.1 = x.name ∧ x.standIn = .ok pair.2 := by
    intro x pair gives
    obtain ⟨d, given, rfl⟩ := Outcome.exists_of_map_eq_ok gives
    exact ⟨rfl, given⟩
  have keys : Entries.keys pairs = t.declarations.map (·.name) :=
    Outcome.map_of_mapM ran fun _ _ gives => (step gives).1
  have apart : Entries.Distinct pairs := Entries.distinct_iff_nodup.2 (keys ▸ distinct)
  obtain ⟨⟨name, d⟩, mem, gives⟩ := Outcome.exists_mem_of_mapM ran declared
  obtain ⟨rfl, given⟩ := step gives
  refine ⟨d, given, ?_⟩
  rw [Entries.ofPairs_of_distinct apart]
  exact apart.get?_of_mem mem BEq.rfl

/-! ### Templates -/

theorem required_eq_nil {what text : String} :
    (if Text.isAllBlank text then [s!"Template {what} is required"] else []) = [] ↔
      Text.isAllBlank text = false := by
  cases Text.isAllBlank text <;> simp

/-- What a template that passes the check has passed, part by part. -/
theorem validateSelf_isValid_iff :
    (∃ verdict, t.validateSelf o = .ok verdict ∧ verdict.isValid = true) ↔
      Text.isAllBlank t.name = false ∧ Text.isAllBlank t.body = false ∧
        Text.isAllBlank t.category = false ∧ variableProblems [] t.declarations = .ok [] ∧
        ∃ bindings, t.standIns = .ok bindings ∧
          (t.validate { o with strict := false } bindings false).errors = [] := by
  unfold Template.validateSelf
  constructor
  · rintro ⟨verdict, checked, valid⟩
    obtain ⟨problems, declared, checked⟩ := Outcome.exists_of_bind_eq_ok checked
    obtain ⟨bindings, standIns, checked⟩ := Outcome.exists_of_bind_eq_ok checked
    cases checked
    have none := List.isEmpty_iff.1 valid
    simp only [List.append_eq_nil_iff, required_eq_nil] at none
    obtain ⟨⟨⟨⟨name, body⟩, category⟩, rfl⟩, errors⟩ := none
    exact ⟨name, body, category, declared, bindings, standIns, errors⟩
  · rintro ⟨name, body, category, declared, bindings, standIns, errors⟩
    rw [declared, standIns]
    refine ⟨_, rfl, ?_⟩
    simp [name, body, category, errors]

/-- A template passes the check just if it is valid. -/
theorem exists_valid_verdict_iff :
    (∃ verdict, t.validateSelf o = .ok verdict ∧ verdict.isValid = true) ↔ t.Valid o := by
  rw [validateSelf_isValid_iff, variableProblems_eq_nil]
  constructor
  · rintro ⟨name, body, category, ⟨declared, distinct⟩, bindings, standIns, errors⟩
    obtain ⟨-, bound, compiles⟩ := validate_errors_eq_nil.1 errors
    have named : ∀ x ∈ t.declarations, Text.isAllBlank x.name = false :=
      fun x mem => (declared x mem).1
    refine ⟨name, body, category, named, distinct, fun x mem => (declared x mem).2.2,
      bindings, standIns, ?_, compiles⟩
    intro x mem
    obtain ⟨d, -, binds⟩ := get?_standIns named distinct standIns mem
    have admitted := checkBound_eq_nil.1 bound x mem d binds
    exact ⟨d, binds, check_unconstrained_eq_nil.1 admitted⟩
  · intro valid
    obtain ⟨bindings, standIns, admitted, compiles⟩ := valid.compiles
    refine ⟨valid.name, valid.body, valid.category, ⟨?_, valid.distinct⟩, bindings, standIns, ?_⟩
    · intro x mem
      exact ⟨valid.named x mem, List.not_mem_nil, valid.defaults x mem⟩
    · refine validate_errors_eq_nil.2 ⟨?_, checkBound_eq_nil.2 ?_, compiles⟩
      · refine List.map_eq_nil_iff.2 (List.filter_eq_nil_iff.2 ?_)
        intro x mem missing
        obtain ⟨d, binds, -⟩ := admitted x mem
        simp [Entries.has_eq_isSome, binds] at missing
      · intro x mem d binds
        obtain ⟨d', binds', admits⟩ := admitted x mem
        cases binds.symm.trans binds'
        exact check_unconstrained_eq_nil.2 admits

end Promptuary
