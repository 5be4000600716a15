import Promptuary.Proofs.Template.References

/-!
How compiling ends. It evaluates the blocks of a template and the values in the tags that they
leave. Where one of these has no result compiling fails and says why; where all of them have, it
fails only for names without a value, and only if it is strict (`compile_ends`).
-/

namespace Promptuary

open Token

variable {o : CompileOptions} {b : Bindings} {declared : String → Option Variable}
  {ts kept kept' : List Token}

/-! ### The last pass, token by token -/

/-- A token is the tag of a variable or none. -/
theorem Token.variable_or_plain (t : Token) :
    (∃ name property source, t = .tag (.variable name property) source) ∨
      ∀ name property source, t ≠ .tag (.variable name property) source := by
  by_cases asks : ∃ name property source, t = .tag (.variable name property) source
  · exact .inl asks
  · exact .inr fun name property source same => asks ⟨name, property, source, same⟩

theorem substitute_known {name : String} {property : Option String} {source : List Char} {v : Value}
    (known : resolve b declared name = some v) :
    substitute o b declared (.tag (.variable name property) source) =
      (renderAt v property).map fun text => .text text.toList := by
  simp only [substitute, known]
  cases renderAt v property <;> rfl

theorem substitute_unknown {name : String} {property : Option String} {source : List Char}
    (unknown : resolve b declared name = none) :
    substitute o b declared (.tag (.variable name property) source) =
      .ok (if o.strict then .missing name else .text o.missingText.toList) := by
  simp only [substitute, unknown]

theorem substitute_plain {t : Token}
    (plain : ∀ name property source, t ≠ .tag (.variable name property) source) :
    substitute o b declared t = .ok (.text t.source) := by
  unfold substitute
  split
  · exact absurd rfl (plain _ _ _)
  · rfl

/-- The name that a substitute stands for, if it is missing. -/
def Token.Substitute.missing? : Substitute → Option String
  | .missing name => some name
  | .text _ => none

/-- The name that a token asks for without a value. -/
def unresolved? (b : Bindings) (declared : String → Option Variable) : Token → Option String
  | .tag (.variable name _) _ => if (resolve b declared name).isNone then some name else none
  | _ => none

/-- If compiling is strict, a token that asks for a name without a value misses it; otherwise no
token misses anything. -/
theorem missing?_of_substitute {t : Token} {part : Substitute}
    (ran : substitute o b declared t = .ok part) :
    part.missing? = if o.strict then unresolved? b declared t else none := by
  rcases t.variable_or_plain with ⟨name, property, source, rfl⟩ | plain
  · cases known : resolve b declared name with
    | some v =>
      rw [substitute_known known] at ran
      obtain ⟨text, -, rfl⟩ := Outcome.exists_of_map_eq_ok ran
      simp [Substitute.missing?, unresolved?, known]
    | none =>
      rw [substitute_unknown known] at ran
      cases ran
      cases strict : o.strict <;> simp [Substitute.missing?, unresolved?, known]
  · rw [substitute_plain plain] at ran
    cases ran
    have nothing : unresolved? b declared t = none := by
      unfold unresolved?
      split
      · exact absurd rfl (plain _ _ _)
      · rfl
    simp [Substitute.missing?, nothing]

/-! ### What evaluating leaves -/

/-- The blocks of tokens have a result, and in what they leave every value has a text. -/
structure Evaluates (b : Bindings) (declared : String → Option Variable) (ts kept : List Token) :
    Prop where
  blocks : (conditionals b ts >>= loops b) = .ok kept
  texts : ∀ name property source v, .tag (.variable name property) source ∈ kept →
    resolve b declared name = some v → ∃ text, renderAt v property = .ok text

theorem Evaluates.unique (evaluates : Evaluates b declared ts kept)
    (other : Evaluates b declared ts kept') : kept' = kept :=
  Except.ok.inj (other.blocks.symm.trans evaluates.blocks)

/-- The last pass succeeds if every value has a text. -/
theorem Evaluates.exists_parts (evaluates : Evaluates b declared ts kept) :
    ∃ parts, kept.mapM (substitute o b declared) = .ok parts := by
  refine Outcome.mapM_ok fun t mem => ?_
  rcases t.variable_or_plain with ⟨name, property, source, rfl⟩ | plain
  · cases known : resolve b declared name with
    | some v =>
      obtain ⟨text, rendered⟩ := evaluates.texts name property source v mem known
      exact ⟨_, (substitute_known known).trans (congrArg _ rendered)⟩
    | none => exact ⟨_, substitute_unknown known⟩
  · exact ⟨_, substitute_plain plain⟩

/-- If the passes succeed, every value has a text. -/
theorem evaluates_of_passes {parts : List Substitute}
    (blocks : (conditionals b ts >>= loops b) = .ok kept)
    (ran : kept.mapM (substitute o b declared) = .ok parts) : Evaluates b declared ts kept where
  blocks := blocks
  texts := by
    intro name property source v mem known
    obtain ⟨part, -, substituted⟩ := Outcome.exists_mem_of_mapM ran mem
    rw [substitute_known known] at substituted
    obtain ⟨text, rendered, -⟩ := Outcome.exists_of_map_eq_ok substituted
    exact ⟨text, rendered⟩

/-- The names that tokens ask for without a value, each once, in the order of first use. -/
def unresolved (b : Bindings) (declared : String → Option Variable) (ts : List Token) :
    List String :=
  (ts.filterMap (unresolved? b declared)).eraseDups

theorem mem_unresolved {name : String} :
    name ∈ unresolved b declared ts ↔
      ∃ property source, .tag (.variable name property) source ∈ ts ∧
        resolve b declared name = none := by
  unfold unresolved
  rw [List.mem_eraseDups, List.mem_filterMap]
  constructor
  · rintro ⟨t, mem, asks⟩
    unfold unresolved? at asks
    split at asks
    · next other property source =>
      split at asks
      · next unknown =>
        cases asks
        exact ⟨property, source, mem, Option.isNone_iff_eq_none.1 unknown⟩
      · cases asks
    · cases asks
  · rintro ⟨property, source, mem, unknown⟩
    exact ⟨_, mem, by simp [unresolved?, unknown]⟩

/-- What the last pass misses. -/
theorem missing?_of_mapM {parts : List Substitute}
    (ran : kept.mapM (substitute o b declared) = .ok parts) :
    (parts.filterMap Substitute.missing?).eraseDups =
      if o.strict then unresolved b declared kept else [] := by
  have each := Outcome.map_of_mapM ran fun _ _ => missing?_of_substitute
  have same : parts.filterMap Substitute.missing? =
      kept.filterMap fun t => if o.strict then unresolved? b declared t else none := by
    simpa [List.filterMap_map, Function.comp_def] using congrArg (List.filterMap id) each
  rw [same]
  cases o.strict with
  | true => rfl
  | false =>
    have nothing :
        kept.filterMap (fun t => if false then unresolved? b declared t else none) = [] :=
      List.filterMap_eq_nil_iff.2 fun _ _ => rfl
    rw [nothing]
    rfl

/-! ### How expanding and compiling end -/

/-- If the passes succeed, expanding gives a text unless something is missing. -/
theorem expand_of_passes {parts : List Substitute}
    (blocks : (conditionals b ts >>= loops b) = .ok kept)
    (ran : kept.mapM (substitute o b declared) = .ok parts) :
    ∃ cs, expand o b declared ts =
      if (parts.filterMap Substitute.missing?).eraseDups = [] then .ok cs
      else .error (.missing (parts.filterMap Substitute.missing?).eraseDups) := by
  simp only [← List.isEmpty_iff]
  unfold expand
  rw [blocks, Outcome.ok_bind, ran]
  exact ⟨_, rfl⟩

/-- Where blocks leave no variables, expanding gives the sources of what they leave. -/
theorem expand_of_plain (blocks : (conditionals b ts >>= loops b) = .ok kept)
    (plain : ∀ name property source, .tag (.variable name property) source ∉ kept) :
    expand o b declared ts = .ok (kept.flatMap source) := by
  have each : kept.mapM (substitute o b declared) = .ok (kept.map fun t => .text t.source) :=
    Outcome.mapM_eq_map fun t mem => substitute_plain fun name property source same =>
      plain name property source (same ▸ mem)
  have none : (kept.filterMap fun _ => (Option.none : Option String)) = [] :=
    List.filterMap_eq_nil_iff.2 fun _ _ => rfl
  unfold expand
  rw [blocks, Outcome.ok_bind, each]
  simp only [List.filterMap_map, List.flatMap_map, Function.comp_def, none, List.eraseDups_nil,
    List.isEmpty_nil, if_true]

/-- How compiling tokens can end: something has no result, or names are missing, or there is a
text. -/
inductive Ends (o : CompileOptions) (b : Bindings) (declared : String → Option Variable)
    (ts : List Token) {α : Type} : Except CompileError α → Prop where
  | stuck {cause : EvalError} : (∀ kept, ¬ Evaluates b declared ts kept) →
      Ends o b declared ts (.error (.evaluation cause))
  | misses {kept : List Token} : Evaluates b declared ts kept → o.strict = true →
      unresolved b declared kept ≠ [] →
      Ends o b declared ts (.error (.missing (unresolved b declared kept)))
  | gives {kept : List Token} {text : α} : Evaluates b declared ts kept →
      (o.strict = true → unresolved b declared kept = []) → Ends o b declared ts (.ok text)

theorem Ends.map {α β : Type} {r : Except CompileError α} (ends : Ends o b declared ts r)
    (f : α → β) : Ends o b declared ts (r.map f) := by
  cases ends with
  | stuck never => exact .stuck never
  | misses evaluates strict some => exact .misses evaluates strict some
  | gives evaluates none => exact .gives evaluates none

theorem expand_ends (o : CompileOptions) (b : Bindings) (declared : String → Option Variable)
    (ts : List Token) : Ends o b declared ts (expand o b declared ts) := by
  cases blocks : (conditionals b ts >>= loops b) with
  | error cause =>
    have failed : expand o b declared ts = .error (.evaluation cause) := by
      rw [expand, blocks]
      rfl
    rw [failed]
    refine .stuck fun kept evaluates => ?_
    cases blocks.symm.trans evaluates.blocks
  | ok kept =>
  cases ran : kept.mapM (substitute o b declared) with
  | error cause =>
    have failed : expand o b declared ts = .error (.evaluation cause) := by
      rw [expand, blocks, Outcome.ok_bind, ran]
    rw [failed]
    refine .stuck fun kept' evaluates => ?_
    obtain rfl := Except.ok.inj (blocks.symm.trans evaluates.blocks)
    obtain ⟨parts, ran'⟩ := evaluates.exists_parts (o := o)
    cases ran.symm.trans ran'
  | ok parts =>
    have evaluates := evaluates_of_passes blocks ran
    obtain ⟨cs, expanded⟩ := expand_of_passes blocks ran
    rw [missing?_of_mapM ran] at expanded
    rw [expanded]
    cases strict : o.strict with
    | false => exact .gives evaluates fun also => nomatch strict.symm.trans also
    | true =>
      by_cases none : unresolved b declared kept = []
      · rw [if_pos rfl, if_pos none]
        exact .gives evaluates fun _ => none
      · rw [if_pos rfl, if_neg none]
        exact .misses evaluates strict none

theorem compile_ends (o : CompileOptions) (t : Template) (b : Bindings) :
    Ends o b t.declared? (ofText t.body) (t.compile o b) :=
  (expand_ends o b t.declared? (ofText t.body)).map _

end Promptuary
