import Promptuary.Proofs.Template.Reading

/-!
What a template reads of its bindings. The last pass asks for a name only where a variable's tag
with that name is left, conditionals and loops only ask for the names in their opening tags, and
every tag that is left by a pass stands in the source. Main statement: the names that a template's
text is said to read are all that compiling depends on, and all that it can miss
(`compile_reads_extracted`).
-/

namespace Promptuary

open Token

/-! ### Names in tags -/

/-- The name that the meaning of a tag reads, if it reads one. -/
def Tag.reads? : Tag → Option String
  | .variable name _ => some name
  | .ifOpen name => some name
  | .eachOpen name => some name
  | .loopItem _ | .ifClose | .eachClose => none

/-- The names that tokens read are those in their tags. -/
theorem mem_referencedNames {ts : List Token} {name : String} :
    name ∈ referencedNames ts ↔ ∃ tag source, .tag tag source ∈ ts ∧ tag.reads? = some name := by
  unfold referencedNames
  rw [List.mem_eraseDups, List.mem_filterMap]
  constructor
  · rintro ⟨t, mem, reads⟩
    cases t with
    | text source => cases reads
    | tag tag source =>
      refine ⟨tag, source, mem, ?_⟩
      cases tag <;> exact reads
  · rintro ⟨tag, source, mem, reads⟩
    refine ⟨.tag tag source, mem, ?_⟩
    cases tag <;> exact reads

section

variable {o : CompileOptions} {b b' : Bindings} {declared : String → Option Variable}
  {ts : List Token} {name : String}

/-! ### Names that are missing -/

/-- Only the tag of a variable can miss a name, and only one without a value. -/
theorem eq_tag_of_missing {t : Token} (misses : substitute o b declared t = .ok (.missing name)) :
    ∃ property source, t = .tag (.variable name property) source ∧
      resolve b declared name = none := by
  unfold substitute at misses
  split at misses
  · next other property source =>
    split at misses
    · next v known =>
      cases shown : renderAt v property with
      | error =>
        rw [shown] at misses
        cases misses
      | ok text =>
        rw [shown] at misses
        cases misses
    · next unknown =>
      cases strict : o.strict with
      | false => simp [strict] at misses
      | true =>
        simp only [strict, if_true, Except.ok.injEq, Substitute.missing.injEq] at misses
        subst misses
        exact ⟨property, source, rfl, unknown⟩
  · cases misses

/-- A name that is said to be missing stands in a tag of the source and has no value. -/
theorem exists_tag_of_missing {e : CompileError} (failed : expand o b declared ts = .error e)
    (mem : name ∈ e.missingNames) : ∃ property source,
      .tag (.variable name property) source ∈ ts ∧ resolve b declared name = none := by
  unfold expand at failed
  cases blocks : (conditionals b ts >>= loops b) with
  | error cause =>
    rw [blocks] at failed
    cases failed
    simp [CompileError.missingNames] at mem
  | ok kept =>
    rw [blocks, Outcome.ok_bind] at failed
    cases ran : kept.mapM (substitute o b declared) with
    | error cause =>
      rw [ran] at failed
      cases failed
      simp [CompileError.missingNames] at mem
    | ok parts =>
      rw [ran] at failed
      dsimp only at failed
      split at failed
      · cases failed
      · cases failed
        rw [CompileError.missingNames, List.mem_eraseDups, List.mem_filterMap] at mem
        obtain ⟨part, among, same⟩ := mem
        split at same
        · cases same
          obtain ⟨t, left, misses⟩ := Outcome.exists_of_mem_mapM ran among
          obtain ⟨property, source, rfl, unknown⟩ := eq_tag_of_missing misses
          exact ⟨property, source, mem_of_blocks blocks left, unknown⟩
        · cases same

end

/-- The names that a template's text is said to read are all that it reads. Whatever the text and
the options are, bindings that agree on these names give the same text or the same error; and a name
that compiling misses is one of them, and is neither bound nor has a default. -/
theorem compile_reads_extracted (t : Template) (o : CompileOptions) (b : Bindings) :
    (∀ b' : Bindings, (∀ name ∈ extractVariables t.body, b name = b' name) →
      t.compile o b = t.compile o b') ∧
    ∀ e, t.compile o b = .error e → ∀ name ∈ e.missingNames,
      name ∈ extractVariables t.body ∧ resolve b t.declared? name = none := by
  constructor
  · intro b' agree
    have agrees : ∀ {tag source name}, .tag tag source ∈ ofText t.body →
        tag.reads? = some name → b name = b' name :=
      fun mem reads => agree _ (mem_referencedNames.2 ⟨_, _, mem, reads⟩)
    have blocks : (conditionals b (ofText t.body) >>= loops b) =
        (conditionals b' (ofText t.body) >>= loops b') := by
      refine blocks_congr ?_ ?_
      · intro name source mem
        rw [agrees mem rfl]
      · intro name source mem
        rw [agrees mem rfl]
    have values : ∀ name property source, .tag (.variable name property) source ∈ ofText t.body →
        resolve b t.declared? name = resolve b' t.declared? name := by
      intro name property source mem
      rw [resolve, resolve, agrees mem rfl]
    unfold Template.compile
    rw [expand_congr_on blocks values]
  · intro e failed name mem
    have expanded : expand o b t.declared? (ofText t.body) = .error e := by
      unfold Template.compile at failed
      cases ran : expand o b t.declared? (ofText t.body) with
      | error cause =>
        rw [ran] at failed
        cases failed
        rfl
      | ok cs =>
        rw [ran] at failed
        cases failed
    obtain ⟨property, source, among, unknown⟩ := exists_tag_of_missing expanded mem
    exact ⟨mem_referencedNames.2 ⟨_, _, among, rfl⟩, unknown⟩

/-- A template with a conditional that is never closed, and a property of a variable. -/
def unclosedTemplate : Template :=
  { sampleTemplate with body := "\x7b\x7b#if vip\x7d\x7d\x7b\x7buser.name\x7d\x7d" }

theorem compile_reads_extracted_unclosedTemplate :
    extractVariables unclosedTemplate.body = ["vip", "user"] ∧
      unclosedTemplate.compile {} (fun _ => none) =
        unclosedTemplate.compile {} (Bindings.bind (fun _ => none) "name" (.string "Eve")) ∧
      ∃ e, unclosedTemplate.compile {} (fun _ => none) = .error e ∧ "user" ∈ e.missingNames ∧
        "user" ∈ extractVariables unclosedTemplate.body := by
  have names : extractVariables unclosedTemplate.body = ["vip", "user"] := by decide +kernel
  have misses : (match unclosedTemplate.compile {} (fun _ => none) with
      | .error e => e.missingNames
      | .ok _ => []) = ["user"] := by decide +kernel
  obtain ⟨agree, missing⟩ := compile_reads_extracted unclosedTemplate {} fun _ => none
  constructor
  · exact names
  constructor
  · refine agree _ ?_
    rw [names]
    intro name mem
    have other : name ≠ "name" := by
      rintro rfl
      simp at mem
    rw [Bindings.bind_of_ne other]
  · cases ran : unclosedTemplate.compile {} fun _ => none with
    | ok text =>
      rw [ran] at misses
      cases misses
    | error e =>
      rw [ran] at misses
      have mem : "user" ∈ e.missingNames := by simp [misses]
      exact ⟨e, rfl, mem, (missing e ran "user" mem).1⟩

end Promptuary
