import Promptuary.Proofs.Template.Scanning

/-!
The three passes on the tokens of a forest. Conditionals settle a forest into one without
conditionals (`conditionals_tokens`), and of such a forest loops and variables make what it yields
(`loops_tokens`). Main statement: compiling the source of a forest gives what the forest means
(`compile_source`).
-/

namespace Promptuary

namespace Yield

/-- What a part of the text or a missing name yields. -/
def ofSubstitute : Token.Substitute → Yield
  | .text cs => { text := cs }
  | .missing name => { missing := [name] }

end Yield

namespace Forest

open Token

variable {ifs loops : Bool}

/-! ### Joined stretches -/

theorem conditions_behind (s : Stretch) (f : Forest ifs loops) :
    (behind s f).conditions = f.conditions := by
  unfold behind
  split
  · rfl
  · rfl

theorem conditions_joined (f : Forest ifs loops) (s : Stretch) :
    (f.joined s).conditions = f.conditions := by
  induction f generalizing s with
  | nil => exact conditions_behind s .nil
  | text t f ih => exact ih (s.append t)
  | reference r f ih => rw [joined, conditions_behind, conditions, ih, conditions]
  | item i f ih => rw [joined, conditions_behind, conditions, ih, conditions]
  | conditional o body c f ihBody ihRest =>
    rw [joined, conditions_behind, conditions, ihBody, ihRest, conditions]
  | loop o body c f ihBody ihRest =>
    rw [joined, conditions_behind, conditions, ihBody, ihRest, conditions]

theorem meaning_behind (σ : Scope) (e : Option Element) (s : Stretch) (f : Forest ifs loops) :
    (behind s f).meaning σ e = Yield.both (.ok { text := s.chars }) (f.meaning σ e) := by
  unfold behind
  split
  · next empty => rw [List.isEmpty_iff.mp empty, Yield.both_nil]
  · rw [meaning]

/-- Joining the stretches of a forest does not change what it means. -/
theorem meaning_joined (σ : Scope) (f : Forest ifs loops) (e : Option Element) (s : Stretch) :
    (f.joined s).meaning σ e = Yield.both (.ok { text := s.chars }) (f.meaning σ e) := by
  have empty (y : Except EvalError Yield) :
      Yield.both (.ok { text := Stretch.empty.chars }) y = y := Yield.both_nil y
  induction f generalizing e s with
  | nil => exact meaning_behind σ e s .nil
  | text t f ih =>
    have two : Yield.both (.ok { text := s.chars }) (.ok { text := t.chars }) =
        .ok { text := (s.append t).chars } := rfl
    rw [joined, ih, ← two, Yield.both_assoc, meaning]
  | reference r f ih => simp only [joined, meaning_behind, meaning, ih, empty]
  | item i f ih => simp only [joined, meaning_behind, meaning, ih, empty]
  | conditional o body c f ihBody ihRest =>
    simp only [joined, meaning_behind, meaning, ihBody, ihRest, empty]
  | loop o body c f ihBody ihRest =>
    simp only [joined, meaning_behind, meaning, ihBody, ihRest, empty]

/-! ### Tags of blocks -/

/-- Behind tokens that are not the wanted tag, the first one is found. -/
theorem splitAtTag_append {wanted : Tag} {ts : List Token}
    (free : ∀ t ∈ ts, ∀ source, t ≠ .tag wanted source) (source : List Char) (rest : List Token) :
    splitAtTag wanted (ts ++ .tag wanted source :: rest) = some (ts, rest) := by
  induction ts with
  | nil => simp [splitAtTag]
  | cons t ts ih =>
    have step := ih fun t mem => free t (List.mem_cons_of_mem _ mem)
    cases t with
    | text cs => simp [splitAtTag, step]
    | tag other cs =>
      have differs : other ≠ wanted := by
        rintro rfl
        exact free _ List.mem_cons_self cs rfl
      simp [splitAtTag, differs, step]

/-- A forest without conditionals has none of their tags. -/
theorem no_conditional_tags (f : Forest ifs loops) (none : ifs = false) :
    ∀ t ∈ f.tokens, closeIf t = t ∧ ∀ source, t ≠ .tag .ifClose source := by
  induction f with
  | nil => simp [tokens]
  | text s f ih => simpa [tokens, closeIf] using ih none
  | reference r f ih => simpa [tokens, closeIf] using ih none
  | item i f ih => simpa [tokens, closeIf] using ih none
  | conditional => exact absurd none (by decide)
  | loop o body c f ihBody ihRest =>
    intro t mem
    simp only [tokens, List.cons_append, List.mem_cons, List.mem_append] at mem
    rcases mem with rfl | inside | rfl | after
    · simp [closeIf]
    · exact ihBody none t inside
    · simp [closeIf]
    · exact ihRest none t after

/-- A forest without loops has none of their tags. -/
theorem no_loop_tags (f : Forest ifs loops) (none : loops = false) :
    ∀ t ∈ f.tokens, closeEach t = t ∧ ∀ source, t ≠ .tag .eachClose source := by
  induction f with
  | nil => simp [tokens]
  | text s f ih => simpa [tokens, closeEach] using ih none
  | reference r f ih => simpa [tokens, closeEach] using ih none
  | item i f ih => simpa [tokens, closeEach] using ih none
  | loop => exact absurd none (by decide)
  | conditional o body c f ihBody ihRest =>
    intro t mem
    simp only [tokens, List.cons_append, List.mem_cons, List.mem_append] at mem
    rcases mem with rfl | inside | rfl | after
    · simp [closeEach]
    · exact ihBody none t inside
    · simp [closeEach]
    · exact ihRest none t after

theorem map_closeIf_tokens (f : Forest false loops) : f.tokens.map closeIf = f.tokens := by
  have same : f.tokens.map closeIf = f.tokens.map id :=
    List.map_congr_left fun t mem => (no_conditional_tags f rfl t mem).1
  rw [same, List.map_id]

theorem map_closeEach_tokens (f : Forest ifs false) : f.tokens.map closeEach = f.tokens := by
  have same : f.tokens.map closeEach = f.tokens.map id :=
    List.map_congr_left fun t mem => (no_loop_tags f rfl t mem).1
  rw [same, List.map_id]

/-! ### The first pass -/

/-- One forest behind another. -/
def append {ifs loops : Bool} : Forest ifs loops → Forest ifs loops → Forest ifs loops
  | .nil, g => g
  | .text s f, g => .text s (f.append g)
  | .reference r f, g => .reference r (f.append g)
  | .item i f, g => .item i (f.append g)
  | .conditional o body c f, g => .conditional o body c (f.append g)
  | .loop o body c f, g => .loop o body c (f.append g)

theorem tokens_append (f g : Forest ifs loops) : (f.append g).tokens = f.tokens ++ g.tokens := by
  induction f with
  | nil => rfl
  | text s f ih => simp [append, tokens, ih]
  | reference r f ih => simp [append, tokens, ih]
  | item i f ih => simp [append, tokens, ih]
  | conditional o body c f _ ih => simp [append, tokens, ih]
  | loop o body c f _ ih => simp [append, tokens, ih]

theorem meaning_append (σ : Scope) (e : Option Element) (f g : Forest ifs loops) :
    (f.append g).meaning σ e = Yield.both (f.meaning σ e) (g.meaning σ e) := by
  induction f with
  | nil => rw [append, meaning, Yield.both_nil]
  | text s f ih => simp only [append, meaning, ih, Yield.both_assoc]
  | reference r f ih => simp only [append, meaning, ih, Yield.both_assoc]
  | item i f ih => simp only [append, meaning, ih, Yield.both_assoc]
  | conditional o body c f _ ih => simp only [append, meaning, ih, Yield.both_assoc]
  | loop o body c f _ ih => simp only [append, meaning, ih, Yield.both_assoc]

/-- A forest with its conditionals settled: a body whose condition holds takes the place of its
block. -/
def settled (truth : String → Bool) {ifs loops : Bool} : Forest ifs loops → Forest false loops
  | .nil => .nil
  | .text s f => .text s (f.settled truth)
  | .reference r f => .reference r (f.settled truth)
  | .item i f => .item i (f.settled truth)
  | .conditional o body _ f =>
    (if truth o.word.name then body else .nil).append (f.settled truth)
  | .loop o body c f => .loop o (body.settled truth) c (f.settled truth)

/-- The conditionals of a forest have the truth that is said. -/
def HasTruth (b : Bindings) (truth : String → Bool) (names : List String) : Prop :=
  ∀ name ∈ names, ((b name).getD .null).isTruthy = .ok (truth name)

theorem HasTruth.append {b : Bindings} {truth : String → Bool} {xs ys : List String}
    (h : HasTruth b truth (xs ++ ys)) : HasTruth b truth xs ∧ HasTruth b truth ys :=
  ⟨fun name mem => h name (List.mem_append_left _ mem),
    fun name mem => h name (List.mem_append_right _ mem)⟩

/-- A token that belongs to no conditional passes. -/
theorem conditionals_cons (b : Bindings) {t : Token}
    (opens : ∀ name source, t ≠ .tag (.ifOpen name) source)
    (closes : ∀ source, t ≠ .tag .ifClose source) (rest : List Token) :
    conditionals b (t :: rest) = (conditionals b rest).map (t :: ·) := by
  rw [conditionals]
  · cases conditionals b rest <;> rfl
  · exact opens
  · exact closes

/-- A whole conditional gives its body or nothing. -/
theorem conditionals_block (b : Bindings) {name : String} {holds : Bool}
    (truth : ((b name).getD .null).isTruthy = .ok holds) (body : Forest false loops)
    (source source' : List Char) (rest : List Token) :
    conditionals b (.tag (.ifOpen name) source :: (body.tokens ++ .tag .ifClose source' :: rest)) =
      (conditionals b rest).map ((if holds then body.tokens else []) ++ ·) := by
  have split := splitAtTag_append (fun t mem => (no_conditional_tags body rfl t mem).2) source' rest
  rw [conditionals]
  split
  · next h => rw [split] at h; cases h
  · next h =>
    rw [split] at h
    cases h
    rw [truth, map_closeIf_tokens]
    cases conditionals b rest <;> rfl

/-- The first pass settles the conditionals of a forest. -/
theorem conditionals_tokens_append (b : Bindings) {truth : String → Bool} (f : Forest ifs loops)
    (reads : HasTruth b truth f.conditions) (rest : List Token) :
    conditionals b (f.tokens ++ rest) =
      (conditionals b rest).map ((f.settled truth).tokens ++ ·) := by
  have map_map (r : Except EvalError (List Token)) (g h : List Token → List Token) :
      (r.map g).map h = r.map (h ∘ g) := by
    cases r <;> rfl
  induction f generalizing rest with
  | nil =>
    simp only [tokens, settled, List.nil_append]
    cases conditionals b rest <;> rfl
  | text s f ih =>
    rw [tokens, List.cons_append, conditionals_cons b (by simp) (by simp), ih reads, map_map]
    rfl
  | reference r f ih =>
    rw [tokens, List.cons_append, conditionals_cons b (by simp) (by simp), ih reads, map_map]
    rfl
  | item i f ih =>
    rw [tokens, List.cons_append, conditionals_cons b (by simp) (by simp), ih reads, map_map]
    rfl
  | conditional o body c f _ ih =>
    have holds := reads o.word.name List.mem_cons_self
    have readsRest : HasTruth b truth f.conditions :=
      fun name mem => reads name (by simp [conditions, mem])
    have shape : (Forest.conditional o body c f).tokens ++ rest =
        .tag (.ifOpen o.word.name) (braced (o.inner ['#', 'i', 'f'])) ::
          (body.tokens ++ .tag .ifClose (braced (c.inner ['/', 'i', 'f'])) ::
            (f.tokens ++ rest)) := by
      simp [tokens]
    rw [shape, conditionals_block b holds, ih readsRest, map_map, settled, tokens_append]
    refine congrArg (Except.map · _) ?_
    funext ts
    cases truth o.word.name <;> simp [tokens]
  | loop o body c f ihBody ihRest =>
    obtain ⟨readsBody, readsRest⟩ := HasTruth.append reads
    have shape : (Forest.loop o body c f).tokens ++ rest =
        .tag (.eachOpen o.word.name) (braced (o.inner ['#', 'e', 'a', 'c', 'h'])) ::
          (body.tokens ++ .tag .eachClose (braced (c.inner ['/', 'e', 'a', 'c', 'h'])) ::
            (f.tokens ++ rest)) := by
      simp [tokens]
    rw [shape, conditionals_cons b (by simp) (by simp), ihBody readsBody,
      conditionals_cons b (by simp) (by simp), ihRest readsRest, map_map, map_map, map_map]
    refine congrArg (Except.map · _) ?_
    funext ts
    simp [settled, tokens]

/-- The first pass on a whole forest. -/
theorem conditionals_tokens (b : Bindings) {truth : String → Bool} (f : Forest ifs loops)
    (reads : HasTruth b truth f.conditions) :
    conditionals b f.tokens = .ok (f.settled truth).tokens := by
  have := conditionals_tokens_append b f reads []
  rw [List.append_nil, conditionals] at this
  rw [this]
  exact congrArg Except.ok (List.append_nil _)

/-- A settled forest means what the forest means. -/
theorem meaning_settled (σ : Scope) {truth : String → Bool} (f : Forest ifs loops)
    (reads : HasTruth σ.bindings truth f.conditions) (e : Option Element) :
    (f.settled truth).meaning σ e = f.meaning σ e := by
  induction f generalizing e with
  | nil => rfl
  | text s f ih => rw [settled, meaning, ih reads, meaning]
  | reference r f ih => rw [settled, meaning, ih reads, meaning]
  | item i f ih => simp only [settled, meaning, ih reads]
  | conditional o body c f _ ih =>
    have holds : (σ.outer o.word.name).isTruthy = .ok (truth o.word.name) :=
      reads o.word.name List.mem_cons_self
    have readsRest : HasTruth σ.bindings truth f.conditions :=
      fun name mem => reads name (by simp [conditions, mem])
    rw [settled, meaning_append, ih readsRest, meaning, holds]
    cases truth o.word.name <;> rfl
  | loop o body c f ihBody ihRest =>
    obtain ⟨readsBody, readsRest⟩ := HasTruth.append reads
    simp only [settled, meaning, ihBody readsBody, ihRest readsRest]

/-! ### The last pass -/

/-- What tokens without blocks yield. -/
def yields (σ : Scope) (ts : List Token) : Except EvalError Yield :=
  (ts.mapM (substitute σ.options σ.bindings σ.declared?)).map fun parts =>
    .concat (parts.map Yield.ofSubstitute)

theorem yields_nil (σ : Scope) : yields σ [] = .ok {} := rfl

theorem yields_cons (σ : Scope) (t : Token) (ts : List Token) :
    yields σ (t :: ts) =
      Yield.both ((substitute σ.options σ.bindings σ.declared? t).map Yield.ofSubstitute)
        (yields σ ts) := by
  unfold yields
  rw [List.mapM_cons]
  cases substitute σ.options σ.bindings σ.declared? t with
  | error => rfl
  | ok part =>
    cases ts.mapM (substitute σ.options σ.bindings σ.declared?) with
    | error => rfl
    | ok parts => rfl

theorem yields_append (σ : Scope) (ts us : List Token) :
    yields σ (ts ++ us) = Yield.both (yields σ ts) (yields σ us) := by
  induction ts with
  | nil => rw [List.nil_append, yields_nil, Yield.both_nil]
  | cons t ts ih => rw [List.cons_append, yields_cons, ih, yields_cons, Yield.both_assoc]

/-- The last pass on a variable's tag. -/
theorem substitute_variable (σ : Scope) (name : String) (property : Option String)
    (source : List Char) :
    (substitute σ.options σ.bindings σ.declared? (.tag (.variable name property) source)).map
      Yield.ofSubstitute = σ.yield name property := by
  have same : resolve σ.bindings σ.declared? name = σ.value? name := by
    unfold resolve Scope.value?
    cases σ.bindings name <;> rfl
  have rendered (v : Value) : renderAt v property = Scope.part v property >>= Value.render := by
    cases property <;> rfl
  simp only [substitute, Scope.yield, same]
  cases σ.value? name with
  | none => cases σ.options.strict <;> rfl
  | some v =>
    simp only [rendered]
    cases Scope.part v property >>= Value.render <;> rfl

/-! ### The second pass -/

theorem loopText_eq (e : Element) (i : LoopItem) :
    loopText e.count e.position e.text i = (e.item i).toList := by
  cases i with
  | this => rfl
  | index =>
    simp only [loopText, Element.item, Number.natDigits]
    exact (String.toList_ofList).symm
  | first => rfl
  | last => rfl

/-- The body of a loop, filled in for an element, yields what it means at the element. -/
theorem yields_fill (σ : Scope) (e : Element) (f : Forest ifs loops) (settled : ifs = false)
    (flat : loops = false) :
    yields σ (f.tokens.map (fill e.count e.position e.text)) = f.meaning σ (some e) := by
  induction f with
  | nil => rfl
  | text s f ih =>
    rw [tokens, List.map_cons, yields_cons, ih settled flat, meaning]
    rfl
  | reference r f ih =>
    rw [tokens, List.map_cons, yields_cons, ih settled flat, meaning, fill, substitute_variable]
    simp
  | item i f ih =>
    rw [tokens, List.map_cons, yields_cons, ih settled flat, fill, loopText_eq]
    rfl
  | conditional => exact absurd settled (by decide)
  | loop => exact absurd flat (by decide)

/-- A loop's body once for each element yields what it means at each, from a position on. -/
theorem yields_unroll (σ : Scope) (body : Forest false false) (count : Nat) (texts : List String)
    (position : Nat) :
    yields σ (unroll body.tokens count position texts) =
      (((texts.zipIdx position).map fun (s, i) => (⟨s, i, count⟩ : Element)).mapM
        fun e => body.meaning σ (some e)).map .concat := by
  induction texts generalizing position with
  | nil => rfl
  | cons s texts ih =>
    have first := yields_fill σ ⟨s, position, count⟩ body rfl rfl
    rw [unroll, yields_append, first, ih, List.zipIdx_cons, List.map_cons, List.mapM_cons]
    cases body.meaning σ (some ⟨s, position, count⟩) with
    | error => rfl
    | ok y =>
      cases ((texts.zipIdx (position + 1)).map fun (s, i) => (⟨s, i, count⟩ : Element)).mapM
        fun e => body.meaning σ (some e) <;> rfl

/-- A token that belongs to no loop passes. -/
theorem loops_cons (b : Bindings) {t : Token}
    (opens : ∀ name source, t ≠ .tag (.eachOpen name) source)
    (closes : ∀ source, t ≠ .tag .eachClose source) (rest : List Token) :
    Token.loops b (t :: rest) = (Token.loops b rest).map (t :: ·) := by
  rw [Token.loops]
  · cases Token.loops b rest <;> rfl
  · exact opens
  · exact closes

/-- A whole loop gives its body once for each element. -/
theorem loops_block (b : Bindings) {name : String} {texts : List String}
    (elements : ((b name).getD .null).items.mapM Value.render = .ok texts)
    (body : Forest ifs false) (source source' : List Char) (rest : List Token) :
    Token.loops b
        (.tag (.eachOpen name) source :: (body.tokens ++ .tag .eachClose source' :: rest)) =
      (Token.loops b rest).map (unroll body.tokens texts.length 0 texts ++ ·) := by
  have split := splitAtTag_append (fun t mem => (no_loop_tags body rfl t mem).2) source' rest
  rw [Token.loops]
  split
  · next h => rw [split] at h; cases h
  · next h =>
    rw [split] at h
    cases h
    rw [elements, map_closeEach_tokens]
    cases Token.loops b rest <;> rfl

/-- A token that passes, and what the tokens behind it yield. -/
theorem exists_loops_cons {σ : Scope} {t : Token} {rest : List Token} {x y : Yield}
    (opens : ∀ name source, t ≠ .tag (.eachOpen name) source)
    (closes : ∀ source, t ≠ .tag .eachClose source)
    (first : (substitute σ.options σ.bindings σ.declared? t).map Yield.ofSubstitute = .ok x)
    (others : ∃ ts, Token.loops σ.bindings rest = .ok ts ∧ yields σ ts = .ok y) :
    ∃ ts, Token.loops σ.bindings (t :: rest) = .ok ts ∧ yields σ ts = .ok (x ++ y) := by
  obtain ⟨ts, passes, yielded⟩ := others
  refine ⟨t :: ts, ?_, ?_⟩
  · rw [loops_cons σ.bindings opens closes, passes]
    rfl
  · rw [yields_cons, first, yielded]
    rfl

/-- Loops and variables make of a settled forest what it means. -/
theorem loops_tokens (σ : Scope) (f : Forest ifs loops) (settled : ifs = false) {y : Yield}
    (evaluates : f.meaning σ none = .ok y) :
    ∃ ts, Token.loops σ.bindings f.tokens = .ok ts ∧ yields σ ts = .ok y := by
  induction f generalizing y with
  | nil =>
    refine ⟨[], ?_, evaluates⟩
    rw [tokens, Token.loops]
  | text s f ih =>
    obtain ⟨x, z, first, after, rfl⟩ := Yield.both_eq_ok evaluates
    cases first
    exact exists_loops_cons (by simp) (by simp) rfl (ih settled after)
  | reference r f ih =>
    obtain ⟨x, z, first, after, rfl⟩ := Yield.both_eq_ok evaluates
    exact exists_loops_cons (by simp) (by simp) ((substitute_variable ..).trans first)
      (ih settled after)
  | item i f ih =>
    obtain ⟨x, z, first, after, rfl⟩ := Yield.both_eq_ok evaluates
    cases first
    exact exists_loops_cons (by simp) (by simp) rfl (ih settled after)
  | conditional => exact absurd settled (by decide)
  | loop o body c f _ ih =>
    subst settled
    obtain ⟨x, z, first, after, rfl⟩ := Yield.both_eq_ok evaluates
    obtain ⟨ts, passes, yielded⟩ := ih rfl after
    cases elements : (σ.outer o.word.name).items.mapM Value.render with
    | error => rw [elements] at first; cases first
    | ok texts =>
      rw [elements] at first
      refine ⟨unroll body.tokens texts.length 0 texts ++ ts, ?_, ?_⟩
      · have shape : (Forest.loop o body c f).tokens =
            .tag (.eachOpen o.word.name) (braced (o.inner ['#', 'e', 'a', 'c', 'h'])) ::
              (body.tokens ++ .tag .eachClose (braced (c.inner ['/', 'e', 'a', 'c', 'h'])) ::
                f.tokens) := by
          simp [tokens]
        rw [shape, loops_block σ.bindings elements, passes]
        rfl
      · have repeated : yields σ (unroll body.tokens texts.length 0 texts) = .ok x := by
          rw [yields_unroll]
          exact first
        rw [yields_append, repeated, yielded]
        rfl

end Forest

/-! ### The three passes -/

namespace Yield

theorem concat_cons (x : Yield) (xs : List Yield) : concat (x :: xs) = x ++ concat xs := rfl

/-- The text and the missing names of substitutes, as compiling takes them. -/
theorem concat_ofSubstitute (parts : List Token.Substitute) :
    concat (parts.map ofSubstitute) =
      { text := parts.flatMap fun
          | .text cs => cs
          | .missing _ => []
        missing := parts.filterMap fun
          | .missing name => some name
          | .text _ => none } := by
  induction parts with
  | nil => rfl
  | cons part parts ih =>
    rw [List.map_cons, concat_cons, ih]
    cases part <;> rfl

end Yield

theorem isEmpty_eraseDups (names : List String) : names.eraseDups.isEmpty = names.isEmpty := by
  cases names with
  | nil => rfl
  | cons name names => simp [List.eraseDups_cons]

/-- After the first two passes, what is left yields the result of expanding. -/
theorem expand_of_yields {σ : Scope} {ts kept unrolled : List Token} {y : Yield}
    (first : Token.conditionals σ.bindings ts = .ok kept)
    (second : Token.loops σ.bindings kept = .ok unrolled)
    (third : Forest.yields σ unrolled = .ok y) :
    (expand σ.options σ.bindings σ.declared? ts).map String.ofList = y.result := by
  unfold Forest.yields at third
  cases last : unrolled.mapM (Token.substitute σ.options σ.bindings σ.declared?) with
  | error => rw [last] at third; cases third
  | ok parts =>
    rw [last] at third
    have passes : (Token.conditionals σ.bindings ts >>= Token.loops σ.bindings >>=
        (·.mapM (Token.substitute σ.options σ.bindings σ.declared?))) = .ok parts := by
      rw [first]
      change (Token.loops σ.bindings kept >>= _) = _
      rw [second]
      exact last
    have total : y = Yield.concat (parts.map .ofSubstitute) := (Except.ok.inj third).symm
    rw [Yield.concat_ofSubstitute] at total
    subst total
    unfold expand
    rw [passes]
    simp only [isEmpty_eraseDups, Yield.result]
    cases (parts.filterMap fun
        | .missing name => some name
        | .text _ => none).isEmpty with
    | true => rfl
    | false => rfl

/-- A well-nested template compiles to what it means: the text that it yields, or the names that
are missing. Nothing but the truth of conditions is asked for in loops without elements. -/
theorem compile_source {ifs loops : Bool} (f : Forest ifs loops) (t : Template)
    (o : CompileOptions) (b : Bindings) {y : Yield} (keeps : o.keepLayout = true)
    (plain : o.escape = false)
    (conditions : ∀ name ∈ f.conditions, ∃ holds, ((b name).getD .null).isTruthy = .ok holds)
    (evaluates : f.meaning ⟨b, t.declared?, o⟩ none = .ok y) :
    { t with body := String.ofList f.source }.compile o b = y.result := by
  let truth (name : String) : Bool := ((b name).getD .null).isTruthy.toOption.getD false
  have reads : Forest.HasTruth b truth (f.joined .empty).conditions := by
    rw [Forest.conditions_joined]
    intro name mem
    obtain ⟨holds, eq⟩ := conditions name mem
    simp only [truth, eq]
    rfl
  have meant : ((f.joined .empty).settled truth).meaning ⟨b, t.declared?, o⟩ none = .ok y := by
    rw [Forest.meaning_settled _ _ reads, Forest.meaning_joined, evaluates]
    exact Yield.both_nil _
  obtain ⟨unrolled, second, third⟩ := Forest.loops_tokens _ _ rfl meant
  have first := Forest.conditionals_tokens b (f.joined .empty) reads
  rw [← Forest.scan_source] at first
  have expanded := expand_of_yields (σ := ⟨b, t.declared?, o⟩) first second third
  have finish (cs : List Char) : o.finish cs = cs := by
    simp [CompileOptions.finish, keeps, plain]
  unfold Template.compile
  simp only [finish, Token.ofText, String.toList_ofList]
  exact expanded

/-- The start of a greeting. -/
def greetingStretch : Stretch := ⟨['H', 'i', ' '], by decide⟩

/-- A conditional around a loop, a loop around a conditional, and a property. -/
def sampleForest : Forest true true :=
  let closing : Closing := { Closing.plain with before := ⟨['\t'], rfl⟩ }
  let shown : Word := ⟨['o', 'n'], by decide, rfl⟩
  let elements : Word := ⟨['x', 's'], by decide, rfl⟩
  let user : Word := ⟨['u'], by decide, rfl⟩
  let name : Word := ⟨['n'], by decide, rfl⟩
  .text greetingStretch <|
  .conditional (.plain shown)
    (.loop (.plain elements) (.item .this <| .item .index .nil) closing .nil) closing <|
  .loop (.plain elements)
    (.conditional (.plain shown) (.item .last .nil) closing .nil) closing <|
  .reference { word := user, property := some name, free := by simp } .nil

/-- What the names of `sampleForest` are bound to. -/
def sampleBindings : Bindings :=
  .ofFields [("on", .bool true), ("xs", .list [.text "a", .text "b"]),
    ("u", .object [("n", .text "Eve")])]

/-- A template of the text of `sampleForest`. -/
def sampleTemplate : Template where
  id := "greeting"
  name := "Greeting"
  category := "test"
  body := String.ofList sampleForest.source
  createdAt := ⟨0, none⟩
  updatedAt := ⟨0, none⟩

theorem compile_source_sampleForest :
    sampleTemplate.compile { keepLayout := true, escape := false } sampleBindings =
      .ok "Hi a0b1falsetrueEve" := by
  have truths : ∀ name ∈ sampleForest.conditions,
      ∃ holds, ((sampleBindings name).getD .null).isTruthy = .ok holds := by
    intro name mem
    have same : name = "on" := by
      simpa [sampleForest, Forest.conditions, Opening.plain, Word.name] using mem
    subst same
    exact ⟨true, rfl⟩
  have yields : sampleForest.meaning
      ⟨sampleBindings, sampleTemplate.declared?, { keepLayout := true, escape := false }⟩ none =
      .ok { text := "Hi a0b1falsetrueEve".toList } := rfl
  exact compile_source sampleForest sampleTemplate _ sampleBindings rfl rfl truths yields

end Promptuary
