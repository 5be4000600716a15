import Promptuary.Proofs.Distinct
import Promptuary.Proofs.Template.Evaluation
import Promptuary.Proofs.Text.Layout

/-!
Defaults of variables that are left out. A variable's tag does not tell a name that is left out from
one that is bound to its declared default, but conditionals and loops do not know defaults: leaving
a name out makes its conditions false and its loops empty. Main statement: leaving out is the same
as binding just where the default does so as well (`default_stands_in`).
-/

namespace Promptuary

open Token

/-! ### Declarations -/

namespace Template

variable {t : Template} {v : Variable}

/-- Among declarations of different names each one is found by its name. -/
theorem declared?_of_mem (distinct : (t.declarations.map (·.name)).Nodup)
    (declared : v ∈ t.declarations) : t.declared? v.name = some v :=
  Distinct.find?_of_nodup distinct declared

/-- Whether a conditional of a template asks for a name. -/
def AsksFor (t : Template) (name : String) : Prop :=
  ∃ source, .tag (.ifOpen name) source ∈ ofText t.body

/-- Whether a loop of a template goes through a name. -/
def GoesThrough (t : Template) (name : String) : Prop :=
  ∃ source, .tag (.eachOpen name) source ∈ ofText t.body

end Template

section

variable {o : CompileOptions} {b b' : Bindings} {declared : String → Option Variable}
  {ts : List Token}

/-- A variable's tag reads the declared default where its name is not bound. -/
theorem resolve_bind {v : Variable} {d : Datum} (known : declared v.name = some v)
    (default : v.default = some d) (unbound : b v.name = none) (name : String) :
    resolve (b.bind v.name (.of d)) declared name = resolve b declared name := by
  by_cases here : name = v.name
  · subst here
    simp [resolve, unbound, known, default]
  · simp only [resolve, Bindings.bind_of_ne here]

/-- Bindings that neither the blocks nor the variables of a template tell apart give one result. -/
theorem expand_congr (blocks : (conditionals b ts >>= loops b) = (conditionals b' ts >>= loops b'))
    (values : ∀ name, resolve b declared name = resolve b' declared name) :
    expand o b declared ts = expand o b' declared ts :=
  expand_congr_on blocks fun name _ _ _ => values name

/-- A template whose blocks leave nothing but text is that text. -/
theorem expand_texts {css : List (List Char)}
    (blocks : (conditionals b ts >>= loops b) = .ok (css.map .text)) :
    expand o b declared ts = .ok css.flatten := by
  rw [expand_of_plain blocks (by simp), List.flatMap_map]
  exact congrArg Except.ok List.flatMap_id'

/-- Loops leave text as it is. -/
theorem loops_texts (css : List (List Char)) : loops b (css.map .text) = .ok (css.map .text) := by
  induction css with
  | nil => rw [List.map_nil, loops]
  | cons cs css ih =>
    rw [List.map_cons, Forest.loops_cons b (by simp) (by simp), ih]
    rfl

/-- A stretch of text is repeated for each element. -/
theorem unroll_text (cs : List Char) (count position : Nat) (elements : List String) :
    unroll [.text cs] count position elements =
      (List.replicate elements.length cs).map .text := by
  induction elements generalizing position with
  | nil => rfl
  | cons element elements ih =>
    rw [unroll, ih, List.length_cons, List.replicate_succ]
    rfl

end

/-! ### The smallest blocks -/

/-- A text of some letters does not vanish, whatever becomes of layout and markup. -/
theorem finish_letters_ne (o : CompileOptions) {n : Nat} (some : n ≠ 0) :
    o.finish (List.replicate n 'x') ≠ o.finish [] := by
  have solid : ∀ c ∈ List.replicate n 'x', Text.isBlank c = false := by
    intro c mem
    rw [List.eq_of_mem_replicate mem]
    decide
  have none : o.finish [] = [] := by
    unfold CompileOptions.finish
    cases o.keepLayout <;> cases o.escape <;> rfl
  have first : ∃ m, List.replicate n 'x' = 'x' :: List.replicate m 'x' :=
    ⟨n - 1, by rw [← List.replicate_succ, Nat.sub_add_cancel (Nat.pos_of_ne_zero some)]⟩
  obtain ⟨m, letters⟩ := first
  rw [none, CompileOptions.finish, Text.tidy_eq_self solid, ite_self, letters]
  cases o.escape with
  | false => exact List.cons_ne_nil _ _
  | true =>
    rw [if_pos rfl, Text.escapeMarkup_cons]
    exact List.cons_ne_nil _ _

namespace Forest

/-- One letter of text. -/
def letter {ifs loops : Bool} : Forest ifs loops := .text ⟨['x'], by decide⟩ .nil

/-- A letter that stands under a condition. -/
def letterIf (w : Word) : Forest true false :=
  .conditional (.plain w) letter Closing.plain .nil

/-- A letter that is repeated. -/
def letterEach (w : Word) : Forest false true :=
  .loop (.plain w) letter Closing.plain .nil

theorem scan_letterIf (w : Word) : ∃ opening closing, scan (letterIf w).source =
    [.tag (.ifOpen w.name) opening, .text ['x'], .tag .ifClose closing] := by
  rw [scan_source]
  exact ⟨_, _, rfl⟩

theorem scan_letterEach (w : Word) : ∃ opening closing, scan (letterEach w).source =
    [.tag (.eachOpen w.name) opening, .text ['x'], .tag .eachClose closing] := by
  rw [scan_source]
  exact ⟨_, _, rfl⟩

end Forest

/-- Compiling a letter under a condition. -/
theorem compile_letterIf (t : Template) (o : CompileOptions) (b : Bindings) (w : Word) :
    { t with body := String.ofList (Forest.letterIf w).source }.compile o b =
      (((b w.name).getD .null).isTruthy.mapError .evaluation).map fun holds =>
        String.ofList (o.finish (List.replicate (if holds then 1 else 0) 'x')) := by
  obtain ⟨opening, closing, tokens⟩ := Forest.scan_letterIf w
  have split : splitAtTag .ifClose [.text ['x'], .tag .ifClose closing] =
      some ([.text ['x']], []) := by
    simp [splitAtTag]
  have first : conditionals b (.tag (.ifOpen w.name) opening :: _) = _ :=
    conditionals_closed split
  unfold Template.compile
  rw [ofText, String.toList_ofList, tokens]
  cases truth : ((b w.name).getD .null).isTruthy with
  | error e =>
    rw [truth] at first
    unfold expand
    rw [first]
    rfl
  | ok holds =>
    have kept : conditionals b [.tag (.ifOpen w.name) opening, .text ['x'],
        .tag .ifClose closing] = .ok ((if holds then [['x']] else []).map .text) := by
      rw [first, truth, conditionals]
      cases holds <;> rfl
    have blocks := congrArg (· >>= loops b) kept
    rw [Outcome.ok_bind, loops_texts] at blocks
    rw [expand_texts blocks]
    cases holds <;> rfl

/-- Compiling a letter that is repeated. -/
theorem compile_letterEach (t : Template) (o : CompileOptions) (b : Bindings) (w : Word) :
    { t with body := String.ofList (Forest.letterEach w).source }.compile o b =
      ((((b w.name).getD .null).items.mapM Value.render).mapError .evaluation).map fun elements =>
        String.ofList (o.finish (List.replicate elements.length 'x')) := by
  obtain ⟨opening, closing, tokens⟩ := Forest.scan_letterEach w
  have split : splitAtTag .eachClose [.text ['x'], .tag .eachClose closing] =
      some ([.text ['x']], []) := by
    simp [splitAtTag]
  have first : conditionals b [.tag (.eachOpen w.name) opening, .text ['x'],
      .tag .eachClose closing] = .ok [.tag (.eachOpen w.name) opening, .text ['x'],
      .tag .eachClose closing] := by
    simp [Forest.conditionals_cons, conditionals, Except.map]
  have second : loops b (.tag (.eachOpen w.name) opening :: _) = _ := loops_closed split
  unfold Template.compile
  rw [ofText, String.toList_ofList, tokens]
  cases rendered : ((b w.name).getD .null).items.mapM Value.render with
  | error e =>
    unfold expand
    rw [first, Outcome.ok_bind, second, rendered]
    rfl
  | ok elements =>
    have blocks : (conditionals b [.tag (.eachOpen w.name) opening, .text ['x'],
        .tag .eachClose closing] >>= loops b) =
          .ok ((List.replicate elements.length ['x']).map .text) := by
      rw [first, Outcome.ok_bind, second, rendered, loops, ← unroll_text ['x'] elements.length 0]
      exact congrArg Except.ok (List.append_nil _)
    rw [expand_texts blocks, List.flatten_replicate_singleton]
    rfl

theorem not_goesThrough_letterIf (t : Template) (w : Word) (name : String) :
    ¬ { t with body := String.ofList (Forest.letterIf w).source }.GoesThrough name := by
  rintro ⟨source, mem⟩
  obtain ⟨opening, closing, tokens⟩ := Forest.scan_letterIf w
  rw [ofText, String.toList_ofList, tokens] at mem
  simp at mem

theorem not_asksFor_letterEach (t : Template) (w : Word) (name : String) :
    ¬ { t with body := String.ofList (Forest.letterEach w).source }.AsksFor name := by
  rintro ⟨source, mem⟩
  obtain ⟨opening, closing, tokens⟩ := Forest.scan_letterEach w
  rw [ofText, String.toList_ofList, tokens] at mem
  simp at mem

/-! ### Leaving out and binding -/

/-- Whatever a template and the options are, leaving a declared name out gives the same result as
binding it to its default, unless a conditional asks for the name and the default is true or has no
truth, or a loop goes through the name and the default has items. Where the name can stand in a tag
these are all exceptions: a conditional tells any other truth from that of a name that is left out,
and a loop any item from none. -/
theorem default_stands_in {t : Template} {v : Variable} {d : Datum} {b : Bindings}
    (o : CompileOptions) (distinct : (t.declarations.map (·.name)).Nodup)
    (declared : v ∈ t.declarations) (default : v.default = some d) (unbound : b v.name = none) :
    ((t.AsksFor v.name → (Value.of d).isTruthy = .ok false) →
      (t.GoesThrough v.name → (Value.of d).items = []) →
        t.compile o (b.bind v.name (.of d)) = t.compile o b) ∧
      ∀ w : Word, w.name = v.name →
        ((Value.of d).isTruthy ≠ .ok false → ∃ body, ¬ { t with body }.GoesThrough v.name ∧
          { t with body }.compile o (b.bind v.name (.of d)) ≠ { t with body }.compile o b) ∧
        ((Value.of d).items ≠ [] → ∃ body, ¬ { t with body }.AsksFor v.name ∧
          { t with body }.compile o (b.bind v.name (.of d)) ≠ { t with body }.compile o b) := by
  have known := Template.declared?_of_mem distinct declared
  refine ⟨fun falsy empty => ?_, fun w named => ⟨fun counts => ?_, fun counts => ?_⟩⟩
  · have blocks : (conditionals (b.bind v.name (.of d)) (ofText t.body) >>=
        loops (b.bind v.name (.of d))) = (conditionals b (ofText t.body) >>= loops b) := by
      refine blocks_congr (fun name source mem => ?_) fun name source mem => ?_
      · by_cases here : name = v.name
        · subst here
          rw [Bindings.bind_self, unbound, Option.getD_some, falsy ⟨source, mem⟩]
          rfl
        · rw [Bindings.bind_of_ne here]
      · by_cases here : name = v.name
        · subst here
          rw [Bindings.bind_self, unbound, Option.getD_some, empty ⟨source, mem⟩]
          rfl
        · rw [Bindings.bind_of_ne here]
    unfold Template.compile
    rw [expand_congr blocks (resolve_bind known default unbound)]
  · refine ⟨_, not_goesThrough_letterIf t w v.name, ?_⟩
    rw [compile_letterIf, compile_letterIf, named, Bindings.bind_self, unbound]
    rw [Option.getD_some]
    cases truth : (Value.of d).isTruthy with
    | error => exact nofun
    | ok holds =>
      cases holds with
      | false => exact absurd truth counts
      | true =>
        intro same
        exact finish_letters_ne o Nat.one_ne_zero (String.ofList_injective (Except.ok.inj same))
  · refine ⟨_, not_asksFor_letterEach t w v.name, ?_⟩
    rw [compile_letterEach, compile_letterEach, named, Bindings.bind_self, unbound]
    rw [Option.getD_some]
    cases rendered : (Value.of d).items.mapM Value.render with
    | error => exact nofun
    | ok elements =>
      have some : elements.length ≠ 0 := by
        rw [Outcome.length_of_mapM rendered]
        exact fun none => counts (List.eq_nil_of_length_eq_zero none)
      intro same
      exact finish_letters_ne o some (String.ofList_injective (Except.ok.inj same))

/-- A variable that is true unless it is bound. -/
def vip : Variable where
  name := "vip"
  type := .boolean
  required := false
  default := some (.bool true)

/-- The name of `vip` as a word. -/
def vipWord : Word := ⟨['v', 'i', 'p'], by decide, rfl⟩

/-- A text in which `vip` is shown. -/
def shownForest : Forest false false :=
  .text ⟨['V', 'I', 'P', ':', ' '], by decide⟩ <|
    .reference { word := vipWord, free := by decide } .nil

/-- A template that declares `vip` and shows it. -/
def vipTemplate : Template :=
  { sampleTemplate with body := String.ofList shownForest.source, declarations := [vip] }

theorem default_stands_in_vipTemplate :
    vipTemplate.compile {} (Bindings.bind (fun _ => none) "vip" (.boolean true)) =
        vipTemplate.compile {} (fun _ => none) ∧
      ∃ body, { vipTemplate with body }.compile {}
          (Bindings.bind (fun _ => none) "vip" (.boolean true)) ≠
        { vipTemplate with body }.compile {} (fun _ => none) := by
  have tokens : ofText vipTemplate.body =
      [.text ['V', 'I', 'P', ':', ' '], .tag (.variable "vip" none) (braced ['v', 'i', 'p'])] := by
    rw [ofText, vipTemplate, String.toList_ofList, Forest.scan_source]
    rfl
  have distinct : (vipTemplate.declarations.map (·.name)).Nodup := by decide
  obtain ⟨same, exceptions⟩ := default_stands_in (t := vipTemplate) (v := vip) (b := fun _ => none)
    {} distinct List.mem_cons_self rfl rfl
  refine ⟨same ?_ ?_, ?_⟩
  · rintro ⟨source, mem⟩
    simp [tokens] at mem
  · exact fun _ => rfl
  · have counts : (Value.of (.bool true)).isTruthy ≠ .ok false := by
      intro same
      cases same
    obtain ⟨body, -, differs⟩ := (exceptions vipWord rfl).1 counts
    exact ⟨body, differs⟩

end Promptuary
