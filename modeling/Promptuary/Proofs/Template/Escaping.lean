import Promptuary.Proofs.Outcome
import Promptuary.Proofs.Template.Passes
import Promptuary.Proofs.Text.Markup

/-!
Compiling with escaped markup. Main statement: what compiling gives then has no sign of markup other
than the ampersands of entities, and tells what compiling gives with the markup as it is; and it is
the same whether the layout or the markup is seen to first.
-/

namespace Promptuary

open Token

/-- A text with its markup escaped, where the options say so, before its layout is put in order. -/
def CompileOptions.finishMarkupFirst (o : CompileOptions) (cs : List Char) : List Char :=
  let cs := if o.escape then Text.escapeMarkup cs else cs
  if o.keepLayout then cs else Text.tidy cs

/-- Compiling that sees to the markup before the layout. -/
def Template.compileMarkupFirst (o : CompileOptions) (t : Template) (b : Bindings) :
    Except CompileError String :=
  (expand o b t.declared? (ofText t.body)).map fun cs => String.ofList (o.finishMarkupFirst cs)

/-- The options with markup left as it is. -/
def CompileOptions.raw (o : CompileOptions) : CompileOptions := { o with escape := false }

variable {o : CompileOptions} {t : Template} {b : Bindings} {out : String}

theorem finishMarkupFirst_eq (o : CompileOptions) (cs : List Char) :
    o.finishMarkupFirst cs = o.finish cs := by
  unfold CompileOptions.finishMarkupFirst CompileOptions.finish
  cases o.keepLayout with
  | true => rfl
  | false =>
    cases o.escape with
    | true =>
      simp only [if_true, Bool.false_eq_true, if_false]
      exact Text.tidy_escapeMarkup cs
    | false => simp only [Bool.false_eq_true, if_false]

/-- Tags become the same, whatever is done with markup. -/
theorem expand_raw (o : CompileOptions) (b : Bindings) (declared : String → Option Variable)
    (ts : List Token) : expand o.raw b declared ts = expand o b declared ts := by
  have same : substitute o.raw b declared = substitute o b declared := by
    funext t
    unfold substitute
    rfl
  unfold expand
  rw [same]

/-- Compiling with escaped markup escapes the text that compiling gives otherwise. -/
theorem compile_escaped (escapes : o.escape = true) (t : Template) (b : Bindings) :
    t.compile o b =
      (t.compile o.raw b).map fun plain => String.ofList (Text.escapeMarkup plain.toList) := by
  have finishes : ∀ cs, o.finish cs = Text.escapeMarkup (o.raw.finish cs) := fun cs => by
    rw [CompileOptions.finish, escapes]
    rfl
  unfold Template.compile
  rw [expand_raw]
  cases expand o b t.declared? (ofText t.body) with
  | error e => rfl
  | ok cs =>
    change Except.ok (String.ofList (o.finish cs)) = _
    rw [finishes]
    simp [Except.map]

theorem exists_raw (escapes : o.escape = true) (compiled : t.compile o b = .ok out) :
    ∃ plain, t.compile o.raw b = .ok plain ∧ out.toList = Text.escapeMarkup plain.toList := by
  rw [compile_escaped escapes] at compiled
  obtain ⟨plain, gives, rfl⟩ := Outcome.exists_of_map_eq_ok compiled
  exact ⟨plain, gives, String.toList_ofList⟩

/-- Escaped markup does no harm and loses nothing. If compiling with escaped markup gives a text, no
sign of markup is left in it but the ampersands of entities; reading the entities gives the text of
compiling with the markup as it is, and so equal texts come of equal texts; and seeing to the markup
before the layout gives the text as well. -/
theorem escaping_keeps_text (escapes : o.escape = true) (compiled : t.compile o b = .ok out) :
    Text.Harmless out.toList ∧
      (∃ plain, t.compile { o with escape := false } b = .ok plain ∧
        Text.unescapeMarkup out.toList = plain.toList ∧
        ∀ (o' : CompileOptions) (t' : Template) (b' : Bindings), o'.escape = true →
          t'.compile o' b' = .ok out →
            t'.compile { o' with escape := false } b' = .ok plain) ∧
      t.compileMarkupFirst o b = .ok out := by
  obtain ⟨plain, raw, text⟩ := exists_raw escapes compiled
  have reads : Text.unescapeMarkup out.toList = plain.toList := by
    rw [text, Text.unescapeMarkup_escapeMarkup]
  refine ⟨text ▸ Text.harmless_escapeMarkup _, ⟨plain, raw, reads, ?_⟩, ?_⟩
  · intro o' t' b' escapes' compiled'
    obtain ⟨plain', raw', text'⟩ := exists_raw escapes' compiled'
    have same : plain'.toList = plain.toList := by
      rw [← reads, text', Text.unescapeMarkup_escapeMarkup]
    rw [← String.toList_inj.1 same]
    exact raw'
  · unfold Template.compileMarkupFirst
    simp only [finishMarkupFirst_eq]
    exact compiled

/-- A template with an entity of its own after a reference. -/
def quotingTemplate : Template :=
  { sampleTemplate with body := "Say  \x7b\x7btext\x7d\x7d \t&lt;" }

/-- A text with markup. -/
def markedBindings : Bindings := .ofFields [("text", .text "<b>hi</b> & 'bye'")]

theorem escaping_keeps_text_quotingTemplate :
    ∃ out, quotingTemplate.compile {} markedBindings = .ok out ∧
      out = "Say &lt;b&gt;hi&lt;/b&gt; &amp; &#x27;bye&#x27; &amp;lt;" ∧
      Text.Harmless out.toList ∧
      ∃ plain, quotingTemplate.compile { escape := false } markedBindings = .ok plain ∧
        Text.unescapeMarkup out.toList = plain.toList := by
  have tokens : ofText quotingTemplate.body =
      [.text "Say  ".toList, .tag (.variable "text" none) "\x7b\x7btext\x7d\x7d".toList,
        .text " \t&lt;".toList] := by
    decide +kernel
  have blocks : (conditionals markedBindings (ofText quotingTemplate.body) >>=
      loops markedBindings) = .ok (ofText quotingTemplate.body) := by
    rw [tokens]
    simp [conditionals, loops, bind, Except.bind, pure, Except.pure]
  have compiled : quotingTemplate.compile {} markedBindings =
      .ok "Say &lt;b&gt;hi&lt;/b&gt; &amp; &#x27;bye&#x27; &amp;lt;" := by
    unfold Template.compile expand
    rw [blocks, tokens]
    rfl
  obtain ⟨harmless, ⟨plain, raw, reads, -⟩, -⟩ := escaping_keeps_text rfl compiled
  exact ⟨_, compiled, rfl, harmless, plain, raw, reads⟩

end Promptuary
