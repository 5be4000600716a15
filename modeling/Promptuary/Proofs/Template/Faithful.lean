import Promptuary.Proofs.Template.Lenient

/-!
Nothing in a template is lost. Scanning cuts a text into whole tags and the stretches between them
(`scans_iff`), the first two passes leave no tag of a block, whatever is malformed, and a template
in which there is nothing to evaluate compiles to its own text. Main statement:
`scanning_loses_nothing`.
-/

namespace Promptuary

/-- Whether a tag opens or closes a conditional. -/
def Tag.isConditional : Tag → Bool
  | .ifOpen _ | .ifClose => true
  | _ => false

/-- Whether a tag opens or closes a loop. -/
def Tag.isLoop : Tag → Bool
  | .eachOpen _ | .eachClose => true
  | _ => false

theorem Tag.isConditional_eq_false {tag : Tag} (opens : ∀ name, tag ≠ .ifOpen name)
    (closes : tag ≠ .ifClose) : tag.isConditional = false := by
  unfold isConditional
  split
  · exact absurd rfl (opens _)
  · exact absurd rfl closes
  · rfl

theorem Tag.isLoop_eq_false {tag : Tag} (opens : ∀ name, tag ≠ .eachOpen name)
    (closes : tag ≠ .eachClose) : tag.isLoop = false := by
  unfold isLoop
  split
  · exact absurd rfl (opens _)
  · exact absurd rfl closes
  · rfl

namespace Token

variable {a c d : Char} {cs before after rest inner : List Char} {ts : List Token} {b : Bindings}

/-! ### First pairs -/

/-- A text behind which a pair of a character is the first such pair. -/
structure Unpaired (c : Char) (cs : List Char) : Prop where
  within : ¬ [c, c] <:+: cs
  last : cs.getLast? ≠ some c

theorem unpaired_nil : Unpaired c [] := ⟨by simp, by simp⟩

theorem unpaired_singleton : Unpaired c [d] ↔ d ≠ c := by
  constructor
  · rintro ⟨-, last⟩ rfl
    exact last rfl
  · intro other
    exact ⟨by simp [List.infix_cons_iff], by simpa using other⟩

theorem unpaired_cons_cons :
    Unpaired c (d :: a :: cs) ↔ ¬ (d = c ∧ a = c) ∧ Unpaired c (a :: cs) := by
  constructor
  · rintro ⟨within, last⟩
    rw [List.infix_cons_iff, not_or] at within
    refine ⟨?_, within.2, by simpa using last⟩
    rintro ⟨rfl, rfl⟩
    exact within.1 ⟨cs, rfl⟩
  · rintro ⟨apart, within, last⟩
    refine ⟨?_, by simpa using last⟩
    rw [List.infix_cons_iff, not_or]
    refine ⟨?_, within⟩
    rintro ⟨rest, same⟩
    cases same
    exact apart ⟨rfl, rfl⟩

theorem splitAtPair_of_unpaired (unpaired : Unpaired c before) :
    splitAtPair c (before ++ c :: c :: after) = some (before, after) := by
  induction before with
  | nil => simp [splitAtPair]
  | cons d before ih =>
    cases before with
    | nil =>
      rw [unpaired_singleton] at unpaired
      simp [splitAtPair, unpaired]
    | cons a before =>
      rw [unpaired_cons_cons] at unpaired
      have later := ih unpaired.2
      simp only [List.cons_append] at later ⊢
      rw [splitAtPair, later]
      simp [unpaired.1]

theorem unpaired_of_splitAtPair (split : splitAtPair c cs = some (before, after)) :
    Unpaired c before := by
  induction cs using splitAtPair.induct (c := c) generalizing before with
  | case1 a d rest here =>
    rw [splitAtPair, if_pos here] at split
    cases split
    exact unpaired_nil
  | case2 a d rest apart ih =>
    rw [splitAtPair, if_neg apart] at split
    obtain ⟨⟨x, y⟩, later, same⟩ := Option.map_eq_some_iff.1 split
    cases same
    rw [Bool.and_eq_true, decide_eq_true_iff, decide_eq_true_iff] at apart
    have shape := eq_of_splitAtPair later
    cases x with
    | nil =>
      obtain ⟨rfl, -⟩ := List.cons.inj shape
      exact unpaired_singleton.2 fun same => apart ⟨same, rfl⟩
    | cons e x =>
      obtain ⟨rfl, -⟩ := List.cons.inj shape
      exact unpaired_cons_cons.2 ⟨apart, ih later⟩
  | case3 cs short =>
    rw [splitAtPair.eq_def] at split
    split at split
    · next a d rest => exact absurd rfl (short a d rest)
    · cases split

/-- A text is split before the first pair. -/
theorem splitAtPair_eq_some : splitAtPair c cs = some (before, after) ↔
    cs = before ++ c :: c :: after ∧ Unpaired c before := by
  constructor
  · intro split
    exact ⟨eq_of_splitAtPair split, unpaired_of_splitAtPair split⟩
  · rintro ⟨rfl, unpaired⟩
    exact splitAtPair_of_unpaired unpaired

/-- A text with a pair is split, and what follows the pair is left behind the split. -/
theorem exists_splitAtPair (c : Char) (cs rest : List Char) :
    ∃ before after, splitAtPair c (cs ++ c :: c :: rest) = some (before, after) ∧
      rest <:+ after := by
  induction cs with
  | nil => exact ⟨[], rest, by simp [splitAtPair], List.suffix_rfl⟩
  | cons d cs ih =>
    obtain ⟨before, after, split, suffix⟩ := ih
    obtain ⟨e, others, shape⟩ := List.exists_cons_of_ne_nil (by simp : cs ++ c :: c :: rest ≠ [])
    rw [List.cons_append, shape, splitAtPair]
    by_cases here : (d = c && e = c) = true
    · refine ⟨[], others, if_pos here, ?_⟩
      cases cs with
      | nil =>
        obtain ⟨-, rfl⟩ := List.cons.inj shape
        exact List.suffix_cons c rest
      | cons f cs =>
        obtain ⟨-, rfl⟩ := List.cons.inj shape
        exact ⟨cs ++ [c, c], by simp⟩
    · rw [shape] at split
      exact ⟨d :: before, after, by rw [if_neg here, split]; rfl, suffix⟩

/-! ### Scanning -/

/-- How a text is cut into tokens. A tag has the first pair of braces that opens one and the first
pair behind it that closes one; where no tag is left, there is a last stretch. -/
inductive Scans : List Char → List Token → Prop where
  | last {cs : List Char} : (∀ before inner after, cs ≠ before ++ (braced inner ++ after)) →
      Scans cs (ofStretch cs)
  | tag {before inner after : List Char} {ts : List Token} :
      Unpaired '\x7b' before → Unpaired '\x7d' inner → Scans after ts →
      Scans (before ++ (braced inner ++ after)) (ofStretch before ++ ofInner inner :: ts)

/-- Scanning cuts a text as it should be cut. -/
theorem scans_scan (cs : List Char) : Scans cs (scan cs) := by
  induction cs using scan.induct with
  | case1 cs whole =>
    rw [scan_whole whole]
    refine .last fun before inner after shape => ?_
    obtain ⟨_, _, split, -⟩ := exists_splitAtPair '\x7b' before (inner ++ '\x7d' :: '\x7d' :: after)
    rw [shape, append_braced] at whole
    cases whole.symm.trans split
  | case2 cs first rest opens unclosed =>
    rw [scan_unclosed opens unclosed]
    refine .last fun before inner after shape => ?_
    -- Whatever pair of opening braces comes first, the closing ones stand behind it.
    obtain ⟨_, others, split, front, suffix⟩ :=
      exists_splitAtPair '\x7b' before (inner ++ '\x7d' :: '\x7d' :: after)
    rw [shape, append_braced] at opens
    cases opens.symm.trans split
    rw [← List.append_assoc] at suffix
    obtain ⟨_, _, closed, -⟩ := exists_splitAtPair '\x7d' (front ++ inner) after
    rw [suffix] at closed
    cases unclosed.symm.trans closed
  | case3 cs before rest opens inner after closes ih =>
    rw [scan_tag opens closes]
    obtain ⟨rfl, unpaired⟩ := splitAtPair_eq_some.1 opens
    obtain ⟨rfl, unpaired'⟩ := splitAtPair_eq_some.1 closes
    rw [← append_braced]
    exact .tag unpaired unpaired' ih

/-- A text can be cut in one way only. -/
theorem Scans.eq_scan (scans : Scans cs ts) : scan cs = ts := by
  induction scans with
  | @last cs none =>
    cases opens : splitAtPair '\x7b' cs with
    | none => exact scan_whole opens
    | some parts =>
      obtain ⟨before, rest⟩ := parts
      cases closes : splitAtPair '\x7d' rest with
      | none => exact scan_unclosed opens closes
      | some parts =>
        obtain ⟨inner, after⟩ := parts
        refine absurd ?_ (none before inner after)
        rw [append_braced, ← eq_of_splitAtPair closes, ← eq_of_splitAtPair opens]
  | tag unpaired unpaired' _ ih =>
    rw [append_braced, scan_tag (splitAtPair_of_unpaired unpaired)
      (splitAtPair_of_unpaired unpaired'), ih]

theorem scans_iff : Scans cs ts ↔ scan cs = ts := by
  constructor
  · exact Scans.eq_scan
  · rintro rfl
    exact scans_scan cs

theorem source_ofInner (inner : List Char) : (ofInner inner).source = braced inner := by
  unfold ofInner
  split <;> rfl

theorem flatMap_source_ofStretch (cs : List Char) : (ofStretch cs).flatMap source = cs := by
  cases cs <;> simp [ofStretch, source]

/-- The sources of the tokens of a text are the text. -/
theorem Scans.flatMap_source (scans : Scans cs ts) : ts.flatMap source = cs := by
  induction scans with
  | last => exact flatMap_source_ofStretch _
  | tag _ _ _ ih =>
    rw [List.flatMap_append, List.flatMap_cons, flatMap_source_ofStretch, source_ofInner, ih]

/-! ### What the first two passes leave -/

/-- A token that belongs to no block. -/
inductive Loose : Token → Prop where
  | text (source : List Char) : Loose (.text source)
  | variable (name : String) (property : Option String) (source : List Char) :
      Loose (.tag (.variable name property) source)
  | loopItem (item : LoopItem) (source : List Char) : Loose (.tag (.loopItem item) source)

theorem loose_of_tags {t : Token} (none : ∀ tag source, t = .tag tag source →
    tag.isConditional = false ∧ tag.isLoop = false) : Loose t := by
  match t, none with
  | .text source, _ => exact .text source
  | .tag (.variable name property) source, _ => exact .variable name property source
  | .tag (.loopItem item) source, _ => exact .loopItem item source
  | .tag (.ifOpen _) source, none => cases (none _ source rfl).1
  | .tag .ifClose source, none => cases (none _ source rfl).1
  | .tag (.eachOpen _) source, none => cases (none _ source rfl).2
  | .tag .eachClose source, none => cases (none _ source rfl).2

/-- What stands before the first tag of a kind is of other kinds. -/
theorem not_mem_of_splitAtTag {wanted : Tag} {before after : List Token} {source : List Char}
    (split : splitAtTag wanted ts = some (before, after)) : .tag wanted source ∉ before := by
  induction ts generalizing before with
  | nil => cases split
  | cons t ts ih =>
    have later (other : t ≠ .tag wanted source)
        (found : (splitAtTag wanted ts).map (fun p => (t :: p.1, p.2)) = some (before, after)) :
        .tag wanted source ∉ before := by
      obtain ⟨⟨x, y⟩, first, whole⟩ := Option.map_eq_some_iff.1 found
      cases whole
      rw [List.mem_cons, not_or]
      exact ⟨other.symm, ih first⟩
    cases t with
    | text cs => exact later nofun split
    | tag other cs =>
      rw [splitAtTag] at split
      split at split
      · cases split
        exact List.not_mem_nil
      · next differs =>
        refine later (fun same => differs ?_) split
        cases same
        rfl

/-- The first pass leaves no tag of a conditional. -/
theorem not_isConditional_of_conditionals {kept : List Token} {tag : Tag} {source : List Char}
    (ran : conditionals b ts = .ok kept) (mem : .tag tag source ∈ kept) :
    tag.isConditional = false := by
  induction ts using conditionals.induct generalizing kept with
  | case1 =>
    rw [conditionals] at ran
    cases ran
    cases mem
  | case2 name opening rest unclosed ih =>
    rw [conditionals_unclosed unclosed] at ran
    obtain ⟨kept, later, rfl⟩ := exists_of_map_append [.text opening] ran
    exact ih later (by simpa using mem)
  | case3 name opening rest body after split ih =>
    rw [conditionals_closed split] at ran
    obtain ⟨holds, -, ran⟩ := Outcome.exists_of_bind_eq_ok ran
    obtain ⟨kept, later, rfl⟩ := exists_of_map_append _ ran
    rcases List.mem_append.1 mem with inside | behind
    · cases holds with
      | false => cases inside
      | true =>
        obtain ⟨t, among, same⟩ := List.mem_map.1 inside
        unfold closeIf at same
        split at same
        · cases same
        · next opens =>
          subst same
          exact Tag.isConditional_eq_false (fun name same => opens name source (same ▸ rfl))
            fun same => not_mem_of_splitAtTag split (same ▸ among)
    · exact ih later behind
  | case4 closing rest ih =>
    rw [conditionals_stray] at ran
    obtain ⟨kept, later, rfl⟩ := exists_of_map_append [.text closing] ran
    exact ih later (by simpa using mem)
  | case5 t rest opens closes ih =>
    rw [Forest.conditionals_cons b opens closes] at ran
    obtain ⟨kept, later, rfl⟩ := exists_of_map_append [t] ran
    rcases List.mem_cons.1 mem with rfl | behind
    · exact Tag.isConditional_eq_false (fun name same => opens name source (same ▸ rfl))
        fun same => closes source (same ▸ rfl)
    · exact ih later behind

/-- The second pass leaves no tag of a loop. -/
theorem not_isLoop_of_loops {kept : List Token} {tag : Tag} {source : List Char}
    (ran : loops b ts = .ok kept) (mem : .tag tag source ∈ kept) : tag.isLoop = false := by
  induction ts using loops.induct generalizing kept with
  | case1 =>
    rw [loops] at ran
    cases ran
    cases mem
  | case2 name opening rest unclosed ih =>
    rw [loops_unclosed unclosed] at ran
    obtain ⟨kept, later, rfl⟩ := exists_of_map_append [.text opening] ran
    exact ih later (by simpa using mem)
  | case3 name opening rest body after split ih =>
    rw [loops_closed split] at ran
    obtain ⟨elements, -, ran⟩ := Outcome.exists_of_bind_eq_ok ran
    obtain ⟨kept, later, rfl⟩ := exists_of_map_append _ ran
    rcases List.mem_append.1 mem with inside | behind
    · obtain ⟨t, among, same⟩ := List.mem_map.1 (mem_of_unroll inside)
      unfold closeEach at same
      split at same
      · cases same
      · next opens =>
        subst same
        exact Tag.isLoop_eq_false (fun name same => opens name source (same ▸ rfl))
          fun same => not_mem_of_splitAtTag split (same ▸ among)
    · exact ih later behind
  | case4 closing rest ih =>
    rw [loops_stray] at ran
    obtain ⟨kept, later, rfl⟩ := exists_of_map_append [.text closing] ran
    exact ih later (by simpa using mem)
  | case5 t rest opens closes ih =>
    rw [Forest.loops_cons b opens closes] at ran
    obtain ⟨kept, later, rfl⟩ := exists_of_map_append [t] ran
    rcases List.mem_cons.1 mem with rfl | behind
    · exact Tag.isLoop_eq_false (fun name same => opens name source (same ▸ rfl))
        fun same => closes source (same ▸ rfl)
    · exact ih later behind

/-- What both passes leave belongs to no block. -/
theorem loose_of_blocks {kept : List Token} (ran : (conditionals b ts >>= loops b) = .ok kept)
    {t : Token} (mem : t ∈ kept) : Loose t := by
  obtain ⟨settled, first, second⟩ := Outcome.exists_of_bind_eq_ok ran
  refine loose_of_tags fun tag source same => ?_
  subst same
  exact ⟨not_isConditional_of_conditionals first (mem_of_loops second mem),
    not_isLoop_of_loops second mem⟩

/-- What the blocks of tokens ask for has an answer: each condition that the first pass meets a
truth, and each item of a loop that the second pass meets a text. -/
structure Answered (b : Bindings) (ts : List Token) : Prop where
  truths : ∀ name, Meets .ifOpen .ifClose name ts →
    ∃ holds, ((b name).getD .null).isTruthy = .ok holds
  texts : ∀ settled name, conditionals b ts = .ok settled →
    Meets .eachOpen .eachClose name settled →
      ∀ v ∈ ((b name).getD .null).items, ∃ text, v.render = .ok text

/-- Both passes succeed if all that they ask for has an answer. -/
theorem exists_blocks : (∃ kept, (conditionals b ts >>= loops b) = .ok kept) ↔ Answered b ts := by
  constructor
  · rintro ⟨kept, ran⟩
    obtain ⟨settled, first, second⟩ := Outcome.exists_of_bind_eq_ok ran
    refine ⟨exists_conditionals.1 ⟨settled, first⟩, fun other name first' meets v mem => ?_⟩
    obtain rfl := Except.ok.inj (first.symm.trans first')
    obtain ⟨elements, rendered⟩ := exists_loops.1 ⟨kept, second⟩ name meets
    obtain ⟨text, -, given⟩ := Outcome.exists_mem_of_mapM rendered mem
    exact ⟨text, given⟩
  · intro answered
    obtain ⟨settled, first⟩ := exists_conditionals.2 answered.truths
    obtain ⟨kept, second⟩ := exists_loops.2 fun name meets =>
      Outcome.mapM_ok (answered.texts settled name first meets)
    exact ⟨kept, by rw [first]; exact second⟩

/-! ### Templates with nothing to evaluate -/

/-- No opening tag of a kind of block has a closing one behind it. -/
def Unclosed (opening : String → Tag) (closing : Tag) (ts : List Token) : Prop :=
  ts.Pairwise fun t u => ∀ name source source',
    ¬ (t = .tag (opening name) source ∧ u = .tag closing source')

/-- Behind an opening tag that is not closed no closing tag is found. -/
theorem Unclosed.splitAtTag_eq_none {opening : String → Tag} {closing : Tag} {name : String}
    {source : List Char} (unclosed : Unclosed opening closing (.tag (opening name) source :: ts)) :
    splitAtTag closing ts = none := by
  cases split : splitAtTag closing ts with
  | none => rfl
  | some parts =>
    obtain ⟨source', rfl⟩ := eq_of_splitAtTag split
    obtain ⟨apart, -⟩ := List.pairwise_cons.1 unclosed
    exact absurd ⟨rfl, rfl⟩ (apart (.tag closing source') (by simp) name source source')

/-- Tokens in which there is nothing to evaluate: there are no variables, and no block is closed. -/
structure Inert (ts : List Token) : Prop where
  noVariable : ∀ name property source, .tag (.variable name property) source ∉ ts
  conditionals : Unclosed .ifOpen .ifClose ts
  loops : Unclosed .eachOpen .eachClose ts

/-- A token whose tag is of some kind as text, any other token as it is. -/
def plain (kind : Tag → Bool) : Token → Token
  | .tag meaning source => if kind meaning then .text source else .tag meaning source
  | .text source => .text source

@[simp] theorem source_plain (kind : Tag → Bool) (t : Token) :
    (plain kind t).source = t.source := by
  unfold plain
  split
  · split <;> rfl
  · rfl

theorem eq_of_plain_eq_tag {kind : Tag → Bool} {t : Token} {tag : Tag} {source : List Char}
    (left : plain kind t = .tag tag source) : t = .tag tag source := by
  unfold plain at left
  split at left
  · split at left
    · cases left
    · exact left
  · cases left

theorem plain_eq_self {kind : Tag → Bool} {t : Token}
    (other : ∀ tag source, t = .tag tag source → kind tag = false) : plain kind t = t := by
  unfold plain
  split
  · next meaning source => rw [other meaning source rfl, if_neg Bool.false_ne_true]
  · rfl

/-- Where no conditional is closed, the first pass makes text of its tags. -/
theorem conditionals_of_unclosed (unclosed : Unclosed .ifOpen .ifClose ts) :
    conditionals b ts = .ok (ts.map (plain Tag.isConditional)) := by
  induction ts using conditionals.induct with
  | case1 => rw [conditionals, List.map_nil]
  | case2 name source rest none ih =>
    rw [conditionals_unclosed none, ih unclosed.of_cons]
    simp [Except.map, plain, Tag.isConditional]
  | case3 name source rest body after split ih =>
    cases split.symm.trans unclosed.splitAtTag_eq_none
  | case4 source rest ih =>
    rw [conditionals_stray, ih unclosed.of_cons]
    simp [Except.map, plain, Tag.isConditional]
  | case5 t rest opens closes ih =>
    have same : plain Tag.isConditional t = t := plain_eq_self fun tag source same =>
      Tag.isConditional_eq_false (fun name same' => opens name source (same' ▸ same))
        fun same' => closes source (same' ▸ same)
    rw [Forest.conditionals_cons b opens closes, ih unclosed.of_cons, List.map_cons, same]
    rfl

/-- Where no loop is closed, the second pass makes text of its tags. -/
theorem loops_of_unclosed (unclosed : Unclosed .eachOpen .eachClose ts) :
    loops b ts = .ok (ts.map (plain Tag.isLoop)) := by
  induction ts using loops.induct with
  | case1 => rw [loops, List.map_nil]
  | case2 name source rest none ih =>
    rw [loops_unclosed none, ih unclosed.of_cons]
    simp [Except.map, plain, Tag.isLoop]
  | case3 name source rest body after split ih =>
    cases split.symm.trans unclosed.splitAtTag_eq_none
  | case4 source rest ih =>
    rw [loops_stray, ih unclosed.of_cons]
    simp [Except.map, plain, Tag.isLoop]
  | case5 t rest opens closes ih =>
    have same : plain Tag.isLoop t = t := plain_eq_self fun tag source same =>
      Tag.isLoop_eq_false (fun name same' => opens name source (same' ▸ same))
        fun same' => closes source (same' ▸ same)
    rw [Forest.loops_cons b opens closes, ih unclosed.of_cons, List.map_cons, same]
    rfl

/-- Where there is nothing to evaluate, both passes make text of the tags of blocks. -/
theorem Inert.blocks (inert : Inert ts) : (Token.conditionals b ts >>= Token.loops b) =
    .ok ((ts.map (plain Tag.isConditional)).map (plain Tag.isLoop)) := by
  rw [conditionals_of_unclosed inert.conditionals, Outcome.ok_bind]
  refine loops_of_unclosed (List.pairwise_map.2 (inert.loops.imp fun {t u} apart => ?_))
  rintro name source source' ⟨opens, closes⟩
  exact apart name source source' ⟨eq_of_plain_eq_tag opens, eq_of_plain_eq_tag closes⟩

end Token

open Token

/-- Tokens in which there is nothing to evaluate expand to their sources. -/
theorem Token.Inert.expand_eq {ts : List Token} (inert : Inert ts) (o : CompileOptions)
    (b : Bindings) (declared : String → Option Variable) :
    expand o b declared ts = .ok (ts.flatMap source) := by
  have plain : ∀ name property cs, .tag (.variable name property) cs ∉
      (ts.map (plain Tag.isConditional)).map (plain Tag.isLoop) := by
    intro name property cs mem
    obtain ⟨t, settled, left⟩ := List.mem_map.1 mem
    obtain ⟨u, among, rfl⟩ := List.mem_map.1 settled
    rw [eq_of_plain_eq_tag (eq_of_plain_eq_tag left)] at among
    exact inert.noVariable name property cs among
  rw [expand_of_plain inert.blocks plain]
  simp only [List.flatMap_map, source_plain]

/-- Nothing in a template is lost. A text is cut into tokens in the one way in which it should be,
and their sources together are the text. If all that its blocks ask for has an answer, then the
first two passes leave no tag of a block, however broken the blocks are. If there is nothing to
evaluate, compiling that keeps layout and markup gives the text back, whatever is bound. -/
theorem scanning_loses_nothing (s : String) :
    (∀ ts, Scans s.toList ts ↔ ofText s = ts) ∧
      (ofText s).flatMap source = s.toList ∧
      (∀ b, Answered b (ofText s) →
        ∃ kept, (conditionals b (ofText s) >>= loops b) = .ok kept ∧ ∀ t ∈ kept, Loose t) ∧
      (Inert (ofText s) → ∀ (t : Template) (o : CompileOptions) (b : Bindings), t.body = s →
        o.keepLayout = true → o.escape = false → t.compile o b = .ok s) := by
  have whole : (ofText s).flatMap source = s.toList := (scans_scan s.toList).flatMap_source
  refine ⟨fun ts => scans_iff, whole, fun b answered => ?_, ?_⟩
  · obtain ⟨kept, ran⟩ := exists_blocks.2 answered
    exact ⟨kept, ran, fun t mem => loose_of_blocks ran mem⟩
  · rintro inert t o b rfl keeps raw
    unfold Template.compile
    rw [inert.expand_eq, whole]
    simp [Except.map, CompileOptions.finish, keeps, raw]

/-- A conditional that a loop overlaps. -/
def crossedText : String :=
  "\x7b\x7b#if on\x7d\x7d\x7b\x7b#each xs\x7d\x7d" ++ "\x7b\x7b/if\x7d\x7d\x7b\x7b/each\x7d\x7d"

/-- A template of tags that close nothing, that are never closed, or that are none. -/
def brokenTemplate : Template :=
  { sampleTemplate with
    body := "\x7b\x7b/if\x7d\x7d\x7b\x7b#if on\x7d\x7d\x7b\x7b\x7b this \x7d\x7d\x7d" ++
      "\x7b\x7bthis\x7d\x7d\x7b\x7b/each\x7d\x7d\x7b\x7b#each xs\x7d\x7d\x7b\x7b" }

/-- All that the blocks of `crossedText` ask for has an answer. -/
theorem answered_crossedText : Answered sampleBindings (ofText crossedText) := by
  obtain ⟨opens, goes, closes, ends, tokens⟩ : ∃ opens goes closes ends, ofText crossedText =
      [.tag (.ifOpen "on") opens, .tag (.eachOpen "xs") goes, .tag .ifClose closes,
        .tag .eachClose ends] :=
    ⟨"\x7b\x7b#if on\x7d\x7d".toList, "\x7b\x7b#each xs\x7d\x7d".toList,
      "\x7b\x7b/if\x7d\x7d".toList, "\x7b\x7b/each\x7d\x7d".toList, by decide +kernel⟩
  have body : splitAtTag .ifClose [.tag (.eachOpen "xs") goes, .tag .ifClose closes,
      .tag .eachClose ends] = some ([.tag (.eachOpen "xs") goes], [.tag .eachClose ends]) := by
    simp [splitAtTag]
  have empty : splitAtTag .eachClose [.tag .eachClose ends] = some ([], []) := by
    simp [splitAtTag]
  rw [tokens]
  constructor
  · refine (forall_meets_block (fun _ _ => Tag.ifOpen.inj) body).2 ⟨⟨true, rfl⟩, ?_⟩
    intro name meets
    rw [meets_past (by simp)] at meets
    exact absurd meets not_meets_nil
  · intro settled name ran
    have truth : ((sampleBindings "on").getD .null).isTruthy = .ok true := rfl
    rw [conditionals_closed body, truth, Outcome.ok_bind,
      Forest.conditionals_cons _ (by simp) (by simp), conditionals] at ran
    cases ran
    revert name
    refine (forall_meets_block (fun _ _ => Tag.eachOpen.inj) empty).2 ⟨?_, ?_⟩
    · have items : ((sampleBindings "xs").getD .null).items = [.string "a", .string "b"] := rfl
      rw [items]
      simp [Value.render]
    · exact fun name meets => absurd meets not_meets_nil

/-- Nothing in `brokenTemplate` is evaluated. -/
theorem inert_brokenTemplate : Inert (ofText brokenTemplate.body) := by
  have tokens : ofText brokenTemplate.body =
      [.tag .ifClose "\x7b\x7b/if\x7d\x7d".toList,
        .tag (.ifOpen "on") "\x7b\x7b#if on\x7d\x7d".toList,
        .text "\x7b\x7b\x7b this \x7d\x7d".toList, .text ['\x7d'],
        .tag (.loopItem .this) "\x7b\x7bthis\x7d\x7d".toList,
        .tag .eachClose "\x7b\x7b/each\x7d\x7d".toList,
        .tag (.eachOpen "xs") "\x7b\x7b#each xs\x7d\x7d".toList, .text ['\x7b', '\x7b']] := by
    decide +kernel
  rw [tokens]
  exact ⟨by simp, by simp [Unclosed], by simp [Unclosed]⟩

theorem scanning_loses_nothing_brokenTemplate :
    (∃ kept, (conditionals sampleBindings (ofText crossedText) >>= loops sampleBindings) =
        .ok kept ∧ ∀ t ∈ kept, Loose t) ∧
      brokenTemplate.compile { keepLayout := true, escape := false } sampleBindings =
        .ok brokenTemplate.body := by
  obtain ⟨-, -, passes, -⟩ := scanning_loses_nothing crossedText
  obtain ⟨-, -, -, compiles⟩ := scanning_loses_nothing brokenTemplate.body
  exact ⟨passes sampleBindings answered_crossedText,
    compiles inert_brokenTemplate brokenTemplate _ _ rfl rfl rfl⟩

end Promptuary
