import Mathlib.Data.List.Chain
import Mathlib.Data.List.Infix
import Promptuary.Proofs.Template.Label
import Promptuary.Text.Layout

/-!
The layout of texts. What a text in normal layout looks like is said on its own: which characters
may stand at its ends and at those of its lines, and which may stand side by side. Main statement:
putting texts in order is a projection onto the texts in normal layout, and all it takes away is
blanks.
-/

namespace Promptuary.Text

variable {cs line : List Char} {c : Char}

/-- A text has no blank at its ends. -/
structure Trimmed (cs : List Char) : Prop where
  first : ∀ c ∈ cs.head?, isBlank c = false
  last : ∀ c ∈ cs.getLast?, isBlank c = false

/-- A text is in normal layout. -/
structure InLayout (cs : List Char) : Prop where
  trimmed : Trimmed cs
  lines : ∀ line ∈ split '\n' cs, Trimmed line
  /-- It has no tab, carriage return, form feed or vertical tab. -/
  spaces : ∀ c ∈ ['\t', '\r', '\x0c', '\x0b'], c ∉ cs
  /-- No space stands beside another. -/
  single : ¬ [' ', ' '] <:+: cs
  /-- At most one empty line separates two others. -/
  gaps : ¬ ['\n', '\n', '\n'] <:+: cs

/-- The characters of a text that are not blank. -/
def ink (cs : List Char) : List Char := cs.filter (!isBlank ·)

theorem isBlank_of_isInlineBlank (inline : isInlineBlank c = true) : isBlank c = true := by
  simp only [isInlineBlank, Bool.or_eq_true, decide_eq_true_eq] at inline
  rcases inline with (((rfl | rfl) | rfl) | rfl) | rfl <;> decide

/-! ### Ends -/

theorem dropWhile_eq_self {p : Char → Bool} (first : ∀ c ∈ cs.head?, p c = false) :
    cs.dropWhile p = cs := by
  cases cs with
  | nil => rfl
  | cons c cs => rw [List.dropWhile_cons_of_neg (by simp [first c rfl])]

theorem first_dropWhile (p : Char → Bool) (cs : List Char) :
    ∀ c ∈ (cs.dropWhile p).head?, p c = false := by
  intro c first
  have outside := List.head?_dropWhile_not p cs
  rw [Option.mem_def] at first
  rwa [first] at outside

/-- The end of a trimmed text is a part of what was left after its start was trimmed. -/
theorem reverse_dropWhile_isPrefix (p : Char → Bool) (cs : List Char) :
    (cs.reverse.dropWhile p).reverse <+: cs := by
  rw [← List.reverse_suffix, List.reverse_reverse]
  exact List.dropWhile_suffix p

theorem trimChars_isInfix (cs : List Char) : trimChars cs <:+: cs :=
  (reverse_dropWhile_isPrefix ..).isInfix.trans (List.dropWhile_suffix _).isInfix

theorem trimmed_trimChars (cs : List Char) : Trimmed (trimChars cs) where
  first := by
    intro c first
    obtain ⟨rest, whole⟩ := reverse_dropWhile_isPrefix isBlank (cs.dropWhile isBlank)
    refine first_dropWhile isBlank cs c ?_
    rw [Option.mem_def] at first
    rw [Option.mem_def, ← whole, List.head?_append]
    exact Option.or_eq_some_iff.2 (.inl first)
  last := by
    intro c last
    rw [trimChars, trimBy, List.getLast?_reverse] at last
    exact first_dropWhile _ _ c last

theorem trimChars_eq_self (trimmed : Trimmed cs) : trimChars cs = cs := by
  have ends : ∀ c ∈ cs.reverse.head?, isBlank c = false := by
    rw [List.head?_reverse]
    exact trimmed.last
  rw [trimChars, trimBy, dropWhile_eq_self trimmed.first, dropWhile_eq_self ends,
    List.reverse_reverse]

theorem ink_dropWhile (cs : List Char) : ink (cs.dropWhile isBlank) = ink cs := by
  induction cs with
  | nil => rfl
  | cons c cs ih =>
    rw [List.dropWhile_cons]
    split
    · next blank => rw [ih, ink, ink, List.filter_cons_of_neg (by simp [blank])]
    · rfl

theorem ink_trimChars (cs : List Char) : ink (trimChars cs) = ink cs := by
  have turned : ∀ ds : List Char, ink ds.reverse = (ink ds).reverse := fun ds =>
    List.filter_reverse
  rw [trimChars, trimBy, turned, ink_dropWhile, turned, List.reverse_reverse, ink_dropWhile]

/-! ### Lines -/

theorem join_cons_cons (sep : Char) (line next : List Char) (lines : List (List Char)) :
    join sep (line :: next :: lines) = line ++ sep :: join sep (next :: lines) := by
  rw [join, List.intercalate_cons_cons, List.append_assoc]
  rfl

theorem join_singleton (sep : Char) (line : List Char) : join sep [line] = line := by
  simp [join, List.intercalate]

/-- Where a line stands in a text: after its start or a separator, and before its end or one. -/
theorem join_append_cons (sep : Char) (before : List (List Char)) (line : List Char)
    (after : List (List Char)) :
    join sep (before ++ line :: after) =
      before.flatMap (· ++ [sep]) ++ line ++ after.flatMap (sep :: ·) := by
  induction before with
  | nil =>
    rw [List.nil_append, List.flatMap_nil, List.nil_append]
    induction after generalizing line with
    | nil => rw [join_singleton, List.flatMap_nil, List.append_nil]
    | cons next after ih => rw [join_cons_cons, ih, List.flatMap_cons, List.cons_append]
  | cons first before ih =>
    obtain ⟨second, rest, same⟩ : ∃ second rest, before ++ line :: after = second :: rest := by
      cases before with
      | nil => exact ⟨_, _, rfl⟩
      | cons second before => exact ⟨_, _, rfl⟩
    rw [List.cons_append, same, join_cons_cons, ← same, ih]
    simp

theorem infix_of_mem_split {sep : Char} (mem : line ∈ split sep cs) : line <:+: cs := by
  obtain ⟨before, after, parts⟩ := List.append_of_mem mem
  refine ⟨before.flatMap (· ++ [sep]), after.flatMap (sep :: ·), ?_⟩
  rw [← join_append_cons, ← parts, join_split]

theorem ink_append (cs ds : List Char) : ink (cs ++ ds) = ink cs ++ ink ds :=
  List.filter_append ..

theorem ink_join (lines : List (List Char)) : ink (join '\n' lines) = lines.flatMap ink := by
  induction lines with
  | nil => rfl
  | cons line lines ih =>
    cases lines with
    | nil => rw [join_singleton, List.flatMap_singleton]
    | cons next lines =>
      have feed : ink ('\n' :: join '\n' (next :: lines)) = ink (join '\n' (next :: lines)) :=
        List.filter_cons_of_neg (by decide)
      rw [join_cons_cons, ink_append, feed, ih, List.flatMap_cons (x := line)]

/-! ### Runs of blanks in a line -/

theorem mem_squeeze {inRun : Bool} (mem : c ∈ squeeze inRun cs) :
    c = ' ' ∨ c ∈ cs ∧ isInlineBlank c = false := by
  induction cs generalizing inRun with
  | nil => cases mem
  | cons d cs ih =>
    have later : ∀ {inRun}, c ∈ squeeze inRun cs →
        c = ' ' ∨ c ∈ d :: cs ∧ isInlineBlank c = false := fun mem =>
      (ih mem).imp_right fun old => ⟨List.mem_cons_of_mem _ old.1, old.2⟩
    rw [squeeze] at mem
    split at mem
    · split at mem
      · exact later mem
      · exact (List.mem_cons.1 mem).elim .inl later
    · next solid =>
      rcases List.mem_cons.1 mem with rfl | mem
      · exact .inr ⟨List.mem_cons_self, Bool.eq_false_iff.2 solid⟩
      · exact later mem

/-- Side by side there are no two spaces. Within a run, the text goes on with another character. -/
theorem isChain_squeeze (inRun : Bool) (cs : List Char) :
    (squeeze inRun cs).IsChain (fun a b => a = ' ' → b ≠ ' ') ∧
      (inRun = true → ∀ c ∈ (squeeze inRun cs).head?, c ≠ ' ') := by
  induction cs generalizing inRun with
  | nil => exact ⟨.nil, fun _ => nofun⟩
  | cons d cs ih =>
    rw [squeeze]
    split
    · split
      · next run => exact ⟨(ih true).1, fun _ => (ih true).2 rfl⟩
      · next run =>
        refine ⟨List.isChain_cons.2 ⟨fun c first _ => (ih true).2 rfl c first, (ih true).1⟩, ?_⟩
        exact fun run' => absurd run' run
    · next solid =>
      have ne : d ≠ ' ' := by
        rintro rfl
        exact solid (by decide)
      refine ⟨List.isChain_cons.2 ⟨fun _ _ space => absurd space ne, (ih false).1⟩, ?_⟩
      rintro - c ⟨⟩
      exact ne

theorem squeeze_eq_self {inRun : Bool} (plain : ∀ c ∈ cs, isInlineBlank c = true → c = ' ')
    (chain : cs.IsChain (fun a b => a = ' ' → b ≠ ' '))
    (first : inRun = true → ∀ c ∈ cs.head?, c ≠ ' ') : squeeze inRun cs = cs := by
  induction cs generalizing inRun with
  | nil => rfl
  | cons c cs ih =>
    obtain ⟨link, rest⟩ := List.isChain_cons.1 chain
    have plain' : ∀ d ∈ cs, isInlineBlank d = true → d = ' ' := fun d mem =>
      plain d (List.mem_cons_of_mem _ mem)
    rw [squeeze]
    split
    · next inline =>
      obtain rfl := plain c List.mem_cons_self inline
      have outside : inRun ≠ true := fun run => first run ' ' rfl rfl
      rw [if_neg outside, ih plain' rest fun _ d next => link d next rfl]
    · rw [ih plain' rest fun run => absurd run Bool.false_ne_true]

theorem ink_squeeze (inRun : Bool) (cs : List Char) : ink (squeeze inRun cs) = ink cs := by
  induction cs generalizing inRun with
  | nil => rfl
  | cons c cs ih =>
    rw [squeeze]
    split
    · next inline =>
      have blank : ink (c :: cs) = ink cs :=
        List.filter_cons_of_neg (by simp [isBlank_of_isInlineBlank inline])
      have space : ink (' ' :: squeeze true cs) = ink (squeeze true cs) :=
        List.filter_cons_of_neg (by decide)
      split
      · rw [ih, blank]
      · rw [space, ih, blank]
    · have solid : ∀ ds, ink (c :: ds) = ink [c] ++ ink ds := fun ds => ink_append [c] ds
      rw [solid, ih, ← solid]

/-! ### Runs of line feeds -/

theorem mem_of_mem_capLineFeeds {run : Nat} (mem : c ∈ capLineFeeds run cs) : c ∈ cs := by
  induction cs generalizing run with
  | nil => exact mem
  | cons d cs ih =>
    rw [capLineFeeds] at mem
    split at mem
    · split at mem
      · exact (List.mem_cons.1 mem).elim (fun same => same ▸ List.mem_cons_self)
          fun mem => List.mem_cons_of_mem _ (ih mem)
      · exact List.mem_cons_of_mem _ (ih mem)
    · exact (List.mem_cons.1 mem).elim (fun same => same ▸ List.mem_cons_self)
        fun mem => List.mem_cons_of_mem _ (ih mem)

/-- What may not stand side by side does not come to stand so where line feeds are taken out of a
run: the line feed before it is still there. -/
theorem isChain_capLineFeeds {R : Char → Char → Prop} {run : Nat} (chain : (c :: cs).IsChain R)
    (under : c = '\n' ∨ run = 0) : (c :: capLineFeeds run cs).IsChain R := by
  induction cs generalizing c run with
  | nil => exact chain
  | cons d cs ih =>
    obtain ⟨link, rest⟩ := List.isChain_cons_cons.1 chain
    rw [capLineFeeds]
    split
    · next feed =>
      split
      · exact List.isChain_cons_cons.2 ⟨link, ih rest (.inl feed)⟩
      · next full =>
        obtain rfl : c = '\n' := under.resolve_right fun none => full (by omega)
        exact ih (feed ▸ rest) (.inl rfl)
    · exact List.isChain_cons_cons.2 ⟨link, ih rest (.inr rfl)⟩

/-- No run has three line feeds, those counted before included. -/
theorem not_infix_capLineFeeds {run : Nat} (few : run ≤ 2) (cs : List Char) :
    ¬ List.replicate (3 - run) '\n' <+: capLineFeeds run cs ∧
      ¬ List.replicate 3 '\n' <:+: capLineFeeds run cs := by
  have some : 3 - run = (2 - run) + 1 := by omega
  induction cs generalizing run with
  | nil => exact ⟨by rw [some]; simp [capLineFeeds, List.replicate_succ], by simp [capLineFeeds]⟩
  | cons c cs ih =>
    rw [capLineFeeds]
    split
    · next feed =>
      subst feed
      split
      · next more =>
        obtain ⟨start, inside⟩ := ih (show run + 1 ≤ 2 from more) (by omega)
        have next : 3 - (run + 1) = 2 - run := by omega
        rw [next] at start
        constructor
        · rw [some, List.replicate_succ, List.cons_prefix_cons]
          exact fun begins => start begins.2
        · rw [List.infix_cons_iff]
          rintro (begins | later)
          · refine start (List.IsPrefix.trans ?_ (List.cons_prefix_cons.1 begins).2)
            exact List.prefix_replicate_iff.2 ⟨by simp, by simp⟩
          · exact inside later
      · exact ih few some
    · next other =>
      obtain ⟨-, inside⟩ := ih (Nat.zero_le 2) rfl
      have differs : ∀ n : Nat, ¬ List.replicate (n + 1) '\n' <+: c :: capLineFeeds 0 cs := by
        intro n begins
        rw [List.replicate_succ, List.cons_prefix_cons] at begins
        exact other begins.1.symm
      refine ⟨some ▸ differs _, ?_⟩
      rw [List.infix_cons_iff]
      rintro (begins | later)
      · exact differs 2 begins
      · exact inside later

theorem capLineFeeds_eq_self {run : Nat}
    (gaps : ¬ List.replicate 3 '\n' <:+: List.replicate run '\n' ++ cs) :
    capLineFeeds run cs = cs := by
  induction cs generalizing run with
  | nil => rfl
  | cons c cs ih =>
    rw [capLineFeeds]
    split
    · next feed =>
      subst feed
      have further : List.replicate run '\n' ++ '\n' :: cs =
          List.replicate (run + 1) '\n' ++ cs := by
        rw [List.replicate_succ', List.append_assoc]
        rfl
      rw [further] at gaps
      have more : run < 2 := by
        refine Nat.lt_of_not_le fun full => gaps ?_
        refine List.IsInfix.trans ?_ (List.prefix_append ..).isInfix
        exact (List.prefix_replicate_iff.2 ⟨by simp; omega, by simp⟩).isInfix
      rw [if_pos more, ih gaps]
    · rw [ih fun inside => gaps ?_]
      rw [List.replicate_zero, List.nil_append] at inside
      exact inside.trans ((List.suffix_cons ..).trans (List.suffix_append ..)).isInfix

theorem ink_capLineFeeds (run : Nat) (cs : List Char) : ink (capLineFeeds run cs) = ink cs := by
  induction cs generalizing run with
  | nil => rfl
  | cons c cs ih =>
    have solid : ∀ ds, ink (c :: ds) = ink [c] ++ ink ds := fun ds => ink_append [c] ds
    rw [capLineFeeds, solid]
    split
    · next feed =>
      have blank : ink [c] = [] := by
        subst feed
        decide
      split
      · rw [solid, ih]
      · rw [ih, blank, List.nil_append]
    · rw [solid, ih]

/-! ### Texts in order -/

/-- Which characters may stand side by side: no two spaces, and no blank beside a line feed other
than a line feed. -/
structure MayMeet (a b : Char) : Prop where
  spaces : a = ' ' → b ≠ ' '
  ending : b = '\n' → a = '\n' ∨ isBlank a = false
  beginning : a = '\n' → b = '\n' ∨ isBlank b = false

/-- A line in order: trimmed, without a line feed, and with no two spaces side by side. -/
structure LineInOrder (line : List Char) : Prop where
  trimmed : Trimmed line
  free : '\n' ∉ line
  single : line.IsChain (fun a b => a = ' ' → b ≠ ' ')

theorem lineInOrder_tidyLine (free : '\n' ∉ line) : LineInOrder (tidyLine line) where
  trimmed := trimmed_trimChars _
  free := fun mem => by
    rcases mem_squeeze ((trimChars_isInfix _).subset mem) with space | ⟨old, -⟩
    · exact absurd space (by decide)
    · exact free old
  single := List.IsChain.infix (isChain_squeeze false line).1 (trimChars_isInfix _)

theorem LineInOrder.isChain (order : LineInOrder line) : line.IsChain MayMeet := by
  rw [List.isChain_iff_forall_rel_of_append_cons_cons]
  intro a b before after whole
  have single := List.isChain_iff_forall_rel_of_append_cons_cons.1 order.single whole
  have free := order.free
  rw [whole] at free
  exact ⟨single, fun feed => absurd (by simp [feed]) free, fun feed => absurd (by simp [feed]) free⟩

/-- A text of lines in order starts with a character that may stand after a line feed. -/
theorem first_join {lines : List (List Char)} (order : ∀ line ∈ lines, LineInOrder line) :
    ∀ c ∈ (join '\n' lines).head?, c = '\n' ∨ isBlank c = false := by
  cases lines with
  | nil => exact nofun
  | cons line lines =>
    have trimmed := (order line List.mem_cons_self).trimmed
    cases lines with
    | nil =>
      rw [join_singleton]
      exact fun c first => .inr (trimmed.first c first)
    | cons next lines =>
      rw [join_cons_cons]
      intro c first
      cases line with
      | nil => exact .inl (Option.some.inj first).symm
      | cons d line => exact .inr (trimmed.first c first)

theorem isChain_join {lines : List (List Char)} (order : ∀ line ∈ lines, LineInOrder line) :
    (join '\n' lines).IsChain MayMeet := by
  induction lines with
  | nil => exact .nil
  | cons line lines ih =>
    have here := order line List.mem_cons_self
    have later : ∀ line ∈ lines, LineInOrder line := fun l mem =>
      order l (List.mem_cons_of_mem _ mem)
    cases lines with
    | nil =>
      rw [join_singleton]
      exact here.isChain
    | cons next lines =>
      rw [join_cons_cons, List.isChain_append, List.isChain_cons]
      refine ⟨here.isChain, ⟨fun c first => ?_, ih later⟩, ?_⟩
      · exact ⟨by simp, fun _ => .inl rfl, fun _ => first_join later c first⟩
      · rintro c last d ⟨⟩
        exact ⟨fun _ => by decide, fun _ => .inr (here.trimmed.last c last), fun _ => .inl rfl⟩

/-- In a trimmed text in which no blank stands beside a line feed every line is trimmed. -/
theorem trimmed_of_mem_split (trimmed : Trimmed cs) (chain : cs.IsChain MayMeet)
    (mem : line ∈ split '\n' cs) : Trimmed line := by
  obtain ⟨before, after, parts⟩ := List.append_of_mem mem
  have whole : cs = before.flatMap (· ++ ['\n']) ++ line ++ after.flatMap ('\n' :: ·) := by
    rw [← join_append_cons, ← parts, join_split]
  have free : ∀ c ∈ line, c ≠ '\n' := fun c among same =>
    not_mem_of_mem_split mem (same ▸ among)
  constructor
  · intro c first
    obtain ⟨rest, rfl⟩ := List.head?_eq_some_iff.1 first
    rcases before.eq_nil_or_concat with rfl | ⟨others, previous, rfl⟩
    · exact trimmed.first c (by simp [whole])
    · have beside : cs = (others.flatMap (· ++ ['\n']) ++ previous) ++
          '\n' :: c :: (rest ++ after.flatMap ('\n' :: ·)) := by simp [whole]
      have meet := List.isChain_iff_forall_rel_of_append_cons_cons.1 chain beside
      exact (meet.beginning rfl).resolve_left (free c List.mem_cons_self)
  · intro c last
    obtain ⟨rest, rfl⟩ := List.getLast?_eq_some_iff.1 last
    cases after with
    | nil => exact trimmed.last c (by simp [whole])
    | cons next others =>
      have beside : cs = (before.flatMap (· ++ ['\n']) ++ rest) ++
          c :: '\n' :: (next ++ others.flatMap ('\n' :: ·)) := by simp [whole]
      have meet := List.isChain_iff_forall_rel_of_append_cons_cons.1 chain beside
      exact (meet.ending rfl).resolve_left (free c (by simp))

/-- The lines of a text, each of them put in order. -/
def tidyLines (cs : List Char) : List (List Char) := (split '\n' cs).map tidyLine

theorem lineInOrder_of_mem (mem : line ∈ tidyLines cs) : LineInOrder line := by
  obtain ⟨old, among, rfl⟩ := List.mem_map.1 mem
  exact lineInOrder_tidyLine (not_mem_of_mem_split among)

theorem tidy_isInfix (cs : List Char) : tidy cs <:+: capLineFeeds 0 (join '\n' (tidyLines cs)) :=
  trimChars_isInfix _

theorem isChain_tidy (cs : List Char) : (tidy cs).IsChain MayMeet := by
  have chain := isChain_join fun line (mem : line ∈ tidyLines cs) => lineInOrder_of_mem mem
  have capped : (capLineFeeds 0 (join '\n' (tidyLines cs))).IsChain MayMeet := by
    generalize join '\n' (tidyLines cs) = text at chain
    cases text with
    | nil => exact .nil
    | cons c text =>
      rw [capLineFeeds]
      split
      · exact isChain_capLineFeeds chain (.inl ‹_›)
      · exact isChain_capLineFeeds chain (.inr rfl)
  exact List.IsChain.infix capped (tidy_isInfix cs)

theorem mem_join {sep : Char} {lines : List (List Char)} (mem : c ∈ join sep lines) :
    c = sep ∨ ∃ line ∈ lines, c ∈ line := by
  induction lines with
  | nil => cases mem
  | cons line lines ih =>
    cases lines with
    | nil => exact .inr ⟨line, List.mem_cons_self, join_singleton sep line ▸ mem⟩
    | cons next lines =>
      rw [join_cons_cons] at mem
      rcases List.mem_append.1 mem with here | later
      · exact .inr ⟨line, List.mem_cons_self, here⟩
      · rcases List.mem_cons.1 later with same | later
        · exact .inl same
        · exact (ih later).imp_right fun ⟨line, among, inside⟩ =>
            ⟨line, List.mem_cons_of_mem _ among, inside⟩

theorem inLayout_tidy (cs : List Char) : InLayout (tidy cs) where
  trimmed := trimmed_trimChars _
  lines := fun _ mem => trimmed_of_mem_split (trimmed_trimChars _) (isChain_tidy cs) mem
  spaces := by
    intro c among mem
    have joined := mem_of_mem_capLineFeeds ((tidy_isInfix cs).subset mem)
    rcases mem_join joined with rfl | ⟨line, of, inside⟩
    · exact absurd among (by decide)
    · obtain ⟨old, -, rfl⟩ := List.mem_map.1 of
      rcases mem_squeeze ((trimChars_isInfix _).subset inside) with rfl | ⟨-, solid⟩
      · exact absurd among (by decide)
      · have inline : ∀ c ∈ ['\t', '\r', '\x0c', '\x0b'], isInlineBlank c = true := by
          simp [isInlineBlank]
        exact absurd (inline c among) (Bool.eq_false_iff.1 solid)
  single := fun inside => by
    have chain := List.IsChain.infix (isChain_tidy cs) inside
    exact (List.isChain_cons_cons.1 chain).1.spaces rfl rfl
  gaps := fun inside =>
    (not_infix_capLineFeeds (Nat.zero_le 2) _).2 (inside.trans (tidy_isInfix cs))

/-! ### A projection -/

/-- A text in normal layout is in order. -/
theorem InLayout.tidy_eq_self (layout : InLayout cs) : tidy cs = cs := by
  have plain : ∀ c ∈ cs, isInlineBlank c = true → c = ' ' := by
    intro c mem inline
    refine Classical.byContradiction fun other => layout.spaces c ?_ mem
    simp only [isInlineBlank, Bool.or_eq_true, decide_eq_true_eq] at inline
    simp only [List.mem_cons, List.not_mem_nil, or_false]
    grind
  have single : cs.IsChain (fun a b => a = ' ' → b ≠ ' ') := by
    rw [List.isChain_iff_forall_rel_of_append_cons_cons]
    rintro a b before after whole rfl rfl
    exact layout.single ⟨before, after, by simp [whole]⟩
  have lines : ∀ line ∈ split '\n' cs, tidyLine line = line := by
    intro line mem
    have inside := infix_of_mem_split mem
    have chain := List.IsChain.infix single inside
    rw [tidyLine, squeeze_eq_self (fun c among => plain c (inside.subset among)) chain
      (fun run => absurd run Bool.false_ne_true), trimChars_eq_self (layout.lines line mem)]
  have same : (split '\n' cs).map tidyLine = split '\n' cs :=
    (List.map_congr_left lines).trans (List.map_id _)
  rw [tidy, same, join_split, capLineFeeds_eq_self (by simpa using layout.gaps),
    trimChars_eq_self layout.trimmed]

theorem ink_tidy (cs : List Char) : ink (tidy cs) = ink cs := by
  have line : ∀ line : List Char, ink (tidyLine line) = ink line := fun line => by
    rw [tidyLine, ink_trimChars, ink_squeeze]
  calc ink (tidy cs)
      = ink (join '\n' ((split '\n' cs).map tidyLine)) := by
        rw [tidy, ink_trimChars, ink_capLineFeeds]
    _ = (split '\n' cs).flatMap ink := by
        rw [ink_join, List.flatMap_map]
        exact List.flatMap_congr fun l _ => line l
    _ = ink cs := by rw [← ink_join, join_split]

/-- Putting texts in order is a projection onto the texts in normal layout. Nothing but blanks is
taken away. -/
theorem tidy_projects (cs : List Char) :
    InLayout (tidy cs) ∧ ink (tidy cs) = ink cs ∧ tidy (tidy cs) = tidy cs ∧
      (tidy cs = cs ↔ InLayout cs) :=
  ⟨inLayout_tidy cs, ink_tidy cs, (inLayout_tidy cs).tidy_eq_self,
    fun same => same ▸ inLayout_tidy cs, InLayout.tidy_eq_self⟩

example : tidy " a  \tb \r\n\n \n\x0bc\n".toList = "a b\n\nc".toList := by decide

/-- A text without blanks is in order. -/
theorem tidy_eq_self (solid : ∀ c ∈ cs, isBlank c = false) : tidy cs = cs := by
  have trimmed : ∀ {line : List Char}, line <:+: cs → Trimmed line := fun inside =>
    ⟨fun c first => solid c (inside.subset (List.mem_of_mem_head? first)),
      fun c last => solid c (inside.subset (List.mem_of_mem_getLast? last))⟩
  have absent : ∀ c, isBlank c = true → c ∉ cs := fun c blank mem =>
    Bool.false_ne_true ((solid c mem).symm.trans blank)
  refine InLayout.tidy_eq_self ⟨trimmed (List.infix_refl _), ?_, ?_, ?_, ?_⟩
  · exact fun line mem => trimmed (infix_of_mem_split mem)
  · have blank : ∀ c ∈ ['\t', '\r', '\x0c', '\x0b'], isBlank c = true := by simp [isBlank]
    exact fun c among => absent c (blank c among)
  · exact fun inside => absent ' ' (by decide) (inside.subset (by simp))
  · exact fun inside => absent '\n' (by decide) (inside.subset (by simp))

end Promptuary.Text
