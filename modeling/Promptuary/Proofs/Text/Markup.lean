import Promptuary.Proofs.Text.Layout
import Promptuary.Text.Entity

/-!
Escaped markup. No sign of markup is left in an escaped text, and reading its entities in one pass
gives the text back. Main statement: it makes no difference whether the layout of a text is put in
order before its markup is escaped or afterwards, since entities have no blanks.
-/

namespace Promptuary.Text

variable {cs ds text : List Char} {c : Char}

/-! ### Entities -/

/-- The signs of markup. -/
def signs : List Char := ['&', '<', '>', '"', '\'']

/-- The entities. -/
def entities : List (List Char) := [ampersand, lessThan, greaterThan, doubleQuote, singleQuote]

/-- A text with its entities read as the characters that they stand for, from left to right. -/
def unescapeMarkup : List Char → List Char
  | '&' :: 'a' :: 'm' :: 'p' :: ';' :: rest => '&' :: unescapeMarkup rest
  | '&' :: 'l' :: 't' :: ';' :: rest => '<' :: unescapeMarkup rest
  | '&' :: 'g' :: 't' :: ';' :: rest => '>' :: unescapeMarkup rest
  | '&' :: 'q' :: 'u' :: 'o' :: 't' :: ';' :: rest => '"' :: unescapeMarkup rest
  | '&' :: '#' :: 'x' :: '2' :: '7' :: ';' :: rest => '\'' :: unescapeMarkup rest
  | c :: rest => c :: unescapeMarkup rest
  | [] => []

/-- A text has no sign of markup other than the ampersands of entities. -/
structure Harmless (cs : List Char) : Prop where
  signs : ∀ c ∈ ['<', '>', '"', '\''], c ∉ cs
  entity : ∀ rest, '&' :: rest <:+ cs → ∃ text ∈ entities, text <+: '&' :: rest

theorem mem_signs : c ∈ signs ↔ c = '&' ∨ c = '<' ∨ c = '>' ∨ c = '"' ∨ c = '\'' := by
  simp [signs]

/-- A sign of markup is written as an entity. -/
theorem entityOf_of_sign (sign : c ∈ signs) : entityOf c ∈ entities := by
  rcases mem_signs.1 sign with rfl | rfl | rfl | rfl | rfl <;> decide

/-- What is no sign of markup is written as itself. -/
theorem entityOf_of_plain (plain : c ∉ signs) : entityOf c = [c] := by
  simp only [mem_signs, not_or] at plain
  simp [entityOf, plain]

theorem unescapeMarkup_cons (other : c ≠ '&') (rest : List Char) :
    unescapeMarkup (c :: rest) = c :: unescapeMarkup rest := by
  rw [unescapeMarkup.eq_def]
  split <;> simp_all

theorem unescapeMarkup_entityOf (c : Char) (rest : List Char) :
    unescapeMarkup (entityOf c ++ rest) = c :: unescapeMarkup rest := by
  by_cases sign : c ∈ signs
  · rcases mem_signs.1 sign with rfl | rfl | rfl | rfl | rfl <;> rfl
  · rw [entityOf_of_plain sign]
    exact unescapeMarkup_cons (fun same => sign (mem_signs.2 (.inl same))) rest

theorem unescapeMarkup_escapeMarkup (cs : List Char) :
    unescapeMarkup (escapeMarkup cs) = cs := by
  induction cs with
  | nil => rfl
  | cons c cs ih => rw [escapeMarkup_cons, unescapeMarkup_entityOf, ih]

theorem suffix_of_suffix_append {rest : List Char} (free : c ∉ ds)
    (ends : c :: rest <:+ ds ++ cs) : c :: rest <:+ cs := by
  induction ds with
  | nil => exact ends
  | cons d ds ih =>
    rw [List.mem_cons, not_or] at free
    rcases List.suffix_cons_iff.1 ends with same | ends
    · exact absurd (List.cons.inj same).1 free.1
    · exact ih free.2 ends

/-- An ampersand in an entity and what follows it starts the entity or stands after it. -/
theorem prefix_or_suffix {rest : List Char} (mem : text ∈ entities)
    (ends : '&' :: rest <:+ text ++ cs) : text <+: '&' :: rest ∨ '&' :: rest <:+ cs := by
  obtain ⟨letters, rfl, free⟩ : ∃ letters, text = '&' :: letters ∧ '&' ∉ letters := by
    simp only [entities, List.mem_cons, List.not_mem_nil, or_false] at mem
    rcases mem with rfl | rfl | rfl | rfl | rfl <;> exact ⟨_, rfl, by decide⟩
  rcases List.suffix_cons_iff.1 ends with same | ends
  · exact .inl ⟨cs, same.symm⟩
  · exact .inr (suffix_of_suffix_append free ends)

theorem harmless_escapeMarkup (cs : List Char) : Harmless (escapeMarkup cs) := by
  induction cs with
  | nil => exact ⟨fun _ _ => List.not_mem_nil, fun rest ends => by simp [escapeMarkup] at ends⟩
  | cons c cs ih =>
    rw [escapeMarkup_cons]
    by_cases sign : c ∈ signs
    · have entity := entityOf_of_sign sign
      constructor
      · intro d bad mem
        have free : ∀ text ∈ entities, ∀ d ∈ ['<', '>', '"', '\''], d ∉ text := by
          simp [entities, ampersand, lessThan, greaterThan, doubleQuote, singleQuote]
        exact (List.mem_append.1 mem).elim (free _ entity d bad) (ih.signs d bad)
      · intro rest ends
        rcases prefix_or_suffix entity ends with starts | ends
        · exact ⟨_, entity, starts⟩
        · exact ih.entity rest ends
    · rw [entityOf_of_plain sign]
      constructor
      · intro d bad mem
        rcases List.mem_cons.1 mem with rfl | mem
        · exact sign (List.mem_cons_of_mem _ bad)
        · exact ih.signs d bad mem
      · intro rest ends
        have other : '&' ∉ [c] := fun mem =>
          sign (mem_signs.2 (.inl (List.mem_singleton.1 mem).symm))
        exact ih.entity rest (suffix_of_suffix_append other ends)

/-! ### Layout and escaping -/

/-- A way to write characters that leaves blanks as they are and brings in none. -/
structure KeepsBlanks (f : Char → List Char) : Prop where
  blank : ∀ c, isBlank c = true → f c = [c]
  solid : ∀ c, isBlank c = false → f c ≠ [] ∧ ∀ d ∈ f c, isBlank d = false

theorem keepsBlanks_entityOf : KeepsBlanks entityOf where
  blank := by
    intro c blank
    refine entityOf_of_plain fun sign => ?_
    rcases mem_signs.1 sign with rfl | rfl | rfl | rfl | rfl <;> cases blank
  solid := by
    intro c solid
    by_cases sign : c ∈ signs
    · have free : ∀ text ∈ entities, text ≠ [] ∧ ∀ d ∈ text, isBlank d = false := by
        simp [entities, ampersand, lessThan, greaterThan, doubleQuote, singleQuote, isBlank]
      exact free _ (entityOf_of_sign sign)
    · rw [entityOf_of_plain sign]
      exact ⟨List.cons_ne_nil _ _, fun d mem => List.mem_singleton.1 mem ▸ solid⟩

section

variable {f : Char → List Char}

/-- The same characters from right to left. -/
theorem KeepsBlanks.reverse (keeps : KeepsBlanks f) : KeepsBlanks fun c => (f c).reverse where
  blank := fun c blank => by rw [keeps.blank c blank, List.reverse_singleton]
  solid := fun c solid => by
    obtain ⟨filled, free⟩ := keeps.solid c solid
    exact ⟨by simpa using filled, fun d mem => free d (List.mem_reverse.1 mem)⟩

/-- What is not a line feed is written without one. -/
theorem KeepsBlanks.feed_not_mem (keeps : KeepsBlanks f) (other : c ≠ '\n') : '\n' ∉ f c := by
  intro mem
  cases blank : isBlank c with
  | true =>
    rw [keeps.blank c blank, List.mem_singleton] at mem
    exact other mem.symm
  | false => exact absurd ((keeps.solid c blank).2 _ mem) (by decide)

theorem KeepsBlanks.ne_nil (keeps : KeepsBlanks f) (c : Char) : f c ≠ [] := by
  cases blank : isBlank c with
  | true =>
    rw [keeps.blank c blank]
    exact List.cons_ne_nil _ _
  | false => exact (keeps.solid c blank).1

theorem dropWhile_flatMap (keeps : KeepsBlanks f) (cs : List Char) :
    (cs.flatMap f).dropWhile isBlank = (cs.dropWhile isBlank).flatMap f := by
  induction cs with
  | nil => rfl
  | cons c cs ih =>
    rw [List.flatMap_cons, List.dropWhile_cons]
    cases blank : isBlank c with
    | true =>
      rw [keeps.blank c blank, List.singleton_append, List.dropWhile_cons_of_pos blank, ih,
        if_pos rfl]
    | false =>
      obtain ⟨filled, free⟩ := keeps.solid c blank
      rw [if_neg Bool.false_ne_true, List.flatMap_cons]
      refine dropWhile_eq_self fun d first => free d (List.mem_of_mem_head? ?_)
      rwa [List.head?_append_of_ne_nil _ filled] at first

theorem trimChars_flatMap (keeps : KeepsBlanks f) (cs : List Char) :
    trimChars (cs.flatMap f) = (trimChars cs).flatMap f := by
  have turned : ∀ ds : List Char, (ds.flatMap f).reverse =
      ds.reverse.flatMap fun c => (f c).reverse := fun ds => List.reverse_flatMap
  have back : ∀ ds : List Char, (ds.flatMap fun c => (f c).reverse).reverse =
      ds.reverse.flatMap f := fun ds => by
    have turn := congrArg List.reverse (turned ds.reverse)
    rw [List.reverse_reverse, List.reverse_reverse] at turn
    exact turn.symm
  rw [trimChars, trimBy, dropWhile_flatMap keeps, turned, dropWhile_flatMap keeps.reverse, back]
  rfl

theorem squeeze_append {inRun : Bool} (filled : ds ≠ [])
    (solid : ∀ d ∈ ds, isInlineBlank d = false) (cs : List Char) :
    squeeze inRun (ds ++ cs) = ds ++ squeeze false cs := by
  induction ds generalizing inRun with
  | nil => exact absurd rfl filled
  | cons d ds ih =>
    have first : ¬ isInlineBlank d = true := by simp [solid d List.mem_cons_self]
    rw [List.cons_append, squeeze, if_neg first, List.cons_append]
    by_cases last : ds = []
    · rw [last, List.nil_append, List.nil_append]
    · rw [ih last fun d mem => solid d (List.mem_cons_of_mem _ mem)]

theorem squeeze_flatMap (keeps : KeepsBlanks f) (inRun : Bool) (cs : List Char) :
    squeeze inRun (cs.flatMap f) = (squeeze inRun cs).flatMap f := by
  induction cs generalizing inRun with
  | nil => rfl
  | cons c cs ih =>
    rw [List.flatMap_cons, squeeze]
    split
    · next inline =>
      rw [keeps.blank c (isBlank_of_isInlineBlank inline), List.singleton_append, squeeze,
        if_pos inline]
      split
      · exact ih true
      · rw [List.flatMap_cons, keeps.blank ' ' (by decide), ih]
        rfl
    · next outline =>
      have solid : ∀ d ∈ f c, isInlineBlank d = false := by
        intro d mem
        cases blank : isBlank c with
        | true =>
          rw [keeps.blank c blank, List.mem_singleton] at mem
          exact mem ▸ Bool.eq_false_iff.2 outline
        | false =>
          refine Bool.eq_false_iff.2 fun inline => ?_
          exact absurd (isBlank_of_isInlineBlank inline) (by simp [(keeps.solid c blank).2 d mem])
      rw [squeeze_append (keeps.ne_nil c) solid, ih, List.flatMap_cons]

theorem capLineFeeds_append {run : Nat} (filled : ds ≠ []) (free : '\n' ∉ ds) (cs : List Char) :
    capLineFeeds run (ds ++ cs) = ds ++ capLineFeeds 0 cs := by
  induction ds generalizing run with
  | nil => exact absurd rfl filled
  | cons d ds ih =>
    rw [List.mem_cons, not_or] at free
    rw [List.cons_append, capLineFeeds, if_neg (Ne.symm free.1), List.cons_append]
    by_cases last : ds = []
    · rw [last, List.nil_append, List.nil_append]
    · rw [ih last free.2]

theorem capLineFeeds_flatMap (keeps : KeepsBlanks f) (run : Nat) (cs : List Char) :
    capLineFeeds run (cs.flatMap f) = (capLineFeeds run cs).flatMap f := by
  induction cs generalizing run with
  | nil => rfl
  | cons c cs ih =>
    rw [List.flatMap_cons, capLineFeeds]
    split
    · next feed =>
      subst feed
      rw [keeps.blank '\n' (by decide), List.singleton_append, capLineFeeds, if_pos rfl]
      split
      · rw [List.flatMap_cons, keeps.blank '\n' (by decide), ih]
        rfl
      · exact ih run
    · next other =>
      rw [capLineFeeds_append (keeps.ne_nil c) (keeps.feed_not_mem other), ih, List.flatMap_cons]

/-- Characters in front of a text belong to its first line. -/
theorem split_append {sep : Char} {line : List Char} {lines : List (List Char)} (free : sep ∉ ds)
    (parts : split sep cs = line :: lines) : split sep (ds ++ cs) = (ds ++ line) :: lines := by
  induction ds with
  | nil => exact parts
  | cons d ds ih =>
    rw [List.mem_cons, not_or] at free
    rw [List.cons_append, split, if_neg (Ne.symm free.1), ih free.2]
    rfl

theorem split_flatMap (keeps : KeepsBlanks f) (cs : List Char) :
    split '\n' (cs.flatMap f) = (split '\n' cs).map (·.flatMap f) := by
  induction cs with
  | nil => rfl
  | cons c cs ih =>
    rw [List.flatMap_cons]
    by_cases feed : c = '\n'
    · subst feed
      rw [keeps.blank '\n' (by decide), List.singleton_append, split, if_pos rfl, ih, split,
        if_pos rfl]
      rfl
    · obtain ⟨line, lines, parts⟩ := List.exists_cons_of_ne_nil (split_ne_nil '\n' cs)
      rw [parts, List.map_cons] at ih
      rw [split_append (keeps.feed_not_mem feed) ih]
      have alone : '\n' ∉ [c] := by simpa using Ne.symm feed
      have whole := split_append alone parts
      rw [List.singleton_append] at whole
      rw [whole, List.map_cons, List.singleton_append, List.flatMap_cons]

theorem join_flatMap (keeps : KeepsBlanks f) (lines : List (List Char)) :
    join '\n' (lines.map (·.flatMap f)) = (join '\n' lines).flatMap f := by
  induction lines with
  | nil => rfl
  | cons line lines ih =>
    cases lines with
    | nil => rw [List.map_singleton, join_singleton, join_singleton]
    | cons next lines =>
      rw [List.map_cons] at ih ⊢
      rw [List.map_cons, join_cons_cons, ih, join_cons_cons, List.flatMap_append,
        List.flatMap_cons, keeps.blank '\n' (by decide)]
      rfl

theorem tidy_flatMap (keeps : KeepsBlanks f) (cs : List Char) :
    tidy (cs.flatMap f) = (tidy cs).flatMap f := by
  have line : ∀ line : List Char, tidyLine (line.flatMap f) = (tidyLine line).flatMap f :=
    fun line => by rw [tidyLine, squeeze_flatMap keeps, trimChars_flatMap keeps, tidyLine]
  have lines : (split '\n' (cs.flatMap f)).map tidyLine =
      ((split '\n' cs).map tidyLine).map (·.flatMap f) := by
    rw [split_flatMap keeps, List.map_map, List.map_map]
    exact List.map_congr_left fun l _ => line l
  rw [tidy, lines, join_flatMap keeps, capLineFeeds_flatMap keeps, trimChars_flatMap keeps, tidy]

end

/-- Escaping a text in order gives what comes of putting the escaped text in order. -/
theorem tidy_escapeMarkup (cs : List Char) : tidy (escapeMarkup cs) = escapeMarkup (tidy cs) := by
  rw [escapeMarkup_eq_flatMap, tidy_flatMap keepsBlanks_entityOf, escapeMarkup_eq_flatMap]

end Promptuary.Text
