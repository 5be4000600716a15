import Mathlib.Data.List.Forall2
import Promptuary.Json.Writer
import Promptuary.Proofs.Json.Number

/-!
Parts of a JSON text that stand in a row, between brackets and with commas between them. Whatever
the layout, there are only blanks beside the brackets and commas. Main statement: if each part is
read from its text whatever follows, then the whole row is read from the text of the container
(`exists_row`).
-/

namespace Promptuary.Json

variable {l : Layout} {depth fuel : Nat} {cs gap tail rest after : List Char} {c : Char}
  {text : List Char} {texts : List (List Char)}

/-! ### Blanks -/

/-- Whether a text has only the blanks that layouts have. -/
def Blank (gap : List Char) : Prop := ∀ c ∈ gap, c = ' ' ∨ c = '\n'

theorem Blank.noReturn (blank : Blank gap) : '\r' ∉ gap := by
  intro mem
  rcases blank _ mem with same | same
  · cases same
  · cases same

theorem skipSpace_of_blank (blank : Blank gap) (cs : List Char) :
    skipSpace (gap ++ cs) = skipSpace cs := by
  refine List.dropWhile_append_of_pos ?_
  intro c mem
  rcases blank c mem with rfl | rfl
  · rfl
  · rfl

theorem skipSpace_cons (other : isSpace c = false) : skipSpace (c :: cs) = c :: cs := by
  rw [skipSpace, List.dropWhile_cons, other]
  rfl

theorem newline_blank (l : Layout) (depth : Nat) : Blank (l.newline depth) := by
  intro c mem
  unfold Layout.newline at mem
  split at mem
  · rcases List.mem_cons.1 mem with rfl | mem
    · exact .inr rfl
    · exact .inl (List.eq_of_mem_replicate mem)
  · exact absurd mem List.not_mem_nil

theorem exists_comma_gap (l : Layout) (depth : Nat) :
    ∃ gap, l.comma depth = ',' :: gap ∧ Blank gap := by
  unfold Layout.comma
  split
  · exact ⟨_, rfl, newline_blank l depth⟩
  · split
    · exact ⟨[' '], rfl, by simp [Blank]⟩
    · exact ⟨[], rfl, by simp [Blank]⟩

theorem exists_colon_gap (l : Layout) : ∃ gap, l.colon = ':' :: gap ∧ Blank gap := by
  unfold Layout.colon
  split
  · exact ⟨[' '], rfl, by simp [Blank]⟩
  · exact ⟨[], rfl, by simp [Blank]⟩

/-! ### What follows a value -/

/-- What a text that follows a value can begin with. -/
def separators : List Char := [',', ']', '\x7d', ' ', '\n']

/-- Whether a text can follow a value: it is at its end, or begins with what separates or closes. -/
def Follows (tail : List Char) : Prop := ∀ c, tail.head? = some c → c ∈ separators

theorem follows_nil : Follows [] := by
  intro c head
  cases head

theorem follows_cons (mem : c ∈ separators) : Follows (c :: tail) := by
  intro c' head
  cases head
  exact mem

theorem follows_of_blank (blank : Blank gap) (follows : Follows tail) : Follows (gap ++ tail) := by
  cases gap with
  | nil => exact follows
  | cons c gap =>
    rcases blank c List.mem_cons_self with rfl | rfl
    · exact follows_cons (by decide)
    · exact follows_cons (by decide)

theorem Follows.endsNumber (follows : Follows tail) : EndsNumber tail := by
  intro c head
  have mem := follows c head
  simp only [separators, List.mem_cons, List.not_mem_nil, or_false] at mem
  rcases mem with rfl | rfl | rfl | rfl | rfl <;> decide

/-! ### Texts with commas between them -/

theorem exists_intercalate (sep text : List Char) (texts : List (List Char)) :
    ∃ more, sep.intercalate (text :: texts) = text ++ more := by
  cases texts with
  | nil => exact ⟨[], by simp⟩
  | cons next texts => exact ⟨_, List.intercalate_cons_cons.trans (List.append_assoc ..)⟩

theorem mem_intercalate {sep : List Char} (mem : c ∈ sep.intercalate texts) :
    c ∈ sep ∨ ∃ text ∈ texts, c ∈ text := by
  induction texts with
  | nil => exact absurd mem List.not_mem_nil
  | cons text texts ih =>
    cases texts with
    | nil =>
      rw [List.intercalate_singleton] at mem
      exact .inr ⟨text, List.mem_cons_self, mem⟩
    | cons next texts =>
      rw [List.intercalate_cons_cons] at mem
      rcases List.mem_append.1 mem with mem | later
      · rcases List.mem_append.1 mem with here | between
        · exact .inr ⟨text, List.mem_cons_self, here⟩
        · exact .inl between
      · rcases ih later with between | ⟨text', among, here⟩
        · exact .inl between
        · exact .inr ⟨text', List.mem_cons_of_mem _ among, here⟩

/-- A container with items has them between brackets and blanks, with commas between them. -/
theorem exists_enclose (l : Layout) (depth : Nat) (opening closing : Char) (some : texts ≠ []) :
    ∃ gap before behind, Blank gap ∧ Blank before ∧ Blank behind ∧
      l.enclose depth opening closing texts =
        opening :: (before ++ ((',' :: gap).intercalate texts ++ (behind ++ [closing]))) := by
  obtain ⟨gap, comma, blank⟩ := exists_comma_gap l (depth + 1)
  refine ⟨gap, _, _, blank, newline_blank l (depth + 1), newline_blank l depth, ?_⟩
  rw [Layout.enclose, if_neg (by simpa using some), comma]
  simp

theorem length_enclose (l : Layout) (depth : Nat) (opening closing : Char)
    (texts : List (List Char)) : 2 ≤ (l.enclose depth opening closing texts).length := by
  unfold Layout.enclose
  split
  · simp
  · simp only [List.length_append, List.length_cons, List.length_nil]
    omega

/-- A container without a carriage return in its items has none. -/
theorem not_mem_enclose {opening closing : Char} (brackets : opening ≠ '\r' ∧ closing ≠ '\r')
    (each : ∀ text ∈ texts, '\r' ∉ text) : '\r' ∉ l.enclose depth opening closing texts := by
  by_cases none : texts = []
  · subst none
    simp [Layout.enclose, brackets.1.symm, brackets.2.symm]
  obtain ⟨gap, before, behind, blank, first, last, whole⟩ :=
    exists_enclose l depth opening closing none
  have between : '\r' ∉ (',' :: gap).intercalate texts := by
    intro mem
    rcases mem_intercalate mem with mem | ⟨text, among, mem⟩
    · rcases List.mem_cons.1 mem with same | mem
      · cases same
      · exact blank.noReturn mem
    · exact each text among mem
  rw [whole]
  simp [brackets.1.symm, brackets.2.symm, first.noReturn, last.noReturn, between]

/-! ### Reading a row -/

section

variable {α β : Type} {as : List α} {bs : List β}

theorem forall_mem_of_forall₂ {R : α → β → Prop} {p : α → Prop} (each : List.Forall₂ R as bs)
    (holds : ∀ {a b}, R a b → p a) : ∀ a ∈ as, p a := by
  induction each with
  | nil => simp
  | cons first _ ih => exact List.forall_mem_cons.2 ⟨holds first, ih⟩

theorem forall₂_of_mem {R S : α → β → Prop} (each : List.Forall₂ R as bs)
    (holds : ∀ {a b}, b ∈ bs → R a b → S a b) : List.Forall₂ S as bs := by
  induction each with
  | nil => exact .nil
  | cons first _ ih =>
    exact .cons (holds List.mem_cons_self first) (ih fun mem => holds (List.mem_cons_of_mem _ mem))

end

section

variable {α : Type} {reads : Nat → List Char → α → List Char → Prop}
  {readRow : Nat → List Char → Except Failure (List α × List Char)} {closing : Char}
  {x : α} {xs : List α}

/-- Whether a part is read from a text, whatever follows: the text does not begin with a blank, and
as many steps are enough as twice its length. -/
structure Reads (reads : Nat → List Char → α → List Char → Prop) (text : List Char) (x : α) :
    Prop where
  opens : ∀ tail, skipSpace (text ++ tail) = text ++ tail
  read : ∀ {fuel tail}, 2 * text.length ≤ fuel → Follows tail → reads fuel (text ++ tail) x tail

/-- Whether a row is read part by part: after a part comes the closing bracket, or a comma and the
other parts. -/
structure ReadsRow (reads : Nat → List Char → α → List Char → Prop)
    (readRow : Nat → List Char → Except Failure (List α × List Char)) (closing : Char) : Prop where
  last : ∀ {fuel cs x rest after}, reads fuel cs x rest → skipSpace rest = closing :: after →
    readRow (fuel + 1) cs = .ok ([x], after)
  more : ∀ {fuel cs x rest next xs after}, reads fuel cs x rest → skipSpace rest = ',' :: next →
    readRow fuel (skipSpace next) = .ok (xs, after) → readRow (fuel + 1) cs = .ok (x :: xs, after)

/-- Parts with commas between them are read up to the closing bracket. -/
theorem readRow_intercalate (row : ReadsRow reads readRow closing)
    (each : List.Forall₂ (Reads reads) texts xs) (some : texts ≠ []) (blank : Blank gap)
    (closes : skipSpace rest = closing :: after) (follows : Follows rest)
    (enough : 2 * ((',' :: gap).intercalate texts).length < fuel) :
    readRow fuel ((',' :: gap).intercalate texts ++ rest) = .ok (xs, after) := by
  induction each generalizing fuel with
  | nil => exact absurd rfl some
  | @cons text x texts xs first each ih =>
    obtain ⟨fuel, rfl⟩ : ∃ n, fuel = n + 1 := ⟨fuel - 1, by omega⟩
    cases each with
    | nil =>
      rw [List.intercalate_singleton] at enough ⊢
      exact row.last (first.read (by omega) follows) closes
    | @cons next y texts xs second each =>
      rw [List.intercalate_cons_cons] at enough ⊢
      simp only [List.length_append, List.length_cons] at enough
      rw [List.append_assoc, List.append_assoc, List.cons_append]
      refine row.more (first.read (by omega) (follows_cons (by decide))) (skipSpace_cons rfl) ?_
      obtain ⟨more, whole⟩ := exists_intercalate (',' :: gap) next texts
      rw [skipSpace_of_blank blank, whole, List.append_assoc, second.opens, ← List.append_assoc,
        ← whole]
      exact ih (List.cons_ne_nil _ _) (by omega)

/-- What there is to read in a container with parts: after its opening bracket and blanks the first
part, and the whole row up to the closing bracket. -/
theorem exists_row (l : Layout) (depth : Nat) (opening : Char)
    (row : ReadsRow reads readRow closing)
    (closes : isSpace closing = false ∧ closing ∈ separators)
    (each : List.Forall₂ (Reads reads) (text :: texts) xs)
    (enough : 2 * (l.enclose depth opening closing (text :: texts)).length ≤ fuel + 1)
    (tail : List Char) :
    ∃ cs, l.enclose depth opening closing (text :: texts) ++ tail = opening :: cs ∧
      (∃ more, skipSpace cs = text ++ more) ∧ readRow fuel (skipSpace cs) = .ok (xs, tail) := by
  obtain ⟨gap, before, behind, blank, ahead, last, whole⟩ :=
    exists_enclose l depth opening closing (List.cons_ne_nil text texts)
  obtain ⟨more, begins⟩ := exists_intercalate (',' :: gap) text texts
  have opens : ∀ tail, skipSpace (text ++ tail) = text ++ tail := by
    cases each with
    | cons first _ => exact first.opens
  have behindCloses : skipSpace (behind ++ closing :: tail) = closing :: tail := by
    rw [skipSpace_of_blank last, skipSpace_cons closes.1]
  have skipped : skipSpace (before ++ ((',' :: gap).intercalate (text :: texts) ++
      (behind ++ closing :: tail))) =
        (',' :: gap).intercalate (text :: texts) ++ (behind ++ closing :: tail) := by
    rw [skipSpace_of_blank ahead, begins, List.append_assoc, opens]
  rw [whole] at enough ⊢
  simp only [List.length_cons, List.length_append, List.length_nil] at enough
  refine ⟨before ++ ((',' :: gap).intercalate (text :: texts) ++ (behind ++ closing :: tail)),
    by simp, ⟨more ++ (behind ++ closing :: tail), ?_⟩, ?_⟩
  · rw [skipped, begins, List.append_assoc]
  · rw [skipped]
    exact readRow_intercalate row each (List.cons_ne_nil _ _) blank behindCloses
      (follows_of_blank last (follows_cons closes.2)) (by omega)

end

end Promptuary.Json
