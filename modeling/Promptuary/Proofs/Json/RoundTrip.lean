import Promptuary.Proofs.Datum.Nesting
import Promptuary.Proofs.Entries
import Promptuary.Proofs.Json.Row
import Promptuary.Proofs.Json.Text
import Promptuary.Proofs.Outcome

/-!
Data that are written as JSON and read again. Reading needs steps enough for the length of the text,
and room for the containers that lie in one another. Main statement: in every layout a datum of the
kinds of JSON, without floats, is read from its text as it was written (`parse_print`).
-/

namespace Promptuary

/-- A datum of the kinds of JSON without floats: integers are within the limit, and the fields of an
object have different names. -/
inductive Datum.ExactJson : Datum → Prop where
  | null : ExactJson .null
  | bool (b : Bool) : ExactJson (.bool b)
  | int {n : Int} : Number.digitCount n.natAbs ≤ Number.digitLimit → ExactJson (.int n)
  | text (s : String) : ExactJson (.text s)
  | list {items : List Datum} : (∀ x ∈ items, ExactJson x) → ExactJson (.list items)
  | object {fields : Fields} : fields.keys.Nodup → (∀ field ∈ fields, ExactJson field.2) →
      ExactJson (.object fields)

namespace Json

variable {l : Layout} {cs rest after text tail : List Char} {texts : List (List Char)} {c : Char}
  {d x : Datum} {fuel limit depth : Nat}

/-- A text of a value: it begins with no blank, no closing bracket and no mark, holds no carriage
return, and is read as the value whatever follows. -/
structure Denotes (cs : List Char) (d : Datum) : Prop where
  begins : ∃ c rest, cs = c :: rest ∧ isSpace c = false ∧ c ≠ ']' ∧ c ≠ '\uFEFF'
  noReturn : '\r' ∉ cs
  read : ∀ {fuel limit tail}, 2 * cs.length ≤ fuel → d.nesting ≤ limit → Follows tail →
    readValue fuel limit (cs ++ tail) = .ok (d, tail)

theorem Denotes.opens (denotes : Denotes cs d) (tail : List Char) :
    skipSpace (cs ++ tail) = cs ++ tail := by
  obtain ⟨c, rest, rfl, other, -⟩ := denotes.begins
  exact skipSpace_cons other

/-! ### Atoms -/

theorem readValue_atom (quote : c ≠ '"') (brace : c ≠ '\x7b') (bracket : c ≠ '[') :
    readValue (fuel + 1) limit (c :: cs) = readAtom (c :: cs) := by
  rw [readValue.eq_def]
  dsimp only
  split
  · next same => exact absurd (List.cons.inj same).1 quote
  · next same => exact absurd (List.cons.inj same).1 brace
  · next same => exact absurd (List.cons.inj same).1 brace
  · next same => exact absurd (List.cons.inj same).1 bracket
  · next same => exact absurd (List.cons.inj same).1 bracket
  · rfl

/-- A text that begins like a word or a number denotes what it is read as. -/
theorem denotes_of_readAtom (quote : c ≠ '"') (brace : c ≠ '\x7b') (bracket : c ≠ '[')
    (begins : isSpace c = false ∧ c ≠ ']' ∧ c ≠ '\uFEFF') (noReturn : '\r' ∉ c :: cs)
    (read : ∀ tail, Follows tail → readAtom (c :: cs ++ tail) = .ok (d, tail)) :
    Denotes (c :: cs) d where
  begins := ⟨c, cs, rfl, begins⟩
  noReturn := noReturn
  read := by
    intro fuel limit tail enough _ follows
    obtain ⟨fuel, rfl⟩ : ∃ n, fuel = n + 1 := ⟨fuel - 1, by simp at enough; omega⟩
    exact (readValue_atom quote brace bracket).trans (read tail follows)

theorem denotes_null : Denotes ['n', 'u', 'l', 'l'] .null :=
  denotes_of_readAtom (by decide) (by decide) (by decide) (by decide) (by decide) fun _ _ => rfl

theorem denotes_bool (b : Bool) :
    Denotes (if b then ['t', 'r', 'u', 'e'] else ['f', 'a', 'l', 's', 'e']) (.bool b) := by
  cases b with
  | true =>
    exact denotes_of_readAtom (by decide) (by decide) (by decide) (by decide) (by decide)
      fun _ _ => rfl
  | false =>
    exact denotes_of_readAtom (by decide) (by decide) (by decide) (by decide) (by decide)
      fun _ _ => rfl

theorem denotes_int {n : Int} (within : Number.digitCount n.natAbs ≤ Number.digitLimit) :
    Denotes (Number.intDigits n) (.int n) := by
  have plain : ∀ w, w ≠ '-' → w.isDigit = false → ∀ c ∈ Number.intDigits n, c ≠ w :=
    fun w minus other c mem => ne_of_mem_intDigits mem minus other
  have noReturn : '\r' ∉ Number.intDigits n :=
    fun mem => plain '\r' (by decide) (by decide) _ mem rfl
  have read : ∀ tail, Follows tail → readAtom (Number.intDigits n ++ tail) = .ok (.int n, tail) :=
    fun tail follows => readAtom_intDigits within follows.endsNumber
  obtain ⟨c, cs, digits⟩ := List.exists_cons_of_ne_nil (intDigits_ne_nil n)
  rw [digits] at plain noReturn read ⊢
  have first : ∀ w, w ≠ '-' → w.isDigit = false → c ≠ w :=
    fun w minus other => plain w minus other c List.mem_cons_self
  refine denotes_of_readAtom ?_ ?_ ?_ ⟨?_, ?_, ?_⟩ noReturn read
  · exact first _ (by decide) (by decide)
  · exact first _ (by decide) (by decide)
  · exact first _ (by decide) (by decide)
  · simp [isSpace, first ' ', first '\t', first '\n', first '\r']
  · exact first _ (by decide) (by decide)
  · exact first _ (by decide) (by decide)

theorem denotes_text (ascii : Bool) (s : String) : Denotes (writeText ascii s) (.text s) where
  begins := ⟨'"', _, rfl, by decide⟩
  noReturn := not_mem_writeText ascii s
  read := by
    intro fuel limit tail enough _ _
    have length := length_le_flatMap ascii s.toList
    have size : (writeText ascii s).length = (s.toList.flatMap (writeChar ascii)).length + 2 := by
      simp [writeText]
    obtain ⟨fuel, rfl⟩ : ∃ n, fuel = n + 1 := ⟨fuel - 1, by omega⟩
    have whole : writeText ascii s ++ tail =
        '"' :: (s.toList.flatMap (writeChar ascii) ++ '"' :: tail) := by
      simp [writeText]
    rw [whole, readValue, readText_written s.toList (by omega)]
    simp

/-! ### Lists -/

/-- Whether an item is read from the start of a text. -/
def ReadsItem (limit fuel : Nat) (cs : List Char) (x : Datum) (rest : List Char) : Prop :=
  readValue fuel limit cs = .ok (x, rest)

theorem Denotes.readsItem (denotes : Denotes cs x) (room : x.nesting ≤ limit) :
    Reads (ReadsItem limit) cs x where
  opens := denotes.opens
  read := fun enough follows => denotes.read enough room follows

theorem readItems_row (limit : Nat) :
    ReadsRow (ReadsItem limit) (fun fuel cs => readItems fuel limit cs) ']' where
  last := by
    intro fuel cs x rest after read closes
    rw [readItems, read, Outcome.ok_bind]
    simp only [closes]
    rfl
  more := by
    intro fuel cs x rest next xs after read more items
    rw [readItems, read, Outcome.ok_bind]
    simp only [more, items]
    rfl

theorem readValue_list {items : List Datum} (begins : ∃ c rest, skipSpace cs = c :: rest ∧ c ≠ ']')
    (read : readItems fuel limit (skipSpace cs) = .ok (items, after)) :
    readValue (fuel + 1) (limit + 1) ('[' :: cs) = .ok (.list items, after) := by
  obtain ⟨c, rest, opens, other⟩ := begins
  rw [readValue]
  rw [opens] at read ⊢
  split
  · next same => exact absurd (List.cons.inj same).1 other
  · rw [read]
    rfl

/-- A written list denotes the list, if its written items denote the items. -/
theorem denotes_list (l : Layout) (depth : Nat) {items : List Datum}
    (each : List.Forall₂ Denotes texts items) :
    Denotes (l.enclose depth '[' ']' texts) (.list items) where
  begins := by
    unfold Layout.enclose
    split
    · exact ⟨'[', _, rfl, by decide⟩
    · exact ⟨'[', _, rfl, by decide⟩
  noReturn := not_mem_enclose (by decide) (forall_mem_of_forall₂ each fun first => first.noReturn)
  read := by
    intro fuel limit tail enough room _
    rw [Datum.nesting] at room
    obtain ⟨limit, rfl⟩ : ∃ n, limit = n + 1 := ⟨limit - 1, by omega⟩
    have positive := length_enclose l depth '[' ']' texts
    obtain ⟨fuel, rfl⟩ : ∃ n, fuel = n + 1 := ⟨fuel - 1, by omega⟩
    have reads : List.Forall₂ (Reads (ReadsItem limit)) texts items :=
      forall₂_of_mem each fun mem denotes =>
        denotes.readsItem (Nat.le_trans (Datum.nesting_le_of_mem mem) (Nat.le_of_succ_le_succ room))
    cases each with
    | nil => rfl
    | cons first _ =>
      obtain ⟨cs, whole, ⟨more, opens⟩, row⟩ :=
        exists_row l depth '[' (readItems_row limit) (by decide) reads enough tail
      obtain ⟨c, behind, begins, -, other, -⟩ := first.begins
      rw [whole]
      refine readValue_list ⟨c, behind ++ more, ?_, other⟩ row
      rw [opens, begins, List.cons_append]

/-! ### Objects -/

variable {ascii : Bool} {field : String × Datum} {fields : Fields}

/-- A text of a field: its name, a colon and a text of its value. -/
def DenotesField (ascii : Bool) (text : List Char) (field : String × Datum) : Prop :=
  ∃ gap inner, text = writeText ascii field.1 ++ ':' :: (gap ++ inner) ∧ Blank gap ∧
    Denotes inner field.2

theorem DenotesField.begins (denotes : DenotesField ascii text field) :
    ∃ rest, text = '"' :: rest := by
  obtain ⟨gap, inner, rfl, -⟩ := denotes
  exact ⟨_, rfl⟩

theorem DenotesField.noReturn (denotes : DenotesField ascii text field) : '\r' ∉ text := by
  obtain ⟨gap, inner, rfl, blank, value⟩ := denotes
  simp [not_mem_writeText, blank.noReturn, value.noReturn]

/-- Whether a field is read from the start of a text: its name, the colon and its value. -/
def ReadsField (limit fuel : Nat) (cs : List Char) (field : String × Datum) (rest : List Char) :
    Prop :=
  ∃ named afterName afterColon, cs = '"' :: named ∧
    readText cs fuel [] named = .ok (field.1, afterName) ∧
    skipSpace afterName = ':' :: afterColon ∧
    readValue fuel limit (skipSpace afterColon) = .ok (field.2, rest)

theorem DenotesField.readsField (denotes : DenotesField ascii text field)
    (room : field.2.nesting ≤ limit) : Reads (ReadsField limit) text field where
  opens := by
    intro tail
    obtain ⟨rest, rfl⟩ := denotes.begins
    exact skipSpace_cons rfl
  read := by
    intro fuel tail enough follows
    obtain ⟨gap, inner, rfl, blank, value⟩ := denotes
    have length := length_le_flatMap ascii field.1.toList
    simp only [writeText, List.length_append, List.length_cons, List.length_nil] at enough
    refine ⟨field.1.toList.flatMap (writeChar ascii) ++ '"' :: ':' :: (gap ++ inner ++ tail),
      ':' :: (gap ++ inner ++ tail), gap ++ inner ++ tail, ?_, ?_, ?_, ?_⟩
    · simp [writeText]
    · rw [readText_written _ (by omega)]
      simp
    · exact skipSpace_cons rfl
    · rw [List.append_assoc, skipSpace_of_blank blank, value.opens]
      exact value.read (by omega) room follows

theorem readFields_row (limit : Nat) :
    ReadsRow (ReadsField limit) (fun fuel cs => readFields fuel limit cs) '\x7d' where
  last := by
    intro fuel cs field rest after read closes
    obtain ⟨named, afterName, afterColon, rfl, name, colon, value⟩ := read
    rw [readFields, name, Outcome.ok_bind]
    simp only [colon]
    rw [value, Outcome.ok_bind]
    simp only [closes]
    rfl
  more := by
    intro fuel cs field rest next fields after read more others
    obtain ⟨named, afterName, afterColon, rfl, name, colon, value⟩ := read
    rw [readFields, name, Outcome.ok_bind]
    simp only [colon]
    rw [value, Outcome.ok_bind]
    simp only [more, others]
    rfl

theorem readValue_object (begins : ∃ rest, skipSpace cs = '"' :: rest)
    (distinct : fields.keys.Nodup)
    (read : readFields fuel limit (skipSpace cs) = .ok (fields, after)) :
    readValue (fuel + 1) (limit + 1) ('\x7b' :: cs) = .ok (.object fields, after) := by
  obtain ⟨rest, opens⟩ := begins
  rw [readValue]
  rw [opens] at read ⊢
  have same := Entries.ofPairs_of_distinct (Entries.distinct_iff_nodup.2 distinct)
  split
  · next brace => exact absurd (List.cons.inj brace).1 (by decide)
  · rw [read, Outcome.ok_bind]
    change Except.ok (Datum.object (Entries.ofPairs fields), after) = _
    rw [same]

/-- A written object denotes the object, if its written fields denote the fields. -/
theorem denotes_object (l : Layout) (depth : Nat)
    (each : List.Forall₂ (DenotesField ascii) texts fields) (distinct : fields.keys.Nodup) :
    Denotes (l.enclose depth '\x7b' '\x7d' texts) (.object fields) where
  begins := by
    unfold Layout.enclose
    split
    · exact ⟨'\x7b', _, rfl, by decide⟩
    · exact ⟨'\x7b', _, rfl, by decide⟩
  noReturn := not_mem_enclose (by decide) (forall_mem_of_forall₂ each fun first => first.noReturn)
  read := by
    intro fuel limit tail enough room _
    rw [Datum.nesting] at room
    obtain ⟨limit, rfl⟩ : ∃ n, limit = n + 1 := ⟨limit - 1, by omega⟩
    have positive := length_enclose l depth '\x7b' '\x7d' texts
    obtain ⟨fuel, rfl⟩ : ∃ n, fuel = n + 1 := ⟨fuel - 1, by omega⟩
    have reads : List.Forall₂ (Reads (ReadsField limit)) texts fields :=
      forall₂_of_mem each fun mem denotes =>
        denotes.readsField
          (Nat.le_trans (Datum.nesting_le_of_mem_fields mem) (Nat.le_of_succ_le_succ room))
    cases each with
    | nil => rfl
    | cons first _ =>
      obtain ⟨cs, whole, ⟨more, opens⟩, row⟩ :=
        exists_row l depth '\x7b' (readFields_row limit) (by decide) reads enough tail
      obtain ⟨behind, begins⟩ := first.begins
      rw [whole]
      refine readValue_object ⟨behind ++ more, ?_⟩ distinct row
      rw [opens, begins, List.cons_append]

/-! ### Whole texts -/

/-- Items that have texts are written as these. -/
theorem exists_writeItems {items : List Datum}
    (each : ∀ x ∈ items, ∃ cs, write l limit depth x = .ok cs ∧ Denotes cs x) :
    ∃ texts, writeItems l limit depth items = .ok texts ∧ List.Forall₂ Denotes texts items := by
  induction items with
  | nil => exact ⟨[], by rw [writeItems], .nil⟩
  | cons x items ih =>
    obtain ⟨⟨cs, here, first⟩, later⟩ := List.forall_mem_cons.1 each
    obtain ⟨texts, others, rest⟩ := ih later
    refine ⟨cs :: texts, ?_, .cons first rest⟩
    rw [writeItems, here, others]
    rfl

/-- Fields whose values have texts are written with these. -/
theorem exists_writeFields
    (each : ∀ field ∈ fields, ∃ cs, write l limit depth field.2 = .ok cs ∧ Denotes cs field.2) :
    ∃ texts, writeFields l limit depth fields = .ok texts ∧
      List.Forall₂ (DenotesField l.ascii) texts fields := by
  induction fields with
  | nil => exact ⟨[], by rw [writeFields], .nil⟩
  | cons field fields ih =>
    obtain ⟨⟨cs, here, first⟩, later⟩ := List.forall_mem_cons.1 each
    obtain ⟨texts, others, rest⟩ := ih later
    obtain ⟨gap, colon, blank⟩ := exists_colon_gap l
    refine ⟨(writeText l.ascii field.1 ++ l.colon ++ cs) :: texts, ?_, .cons ⟨gap, cs, ?_⟩ rest⟩
    · rw [writeFields, here, others]
      rfl
    · exact ⟨by simp [colon], blank, first⟩

/-- Every datum of the kinds of JSON for which there is room has a text, and the text denotes it. -/
theorem exists_write (l : Layout) (json : d.ExactJson) (room : depth + d.nesting ≤ limit) :
    ∃ cs, write l limit depth d = .ok cs ∧ Denotes cs d := by
  induction json generalizing depth with
  | null => exact ⟨_, by rw [write], denotes_null⟩
  | bool b => exact ⟨_, by rw [write], denotes_bool b⟩
  | @int n within =>
    refine ⟨Number.intDigits n, ?_, denotes_int within⟩
    rw [write, writeInteger, Number.writeInt, if_neg (Nat.not_lt_of_le within)]
    simp
  | text s => exact ⟨_, by rw [write], denotes_text l.ascii s⟩
  | @list items _ ih =>
    rw [Datum.nesting] at room
    have inner : ∀ x ∈ items, depth + 1 + x.nesting ≤ limit := fun x mem => by
      have le := Datum.nesting_le_of_mem mem
      omega
    obtain ⟨texts, written, each⟩ := exists_writeItems fun x mem => ih x mem (inner x mem)
    refine ⟨_, ?_, denotes_list l depth each⟩
    rw [write, enter, if_pos (by omega), Outcome.ok_bind, written]
    rfl
  | @object fields distinct _ ih =>
    rw [Datum.nesting] at room
    have inner : ∀ field ∈ fields, depth + 1 + field.2.nesting ≤ limit := fun field mem => by
      have le := Datum.nesting_le_of_mem_fields mem
      omega
    obtain ⟨texts, written, each⟩ :=
      exists_writeFields fun field mem => ih field mem (inner field mem)
    refine ⟨_, ?_, denotes_object l depth each distinct⟩
    rw [write, enter, if_pos (by omega), Outcome.ok_bind, written]
    rfl

/-- A datum of the kinds of JSON is read from its text as it was written, in every layout and
however deep it is nested, if there is room for its containers. The text holds no carriage
return. -/
theorem parse_print (l : Layout) (json : d.ExactJson) (room : d.nesting ≤ limit) :
    ∃ text, print l d limit = .ok text ∧ parse text limit = .ok d ∧ '\r' ∉ text.toList := by
  have above : 0 + d.nesting ≤ limit := by omega
  obtain ⟨cs, written, denotes⟩ := exists_write l json above
  have printed : print l d limit = .ok (String.ofList cs) := by
    rw [print, written]
    rfl
  refine ⟨String.ofList cs, printed, ?_, ?_⟩
  · have read := denotes.read (Nat.le_succ (2 * cs.length)) room follows_nil
    have start := denotes.opens []
    obtain ⟨c, rest, first, -, -, mark⟩ := denotes.begins
    have head : cs.head? ≠ some '\uFEFF' := by
      rw [first]
      simpa using mark
    rw [List.append_nil] at read start
    simp only [parse, String.toList_ofList, if_neg head, start, read]
    rfl
  · rw [String.toList_ofList]
    exact denotes.noReturn

end Json

end Promptuary
