import Promptuary.Json.Writer
import Promptuary.Proofs.Datum.Nesting
import Promptuary.Proofs.Number.Digits
import Promptuary.Proofs.Outcome

/-!
Which data can be written. Nothing stands in the way of a text but an integer with more digits than
the limit, containers of which more lie in one another than may, and a datum that the layout has no
form for (`write_told`).
-/

namespace Promptuary

namespace Number

variable {n : Int}

/-- An integer that can be written. -/
def Writable (n : Int) : Prop := digitCount n.natAbs ≤ digitLimit

theorem writeInt_of_writable (writable : Writable n) :
    writeInt n = .ok (String.ofList (intDigits n)) :=
  if_neg (Nat.not_lt_of_le writable)

theorem writeInt_of_not_writable (beyond : ¬ Writable n) :
    writeInt n = .error .tooLargeToWrite :=
  if_pos (Nat.lt_of_not_le beyond)

end Number

open Number (Writable)

namespace Datum

mutual

/-- The integers of a datum that its text shows. -/
def integers : Datum → List Int
  | .int n => [n]
  | .list items => integersOfItems items
  | .tuple items => integersOfItems items
  | .object fields => integersOfFields fields
  | _ => []

/-- The integers of all items. -/
def integersOfItems : List Datum → List Int
  | [] => []
  | d :: items => d.integers ++ integersOfItems items

/-- The integers of the values of all fields. -/
def integersOfFields : List (String × Datum) → List Int
  | [] => []
  | (_, d) :: fields => d.integers ++ integersOfFields fields

end

end Datum

namespace Json

variable {α β : Type} {l : Layout} {ns ms : List Int} {p q : Prop} {limit : Nat}

/-- A text that is made if integers can be written and there is room. Otherwise it fails for one of
these, or for want of a form, if the layout refuses a kind of datum. -/
inductive Told (l : Layout) (ns : List Int) (room : Prop) : Except WriteError α → Prop where
  | writes {a : α} : (∀ n ∈ ns, Writable n) → room → Told l ns room (.ok a)
  | fails {n : Int} : n ∈ ns → ¬ Writable n → Told l ns room (.error (.integer .tooLargeToWrite))
  | tooDeep : ¬ room → Told l ns room (.error .tooDeep)
  | foreign {kind : String} : l.foreign = .refuse → Told l ns room (.error (.foreign kind))

theorem Told.nil (room : p) (a : α) : Told l [] p (.ok a) :=
  .writes (fun _ mem => absurd mem List.not_mem_nil) room

theorem Told.of_iff {x : Except WriteError α} (told : Told l ns p x) (same : p ↔ q) :
    Told l ns q x := propext same ▸ told

/-- One text after another needs the integers of both, and room for both. -/
theorem Told.bind {x : Except WriteError α} {f : α → Except WriteError β} (first : Told l ns p x)
    (second : ∀ a, Told l ms q (f a)) : Told l (ns ++ ms) (p ∧ q) (x >>= f) := by
  cases first with
  | fails mem beyond => exact .fails (List.mem_append_left ms mem) beyond
  | tooDeep none => exact .tooDeep fun both => none both.1
  | foreign refuses => exact .foreign refuses
  | @writes a all room =>
    rw [Outcome.ok_bind]
    generalize f a = y, second a = told
    cases told with
    | fails mem beyond => exact .fails (List.mem_append_right ns mem) beyond
    | tooDeep none => exact .tooDeep fun both => none both.2
    | foreign refuses => exact .foreign refuses
    | writes rest room' =>
      exact .writes (fun n mem => (List.mem_append.1 mem).elim (all n) (rest n)) ⟨room, room'⟩

/-- What is put around a text needs nothing more. -/
theorem Told.andReturn {x : Except WriteError α} (told : Told l ns p x) (f : α → β) :
    Told l ns p (x >>= fun a => pure (f a)) := by
  have more := told.bind (f := fun a => pure (f a)) fun a => Told.nil trivial (f a)
  rw [List.append_nil] at more
  exact more.of_iff (and_iff_left trivial)

theorem writeInteger_told (room : p) (n : Int) : Told l [n] p (writeInteger n) := by
  unfold writeInteger
  by_cases writable : Writable n
  · rw [Number.writeInt_of_writable writable]
    exact .writes (fun m mem => List.mem_singleton.1 mem ▸ writable) room
  · rw [Number.writeInt_of_not_writable writable]
    exact .fails (List.mem_singleton_self n) writable

/-- A container needs room for itself and, one deeper, for what it holds. -/
theorem Told.entered {depth inner : Nat} {x : Except WriteError α}
    (told : depth + 1 ≤ limit → Told l ns (depth + 1 + inner ≤ limit) x) :
    Told l ns (depth + (inner + 1) ≤ limit) (enter limit depth >>= fun _ => x) := by
  unfold enter
  by_cases room : depth < limit
  · rw [if_pos room, Outcome.ok_bind]
    exact (told room).of_iff (by omega)
  · rw [if_neg room]
    exact .tooDeep (by omega)

section

variable (l)

mutual

/-- A datum is written if its integers can be, there is room for its containers, and no kind is
refused. -/
theorem write_told {depth : Nat} (room : depth ≤ limit) :
    (d : Datum) → Told l d.integers (depth + d.nesting ≤ limit) (write l limit depth d)
  | .null => by rw [write]; exact .nil room _
  | .bool _ => by rw [write]; exact .nil room _
  | .int n => by rw [write]; exact writeInteger_told room n
  | .float _ => by rw [write]; exact .nil room _
  | .nan => by rw [write]; exact .nil room _
  | .text _ => by rw [write]; exact .nil room _
  | .list items => by
    rw [write]
    exact .entered fun room => (writeItems_told room items).andReturn _
  | .tuple items => by
    rw [write]
    exact .entered fun room => (writeItems_told room items).andReturn _
  | .object fields => by
    rw [write]
    exact .entered fun room => (writeFields_told room fields).andReturn _
  | .moment _ => by
    rw [write]
    cases foreign : l.foreign with
    | refuse => exact .foreign foreign
    | asMessage => exact .nil room _
    | stored => exact .nil room _
  | .usage _ => by
    rw [write]
    cases foreign : l.foreign with
    | refuse => exact .foreign foreign
    | asMessage => exact .nil room _
    | stored => exact .nil room _

/-- Items are written if their integers can be, there is room for each, and no kind is refused. -/
theorem writeItems_told {depth : Nat} (room : depth ≤ limit) :
    (items : List Datum) → Told l (Datum.integersOfItems items)
      (depth + Datum.nestingOfItems items ≤ limit) (writeItems l limit depth items)
  | [] => by rw [writeItems]; exact .nil room _
  | d :: items => by
    rw [writeItems, Datum.nestingOfItems]
    have both := (write_told room d).bind fun cs =>
      (writeItems_told room items).andReturn (cs :: ·)
    exact both.of_iff (by omega)

/-- Fields are written if the integers of their values can be, there is room for each, and no kind
is refused. -/
theorem writeFields_told {depth : Nat} (room : depth ≤ limit) :
    (fields : List (String × Datum)) → Told l (Datum.integersOfFields fields)
      (depth + Datum.nestingOfFields fields ≤ limit) (writeFields l limit depth fields)
  | [] => by rw [writeFields]; exact .nil room _
  | (key, d) :: fields => by
    rw [writeFields, Datum.nestingOfFields]
    have both := (write_told room d).bind fun cs =>
      (writeFields_told room fields).andReturn ((writeText l.ascii key ++ l.colon ++ cs) :: ·)
    exact both.of_iff (by omega)

end

theorem print_told (limit : Nat) (d : Datum) :
    Told l d.integers (d.nesting ≤ limit) (print l d limit) := by
  unfold print
  have told := write_told l (Nat.zero_le limit) d
  generalize write l limit 0 d = written at told
  rw [Nat.zero_add] at told
  cases told with
  | fails mem beyond => exact .fails mem beyond
  | tooDeep none => exact .tooDeep none
  | foreign refuses => exact .foreign refuses
  | writes all room => exact .writes all room

end

/-- What was written is nested no deeper than allowed. -/
theorem nesting_le_of_print {d : Datum} {text : String} (printed : print l d limit = .ok text) :
    d.nesting ≤ limit := by
  have told := print_told l limit d
  rw [printed] at told
  cases told with
  | writes _ room => exact room

end Json

end Promptuary
