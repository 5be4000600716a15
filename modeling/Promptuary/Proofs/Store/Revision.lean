import Promptuary.Proofs.Entries
import Promptuary.Proofs.Store.Change
import Promptuary.Proofs.Template.Label
import Promptuary.Proofs.Template.Record

/-!
What an update cannot change: the identifier and the time of creation stay, the label is a free one,
and the time of the update is the clock's. The other fields are those of the update, or stay.
-/

namespace Promptuary

namespace Store

variable {s : Store} {time : Calendar.Moment} {id label : String} {updates : Fields}
  {old t : Template}

/-- The fields that every update sets by itself, whatever it is given. -/
theorem get?_merge (old : Template) (label : String) (time : Calendar.Moment) (updates : Fields) :
    let fields := merge old label time updates
    fields.get? "id" = some (.text old.id) ∧ fields.get? "version" = some (.text label) ∧
      fields.get? "created_at" = some (.moment old.createdAt) ∧
      fields.get? "updated_at" = some (.moment time) := by
  intro fields
  have last : ∃ before : Fields, fields =
      (((before.put "id" (.text old.id)).put "version" (.text label)).put "created_at"
        (.moment old.createdAt)).put "updated_at" (.moment time) :=
    ⟨_, List.foldl_append ..⟩
  obtain ⟨before, same⟩ := last
  rw [same]
  simp [Entries.get?_put]

/-- A field that an update does not set by itself comes from what the update is given, or else from
the old record. -/
theorem get?_merge_free {key : String} (free : key ∉ protectedFields) (old : Template)
    (label : String) (time : Calendar.Moment) (updates : Fields) :
    (merge old label time updates).get? key =
      ((Entries.ofPairs updates).get? key).or (Entries.get? (old.fields .merged) key) := by
  let given : Fields := updates.filter fun field => !protectedFields.contains field.1
  let own : Fields :=
    [("id", .text old.id), ("version", .text label), ("created_at", .moment old.createdAt),
      ("updated_at", .moment time)]
  have whole : (merge old label time updates).get? key =
      ((Entries.ofPairs (given ++ own)).get? key).or (Entries.get? (old.fields .merged) key) :=
    Entries.get?_foldl_put ..
  have unset : (Entries.ofPairs own).get? key = none := by
    refine Option.eq_none_iff_forall_not_mem.2 fun x found => free ?_
    exact List.mem_map_of_mem (f := Prod.fst) (Entries.mem_of_get?_ofPairs found)
  have chosen : (!protectedFields.contains key) = true := by simpa using free
  rw [whole, Entries.get?_ofPairs_append, unset, Option.none_or,
    Entries.get?_ofPairs_filter (p := fun key => !protectedFields.contains key) updates chosen]

/-- An update keeps the identifier and the time of creation. -/
theorem Revision.kept (revision : Revision s time id updates old t label) :
    t.id = old.id ∧ t.createdAt = old.createdAt := by
  have read := Template.shape_eq_valid.1 revision.read
  obtain ⟨id, -, createdAt, -⟩ := get?_merge old label time updates
  constructor
  · have same := (Schema.fieldOr_eq_valid id).1 read.id
    exact (Schema.Checked.valid.inj same).symm
  · have same := (Schema.fieldOr_eq_valid createdAt).1 read.createdAt
    exact (Schema.Checked.valid.inj same).symm

/-- An update sets the label and the time of the update. -/
theorem Revision.set (revision : Revision s time id updates old t label) :
    t.version = label ∧ t.updatedAt = time := by
  have read := Template.shape_eq_valid.1 revision.read
  obtain ⟨-, version, -, updatedAt⟩ := get?_merge old label time updates
  constructor
  · have same := (Schema.fieldOr_eq_valid version).1 read.version
    exact (Schema.Checked.valid.inj same).symm
  · have same := (Schema.fieldOr_eq_valid updatedAt).1 read.updatedAt
    exact (Schema.Checked.valid.inj same).symm

/-- The label of an update is not one of the history's, and not the one before. -/
theorem Revision.version_free (revision : Revision s time id updates old t label) :
    t.version ∉ (s.history id).labels ∧ t.version ≠ old.version := by
  rw [revision.set.1]
  exact ⟨Label.nextFree_not_mem revision.free, Label.nextFree_ne revision.free⟩

end Store

end Promptuary
