import Promptuary.Proofs.Storage.Refinement
import Promptuary.Proofs.Store.Run

/-!
Repositories that give back what was stored in them, also while the medium refuses to write. In
memory this is so of every document that could be stored; in files and on a server it is so of
documents that are read from their texts as they were written.
-/

namespace Promptuary.Storage

/-- Repositories give back the documents that were stored in them, as far as these are fit, and go
on to do so when the medium refuses to write. That a repository holds a map means that what is
stored in it is what the map has. -/
structure Returns (holds : Plain → Repository → Prop) (fit : Datum → Prop) : Prop where
  get : ∀ {m r space key document}, holds m r → m (space, key) = some document →
    r.get space key = .ok document
  keys : ∀ {m r}, holds m r → ∀ space, ∃ names, r.keys space = .ok names ∧
    ∀ key, key ∈ names ↔ (m (space, key)).isSome = true
  set : ∀ {m r r' space key document}, holds m r → fit document →
    r.set space key document = .ok r' → holds (m.put space key (some document)) r'
  refuse : ∀ {m r} (writes : Space → Bool), holds m r → holds m (Store.disturbed writes false r)

theorem Plain.Tells.mem_keys {m : Plain} {sorted : Bool} {space : Space} {names : List String}
    (tells : m.Tells sorted (.keys space) (.keys names)) (key : String) :
    key ∈ names ↔ (m (space, key)).isSome = true := by
  cases tells with
  | keys _ has _ => exact has key

/-! ### The three kinds -/

/-- A repository in memory that can be read and has what a map has. -/
def InMemory (m : Plain) (r : Repository) : Prop :=
  ∃ memory, r = .memory memory ∧
    (∀ space, memory.refuses .get space = false ∧ memory.refuses .list space = false) ∧
    KeepsAll (KeptAs Datum.callLimit) memory.documents m

/-- A repository in files that has what a map has. -/
def InFiles (m : Plain) (r : Repository) : Prop :=
  ∃ folder, r = .folder folder ∧ folder.Holds Datum.callLimit m ∧ m.Proper

/-- A repository in a server that answers and has what a map has. -/
def OnServer (m : Plain) (r : Repository) : Prop :=
  ∃ redis, r = .redis redis ∧ redis.Holds Datum.callLimit m

theorem inMemory_empty {refuses : Access → Space → Bool}
    (readable : ∀ space, refuses .get space = false ∧ refuses .list space = false) :
    InMemory .empty (.memory ⟨.empty, refuses⟩) :=
  ⟨_, rfl, readable, fun _ => keeps_nil⟩

theorem inFiles_empty (directory : String) : InFiles .empty (.folder ⟨directory, .empty⟩) :=
  ⟨_, rfl, fun _ => keeps_nil, Plain.proper_empty⟩

theorem onServer_empty : OnServer .empty (.redis ⟨[], true, false⟩) :=
  ⟨_, rfl, rfl, rfl, keeps_nil⟩

/-- Repositories in memory give back whatever was stored in them. -/
theorem returns_inMemory : Returns InMemory fun _ => True where
  get := by
    rintro m _ space key document ⟨memory, rfl, readable, keeps⟩ found
    have got := Memory.keepsAll_get keeps (readable space).1 key
    rwa [found] at got
  keys := by
    rintro m _ ⟨memory, rfl, readable, keeps⟩ space
    refine ⟨(memory.documents space).keys, ?_, (keeps space).mem_keys⟩
    change memory.keys space = _
    rw [Memory.keys, Memory.allow_eq_ok (readable space).2]
    rfl
  set := by
    rintro m _ _ space key document ⟨memory, rfl, readable, keeps⟩ - stored
    obtain ⟨memory', same, rfl⟩ := Outcome.exists_of_map_eq_ok stored
    obtain ⟨room, rfl⟩ := Memory.exists_of_set same
    exact ⟨_, rfl, readable, Memory.keepsAll_put keeps space key room⟩
  refuse := by
    rintro m _ writes ⟨memory, rfl, -, keeps⟩
    exact ⟨_, rfl, fun _ => ⟨rfl, rfl⟩, keeps⟩

/-- Repositories in files give back JSON without floats. -/
theorem returns_inFiles : Returns InFiles fun document => document.ExactJson ∧ document ≠ .null where
  get := by
    rintro m _ space key document ⟨folder, rfl, holds, proper⟩ found
    have valid := proper.valid space key (by rw [found]; rfl)
    have got := holds.get space valid
    rwa [found] at got
  keys := by
    rintro m _ ⟨folder, rfl, holds, proper⟩ space
    exact ⟨_, rfl, (holds.keys proper space).mem_keys⟩
  set := by
    rintro m _ _ space key document ⟨folder, rfl, holds, proper⟩ ⟨json, notNull⟩ stored
    obtain ⟨folder', same, rfl⟩ := Outcome.exists_of_map_eq_ok stored
    obtain ⟨⟨valid, noNull, room⟩, -⟩ := Folder.exists_of_set same
    obtain ⟨folder'', again, holds'⟩ := holds.set space valid noNull json room
    cases same.symm.trans again
    exact ⟨folder', rfl, holds', proper.put (by simpa using notNull) valid⟩
  refuse := by
    rintro m _ writes ⟨folder, rfl, holds, proper⟩
    exact ⟨folder, rfl, holds, proper⟩

/-- Repositories in a server give back JSON without floats. -/
theorem returns_onServer : Returns OnServer Datum.ExactJson where
  get := by
    rintro m _ space key document ⟨redis, rfl, holds⟩ found
    have got := holds.get space key
    rwa [found] at got
  keys := by
    rintro m _ ⟨redis, rfl, holds⟩ space
    obtain ⟨names, listed, tells⟩ := holds.keys space
    exact ⟨names, listed, tells.mem_keys⟩
  set := by
    rintro m _ _ space key document ⟨redis, rfl, holds⟩ json stored
    obtain ⟨redis', same, rfl⟩ := Outcome.exists_of_map_eq_ok stored
    obtain ⟨room, -⟩ := Redis.exists_of_set same
    obtain ⟨redis'', again, holds'⟩ := holds.set space key json room
    cases same.symm.trans again
    exact ⟨redis', rfl, holds'⟩
  refuse := by
    rintro m _ writes ⟨redis, rfl, connected, -, keeps⟩
    exact ⟨_, rfl, connected, rfl, keeps⟩

end Promptuary.Storage
