import Promptuary.Proofs.Json.Integers
import Promptuary.Proofs.Storage.Keeping

/-!
Repositories as plain maps. In memory, in files and on a server every request is answered as a plain
map tells, and the repository has afterwards what the map has; so it is for every row of requests.
Main statement: the three kinds serve the same requests as one plain map does
(`repositories_serve_plain_map`). A document that is stored is kept under its key in its space, and
all other places are left as they were (`Repository.get_of_set`).
-/

namespace Promptuary.Storage

variable {limit : Nat} {m : Plain} {space : Space} {key : String} {d document : Datum}

/-! ### In memory -/

/-- Whether what is kept is a document that there is room to copy. -/
def KeptAs (limit : Nat) (kept document : Datum) : Prop :=
  kept = document ∧ document.copyCalls ≤ limit

/-- A repository in memory that refuses nothing and has what a map has. -/
structure Memory.Holds (limit : Nat) (r : Memory) (m : Plain) : Prop where
  allows : ∀ access space, r.refuses access space = false
  keeps : KeepsAll (KeptAs limit) r.documents m

namespace Memory

variable {r r' : Memory}

theorem allow_eq_ok {access : Access} (allowed : r.refuses access space = false) :
    r.allow access space = .ok () := by
  rw [Memory.allow, allowed]
  rfl

theorem copy_eq_ok (room : document.copyCalls ≤ limit) : copy limit document = .ok document :=
  if_pos room

/-- Storing a document puts it among the others, if there is room to copy it. -/
theorem exists_of_set (stored : r.set space key document limit = .ok r') :
    document.copyCalls ≤ limit ∧
      r' = { r with documents := r.documents.modify space (·.put key document) } := by
  obtain ⟨_, -, copying⟩ := Outcome.exists_of_bind_eq_ok stored
  obtain ⟨_, copied, same⟩ := Outcome.exists_of_bind_eq_ok copying
  unfold copy at copied
  split at copied
  · next room =>
    cases copied
    exact ⟨room, (Except.ok.inj same).symm⟩
  · cases copied

theorem keepsAll_get? (keeps : KeepsAll (KeptAs limit) r.documents m) (space : Space)
    (key : String) : (r.documents space).get? key = m (space, key) := by
  cases has : m (space, key) with
  | none => exact (keeps space).get?_of_none has
  | some d =>
    obtain ⟨a, entry, rfl, -⟩ := (keeps space).get?_of_some (i := key) has
    exact entry

/-- What is kept can be copied on its way out. -/
theorem keepsAll_get (keeps : KeepsAll (KeptAs limit) r.documents m)
    (allowed : r.refuses .get space = false) (key : String) :
    r.get space key limit = .ok ((m (space, key)).getD .null) := by
  rw [Memory.get, allow_eq_ok allowed, Outcome.ok_bind, keepsAll_get? keeps]
  cases has : m (space, key) with
  | none => exact copy_eq_ok (Nat.zero_le _)
  | some d =>
    obtain ⟨_, -, rfl, room⟩ := (keeps space).get?_of_some (i := key) has
    exact copy_eq_ok room

theorem keepsAll_put (keeps : KeepsAll (KeptAs limit) r.documents m) (space : Space)
    (key : String) (room : document.copyCalls ≤ limit) :
    KeepsAll (KeptAs limit) (r.documents.modify space (·.put key document))
      (m.put space key (some document)) :=
  keeps.modify ((keeps space).put Function.injective_id ⟨rfl, room⟩)

theorem Holds.get (holds : r.Holds limit m) (space : Space) (key : String) :
    r.get space key limit = .ok ((m (space, key)).getD .null) :=
  keepsAll_get holds.keeps (holds.allows .get space) key

theorem Holds.set (holds : r.Holds limit m) (space : Space) (key : String)
    (room : document.copyCalls ≤ limit) :
    ∃ r', r.set space key document limit = .ok r' ∧
      r'.Holds limit (m.put space key (some document)) := by
  refine ⟨{ r with documents := r.documents.modify space (·.put key document) }, ?_,
    holds.allows, keepsAll_put holds.keeps space key room⟩
  rw [Memory.set, allow_eq_ok (holds.allows .set space), Outcome.ok_bind, copy_eq_ok room]
  rfl

theorem Holds.delete (holds : r.Holds limit m) (proper : m.Proper) (space : Space)
    (key : String) : (r.delete space key).1 = (m (space, key)).isSome ∧
      (r.delete space key).2.Holds limit (m.put space key none) := by
  have here : Keeps (KeptAs limit) id ((r.documents space).erase key)
      (Function.update (m.inSpace space) key none) :=
    (holds.keeps space).erase Function.injective_id
  constructor
  · have notNull := proper.notNull (space, key)
    unfold Memory.delete
    rw [keepsAll_get? holds.keeps]
    cases has : m (space, key) with
    | none => rfl
    | some d => cases d <;> first | rfl | exact absurd has notNull
  · have all : KeepsAll (KeptAs limit) (r.documents.modify space (·.erase key))
        (m.put space key none) := holds.keeps.modify here
    exact ⟨holds.allows, all⟩

/-- The keys are listed in the order in which they are entered. -/
theorem Holds.keys (holds : r.Holds limit m) (space : Space) :
    ∃ names, r.keys space = .ok names ∧ m.Tells false (.keys space) (.keys names) := by
  have keeps := holds.keeps space
  refine ⟨(r.documents space).keys, ?_, .keys keeps.nodup keeps.mem_keys ?_⟩
  · rw [Memory.keys, allow_eq_ok (holds.allows .list space)]
    rfl
  · intro sorted
    cases sorted

end Memory

/-! ### Texts -/

/-- Whether a text is read as a document: it has one kind of line end, and its containers lie in one
another no deeper than the limit. -/
def ReadAs (limit : Nat) (text : String) (d : Datum) : Prop :=
  Json.parse text limit = .ok d ∧ '\r' ∉ text.toList

/-! ### In files -/

namespace Folder

variable {f : Folder}

/-- A repository in files that has what a map has. -/
def Holds (limit : Nat) (f : Folder) (m : Plain) : Prop := KeepsAll (ReadAs limit) f.files m

theorem unifyLineEnds_of_not_mem {cs : List Char} (none : '\r' ∉ cs) : unifyLineEnds cs = cs := by
  induction cs with
  | nil => rfl
  | cons c cs ih =>
    rw [List.mem_cons, not_or] at none
    rw [unifyLineEnds.eq_def]
    split
    · next same => exact absurd (List.cons.inj same).1.symm none.1
    · next same => exact absurd (List.cons.inj same).1.symm none.1
    · next same =>
      obtain ⟨rfl, rfl⟩ := List.cons.inj same
      rw [ih none.2]
    · next same => cases same

theorem checkKey_of_valid (valid : isValidKey key = true) : checkKey space key = .ok () :=
  if_pos valid

theorem Holds.get (holds : f.Holds limit m) (space : Space) (valid : isValidKey key = true) :
    f.get space key limit = .ok ((m (space, key)).getD .null) := by
  have keeps := holds space
  rw [Folder.get, checkKey_of_valid valid, Folder.text?]
  cases has : m (space, key) with
  | none =>
    have absent : (f.files space).get? key = none := keeps.get?_of_none has
    rw [absent]
    rfl
  | some d =>
    obtain ⟨text, entry, read, oneKind⟩ := keeps.get?_of_some (i := key) has
    have entry : (f.files space).get? key = some text := entry
    rw [entry, Option.map_some, unifyLineEnds_of_not_mem oneKind, String.ofList_toList]
    simp only [read]
    rfl

theorem Holds.set (holds : f.Holds limit m) (space : Space) (valid : isValidKey key = true)
    (noNull : key.contains '\x00' = false) (json : document.ExactJson)
    (room : document.nesting ≤ limit) :
    ∃ f', f.set space key document limit = .ok f' ∧
      f'.Holds limit (m.put space key (some document)) := by
  obtain ⟨text, printed, read⟩ := Json.parse_print .page json room
  have here : Keeps (ReadAs limit) id ((f.files space).put key text)
      (Function.update (m.inSpace space) key (some document)) :=
    (holds space).put Function.injective_id read
  have all : KeepsAll (ReadAs limit) (f.files.modify space (·.put key text))
      (m.put space key (some document)) := KeepsAll.modify holds here
  refine ⟨{ f with files := f.files.modify space (·.put key text) }, ?_, all⟩
  rw [Folder.set, checkKey_of_valid valid]
  simp only [noNull, printed]
  rfl

theorem Holds.delete (holds : f.Holds limit m) (space : Space) (valid : isValidKey key = true) :
    ∃ f', f.delete space key = .ok ((m (space, key)).isSome, f') ∧
      f'.Holds limit (m.put space key none) := by
  have keeps := holds space
  have here : Keeps (ReadAs limit) id ((f.files space).erase key)
      (Function.update (m.inSpace space) key none) := keeps.erase Function.injective_id
  have all : KeepsAll (ReadAs limit) (f.files.modify space (·.erase key)) (m.put space key none) :=
    KeepsAll.modify holds here
  have has : (f.files space).has key = (m (space, key)).isSome := keeps.has key
  refine ⟨{ f with files := f.files.modify space (·.erase key) }, ?_, all⟩
  rw [Folder.delete, checkKey_of_valid valid, has]
  rfl

theorem isEmpty_of_valid (valid : isValidKey key = true) : key.isEmpty = false := by
  simp only [isValidKey, Bool.and_eq_true, Bool.not_eq_true'] at valid
  exact valid.1.1.1

/-- Files are listed under the keys that they were stored under. -/
theorem Holds.map_listed (holds : f.Holds limit m) (proper : m.Proper) (space : Space) :
    (f.files space).keys.map listed = (f.files space).keys := by
  refine (List.map_congr_left ?_).trans (List.map_id _)
  intro key mem
  have has : (m (space, key)).isSome = true := ((holds space).mem_keys key).1 mem
  rw [listed, isEmpty_of_valid (proper.valid space key has)]
  rfl

theorem Holds.keys (holds : f.Holds limit m) (proper : m.Proper) (space : Space) :
    m.Tells true (.keys space) (.keys (f.keys space)) := by
  rw [Folder.keys, holds.map_listed proper]
  exact .sortedKeys (holds space).nodup (holds space).mem_keys

end Folder

/-! ### On a server -/

namespace Redis

variable {r : Redis} {full : String}

/-- A repository on a server that answers and has what a map has. -/
structure Holds (limit : Nat) (r : Redis) (m : Plain) : Prop where
  connected : r.connected = true
  answers : r.refuses = false
  keeps : Keeps (ReadAs limit) (fun place : Space × String => fullKey place.1 place.2) r.texts m

/-- What follows the start of a space in a name is the key whose name it is. -/
theorem keyIn?_eq_some : keyIn? space full = some key ↔ full = fullKey space key := by
  unfold keyIn? fullKey
  dsimp only
  constructor
  · intro found
    split at found
    · next starts =>
      obtain ⟨rest, split⟩ := List.isPrefixOf_iff_prefix.1 starts
      rw [← split, List.drop_left, Option.some.injEq] at found
      subst found
      refine String.toList_inj.1 ?_
      rw [← split, String.toList_append, String.toList_ofList]
    · cases found
  · rintro rfl
    rw [String.toList_append, List.drop_left, String.ofList_toList, if_pos]
    exact List.isPrefixOf_iff_prefix.2 (List.prefix_append _ _)

/-- Different keys, or keys in different spaces, have different names. -/
theorem fullKey_injective :
    Function.Injective fun place : Space × String => fullKey place.1 place.2 := by
  rintro ⟨space, key⟩ ⟨other, key'⟩ same
  have spaces : space = other := by
    have lists := congrArg String.toList same
    cases space <;> cases other <;> simp [fullKey, keyStart, Space.name] at lists ⊢
  subst spaces
  have found : keyIn? space (fullKey space key) = some key := keyIn?_eq_some.2 rfl
  have found' : keyIn? space (fullKey space key) = some key' := keyIn?_eq_some.2 same
  rw [Option.some.inj (found.symm.trans found')]

theorem Holds.require (holds : r.Holds limit m) : r.require = .ok () := if_pos holds.connected

theorem Holds.call (holds : r.Holds limit m) (what : String) (space key : Option String) :
    r.call what space key = .ok () := by
  rw [Redis.call, holds.answers]
  rfl

theorem Holds.get (holds : r.Holds limit m) (space : Space) (key : String) :
    r.get space key limit = .ok ((m (space, key)).getD .null) := by
  rw [Redis.get, holds.require, Outcome.ok_bind, holds.call, Outcome.ok_bind]
  cases has : m (space, key) with
  | none =>
    have absent : r.texts.get? (fullKey space key) = none :=
      holds.keeps.get?_of_none (i := (space, key)) has
    rw [absent]
    rfl
  | some d =>
    obtain ⟨text, entry, read, -⟩ := holds.keeps.get?_of_some (i := (space, key)) has
    have entry : r.texts.get? (fullKey space key) = some text := entry
    rw [entry]
    simp only [read]
    rfl

theorem Holds.set (holds : r.Holds limit m) (space : Space) (key : String)
    (json : document.ExactJson) (room : document.nesting ≤ limit) :
    ∃ r', r.set space key document limit = .ok r' ∧
      r'.Holds limit (m.put space key (some document)) := by
  obtain ⟨text, printed, read⟩ := Json.parse_print .line json room
  refine ⟨{ r with texts := r.texts.put (fullKey space key) text }, ?_, holds.connected,
    holds.answers, holds.keeps.put (i := (space, key)) fullKey_injective read⟩
  rw [Redis.set, holds.require, Outcome.ok_bind]
  simp only [printed]
  rw [holds.call]
  rfl

theorem Holds.delete (holds : r.Holds limit m) (space : Space) (key : String) :
    ∃ r', r.delete space key = .ok ((m (space, key)).isSome, r') ∧
      r'.Holds limit (m.put space key none) := by
  have has : r.texts.has (fullKey space key) = (m (space, key)).isSome :=
    holds.keeps.has (space, key)
  refine ⟨{ r with texts := r.texts.erase (fullKey space key) }, ?_, holds.connected,
    holds.answers, holds.keeps.erase (i := (space, key)) fullKey_injective⟩
  rw [Redis.delete, holds.require, Outcome.ok_bind, holds.call, Outcome.ok_bind]
  dsimp only
  rw [has]
  rfl

/-- A name is that of a key in a space just if the map has that key there. -/
theorem Holds.mem_keysIn (holds : r.Holds limit m) (space : Space) (key : String) :
    key ∈ r.texts.keys.filterMap (keyIn? space) ↔ (m (space, key)).isSome = true := by
  rw [List.mem_filterMap, ← holds.keeps.mem_keys (space, key)]
  constructor
  · rintro ⟨full, mem, found⟩
    rw [keyIn?_eq_some] at found
    exact found ▸ mem
  · intro mem
    exact ⟨fullKey space key, mem, keyIn?_eq_some.2 rfl⟩

theorem Holds.keys (holds : r.Holds limit m) (space : Space) :
    ∃ names, r.keys space = .ok names ∧ m.Tells true (.keys space) (.keys names) := by
  have distinct : (r.texts.keys.filterMap (keyIn? space)).Nodup := by
    refine List.Nodup.filterMap ?_ holds.keeps.nodup
    intro full full' key found found'
    rw [keyIn?_eq_some.1 found, keyIn?_eq_some.1 found']
  refine ⟨_, ?_, .sortedKeys distinct (holds.mem_keysIn space)⟩
  rw [Redis.keys, holds.require, Outcome.ok_bind, holds.call]
  rfl

end Redis

/-! ### Rows of requests -/

/-- A repository of one of the three kinds that has what a map has. -/
def Repository.Holds (limit : Nat) (m : Plain) : Repository → Prop
  | .memory r => r.Holds limit m
  | .folder f => f.Holds limit m
  | .redis r => r.Holds limit m

namespace Repository

variable {r : Repository}

theorem Holds.get (holds : r.Holds limit m) (space : Space)
    (valid : Folder.isValidKey key = true) :
    r.get space key limit = .ok ((m (space, key)).getD .null) := by
  cases r with
  | memory r => exact Memory.Holds.get holds space key
  | folder f => exact Folder.Holds.get holds space valid
  | redis r => exact Redis.Holds.get holds space key

theorem Holds.set (holds : r.Holds limit m) (space : Space)
    (valid : Folder.isValidKey key = true) (noNull : key.contains '\x00' = false)
    (json : document.ExactJson) (room : document.copyCalls ≤ limit) :
    ∃ r', r.set space key document limit = .ok r' ∧
      r'.Holds limit (m.put space key (some document)) ∧ r'.sorts = r.sorts := by
  have inner := Nat.le_trans document.nesting_le_copyCalls room
  cases r with
  | memory r =>
    obtain ⟨r', stored, holds'⟩ := Memory.Holds.set holds space key room
    exact ⟨.memory r', by rw [Repository.set, stored]; rfl, holds', rfl⟩
  | folder f =>
    obtain ⟨f', stored, holds'⟩ := Folder.Holds.set holds space valid noNull json inner
    exact ⟨.folder f', by rw [Repository.set, stored]; rfl, holds', rfl⟩
  | redis r =>
    obtain ⟨r', stored, holds'⟩ := Redis.Holds.set holds space key json inner
    exact ⟨.redis r', by rw [Repository.set, stored]; rfl, holds', rfl⟩

theorem Holds.delete (holds : r.Holds limit m) (proper : m.Proper) (space : Space)
    (valid : Folder.isValidKey key = true) :
    ∃ r', r.delete space key = .ok ((m (space, key)).isSome, r') ∧
      r'.Holds limit (m.put space key none) ∧ r'.sorts = r.sorts := by
  cases r with
  | memory r =>
    obtain ⟨found, holds'⟩ := Memory.Holds.delete holds proper space key
    exact ⟨.memory (r.delete space key).2, by rw [← found]; rfl, holds', rfl⟩
  | folder f =>
    obtain ⟨f', deleted, holds'⟩ := Folder.Holds.delete holds space valid
    exact ⟨.folder f', by rw [Repository.delete, deleted]; rfl, holds', rfl⟩
  | redis r =>
    obtain ⟨r', deleted, holds'⟩ := Redis.Holds.delete holds space key
    exact ⟨.redis r', by rw [Repository.delete, deleted]; rfl, holds', rfl⟩

theorem Holds.keys (holds : r.Holds limit m) (proper : m.Proper) (space : Space) :
    ∃ names, r.keys space = .ok names ∧ m.Tells r.sorts (.keys space) (.keys names) := by
  cases r with
  | memory r => exact Memory.Holds.keys holds space
  | folder f => exact ⟨f.keys space, rfl, Folder.Holds.keys holds proper space⟩
  | redis r => exact Redis.Holds.keys holds space

/-- One request is answered as a plain map tells, and the repository has what the map has
afterwards. -/
theorem Holds.serve (holds : r.Holds limit m) (proper : m.Proper) {q : Request}
    (fits : q.Fits limit) :
    ∃ a r', r.serve limit q = .ok (a, r') ∧ m.Tells r.sorts q a ∧ r'.Holds limit (m.after q) ∧
      r'.sorts = r.sorts := by
  cases q with
  | get space key =>
    refine ⟨_, r, ?_, .get space key, holds, rfl⟩
    rw [Repository.serve, holds.get space fits]
    rfl
  | set space key document =>
    obtain ⟨valid, noNull, json, -, room⟩ := fits
    obtain ⟨r', stored, holds', sorts⟩ := holds.set space valid noNull json room
    refine ⟨.stored, r', ?_, .set space key document, holds', sorts⟩
    rw [Repository.serve, stored]
    rfl
  | delete space key =>
    obtain ⟨r', deleted, holds', sorts⟩ := holds.delete proper space fits
    refine ⟨_, r', ?_, .delete space key, holds', sorts⟩
    rw [Repository.serve, deleted]
    rfl
  | keys space =>
    obtain ⟨names, listed, tells⟩ := holds.keys proper space
    refine ⟨.keys names, r, ?_, tells, holds, rfl⟩
    rw [Repository.serve, listed]
    rfl

/-- Requests one after another are answered as a plain map tells. -/
theorem Holds.serveAll (holds : r.Holds limit m) (proper : m.Proper)
    {requests : List Request} (fit : ∀ q ∈ requests, q.Fits limit) :
    ∃ answers r', r.serveAll limit requests = .ok (answers, r') ∧
      m.TellsAll r.sorts requests answers := by
  induction requests generalizing r m with
  | nil => exact ⟨[], r, rfl, .nil m⟩
  | cons q requests ih =>
    obtain ⟨here, later⟩ := List.forall_mem_cons.1 fit
    obtain ⟨a, r', served, tells, holds', sorts⟩ := holds.serve proper here
    obtain ⟨answers, r'', rest, all⟩ := ih holds' (proper.after here) later
    rw [sorts] at all
    refine ⟨a :: answers, r'', ?_, .cons tells all⟩
    rw [Repository.serveAll, served, Outcome.ok_bind, rest]
    rfl

end Repository

/-- Whatever requests are made of new repositories, with JSON nested to any depth for which there is
room to copy it, each is answered as a plain map tells: a document is the one that was stored last
under its key, or null, a deletion tells whether there was one, and exactly the keys that have one
are listed, in sorted order from files and from a server, which therefore give the same answers. -/
theorem repositories_serve_plain_map (limit : Nat) (directory : String) (requests : List Request)
    (fit : ∀ q ∈ requests, q.Fits limit) :
    (∃ answers r, (Repository.memory .empty).serveAll limit requests = .ok (answers, r) ∧
      Plain.TellsAll false .empty requests answers) ∧
    ∃ answers f r,
      (Repository.folder ⟨directory, .empty⟩).serveAll limit requests = .ok (answers, f) ∧
      (Repository.redis ⟨[], true, false⟩).serveAll limit requests = .ok (answers, r) ∧
      Plain.TellsAll true .empty requests answers := by
  have memory : (Repository.memory .empty).Holds limit .empty :=
    ⟨fun _ _ => rfl, fun _ => keeps_nil⟩
  have folder : (Repository.folder ⟨directory, .empty⟩).Holds limit .empty := fun _ => keeps_nil
  have redis : (Repository.redis ⟨[], true, false⟩).Holds limit .empty := ⟨rfl, rfl, keeps_nil⟩
  constructor
  · exact memory.serveAll Plain.proper_empty fit
  · obtain ⟨answers, f, served, tells⟩ := folder.serveAll Plain.proper_empty fit
    obtain ⟨answers', r, served', tells'⟩ := redis.serveAll Plain.proper_empty fit
    obtain rfl : answers' = answers := tells.unique tells'
    exact ⟨answers', f, r, served, served', tells⟩

/-- Requests for one key in two spaces, with a document that has another letter and containers in
one another. -/
def sampleRequests : List Request :=
  [.set .templates "a" (.object [("\u00e9", .list [.int (-1), .null])]),
    .set .versions "a" (.bool false), .delete .versions "a", .get .templates "a", .keys .templates]

theorem repositories_serve_plain_map_sampleRequests :
    (∀ q ∈ sampleRequests, q.Fits Datum.callLimit) ∧
      ∃ answers f r,
        (Repository.folder ⟨"data", .empty⟩).serveAll Datum.callLimit sampleRequests =
          .ok (answers, f) ∧
        (Repository.redis ⟨[], true, false⟩).serveAll Datum.callLimit sampleRequests =
          .ok (answers, r) ∧
        Plain.TellsAll true .empty sampleRequests answers := by
  have valid : Folder.isValidKey "a" = true := by simp [Folder.isValidKey]
  have noNull : "a".contains '\x00' = false := by simp
  have items : ∀ x ∈ [Datum.int (-1), .null], x.ExactJson := by
    simp only [List.forall_mem_cons]
    exact ⟨.int (by decide +kernel), .null, by simp⟩
  have json : (Datum.object [("\u00e9", .list [.int (-1), .null])]).ExactJson :=
    .object (by decide) (by simpa using .list items)
  have fit : ∀ q ∈ sampleRequests, q.Fits Datum.callLimit := by
    simp only [sampleRequests, List.forall_mem_cons]
    refine ⟨⟨valid, noNull, json, ?_, by decide⟩, ⟨valid, noNull, .bool false, ?_, by decide⟩,
      valid, valid, trivial, by simp⟩
    · intro same
      cases same
    · intro same
      cases same
  exact ⟨fit, (repositories_serve_plain_map Datum.callLimit "data" sampleRequests fit).2⟩

/-! ### What is refused -/

theorem exactJson_nestedLists (n : Nat) : (Datum.nestedLists n).ExactJson := by
  induction n with
  | zero => exact .list fun _ mem => absurd mem List.not_mem_nil
  | succ n ih => exact .list fun x mem => List.mem_singleton.1 mem ▸ ih

/-- A document that there is no room to copy is refused in memory. -/
theorem Memory.set_of_beyond {r : Memory} (allowed : r.refuses .set space = false)
    (beyond : limit < document.copyCalls) :
    r.set space key document limit = .error .tooManyCalls := by
  rw [Memory.set, allow_eq_ok allowed, Outcome.ok_bind, copy, if_neg (Nat.not_le_of_lt beyond)]
  rfl

/-- However much room there is, some lists in one another are stored in files and on a server, and
refused in memory, since copying takes two calls for each. A key with a null character is fit for
the name of a file, and no file can be made for it. -/
theorem serve_refuses_nested_and_null :
    (∀ limit, 0 < limit → ∃ deep : Datum, deep.ExactJson ∧ deep ≠ .null ∧
      (Repository.memory .empty).serve limit (.set .templates "a" deep) = .error .tooManyCalls ∧
      (∃ f, (Repository.folder ⟨"data", .empty⟩).serve limit (.set .templates "a" deep) =
        .ok (.stored, f)) ∧
      ∃ r, (Repository.redis ⟨[], true, false⟩).serve limit (.set .templates "a" deep) =
        .ok (.stored, r)) ∧
    Folder.isValidKey "a\x00b" = true ∧
      (Repository.folder ⟨"data", .empty⟩).serve Datum.callLimit
          (.set .templates "a\x00b" (.int 1)) =
        .error (.storage "Failed to write data/templates/a\x00b.json: embedded null byte"
          (some "templates") (some "a\x00b")) := by
  have nullValid : Folder.isValidKey "a\x00b" = true := by simp [Folder.isValidKey]
  refine ⟨fun limit positive => ?_, nullValid, ?_⟩
  · have json := exactJson_nestedLists (limit / 2)
    have copying := Datum.copyCalls_nestedLists (limit / 2)
    have nesting := Datum.nesting_nestedLists (limit / 2)
    have valid : Folder.isValidKey "a" = true := by simp [Folder.isValidKey]
    have noNull : "a".contains '\x00' = false := by simp
    have folder : Folder.Holds limit ⟨"data", .empty⟩ .empty := fun _ => keeps_nil
    have redis : Redis.Holds limit ⟨[], true, false⟩ .empty := ⟨rfl, rfl, keeps_nil⟩
    obtain ⟨f, written, -⟩ := folder.set .templates valid noNull json (by omega)
    obtain ⟨r, sent, -⟩ := redis.set .templates "a" json (by omega)
    refine ⟨Datum.nestedLists (limit / 2), json, ?_, ?_, ⟨.folder f, ?_⟩, ⟨.redis r, ?_⟩⟩
    · cases limit / 2 <;> exact nofun
    · rw [Repository.serve, Repository.set, Memory.set_of_beyond rfl (by omega)]
      rfl
    · rw [Repository.serve, Repository.set, written]
      rfl
    · rw [Repository.serve, Repository.set, sent]
      rfl
  · have null : "a\x00b".contains '\x00' = true := by simp
    rw [Repository.serve, Repository.set, Folder.set, Folder.checkKey_of_valid nullValid,
      Outcome.ok_bind]
    simp only [null]
    rfl

/-! ### Storing one document -/

section

variable {other : Space} {id : String}

theorem Spaces.get?_modify_put_of_ne {α : Type} (spaces : Spaces α) (a : α)
    (ne : (other, id) ≠ (space, key)) :
    ((spaces.modify space (·.put key a)) other).get? id = (spaces other).get? id := by
  by_cases same : other = space
  · subst same
    rw [Spaces.modify_self]
    exact Entries.get?_put_of_ne _ _ fun here => ne (congrArg _ here.symm)
  · rw [Spaces.modify_of_ne _ same]

theorem Folder.exists_of_set {f f' : Folder} (stored : f.set space key document limit = .ok f') :
    (isValidKey key = true ∧ key.contains '\x00' = false ∧ document.nesting ≤ limit) ∧
      ∃ text, f' = { f with files := f.files.modify space (·.put key text) } := by
  obtain ⟨_, checked, rest⟩ := Outcome.exists_of_bind_eq_ok stored
  have valid : isValidKey key = true := by
    unfold checkKey at checked
    split at checked
    · assumption
    · cases checked
  dsimp only at rest
  split at rest
  · cases rest
  · next noNull =>
    split at rest
    · next text printed =>
      exact ⟨⟨valid, by simpa using noNull, Json.nesting_le_of_print printed⟩, text,
        (Except.ok.inj rest).symm⟩
    · cases rest
    · cases rest

theorem Redis.exists_of_set {r r' : Redis} (stored : r.set space key document limit = .ok r') :
    document.nesting ≤ limit ∧
      ∃ text, r' = { r with texts := r.texts.put (fullKey space key) text } := by
  obtain ⟨_, -, rest⟩ := Outcome.exists_of_bind_eq_ok stored
  split at rest
  · cases rest
  · next text printed =>
    obtain ⟨_, -, same⟩ := Outcome.exists_of_bind_eq_ok rest
    exact ⟨Json.nesting_le_of_print printed, text, (Except.ok.inj same).symm⟩

/-- Storing a document leaves what can be had from all other places. -/
theorem Repository.get_of_set {r r' : Repository} (stored : r.set space key document = .ok r')
    (ne : (other, id) ≠ (space, key)) : r'.get other id = r.get other id := by
  cases r with
  | memory m =>
    obtain ⟨m', same, rfl⟩ := Outcome.exists_of_map_eq_ok stored
    obtain ⟨-, rfl⟩ := Memory.exists_of_set same
    change Memory.get _ other id = m.get other id
    unfold Memory.get
    rw [Spaces.get?_modify_put_of_ne _ _ ne]
    rfl
  | folder f =>
    obtain ⟨f', same, rfl⟩ := Outcome.exists_of_map_eq_ok stored
    obtain ⟨-, text, rfl⟩ := Folder.exists_of_set same
    change Folder.get _ other id = f.get other id
    unfold Folder.get Folder.text?
    rw [Spaces.get?_modify_put_of_ne _ _ ne]
    rfl
  | redis r =>
    obtain ⟨r', same, rfl⟩ := Outcome.exists_of_map_eq_ok stored
    obtain ⟨-, text, rfl⟩ := Redis.exists_of_set same
    have apart := Redis.fullKey_injective.ne ne.symm
    dsimp only at apart
    change Redis.get _ other id = r.get other id
    unfold Redis.get
    rw [Entries.get?_put_of_ne _ _ apart]
    rfl

end

end Promptuary.Storage
