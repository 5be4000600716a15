import Mathlib.Data.List.Sort
import Mathlib.Logic.Function.Basic
import Promptuary.Proofs.Json.RoundTrip
import Promptuary.Storage.Repository

/-!
What repositories are for. A plain map has one document at most for each key of each space; it says
what is answered to a request, and what the map is afterwards. Keys may be listed in any order, or
have to be sorted; where they are sorted there is one answer only.
-/

namespace Promptuary.Storage

/-! ### Requests -/

/-- What a caller asks of a repository. -/
inductive Request where
  | get (space : Space) (key : String)
  | set (space : Space) (key : String) (document : Datum)
  | delete (space : Space) (key : String)
  | keys (space : Space)

/-- What a repository answers. -/
inductive Answer where
  | document (d : Datum)
  | stored
  | deleted (found : Bool)
  | keys (names : List String)

namespace Repository

/-- Answers a request. The calls that a document takes may lie in one another up to a limit. -/
def serve (limit : Nat) (r : Repository) : Request → Except Failure (Answer × Repository)
  | .get space key => (r.get space key limit).map fun d => (.document d, r)
  | .set space key document => (r.set space key document limit).map fun r => (.stored, r)
  | .delete space key => (r.delete space key).map fun done => (.deleted done.1, done.2)
  | .keys space => (r.keys space).map fun names => (.keys names, r)

/-- Answers requests one after another. -/
def serveAll (limit : Nat) (r : Repository) :
    List Request → Except Failure (List Answer × Repository)
  | [] => .ok ([], r)
  | q :: requests => do
    let first ← r.serve limit q
    let others ← first.2.serveAll limit requests
    return (first.1 :: others.1, others.2)

/-- Whether the keys of a repository are listed in sorted order. -/
def sorts : Repository → Bool
  | .memory _ => false
  | .folder _ => true
  | .redis _ => true

end Repository

/-- Whether a request can be made of every repository: its key is fit for the name of a file, and a
document to be stored is JSON without floats, not null, there is room for the calls that copying it
takes, and its key has no null character. -/
def Request.Fits (limit : Nat) : Request → Prop
  | .get _ key => Folder.isValidKey key = true
  | .set _ key document => Folder.isValidKey key = true ∧ key.contains '\x00' = false ∧
    document.ExactJson ∧ document ≠ .null ∧ document.copyCalls ≤ limit
  | .delete _ key => Folder.isValidKey key = true
  | .keys _ => True

/-! ### Plain maps -/

/-- A plain map from the keys of each space to documents. -/
abbrev Plain := Space × String → Option Datum

namespace Plain

variable {m : Plain} {q : Request} {a a' : Answer} {requests : List Request}
  {answers answers' : List Answer}

/-- The map that has nothing. -/
def empty : Plain := fun _ => none

/-- The map with something else, or nothing, for a key of a space, and with all else as it is. -/
def put (m : Plain) (space : Space) (key : String) (d? : Option Datum) : Plain :=
  Function.update m (space, key) d?

/-- The map after a request. -/
def after (m : Plain) : Request → Plain
  | .get _ _ => m
  | .set space key document => m.put space key (some document)
  | .delete space key => m.put space key none
  | .keys _ => m

/-- What is answered to a request: the document of a key or null, whether a key had one, and all
keys that have one, perhaps in sorted order. -/
inductive Tells (m : Plain) (sorted : Bool) : Request → Answer → Prop where
  | get (space : Space) (key : String) :
      Tells m sorted (.get space key) (.document ((m (space, key)).getD .null))
  | set (space : Space) (key : String) (document : Datum) :
      Tells m sorted (.set space key document) .stored
  | delete (space : Space) (key : String) :
      Tells m sorted (.delete space key) (.deleted (m (space, key)).isSome)
  | keys {space : Space} {names : List String} : names.Nodup →
      (∀ key, key ∈ names ↔ (m (space, key)).isSome = true) →
      (sorted = true → names.Pairwise (· < ·)) → Tells m sorted (.keys space) (.keys names)

/-- What is answered to requests one after another. -/
inductive TellsAll (sorted : Bool) : Plain → List Request → List Answer → Prop where
  | nil (m : Plain) : TellsAll sorted m [] []
  | cons {m : Plain} {q : Request} {a : Answer} {requests : List Request} {answers : List Answer} :
      m.Tells sorted q a → TellsAll sorted (m.after q) requests answers →
      TellsAll sorted m (q :: requests) (a :: answers)

/-- Where keys are sorted, there is one answer. -/
theorem Tells.unique (first : m.Tells true q a) (second : m.Tells true q a') : a' = a := by
  cases first with
  | get => cases second with | get => rfl
  | set => cases second with | set => rfl
  | delete => cases second with | delete => rfl
  | keys distinct has sorted =>
    cases second with
    | keys distinct' has' sorted' =>
      refine congrArg Answer.keys ?_
      refine List.Perm.eq_of_pairwise ?_ (sorted' rfl) (sorted rfl) ?_
      · intro x y _ _ lt gt
        exact absurd gt (String.lt_asymm lt)
      · refine (List.perm_ext_iff_of_nodup distinct' distinct).2 ?_
        intro key
        rw [has, has']

theorem TellsAll.unique (all : TellsAll true m requests answers)
    (all' : TellsAll true m requests answers') : answers' = answers := by
  induction all generalizing answers' with
  | nil =>
    cases all'
    rfl
  | cons tells _ ih =>
    cases all' with
    | cons tells' rest' => rw [tells.unique tells', ih rest']

/-! ### What is in a map -/

/-- What may be in a map: documents that are not null, under keys fit for the names of files. -/
structure Proper (m : Plain) : Prop where
  notNull : ∀ place, m place ≠ some .null
  valid : ∀ space key, (m (space, key)).isSome = true → Folder.isValidKey key = true

theorem proper_empty : Proper empty where
  notNull := by simp [empty]
  valid := by simp [empty]

theorem put_self (m : Plain) (space : Space) (key : String) (d? : Option Datum) :
    m.put space key d? (space, key) = d? := Function.update_self ..

theorem put_of_ne (m : Plain) {space : Space} {key : String} {place : Space × String}
    (d? : Option Datum) (ne : place ≠ (space, key)) : m.put space key d? place = m place :=
  Function.update_of_ne ne ..

theorem put_apply (m : Plain) (space other : Space) (key id : String) (d? : Option Datum) :
    m.put space key d? (other, id) = if other = space ∧ id = key then d? else m (other, id) := by
  simp [put, Function.update_apply]

theorem Proper.put (proper : m.Proper) {space : Space} {key : String} {d? : Option Datum}
    (notNull : d? ≠ some .null) (valid : Folder.isValidKey key = true) :
    (m.put space key d?).Proper where
  notNull := by
    intro place
    by_cases here : place = (space, key)
    · subst here
      rw [put_self]
      exact notNull
    · rw [put_of_ne m d? here]
      exact proper.notNull place
  valid := by
    intro other id has
    by_cases here : (other, id) = (space, key)
    · cases here
      exact valid
    · rw [put_of_ne m d? here] at has
      exact proper.valid other id has

theorem Proper.after {limit : Nat} (proper : m.Proper) (fits : q.Fits limit) :
    (m.after q).Proper := by
  cases q with
  | get space key => exact proper
  | keys space => exact proper
  | set space key document =>
    obtain ⟨valid, -, -, notNull, -⟩ := fits
    exact proper.put (by simpa using notNull) valid
  | delete space key => exact proper.put (by simp) fits

/-- What a map has in one space. -/
def inSpace (m : Plain) (space : Space) (key : String) : Option Datum := m (space, key)

theorem inSpace_put_self (m : Plain) (space : Space) (key : String) (d? : Option Datum) :
    (m.put space key d?).inSpace space = Function.update (m.inSpace space) key d? := by
  funext id
  by_cases here : id = key
  · subst here
    simp [inSpace, put]
  · simp [inSpace, put, here]

theorem inSpace_put_of_ne (m : Plain) {space other : Space} (key : String) (d? : Option Datum)
    (ne : other ≠ space) : (m.put space key d?).inSpace other = m.inSpace other := by
  funext id
  simp [inSpace, put, ne]

end Plain

end Promptuary.Storage
