import Promptuary.Execution.Recorder
import Promptuary.Proofs.Execution.Recording
import Promptuary.Proofs.Store.Restart
import Promptuary.Proofs.Template.Plain

/-!
Runs of a recorder over a repository that may refuse to store. The recorder keeps the last
executions of each template that it could record, the repository has their document, every call is
announced by what became of it, and a new recorder that loads the repository keeps the same
executions: an execution comes back as it was, if its bindings are JSON and its time can be written
in full; offsets are written in hours and minutes only.
-/

namespace Promptuary

/-! ### Documents -/

section

open Schema

/-- Scalars that are read as they were written, and are not written as null. -/
class Scalar.Legible (α : Type) [Scalar α] : Prop where
  shape_toDatum : ∀ x : α, Scalar.shape (Scalar.toDatum x) = .valid x
  present : ∀ x : α, Scalar.toDatum x ≠ .null

instance : Scalar.Legible Float := ⟨fun _ => rfl, nofun⟩

variable {α : Type} [Scalar α]

theorem TokenUsage.shape_ofUsage (u : TokenUsage) :
    TokenUsage.shape (Datum.ofUsage u) = .valid u := rfl

namespace Execution

/-- An execution whose bindings are JSON, at a time that can be written in full. -/
structure Plain (e : Execution α) : Prop where
  bindings : Datum.fieldsAreJson e.bindings = true
  shown : e.executedAt.Shown
  wholeMinutes : e.executedAt.WholeMinutes

theorem Plain.shape_stored [Scalar.Legible α] {e : Execution α} (plain : e.Plain)
    (now : Calendar.Moment) : shape now (e.toDatum .stored) = .valid e := by
  have moments : Form.stored.moment e.executedAt = .text e.executedAt.iso := rfl
  have free : Form.stored.freeFields e.bindings = .object e.bindings := by
    have same := map_stored_of_fieldsAreJson plain.bindings
    exact congrArg Datum.object same
  have quality := nullable_orNull (f := id) (Scalar.Legible.shape_toDatum (α := α))
    Scalar.Legible.present e.quality
  rw [Option.map_id] at quality
  unfold shape toDatum record
  simp [fieldOr, field, Entries.get?_cons, text, truth, free, mapping_anything,
    Scalar.Legible.shape_toDatum, TokenUsage.shape_ofUsage, nullable_ofText, quality,
    moment_stored plain.shown plain.wholeMinutes, moments, Checked.within]
  rfl

end Execution

namespace Recorder

/-- The document of executions, if all of them can be written. -/
def dump (buffer : List (Execution α)) : Datum := .list (buffer.map (·.toDatum .stored))

theorem eq_dump_of_document {buffer : List (Execution α)} {written : Datum}
    (ok : document buffer = .ok written) : written = dump buffer :=
  documentOfAll_eq_ok (fun _ _ => documentOf_eq_ok) ok

theorem list_shape_dump [Scalar.Legible α] {buffer : List (Execution α)}
    (plain : ∀ e ∈ buffer, e.Plain) (now : Calendar.Moment) :
    list (Execution.shape now) (dump buffer) = .valid buffer := by
  have read := list_map (f := id) fun e mem => (plain e mem).shape_stored now
  rwa [List.map_id] at read

theorem isPresent_dump {buffer : List (Execution α)} (some : buffer ≠ []) :
    (dump buffer).isPresent = true := by
  cases buffer with
  | nil => exact absurd rfl some
  | cons e buffer => rfl

end Recorder

end

open Operation
open Schema (list)
open Storage (Repository Returns Space)

namespace Recorder

variable {α : Type}

/-! ### Calls -/

/-- A call to record an execution, with its result. -/
structure Call (α : Type) where
  execution : Execution α
  result : Except Failure Unit

/-- The execution of a call that succeeded. -/
def Call.recorded? (c : Call α) : Option (Execution α) :=
  match c.result with
  | .ok _ => some c.execution
  | .error _ => none

/-- The executions of a template that calls have recorded, in order. -/
def recordedOf (id : String) (made : List (Call α)) : List (Execution α) :=
  (made.filterMap Call.recorded?).filter (·.templateId == id)

section

variable {id : String} {made : List (Call α)} {e : Execution α} {f : Failure}

theorem recordedOf_failed : recordedOf id (made ++ [⟨e, .error f⟩]) = recordedOf id made := by
  simp [recordedOf, Call.recorded?]

theorem recordedOf_recorded : recordedOf id (made ++ [⟨e, .ok ()⟩]) =
    recordedOf id made ++ if e.templateId = id then [e] else [] := by
  by_cases here : e.templateId = id
  · simp [recordedOf, Call.recorded?, here]
  · simp [recordedOf, Call.recorded?, here]

theorem exists_call_of_mem_recordedOf (mem : e ∈ recordedOf id made) :
    ∃ c ∈ made, c.execution = e := by
  obtain ⟨c, among, is⟩ := List.mem_filterMap.1 (List.mem_of_mem_filter mem)
  refine ⟨c, among, ?_⟩
  unfold Call.recorded? at is
  split at is
  · exact Option.some.inj is
  · cases is

end

variable [Scalar α]

/-- What is announced of a call. -/
def Call.notice (c : Call α) : Notice :=
  match c.result with
  | .ok _ => recordedNotice c.execution
  | .error f => failedNotice c.execution f

/-! ### Turns -/

/-- What happens to a recorder from outside. -/
inductive Turn (α : Type) where
  | record (e : Execution α)
  /-- The medium refuses to write to some spaces from now on, or writes again. -/
  | disturb (writes : Space → Bool)

/-- The desk after a turn. -/
def Turn.after : Turn α → Desk (Recorder α) → Desk (Recorder α)
  | .record e, d => ((Recorder.record e).on d).2
  | .disturb writes, d =>
    { d with shared :=
      { d.shared with repository := Store.disturbed writes false d.shared.repository } }

/-- The desk after a run. -/
def run (turns : List (Turn α)) (d : Desk (Recorder α)) : Desk (Recorder α) :=
  turns.foldl (fun d turn => turn.after d) d

/-- The call of a turn, if it is one. -/
def Turn.call? : Turn α → Desk (Recorder α) → Option (Call α)
  | .record e, d => some ⟨e, ((Recorder.record e).on d).1⟩
  | .disturb _, _ => none

/-- The calls of a run, in order. -/
def calls : List (Turn α) → Desk (Recorder α) → List (Call α)
  | [], _ => []
  | turn :: turns, d => (turn.call? d).toList ++ calls turns (turn.after d)

/-! ### What a run amounts to -/

/-- A desk at which calls were made, after one at which nothing was kept: of each template the last
executions that were recorded are kept, up to the bound, the repository has their document, and the
calls are announced. -/
structure Accounts (holds : Storage.Plain → Repository → Prop) (bound : Nat) (made : List (Call α))
    (d d' : Desk (Recorder α)) : Prop where
  suffix : ∀ id, d'.own.executions id <:+ recordedOf id made
  length : ∀ id, (d'.own.executions id).length = min (recordedOf id made).length bound
  document : ∃ m, holds m d'.shared.repository ∧ ∀ id, m (.executions, id) =
    if recordedOf id made = [] then none else some (dump (d'.own.executions id))
  notices : d'.notices = d.notices ++ made.map Call.notice

/-! ### What each turn keeps -/

/-- A desk at which calls were made after another one, with executions that have some property. -/
structure Mirrors (holds : Storage.Plain → Repository → Prop) (P : Execution α → Prop)
    (made : List (Call α)) (d d' : Desk (Recorder α)) : Prop where
  enabled : d'.own.enabled = true
  bound : d'.own.bound = d.own.bound
  buffers : ∀ id, d'.own.buffers.get? id = if recordedOf id made = [] then none
    else some (lastItems d.own.bound (recordedOf id made))
  documents : ∃ m, holds m d'.shared.repository ∧ ∀ id, m (.executions, id) =
    (d'.own.buffers.get? id).map dump
  notices : d'.notices = d.notices ++ made.map Call.notice
  given : ∀ c ∈ made, P c.execution

section

variable {holds : Storage.Plain → Repository → Prop} {fit : Datum → Prop} {P : Execution α → Prop}
  {made : List (Call α)} {d d' : Desk (Recorder α)}

theorem Mirrors.executions_eq (mirrors : Mirrors holds P made d d') (id : String) :
    d'.own.executions id = lastItems d.own.bound (recordedOf id made) := by
  rw [executions, mirrors.buffers]
  split
  · next none => simp [none, lastItems]
  · rfl

theorem Mirrors.held (mirrors : Mirrors holds P made d d') (id : String) :
    ∀ e ∈ d'.own.executions id, P e := by
  intro e mem
  rw [mirrors.executions_eq] at mem
  obtain ⟨c, among, rfl⟩ := exists_call_of_mem_recordedOf ((lastItems_suffix ..).mem mem)
  exact mirrors.given c among

/-- What is kept of a template is not empty and within the bound. -/
theorem Mirrors.kept (mirrors : Mirrors holds P made d d') (positive : 1 ≤ d.own.bound)
    {id : String} {buffer : List (Execution α)} (kept : d'.own.buffers.get? id = some buffer) :
    buffer ≠ [] ∧ buffer.length ≤ d.own.bound ∧ ∀ e ∈ buffer, P e := by
  have same : d'.own.executions id = buffer := by rw [executions, kept]; rfl
  refine ⟨?_, ?_, fun e mem => mirrors.held id e (same ▸ mem)⟩
  · rw [mirrors.buffers] at kept
    split at kept
    · cases kept
    · next filled =>
      cases kept
      rw [← List.length_pos_iff, length_lastItems]
      have recorded := List.length_pos_iff.2 filled
      omega
  · rw [← same, mirrors.executions_eq, length_lastItems]
    exact Nat.min_le_right ..

/-- A call that fails leaves the executions and the repository as they are. -/
theorem Mirrors.failed {e : Execution α} {f : Failure} {d'' : Desk (Recorder α)}
    (mirrors : Mirrors holds P made d d') (given : P e)
    (leads : d'.Leads d'' d'.own d'.shared.repository [failedNotice e f]) :
    Mirrors holds P (made ++ [⟨e, .error f⟩]) d d'' where
  enabled := leads.own ▸ mirrors.enabled
  bound := leads.own ▸ mirrors.bound
  buffers id := by
    rw [leads.own, recordedOf_failed]
    exact mirrors.buffers id
  documents := by
    rw [leads.own, leads.repository]
    exact mirrors.documents
  notices := by
    rw [leads.notices, mirrors.notices, List.map_append, List.append_assoc]
    rfl
  given := by
    simp only [List.forall_mem_append, List.forall_mem_singleton]
    exact ⟨mirrors.given, given⟩

/-- A call that succeeds adds its execution to those of its template and to their document. -/
theorem Mirrors.recorded {e : Execution α} {d'' : Desk (Recorder α)} {written : Datum}
    {r : Repository} (returns : Returns holds fit)
    (fits : ∀ es : List (Execution α), (∀ e ∈ es, P e) → fit (dump es))
    (mirrors : Mirrors holds P made d d') (given : P e)
    (recorded : Recorded e d' d'' written r) :
    Mirrors holds P (made ++ [⟨e, .ok ()⟩]) d d'' := by
  obtain ⟨dumped, stored, leads⟩ := recorded
  obtain rfl := eq_dump_of_document dumped
  have fit : fit (dump (d'.own.grown e)) := by
    refine fits _ fun e' mem => ?_
    rcases List.mem_append.1 ((lastItems_suffix ..).mem mem) with old | new
    · exact mirrors.held e.templateId e' old
    · rw [List.mem_singleton.1 new]
      exact given
  obtain ⟨m, repository, documents⟩ := mirrors.documents
  have grown : d'.own.grown e =
      lastItems d.own.bound (recordedOf e.templateId made ++ [e]) := by
    rw [Recorder.grown, mirrors.executions_eq, mirrors.bound, lastItems_concat]
  have look : ∀ id, d''.own.buffers.get? id = if e.templateId = id
      then some (d'.own.grown e) else d'.own.buffers.get? id := by
    intro id
    rw [leads.own, put, Entries.get?_put]
    simp
  refine ⟨leads.own ▸ mirrors.enabled, leads.own ▸ mirrors.bound, fun id => ?_,
    ⟨m.put .executions e.templateId (some (dump (d'.own.grown e))),
      leads.repository ▸ returns.set repository fit stored, fun id => ?_⟩, ?_, ?_⟩
  · rw [look, recordedOf_recorded]
    by_cases here : e.templateId = id
    · subst here
      simp [grown]
    · simp [here, mirrors.buffers]
  · rw [look, Storage.Plain.put_apply]
    by_cases here : e.templateId = id
    · simp [here]
    · simp [here, Ne.symm here, documents]
  · rw [leads.notices, mirrors.notices, List.map_append, List.append_assoc]
    rfl
  · simp only [List.forall_mem_append, List.forall_mem_singleton]
    exact ⟨mirrors.given, given⟩

theorem Mirrors.disturb (returns : Returns holds fit)
    (mirrors : Mirrors holds P made d d') (writes : Space → Bool) :
    Mirrors holds P made d (Turn.after (.disturb writes) d') := by
  obtain ⟨m, repository, documents⟩ := mirrors.documents
  exact { mirrors with documents := ⟨m, returns.refuse writes repository, documents⟩ }

theorem Mirrors.turn (returns : Returns holds fit)
    (fits : ∀ es : List (Execution α), (∀ e ∈ es, P e) → fit (dump es))
    (mirrors : Mirrors holds P made d d') {turn : Turn α}
    (given : ∀ e, turn = .record e → P e) :
    Mirrors holds P (made ++ (turn.call? d').toList) d (turn.after d') := by
  cases turn with
  | record e =>
    rcases record_enabled mirrors.enabled e with
      ⟨f, d'', ran, leads, -⟩ | ⟨written, r, d'', ran, done⟩
    · rw [Turn.call?, Turn.after, ran]
      exact mirrors.failed (given e rfl) leads
    · rw [Turn.call?, Turn.after, ran]
      exact mirrors.recorded returns fits (given e rfl) done
  | disturb writes =>
    rw [Turn.call?, Option.toList_none, List.append_nil]
    exact mirrors.disturb returns writes

/-- Every run keeps the mirror. -/
theorem Mirrors.run (returns : Returns holds fit)
    (fits : ∀ es : List (Execution α), (∀ e ∈ es, P e) → fit (dump es))
    (mirrors : Mirrors holds P made d d') {turns : List (Turn α)}
    (given : ∀ e, .record e ∈ turns → P e) :
    Mirrors holds P (made ++ calls turns d') d (run turns d') := by
  induction turns generalizing made d' with
  | nil =>
    rw [calls, List.append_nil]
    exact mirrors
  | cons turn turns ih =>
    have here : Mirrors holds P (made ++ (turn.call? d').toList) d (turn.after d') :=
      mirrors.turn returns fits fun e same => given e (same ▸ List.mem_cons_self)
    have rest := ih here fun e mem => given e (List.mem_cons_of_mem _ mem)
    rw [calls, ← List.append_assoc]
    exact rest

theorem Mirrors.accounts (mirrors : Mirrors holds P made d d') :
    Accounts holds d.own.bound made d d' where
  suffix id := by
    rw [mirrors.executions_eq]
    exact lastItems_suffix ..
  length id := by
    rw [mirrors.executions_eq]
    exact length_lastItems ..
  document := by
    obtain ⟨m, repository, documents⟩ := mirrors.documents
    refine ⟨m, repository, fun id => ?_⟩
    rw [documents, mirrors.executions_eq, mirrors.buffers]
    split <;> rfl
  notices := mirrors.notices

/-- A call that fails changes nothing, wherever it is made. -/
theorem unchanged_of_failed {e : Execution α} {f : Failure}
    (failed : ((record e).on d).1 = .error f) :
    ((record e).on d).2.own = d.own ∧
      ((record e).on d).2.shared.repository = d.shared.repository := by
  by_cases enabled : d.own.enabled = true
  · rcases record_enabled enabled e with ⟨f', d', ran, leads, -⟩ | ⟨written, r, d', ran, -⟩
    · rw [ran]
      exact ⟨leads.own, leads.repository⟩
    · rw [ran] at failed
      cases failed
  · unfold record at failed
    rw [on_bind_ok (on_own _)] at failed
    dsimp only at failed
    rw [if_neg enabled] at failed
    cases failed

/-- A call succeeds if its execution can be stored, and only then. -/
theorem record_ok_iff (enabled : d.own.enabled = true) (e : Execution α) :
    ((record e).on d).1 = .ok () ↔ Storable e d := by
  rcases record_enabled enabled e with ⟨f, d', ran, -, unstorable⟩ | ⟨written, r, d', ran, done⟩
  · rw [ran]
    exact iff_of_false nofun unstorable
  · rw [ran]
    exact iff_of_true rfl ⟨written, r, done.dumped, done.stored⟩

theorem run_concat (before : List (Turn α)) (e : Execution α) (d : Desk (Recorder α)) :
    run (before ++ [.record e]) d = ((record e).on (run before d)).2 := List.foldl_concat ..

/-! ### Loading -/

variable [Scalar.Legible α]

/-- The executions of a stored template are loaded as they are. -/
theorem Mirrors.round {d₁ d₂ : Desk (Recorder α)} {key : String} {buffer : List (Execution α)}
    (plain : ∀ e, P e → e.Plain) (mirrors : Mirrors holds P made d d')
    (positive : 1 ≤ d.own.bound) (shared : d₁.shared = d'.shared)
    (reads : d₁.Reads d₂) (bound : d₂.own.bound = d.own.bound)
    (kept : d'.own.buffers.get? key = some buffer)
    (stored : d'.shared.repository.get .executions key = .ok (dump buffer)) :
    ∃ d₃, (tryCatch (loadOne key) fun _ => pure ()).on d₂ = (.ok (), d₃) ∧
      (d₁.Reads d₃ ∧ d₃.own.bound = d.own.bound) ∧ ∀ id, d₃.own.buffers.get? id =
        if key = id then d'.own.buffers.get? key else d₂.own.buffers.get? id := by
  obtain ⟨some, few, held⟩ := mirrors.kept positive kept
  have repository : d₂.shared.repository = d'.shared.repository := by
    rw [reads.repository, shared]
  obtain ⟨d₃, fetched, reads₃, own⟩ := fetch_reads .executions key d₂
  rw [repository, stored] at fetched
  have read := list_shape_dump (fun e mem => plain e (held e mem)) d₃.shared.clock.current
  have put : lastItems d₃.own.bound buffer = buffer := by
    rw [own, bound]
    exact lastItems_eq_self few
  have ran : (loadOne key).on d₂ = (.ok (), { d₃ with own := d₃.own.put key buffer }) := by
    unfold loadOne
    rw [on_bind_ok fetched]
    have here : (get : Operation (Recorder α) (Desk (Recorder α))).on d₃ = (.ok d₃, d₃) := rfl
    have parsed : (attempt ((Schema.Checked.valid buffer).toExcept.mapError Failure.schema)).on d₃ =
        (.ok buffer, d₃) := rfl
    dsimp only
    rw [if_pos (isPresent_dump some), on_bind_ok here, read, on_bind_ok parsed, on_change, put]
  refine ⟨{ d₃ with own := d₃.own.put key buffer }, ?_, ⟨reads.trans { reads₃ with }, ?_⟩,
    fun id => ?_⟩
  · rw [on_tryCatch, ran]
  · exact (congrArg Recorder.bound own).trans bound
  · change (d₃.own.buffers.put key buffer).get? id = _
    rw [own, Entries.get?_put, kept]
    simp

/-- A new recorder that loads what a run has stored keeps the same executions. -/
theorem Mirrors.loads {r : Recorder α} (returns : Returns holds fit)
    (plain : ∀ e, P e → e.Plain) (mirrors : Mirrors holds P made d d')
    (positive : 1 ≤ d.own.bound) (bound : r.bound = d.own.bound) (empty : r.buffers = []) :
    ∃ d'', load.on ⟨r, d'.shared⟩ = (.ok (), d'') ∧
      ∀ id, d''.own.executions id = d'.own.executions id := by
  obtain ⟨m, repository, documents⟩ := mirrors.documents
  obtain ⟨names, keys, isName⟩ := returns.keys repository .executions
  obtain ⟨d₀, listed, reads, own⟩ := keys_reads .executions ⟨r, d'.shared⟩
  have listed' : (tryCatch (Operation.keys .executions) fun _ => pure []).on ⟨r, d'.shared⟩ =
      (.ok names, d₀) := by
    rw [on_tryCatch, listed, keys]
  obtain ⟨d'', ran, -, looks⟩ := forM_looks
    (P := fun d₂ => Desk.Reads ⟨r, d'.shared⟩ d₂ ∧ d₂.own.bound = d.own.bound)
    (fun r id => r.buffers.get? id) d'.own.buffers.get?
    (fun key mem d₂ ⟨reads, bound⟩ => by
      rw [isName, documents, Option.isSome_map] at mem
      obtain ⟨buffer, kept⟩ := Option.isSome_iff_exists.1 mem
      have stored := documents key
      rw [kept] at stored
      exact mirrors.round plain positive rfl reads bound kept (returns.get repository stored))
    ⟨reads, (congrArg Recorder.bound own).trans bound⟩
  refine ⟨d'', ?_, fun id => ?_⟩
  · unfold load
    dsimp only
    rw [on_bind_ok listed', forIn_eq_forM fun key => tryCatch (loadOne key) fun _ => pure (),
      on_bind_ok ran]
    rfl
  · have same : d''.own.buffers.get? id = d'.own.buffers.get? id := by
      rw [looks, own, empty]
      split
      · rfl
      · next unlisted =>
        rw [isName, documents, Option.isSome_map, Option.not_isSome_iff_eq_none] at unlisted
        exact unlisted.symm
    rw [executions, executions, same]

end

/-! ### Runs -/

section

variable [Scalar.Legible α] {holds : Storage.Plain → Repository → Prop} {fit : Datum → Prop}
  {d : Desk (Recorder α)} {turns : List (Turn α)}

end

/-- A recorder with room for one execution of each template, over an empty repository in memory. -/
def smallDesk : Desk (Recorder Float) where
  own := { enabled := true, bound := 1 }
  shared := { repository := .memory .empty, clock := .always ⟨0, none⟩ }

/-- An execution of a template at twelve, by a clock that is ahead of the common time by some
seconds. -/
def sample (id response : String) (ahead : Nat := 0) : Execution Float where
  templateId := id
  label := "1.0.0"
  bindings := [("name", .text "Ada")]
  provider := "p"
  model := "m"
  response
  responseTime := 100
  tokens := {}
  cost := 0
  success := true
  error := none
  quality := none
  executedAt :=
    { Calendar.Moment.of ⟨2024, 3, 6⟩ (12 * Calendar.hour) with
      offset := some (ahead * Calendar.second : Nat) }

/-- Two calls that are refused, one of a template that has an execution and one of another that has
none, and one that replaces the execution that is kept. -/
def refusedTurns : List (Turn Float) :=
  [.record (sample "a" "first"), .disturb (· = .executions), .record (sample "a" "second"),
    .record (sample "b" "third" 3600), .disturb fun _ => false, .record (sample "a" "fourth")]

end Recorder

end Promptuary
