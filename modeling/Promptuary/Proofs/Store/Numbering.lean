import Promptuary.Proofs.Store.Atomicity

/-!
How updates number the versions of a template. In every state that a run can reach, a live record
has a label of the line that begins with the first label. An update goes on in this line to the
least label that the history does not have, so the version that it makes finds its label free.
-/

namespace Promptuary

open Operation
open Storage (Repository Space)

/-! ### Failures that say that a label is taken -/

/-- Whether a failure says that a label is taken. -/
def Failure.saysTaken : Failure → Bool
  | .conflict .. => true
  | _ => false

theorem documentOf_error {own : List Datum} {record : Datum} {e : Failure}
    (failed : documentOf own record = .error e) : e = .tooNested := by
  unfold documentOf at failed
  split at failed
  · cases failed
  · exact (Except.error.inj failed).symm

namespace Storage

variable {space : Space} {key : String} {document : Datum} {e : Failure}

theorem Memory.saysTaken_set {m : Memory} (failed : m.set space key document = .error e) :
    e.saysTaken = false := by
  rcases Outcome.eq_error_of_bind failed with refused | ⟨_, -, failed⟩
  · unfold allow at refused
    split at refused
    · cases refused
      rfl
    · cases refused
  · rcases Outcome.eq_error_of_bind failed with full | ⟨_, -, stored⟩
    · unfold copy at full
      split at full
      · cases full
      · cases full
        rfl
    · cases stored

theorem Folder.saysTaken_set {f : Folder} (failed : f.set space key document = .error e) :
    e.saysTaken = false := by
  rcases Outcome.eq_error_of_bind failed with unfit | ⟨_, -, failed⟩
  · unfold checkKey at unfit
    split at unfit
    · cases unfit
    · cases unfit
      rfl
  · dsimp only at failed
    split at failed
    · cases failed
      rfl
    · split at failed
      · cases failed
      · cases failed
        rfl
      · cases failed
        rfl

theorem Redis.saysTaken_set {r : Redis} (failed : r.set space key document = .error e) :
    e.saysTaken = false := by
  rcases Outcome.eq_error_of_bind failed with gone | ⟨_, -, failed⟩
  · unfold require at gone
    split at gone
    · cases gone
    · cases gone
      rfl
  · split at failed
    · cases failed
      rfl
    · rcases Outcome.eq_error_of_bind failed with refused | ⟨_, -, stored⟩
      · unfold call at refused
        split at refused
        · cases refused
          rfl
        · cases refused
      · cases stored

/-- No repository minds labels. -/
theorem Repository.saysTaken_set {r : Repository} (failed : r.set space key document = .error e) :
    e.saysTaken = false := by
  cases r with
  | memory => exact Memory.saysTaken_set (Outcome.eq_error_of_map failed)
  | folder => exact Folder.saysTaken_set (Outcome.eq_error_of_map failed)
  | redis => exact Redis.saysTaken_set (Outcome.eq_error_of_map failed)

end Storage

namespace Store

open Label (LeastFree Written spell spell?)

variable {s : Store} {time : Calendar.Moment} {id label : String} {updates : Fields}
  {old t : Template} {d d' : Desk Store} {e : Failure}

theorem historyDocument_error {h : History} (failed : historyDocument h = .error e) :
    e = .tooNested := by
  unfold historyDocument documentOfAll at failed
  cases written : h.mapM Version.document with
  | ok => rw [written] at failed; cases failed
  | error =>
    rw [written] at failed
    cases failed
    obtain ⟨v, -, stuck⟩ := Outcome.exists_mem_of_mapM_eq_error written
    exact documentOf_error stuck

theorem Unsaved.saysTaken {r : Repository} (unsaved : Unsaved t r e) : e.saysTaken = false := by
  cases unsaved with
  | unwritable failed =>
    obtain rfl := documentOf_error failed
    rfl
  | refused _ refused => exact Repository.saysTaken_set refused

theorem Undrawn.saysTaken (undrawn : Undrawn s time id updates e) : e.saysTaken = false := by
  cases undrawn <;> rfl

/-- The version of a change fails so only if the history has its label. -/
theorem Hindered.mem_labels {h : History} {bound : Nat} {r : Repository} {v : Version}
    (hindered : Hindered h bound r v e) (taken : e.saysTaken = true) : v.label ∈ h.labels := by
  cases hindered with
  | taken mem => exact mem
  | unordered => cases taken
  | unwritable _ failed =>
    obtain rfl := historyDocument_error failed
    cases taken
  | refused _ _ refused => cases (Repository.saysTaken_set refused).symm.trans taken

/-! ### Updates -/

/-- The label of an update is the least free one of the line of the label before. -/
theorem Revision.leastFree {major minor patch : Nat}
    (revision : Revision s time id updates old t label)
    (version : old.version = spell major minor patch) (written : Written major minor patch) :
    ∃ step, LeastFree (s.history id).labels major minor patch step ∧
      t.version = spell major minor (patch + step) ∧ Written major minor (patch + step) := by
  obtain ⟨step, least⟩ := Label.exists_leastFree (s.history id).labels major minor patch
  have found := revision.free
  rw [version, Label.nextFree, Label.next_skipTaken written least (Nat.le_succ _)] at found
  obtain ⟨same, written'⟩ := Label.spell?_eq_ok found
  exact ⟨step, least, revision.set.1.trans same, written'⟩

/-- An update of a record that stands under its identifier never finds its label taken. -/
theorem update_saysTaken {changelog : Option String}
    (keyed : ∀ t, d.own.live.get? id = some t → t.id = id)
    (ran : (update id updates changelog).on d = (.error e, d')) : e.saysTaken = false := by
  rcases update_cases ran with
    ⟨_, notices, same, -, undrawn⟩ |
      ⟨old, t, label, text, d₁, d₃, notices, revision, drawn, committed, -⟩
  · cases same
    exact undrawn.saysTaken
  · cases committed with
    | unsaved unsaved _ => exact unsaved.saysTaken
    | @halfway _ r d₂ _ saved _ hindered _ =>
      refine Bool.eq_false_of_not_eq_true fun taken => ?_
      have mem := hindered.mem_labels taken
      have key : t.id = id := revision.kept.1.trans (keyed old revision.live)
      rw [saved.leads.own, drawn.passes.own, history_putLive, key] at mem
      have label : (snapshotOfChange t text d₂.shared.clock.current).label = t.version :=
        ite_self t.version
      exact revision.version_free.1 (label ▸ mem)

/-! ### Numbered records -/

/-- Every live record has a label of the line that begins with the first label. -/
def Numbered (s : Store) : Prop :=
  ∀ id t, s.live.get? id = some t → ∃ n, t.version = spell 1 0 n ∧ Written 1 0 n

theorem numbered_first : Label.initial = spell 1 0 0 ∧ Written 1 0 0 :=
  ⟨rfl, by decide, by decide, by decide⟩

theorem Numbered.putLive (numbered : Numbered s)
    (next : ∃ n, t.version = spell 1 0 n ∧ Written 1 0 n) : Numbered (s.putLive t) := by
  intro id u live
  rw [live_putLive] at live
  split at live
  · cases live
    exact next
  · exact numbered id u live

theorem Numbered.move (move : Move d d') (numbered : Numbered d.own) : Numbered d'.own := by
  cases move with
  | pass leads _ =>
    rw [leads.own]
    exact numbered
  | keep _ versioned =>
    rw [versioned.leads.own]
    exact numbered
  | save admitted saved =>
    rw [saved.leads.own]
    refine numbered.putLive ?_
    cases admitted with
    | new _ _ same _ => exact ⟨0, same ▸ numbered_first⟩
    | revised revision _ =>
      obtain ⟨n, version, written⟩ := numbered _ _ revision.live
      obtain ⟨step, -, version', written'⟩ := revision.leastFree version written
      exact ⟨n + step, version', written'⟩
    | @retired id old live same =>
      rw [same]
      exact numbered id old live

/-- Reading every record again leaves their labels. -/
theorem Numbered.rereads {s' : Store} (rewords : Rewords s s') (numbered : Numbered s) :
    Numbered s' := by
  intro id t' live
  have related := rewords.records id
  rw [live] at related
  obtain ⟨t, found, reads⟩ := exists_left_of_rel related
  have label : t'.version = t.version := congrArg Wording.label reads.wording
  rw [label]
  exact numbered id t found

/-! ### Runs -/

theorem Fresh.numbered (fresh : Fresh d) : Numbered d.own := by
  intro id t live
  rw [fresh.live] at live
  cases live

theorem Reached.numbered (reached : Reached d) : Numbered d.own := by
  obtain ⟨turns, start, fresh, recoverable, rfl⟩ := reached
  exact (run_keeps fresh recoverable Numbered.move Numbered.rereads fresh.numbered).2

/-- A record that was stored with its version is live. -/
theorem Committed.live {text : String} {notice : Notice} {t' : Template}
    (committed : Committed t text notice d (.ok t') d') :
    t' = t ∧ d'.own.live.get? t.id = some t := by
  cases committed with
  | whole saved followed leads =>
    refine ⟨rfl, ?_⟩
    rw [leads.own]
    rcases followed with ⟨-, rfl⟩ | ⟨-, trimmed, r, versioned⟩
    · exact saved.live
    · rw [versioned.leads.own]
      exact saved.live

/-- An update takes the least free label. From any label of three numbers, whatever is taken, the
search for a free one ends by itself, after one step more than there are taken labels at most, and
it ends with the least one, if that can be written. So in every state that a run can reach, live
records have labels of the line that begins with the first label, an update that succeeds goes on in
this line, and none fails because its label is taken. -/
theorem update_takes_least_free_label (taken : List String) {major minor patch : Nat}
    (written : Written major minor patch) (reached : Reached d) {changelog : Option String}
    {result : Except Failure Template}
    (ran : (update id updates changelog).on d = (result, d')) :
    (∃ step, LeastFree taken major minor patch step ∧
      (Written major minor (patch + step) →
        Label.nextFree taken (spell major minor patch) = .ok (spell major minor (patch + step))) ∧
      ∀ fuel, taken.length ≤ fuel →
        (Label.next (spell major minor patch) >>= Label.skipTaken taken fuel) =
          spell? major minor (patch + step)) ∧
      (∀ other t, d.own.live.get? other = some t → ∃ n, t.version = spell 1 0 n) ∧
      (∀ e, result = .error e → e.saysTaken = false) ∧
      ∀ t, result = .ok t → ∃ old n step, d.own.live.get? id = some old ∧
        old.version = spell 1 0 n ∧ LeastFree (d.own.history id).labels 1 0 n step ∧
        t.version = spell 1 0 (n + step) ∧ d'.own.live.get? id = some t := by
  have keyed : ∀ t, d.own.live.get? id = some t → t.id = id := fun _ => reached.sound.keyed
  refine ⟨?_, ?_, ?_, ?_⟩
  · obtain ⟨step, least⟩ := Label.exists_leastFree taken major minor patch
    have search : ∀ fuel, taken.length ≤ fuel →
        (Label.next (spell major minor patch) >>= Label.skipTaken taken fuel) =
          spell? major minor (patch + step) := fun _ => Label.next_skipTaken written least
    refine ⟨step, least, fun written' => ?_, search⟩
    exact (search _ (Nat.le_succ _)).trans (Label.spell?_of_written written')
  · intro other t live
    obtain ⟨n, version, -⟩ := reached.numbered other t live
    exact ⟨n, version⟩
  · rintro e rfl
    exact update_saysTaken keyed ran
  · rintro t rfl
    rcases update_cases ran with
      ⟨_, notices, failed, -⟩ |
        ⟨old, t', label, text, d₁, d₂, notices, revision, drawn, committed, leads⟩
    · cases failed
    · obtain ⟨rfl, live⟩ := committed.live
      obtain ⟨n, version, written⟩ := reached.numbered id old revision.live
      obtain ⟨step, least, version', -⟩ := revision.leastFree version written
      have key : t.id = id := revision.kept.1.trans (keyed old revision.live)
      rw [key, ← leads.own] at live
      exact ⟨old, n, step, revision.live, version, least, version', live⟩

/-- A desk with a template whose next label is taken. -/
def pinnedDesk : Desk Store :=
  run [.reload {} true 3 (by decide), .change (.create greeting),
    .change (.createVersion "tpl-1" "1.0.1" "pinned")] emptyDesk

theorem pinnedDesk_reached : Reached pinnedDesk :=
  ⟨_, emptyDesk, emptyDesk_fresh, emptyDesk_blank.recoverable, rfl⟩

/-- An update there succeeds, and goes past the label that is taken. -/
theorem update_takes_least_free_label_pinnedDesk :
    ∃ t d', (update "tpl-1" [("template", .text "Hello")]).on pinnedDesk = (.ok t, d') ∧
      (∃ n, t.version = spell 1 0 n) ∧ t.version = "1.0.2" ∧
      d'.own.live.get? "tpl-1" = some t := by
  have goes_past : ((update "tpl-1" [("template", .text "Hello")]).on pinnedDesk).1.toOption.map
      Template.version = some "1.0.2" := by
    decide +kernel
  rcases ran : (update "tpl-1" [("template", .text "Hello")]).on pinnedDesk with ⟨e | t, d'⟩
  · rw [ran] at goes_past
    cases goes_past
  · rw [ran] at goes_past
    obtain ⟨-, -, -, succeeds⟩ :=
      update_takes_least_free_label [] numbered_first.2 pinnedDesk_reached ran
    obtain ⟨old, n, step, -, -, -, version, live⟩ := succeeds t rfl
    exact ⟨t, d', rfl, ⟨_, version⟩, Option.some.inj goes_past, live⟩

end Store

end Promptuary
