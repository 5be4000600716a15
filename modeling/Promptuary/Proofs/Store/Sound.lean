import Promptuary.Proofs.Store.Conservation
import Promptuary.Proofs.Store.Revision

/-!
What the records and histories of a store have to do with each other. Live records stand under their
identifiers, identifiers that were not given out are not in use, the labels of a history differ, and
the version with the label of the live record has its text and declarations.
-/

namespace Promptuary

open Operation (identifier)

namespace Store

variable {d d' : Desk Store} {t : Template} {id : String}

/-! ### Identifiers -/

theorem identifier_injective {m n : Nat} (same : identifier m = identifier n) : m = n := by
  have texts := congrArg String.toList same
  have digits : Nat.toDigits 10 m = Nat.toDigits 10 n := by
    simpa [identifier, toString, Nat.repr_eq_ofList_toDigits] using texts
  exact Number.natDigits_injective digits

/-! ### Agreement -/

/-- A history whose labels differ, and which has the live record's text and declarations under the
live record's label if it has that label. -/
structure Agrees (live : Option Template) (h : History) : Prop where
  distinct : h.labels.Nodup
  same : ∀ t, live = some t → ∀ v ∈ h, v.label = t.version →
    v.body = t.body ∧ v.declarations = t.declarations

/-- Records and histories of a store as changes leave them. -/
structure Sound (d : Desk Store) : Prop where
  keyed : ∀ {id t}, d.own.live.get? id = some t → t.id = id
  unused : ∀ {n}, d.shared.issued < n →
    d.own.live.get? (identifier n) = none ∧ d.own.histories.get? (identifier n) = none
  agrees : ∀ id, Agrees (d.own.live.get? id) (d.own.history id)
  positive : 1 ≤ d.own.bound

theorem history_eq_nil {s : Store} (none : s.histories.get? id = none) : s.history id = [] := by
  rw [history, none]
  rfl

theorem Fresh.sound (fresh : Fresh d) : Sound d where
  keyed := by
    intro id t live
    rw [fresh.live] at live
    cases live
  unused := by
    intro n _
    rw [fresh.live, fresh.histories]
    exact ⟨rfl, rfl⟩
  agrees := by
    intro id
    have nil : d.own.history id = [] := by
      refine history_eq_nil ?_
      rw [fresh.histories]
      rfl
    rw [nil]
    exact ⟨List.nodup_nil, fun _ _ _ mem => absurd mem List.not_mem_nil⟩
  positive := fresh.positive

/-! ### Records -/

/-- Storing a record keeps a store sound, if the identifier is in use afterwards at the latest, and
the history does not contradict the record. -/
theorem Sound.putLive (sound : Sound d) (own : d'.own = d.own.putLive t)
    (issued : d.shared.issued ≤ d'.shared.issued)
    (used : ∀ n, d'.shared.issued < n → identifier n ≠ t.id)
    (agrees : Agrees (some t) (d.own.history t.id)) : Sound d' where
  keyed := by
    intro id u live
    rw [own, live_putLive] at live
    split at live
    · next same =>
      cases live
      exact same
    · exact sound.keyed live
  unused := by
    intro n lt
    obtain ⟨live, histories⟩ := sound.unused (Nat.lt_of_le_of_lt issued lt)
    rw [own]
    refine ⟨?_, histories⟩
    rw [live_putLive, if_neg (used n lt).symm]
    exact live
  agrees := by
    intro id
    rw [own, live_putLive, history_putLive]
    split
    · next same =>
      rw [← same]
      exact agrees
    · exact sound.agrees id
  positive := by
    rw [own]
    exact sound.positive

/-- An identifier that is in use was given out. -/
theorem Sound.used {old : Template} (sound : Sound d) (live : d.own.live.get? id = some old)
    {n : Nat} (later : d.shared.issued < n) : identifier n ≠ id := by
  rintro rfl
  rw [(sound.unused later).1] at live
  cases live

theorem Sound.save {r : Storage.Repository} (sound : Sound d) (admitted : Admitted t d d')
    (saved : Saved t r d d') : Sound d' := by
  have own := saved.leads.own
  have issued := saved.leads.issued
  cases admitted with
  | @new time definition _ given same _ =>
    have id : t.id = identifier (d.shared.issued + 1) := by
      rw [same]
      rfl
    refine sound.putLive own issued ?_ ?_
    · intro n later clash
      have sums := identifier_injective (clash.trans id)
      omega
    · have nil := history_eq_nil (sound.unused (Nat.lt_succ_self d.shared.issued)).2
      rw [id, nil]
      exact ⟨List.nodup_nil, fun _ _ _ mem => absurd mem List.not_mem_nil⟩
  | @revised id updates old label revision _ =>
    have key : t.id = id := revision.kept.1.trans (sound.keyed revision.live)
    refine sound.putLive own issued ?_ ?_
    · intro n later
      rw [key]
      exact sound.used revision.live (Nat.lt_of_le_of_lt issued later)
    · rw [key]
      refine ⟨(sound.agrees id).distinct, ?_⟩
      rintro u ⟨⟩ v mem label
      have taken : v.label ∈ (d.own.history id).labels := List.mem_map_of_mem mem
      rw [label] at taken
      exact absurd taken revision.version_free.1
  | @retired id old live same =>
    have key : t.id = id := by
      rw [same]
      exact (rfl : _ = old.id).trans (sound.keyed live)
    refine sound.putLive own issued ?_ ?_
    · intro n later
      rw [key]
      exact sound.used live (Nat.lt_of_le_of_lt issued later)
    · rw [key, same]
      refine ⟨(sound.agrees id).distinct, ?_⟩
      rintro u ⟨⟩ v mem label
      exact (sound.agrees id).same old live v mem label

/-! ### Versions -/

/-- What a history keeps was in it before, or is the version that was added. -/
theorem mem_of_kept {v w : Version} {trimmed : History.Trimmed} {h : History} {bound : Nat}
    (added : h.add bound v = .ok trimmed) (mem : w ∈ trimmed.kept) : w ∈ h ∨ w = v := by
  have whole := (History.trim_perm added).subset (List.mem_append_right _ mem)
  simpa using whole

/-- The labels of what a history keeps differ, if the label that was added is a new one. -/
theorem nodup_kept {v : Version} {trimmed : History.Trimmed} {h : History} {bound : Nat}
    (distinct : h.labels.Nodup) (free : v.label ∉ h.labels)
    (added : h.add bound v = .ok trimmed) : (History.labels trimmed.kept).Nodup := by
  have perm := (History.trim_perm added).map (·.label)
  have parts := perm.nodup_iff.2 (History.nodup_labels_append distinct free)
  rw [List.map_append] at parts
  exact (List.nodup_append.1 parts).2.1

theorem Sound.keep {label changelog : String} {trimmed : History.Trimmed}
    {r : Storage.Repository} (sound : Sound d) (live : d.own.live.get? id = some t)
    (versioned : Versioned (snapshot t label changelog d.shared.clock.current) trimmed r d d') :
    Sound d' := by
  have own : d'.own = d.own.putHistory t.id trimmed.kept := versioned.leads.own
  have key : t.id = id := sound.keyed live
  have before := sound.agrees id
  refine ⟨?_, ?_, ?_, ?_⟩
  · intro id' u found
    rw [own] at found
    exact sound.keyed found
  · intro n later
    have lt := Nat.lt_of_le_of_lt versioned.leads.issued later
    obtain ⟨noLive, noHistory⟩ := sound.unused lt
    rw [own]
    refine ⟨noLive, ?_⟩
    have ne : t.id ≠ identifier n := key ▸ (sound.used live lt).symm
    exact (Entries.get?_put_of_ne _ _ ne).trans noHistory
  · intro id'
    rw [own, history_putHistory]
    change Agrees (d.own.live.get? id') _
    split
    · next same =>
      have here : id = id' := key.symm.trans same
      subst here
      have free := versioned.free
      have added := versioned.added
      change _ ∉ (d.own.history t.id).labels at free
      change (d.own.history t.id).add _ _ = _ at added
      rw [same] at free added
      refine ⟨nodup_kept before.distinct free added, ?_⟩
      intro u found v mem label
      rw [live] at found
      cases found
      rcases mem_of_kept added mem with old | rfl
      · exact before.same t live v old label
      · exact ⟨rfl, rfl⟩
    · exact sound.agrees id'
  · rw [own]
    exact sound.positive

theorem Sound.move (move : Move d d') (sound : Sound d) : Sound d' := by
  cases move with
  | pass leads plain =>
    obtain ⟨keyed, unused, agrees, positive⟩ := sound
    rw [← leads.own] at keyed agrees positive
    refine ⟨keyed, ?_, agrees, positive⟩
    intro n later
    rw [leads.own]
    exact unused (Nat.lt_of_le_of_lt leads.issued later)
  | save admitted saved => exact sound.save admitted saved
  | keep live versioned => exact sound.keep live versioned

theorem Sound.moves (sound : Sound d) (row : Moves d d') : Sound d' :=
  moves_preserve (fun move sound => Sound.move move sound) row sound

end Store

end Promptuary
