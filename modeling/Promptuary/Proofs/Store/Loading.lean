import Promptuary.Proofs.Store.Revision
import Promptuary.Proofs.Store.Run
import Promptuary.Proofs.Template.Record

/-!
What a store loads from a repository, whatever the repository holds. Records are loaded key by key
and then histories; the first document that cannot be read ends the loading, and what was loaded
before it stays.
-/

namespace Promptuary

open Operation
open Schema (Shape)
open Storage (Repository Space)

/-! ### Reading records under any identifier -/

/-- The identifier for a record that has none of its own does not decide whether it is read. -/
theorem Template.shape_valid_of_id {id : String} (id' : String) {now : Calendar.Moment}
    {document : Datum} {t : Template} (read : Template.shape id now document = .valid t) :
    ∃ t', Template.shape id' now document = .valid t' := by
  cases document with
  | object fields =>
    have all := shape_eq_valid.1 read
    cases own : Entries.get? fields "id" with
    | some d =>
      refine ⟨t, shape_eq_valid.2 { all with id := ?_ }⟩
      exact (Schema.fieldOr_eq_valid own).2 ((Schema.fieldOr_eq_valid own).1 all.id)
    | none =>
      refine ⟨{ t with id := id' }, shape_eq_valid.2 { all with id := ?_ }⟩
      rw [Schema.fieldOr, own]
  | _ => cases read

namespace Store

variable {α : Type} {r : Repository} {space : Space} {key : String} {d : Desk Store}

/-! ### What the document of a key is read as -/

/-- What a shape makes of the document of a key: nothing if the document counts as absent. -/
inductive ReadsAs (shape : Shape α) (r : Repository) (space : Space) (key : String) :
    Option α → Prop where
  | absent {document : Datum} : r.get space key = .ok document → document.isPresent = false →
      ReadsAs shape r space key none
  | present {document : Datum} {a : α} : r.get space key = .ok document →
      document.isPresent = true → shape document = .valid a → ReadsAs shape r space key (some a)

/-- The document of a key can be had, and fits a shape or counts as absent. -/
def Readable (shape : Shape α) (r : Repository) (space : Space) (key : String) : Prop :=
  ∃ x, ReadsAs shape r space key x

theorem ReadsAs.unique {shape : Shape α} {x y : Option α} (read : ReadsAs shape r space key x)
    (other : ReadsAs shape r space key y) : y = x := by
  cases read with
  | absent got no =>
    cases other with
    | absent => rfl
    | present got' yes =>
      cases got.symm.trans got'
      cases no.symm.trans yes
  | present got yes fits =>
    cases other with
    | absent got' no =>
      cases got.symm.trans got'
      cases no.symm.trans yes
    | present got' _ fits' =>
      cases got.symm.trans got'
      cases fits.symm.trans fits'
      rfl

/-- The document of a key in the space of templates can be read. -/
abbrev ReadableRecord (r : Repository) (now : Calendar.Moment) (key : String) : Prop :=
  Readable (Template.shape "" now) r .templates key

/-- The document of a key in the space of versions can be read. -/
abbrev ReadableHistory (r : Repository) (now : Calendar.Moment) (key : String) : Prop :=
  Readable (Schema.list (Version.shape now)) r .versions key

theorem readableRecord_of_id {id : String} {now : Calendar.Moment}
    (readable : Readable (Template.shape id now) r .templates key) : ReadableRecord r now key := by
  obtain ⟨_, ⟨got, no⟩ | ⟨got, yes, fits⟩⟩ := readable
  · exact ⟨none, .absent got no⟩
  · obtain ⟨t, fits'⟩ := Template.shape_valid_of_id _ fits
    exact ⟨some t, .present got yes fits'⟩

/-! ### One round -/

/-- The identifiers that a record without one of its own can be given from now on. -/
def Upcoming (d : Desk Store) (id : String) : Prop :=
  id = "" ∨ ∃ n, d.shared.issued < n ∧ id = identifier n

theorem freshId_reads (document : Datum) (d : Desk Store) :
    ∃ id d', (freshId document).on d = (.ok id, d') ∧ d.Reads d' ∧ d'.own = d.own ∧
      Upcoming d id := by
  have given : ∃ d', (pure "" : Operation Store String).on d = (.ok "", d') ∧ d.Reads d' ∧
      d'.own = d.own ∧ Upcoming d "" := ⟨d, rfl, .refl d, rfl, .inl rfl⟩
  unfold freshId
  cases document with
  | object fields =>
    dsimp only
    split
    · exact ⟨"", given⟩
    · exact ⟨_, _, rfl, ⟨rfl, rfl, rfl, Nat.le_succ _⟩, rfl, .inr ⟨_, Nat.lt_succ_self _, rfl⟩⟩
  | _ => exact ⟨"", given⟩

theorem readStored_on (shape : Shape α) (document : Datum) (d : Desk Store) :
    (∃ a, shape document = .valid a ∧ (readStored shape document).on d = (.ok a, d)) ∨
      ∃ e, (∀ a, shape document ≠ .valid a) ∧ (readStored shape document).on d = (.error e, d) := by
  unfold readStored
  cases read : shape document with
  | valid a => exact .inl ⟨a, rfl, rfl⟩
  | faulty issues => exact .inr ⟨.schema issues, nofun, rfl⟩

/-- How loading a record can end: its document cannot be read, or the record is put into the store's
state under its own identifier, if there is one. -/
theorem loadTemplate_cases (key : String) (d : Desk Store) :
    (∃ e d', (loadTemplate key).on d = (.error e, d') ∧ d.Reads d' ∧ d'.own = d.own ∧
        ¬ ReadableRecord d.shared.repository d.shared.clock.current key) ∨
      ∃ id x d', (loadTemplate key).on d = (.ok (), d') ∧ d.Reads d' ∧ Upcoming d id ∧
        ReadsAs (Template.shape id d.shared.clock.current) d.shared.repository .templates key x ∧
        d'.own = x.elim d.own (putLive · d.own) := by
  obtain ⟨d₁, fetched, reads, own⟩ := fetch_reads .templates key d
  unfold loadTemplate
  cases got : d.shared.repository.get .templates key with
  | error e =>
    rw [got] at fetched
    refine .inl ⟨e, d₁, on_bind_error fetched _, reads, own, ?_⟩
    rintro ⟨_, ⟨got', -⟩ | ⟨got', -, -⟩⟩ <;> cases got.symm.trans got'
  | ok document =>
    rw [got] at fetched
    rw [on_bind_ok fetched]
    cases present : document.isPresent with
    | false => exact .inr ⟨"", none, d₁, rfl, reads, .inl rfl, .absent got present, own⟩
    | true =>
      obtain ⟨id, d₂, given, reads₂, own₂, upcoming⟩ := freshId_reads document d₁
      have clock : d₂.shared.clock = d.shared.clock := reads₂.clock.trans reads.clock
      have both := reads.trans reads₂
      have sameOwn := own₂.trans own
      rcases readStored_on (Template.shape id d₂.shared.clock.current) document d₂ with
        ⟨t, fits, ran⟩ | ⟨e, misfit, ran⟩
      · rw [clock] at fits
        refine .inr ⟨id, some t, { d₂ with own := putLive t d₂.own }, ?_, { both with }, ?_,
          .present got present fits, congrArg (putLive t) sameOwn⟩
        · exact (on_bind_ok given _).trans (on_bind_ok ran _)
        · rcases upcoming with empty | ⟨n, lt, same⟩
          · exact .inl empty
          · exact .inr ⟨n, Nat.lt_of_le_of_lt reads.issued lt, same⟩
      · rw [clock] at misfit
        refine .inl ⟨e, d₂, (on_bind_ok given _).trans (on_bind_error ran _), both, sameOwn, ?_⟩
        rintro ⟨_, ⟨got', no⟩ | ⟨got', -, fits⟩⟩
        · cases got.symm.trans got'
          cases no.symm.trans present
        · cases got.symm.trans got'
          obtain ⟨t, fits'⟩ := Template.shape_valid_of_id id fits
          exact misfit t fits'

/-- How loading a history can end: its document cannot be read, or the history is put into the
store's state, if there is one. -/
theorem loadHistory_cases (key : String) (d : Desk Store) :
    (∃ e d', (loadHistory key).on d = (.error e, d') ∧ d.Reads d' ∧ d'.own = d.own ∧
        ¬ ReadableHistory d.shared.repository d.shared.clock.current key) ∨
      ∃ x d', (loadHistory key).on d = (.ok (), d') ∧ d.Reads d' ∧
        ReadsAs (Schema.list (Version.shape d.shared.clock.current)) d.shared.repository .versions
          key x ∧
        d'.own = x.elim d.own (putHistory key · d.own) := by
  obtain ⟨d₁, fetched, reads, own⟩ := fetch_reads .versions key d
  unfold loadHistory
  cases got : d.shared.repository.get .versions key with
  | error e =>
    rw [got] at fetched
    refine .inl ⟨e, d₁, on_bind_error fetched _, reads, own, ?_⟩
    rintro ⟨_, ⟨got', -⟩ | ⟨got', -, -⟩⟩ <;> cases got.symm.trans got'
  | ok document =>
    rw [got] at fetched
    rw [on_bind_ok fetched]
    cases present : document.isPresent with
    | false => exact .inr ⟨none, d₁, rfl, reads, .absent got present, own⟩
    | true =>
      rcases readStored_on (Schema.list (Version.shape d₁.shared.clock.current)) document d₁ with
        ⟨h, fits, ran⟩ | ⟨e, misfit, ran⟩
      · rw [reads.clock] at fits
        exact .inr ⟨some h, { d₁ with own := putHistory key h d₁.own }, on_bind_ok ran _,
          { reads with }, .present got present fits, congrArg (putHistory key h) own⟩
      · rw [reads.clock] at misfit
        refine .inl ⟨e, d₁, on_bind_error ran _, reads, own, ?_⟩
        rintro ⟨_, ⟨got', no⟩ | ⟨got', -, fits⟩⟩
        · cases got.symm.trans got'
          cases no.symm.trans present
        · cases got.symm.trans got'
          exact misfit _ fits

/-! ### All rounds -/

theorem loadTemplate_reads (key : String) (d : Desk Store) :
    d.Reads ((loadTemplate key).on d).2 := by
  rcases loadTemplate_cases key d with ⟨e, d₁, ran, after, -⟩ | ⟨id, x, d₁, ran, after, -⟩ <;>
  · rw [ran]
    exact after

theorem loadHistory_reads (key : String) (d : Desk Store) :
    d.Reads ((loadHistory key).on d).2 := by
  rcases loadHistory_cases key d with ⟨e, d₁, ran, after, -⟩ | ⟨x, d₁, ran, after, -⟩ <;>
  · rw [ran]
    exact after

theorem records_read (names : List String) (d : Desk Store) :
    d.Reads ((forM names loadTemplate).on d).2 :=
  forM_preserves (P := d.Reads) (fun key _ d₁ reads => reads.trans (loadTemplate_reads key d₁))
    (.refl d)

theorem histories_read (ids : List String) (d : Desk Store) :
    d.Reads ((forM ids loadHistory).on d).2 :=
  forM_preserves (P := d.Reads) (fun key _ d₁ reads => reads.trans (loadHistory_reads key d₁))
    (.refl d)

theorem loadTemplate_ok_iff (key : String) (d : Desk Store) :
    ((loadTemplate key).on d).1 = .ok () ↔
      ReadableRecord d.shared.repository d.shared.clock.current key := by
  rcases loadTemplate_cases key d with
    ⟨e, d₁, ran, -, -, bad⟩ | ⟨id, x, d₁, ran, -, -, read, -⟩
  · rw [ran]
    exact ⟨nofun, fun good => absurd good bad⟩
  · rw [ran]
    exact ⟨fun _ => readableRecord_of_id ⟨x, read⟩, fun _ => rfl⟩

theorem loadHistory_ok_iff (key : String) (d : Desk Store) :
    ((loadHistory key).on d).1 = .ok () ↔
      ReadableHistory d.shared.repository d.shared.clock.current key := by
  rcases loadHistory_cases key d with ⟨e, d₁, ran, -, -, bad⟩ | ⟨x, d₁, ran, -, read, -⟩
  · rw [ran]
    exact ⟨nofun, fun good => absurd good bad⟩
  · rw [ran]
    exact ⟨fun _ => ⟨x, read⟩, fun _ => rfl⟩

/-- The records of all keys are loaded if and only if each of them can be read. -/
theorem records_ok_iff (names : List String) (d : Desk Store) :
    ((forM names loadTemplate).on d).1 = .ok () ↔
      ∀ key ∈ names, ReadableRecord d.shared.repository d.shared.clock.current key := by
  refine forM_ok_iff (P := d.Reads) ?_ (.refl d)
  intro key _ d₁ reads
  rw [← reads.repository, ← reads.clock]
  exact ⟨reads.trans (loadTemplate_reads key d₁), loadTemplate_ok_iff key d₁⟩

/-- What putting records that were read preserves, loading them preserves. -/
theorem records_preserve {Q : Store → Prop}
    (puts : ∀ {id now document t s}, Template.shape id now document = .valid t → Q s →
      Q (putLive t s)) (names : List String) : Keeps Q (forM names loadTemplate) := by
  intro d start
  refine forM_preserves (P := fun d' : Desk Store => Q d'.own) ?_ start
  intro key _ d₁ holds
  rcases loadTemplate_cases key d₁ with ⟨e, d₂, ran, -, own, -⟩ | ⟨id, x, d₂, ran, -, -, as, own⟩
  · rwa [ran, own]
  · rw [ran, own]
    cases as with
    | absent => exact holds
    | present _ _ read => exact puts read holds

/-- What putting histories preserves, loading them preserves. -/
theorem histories_preserve {Q : Store → Prop} (puts : ∀ {id h s}, Q s → Q (putHistory id h s))
    (ids : List String) : Keeps Q (forM ids loadHistory) := by
  intro d start
  refine forM_preserves (P := fun d' : Desk Store => Q d'.own) ?_ start
  intro key _ d₁ holds
  rcases loadHistory_cases key d₁ with ⟨e, d₂, ran, -, own, -⟩ | ⟨x, d₂, ran, -, -, own⟩
  · rwa [ran, own]
  · rw [ran, own]
    cases x with
    | none => exact holds
    | some h => exact puts holds

/-- What putting records that were read and histories preserves, loading preserves. -/
theorem load_preserves {Q : Store → Prop}
    (records : ∀ {id now document t s}, Template.shape id now document = .valid t → Q s →
      Q (putLive t s))
    (histories : ∀ {id h s}, Q s → Q (putHistory id h s)) : Keeps Q load := by
  refine Keeps.tryCatch ?_ fun _ => keeps_pure ()
  refine (keeps_keys .templates).bind fun names => ?_
  rw [forIn_eq_forM]
  refine (records_preserve (Q := Q) records names).bind fun _ => ?_
  refine (keeps_keys .versions).bind fun ids => ?_
  rw [forIn_eq_forM]
  exact (histories_preserve (Q := Q) histories ids).bind fun _ => keeps_pure ()

/-- How loading goes: the records of all keys first, and if each of them can be read, the histories
of all keys. It never fails. -/
theorem load_cases {names ids : List String}
    (templates : d.shared.repository.keys .templates = .ok names)
    (versions : d.shared.repository.keys .versions = .ok ids) :
    ∃ d₀, d.Reads d₀ ∧ d₀.own = d.own ∧
      ((∃ e d₁, (forM names loadTemplate).on d₀ = (.error e, d₁) ∧ load.on d = (.ok (), d₁)) ∨
        ∃ d₁ d₂, (forM names loadTemplate).on d₀ = (.ok (), d₁) ∧ d₁.Reads d₂ ∧ d₂.own = d₁.own ∧
          load.on d = (.ok (), ((forM ids loadHistory).on d₂).2)) := by
  obtain ⟨d₀, listed, reads, own⟩ := keys_reads .templates d
  rw [templates] at listed
  refine ⟨d₀, reads, own, ?_⟩
  unfold load
  rw [on_tryCatch, on_bind_ok listed, forIn_eq_forM]
  have along := records_read names d₀
  rcases ran : (forM names loadTemplate).on d₀ with ⟨e | ⟨⟩, d₁⟩
  · rw [on_bind_error ran]
    exact .inl ⟨e, d₁, rfl, rfl⟩
  · rw [ran] at along
    obtain ⟨d₂, listed₂, reads₂, own₂⟩ := keys_reads .versions d₁
    rw [along.repository, reads.repository, versions] at listed₂
    refine .inr ⟨d₁, d₂, rfl, reads₂, own₂, ?_⟩
    rw [on_bind_ok ran, on_bind_ok listed₂, forIn_eq_forM, on_bind]
    rcases (forM ids loadHistory).on d₂ with ⟨_ | _, d₃⟩ <;> rfl

/-- Loading never fails, and leaves what the parts share. -/
theorem load_reads {names ids : List String}
    (templates : d.shared.repository.keys .templates = .ok names)
    (versions : d.shared.repository.keys .versions = .ok ids) :
    (load.on d).1 = .ok () ∧ d.Reads (load.on d).2 := by
  obtain ⟨d₀, reads, -, ends⟩ := load_cases templates versions
  have along := reads.trans (records_read names d₀)
  rcases ends with ⟨e, d₁, ran, loaded⟩ | ⟨d₁, d₂, ran, reads₂, -, loaded⟩
  · rw [ran] at along
    rw [loaded]
    exact ⟨rfl, along⟩
  · rw [ran] at along
    rw [loaded]
    exact ⟨rfl, (along.trans reads₂).trans (histories_read ids d₂)⟩

/-! ### One template among others -/

/-- A record is stored under its identifier, and no other document holds a record with it. -/
structure StoredRecord (d : Desk Store) (names : List String) (t : Template) : Prop where
  listed : t.id ∈ names
  read : ∀ id, Upcoming d id →
    ReadsAs (Template.shape id d.shared.clock.current) d.shared.repository .templates t.id (some t)
  alone : ∀ key ∈ names, key ≠ t.id → ∀ id t', Upcoming d id →
    ReadsAs (Template.shape id d.shared.clock.current) d.shared.repository .templates key
      (some t') → t'.id ≠ t.id

/-- A history is stored under an identifier. -/
structure StoredHistory (d : Desk Store) (ids : List String) (id : String) (h : History) :
    Prop where
  listed : id ∈ ids
  read : ReadsAs (Schema.list (Version.shape d.shared.clock.current)) d.shared.repository .versions
    id (some h)

section

variable {names ids : List String} {t : Template} {h : History} {d₀ d₁ : Desk Store}

theorem Upcoming.of_reads {id : String} (reads : d.Reads d₁) (upcoming : Upcoming d₁ id) :
    Upcoming d id := by
  rcases upcoming with empty | ⟨n, lt, same⟩
  · exact .inl empty
  · exact .inr ⟨n, Nat.lt_of_le_of_lt reads.issued lt, same⟩

/-- What the rounds of loading do to the record. -/
theorem StoredRecord.settles (stored : StoredRecord d names t) (mem : key ∈ names) :
    Settles d.Reads (ReadableRecord d.shared.repository d.shared.clock.current)
      (fun s : Store => s.live.get? t.id) t.id (some t) loadTemplate key where
  holds := fun d₁ reads => reads.trans (loadTemplate_reads key d₁)
  succeeds := fun d₁ reads => reads.repository ▸ reads.clock ▸ loadTemplate_ok_iff key d₁
  settles := by
    rintro rfl d₁ reads
    rcases loadTemplate_cases t.id d₁ with
      ⟨e, d₂, -, -, -, bad⟩ | ⟨id, x, d₂, ran, -, upcoming, read, own⟩
    · rw [reads.clock, reads.repository] at bad
      exact absurd ⟨some t, stored.read "" (.inl rfl)⟩ bad
    · rw [reads.clock, reads.repository] at read
      obtain rfl := (stored.read id (upcoming.of_reads reads)).unique read
      have put : d₂.own = d₁.own.putLive t := own
      rw [ran, put, live_putLive, if_pos rfl]
  leaves := by
    intro ne d₁ reads
    rcases loadTemplate_cases key d₁ with
      ⟨e, d₂, ran, -, own, -⟩ | ⟨id, x, d₂, ran, -, upcoming, read, own⟩
    · rw [ran, own]
    · rw [ran, own]
      cases x with
      | none => rfl
      | some t' =>
        rw [reads.clock, reads.repository] at read
        have apart := stored.alone key mem ne id t' (upcoming.of_reads reads) read
        exact (live_putLive d₁.own t' t.id).trans (if_neg apart)

/-- What the rounds of loading do to the history. -/
theorem StoredHistory.settles {id : String} (stored : StoredHistory d ids id h) (key : String) :
    Settles d.Reads (ReadableHistory d.shared.repository d.shared.clock.current)
      (fun s : Store => s.history id) id h loadHistory key where
  holds := fun d₁ reads => reads.trans (loadHistory_reads key d₁)
  succeeds := fun d₁ reads => reads.repository ▸ reads.clock ▸ loadHistory_ok_iff key d₁
  settles := by
    rintro rfl d₁ reads
    rcases loadHistory_cases key d₁ with ⟨e, d₂, -, -, -, bad⟩ | ⟨x, d₂, ran, -, read, own⟩
    · rw [reads.clock, reads.repository] at bad
      exact absurd ⟨some h, stored.read⟩ bad
    · rw [reads.clock, reads.repository] at read
      obtain rfl := stored.read.unique read
      have put : d₂.own = d₁.own.putHistory key h := own
      rw [ran, put, history_putHistory, if_pos rfl]
  leaves := by
    intro ne d₁ reads
    rcases loadHistory_cases key d₁ with ⟨e, d₂, ran, -, own, -⟩ | ⟨x, d₂, ran, -, read, own⟩
    · rw [ran, own]
    · rw [ran, own]
      cases x with
      | none => rfl
      | some h' => exact (history_putHistory d₁.own id key h').trans (if_neg ne)

end

end Store

end Promptuary
