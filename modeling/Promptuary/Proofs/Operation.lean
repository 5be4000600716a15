import Promptuary.Operation

/-!
What operations leave behind. An operation is taken apart at its binds, one lemma for each
primitive, and the desk after it is compared with the desk before it: the state of the part, the
repository and what was announced are named, and the clock has only gone on.
-/

namespace Promptuary

/-! ### Readings of the clock -/

namespace Script

variable {α : Type} {s s' : Script α} {a : α}

/-- All values that a source still gives. -/
def readings (s : Script α) : List α := s.upcoming ++ [s.afterwards]

theorem rest_suffix (s : Script α) : s.rest.readings <:+ s.readings := by
  obtain ⟨upcoming, afterwards⟩ := s
  cases upcoming with
  | nil => exact List.suffix_refl _
  | cons a upcoming => exact List.suffix_cons a _

theorem current_mem (s : Script α) : s.current ∈ s.readings := by
  obtain ⟨upcoming, afterwards⟩ := s
  cases upcoming with
  | nil => exact List.mem_singleton_self _
  | cons a upcoming => exact List.mem_cons_self

/-- A source that gives one value again and again. -/
def Gives (s : Script α) (a : α) : Prop := ∀ b ∈ s.readings, b = a

theorem gives_always (a : α) : (always a).Gives a := fun _ mem => List.mem_singleton.1 mem

/-- A source that always gives one value does so later. -/
theorem eq_always (later : s.readings <:+ (always a).readings) : s = always a := by
  obtain ⟨upcoming, afterwards⟩ := s
  have gives : afterwards = a := List.mem_singleton.1 (later.mem List.mem_concat_self)
  cases upcoming with
  | nil => rw [gives, always]
  | cons b upcoming =>
    have longer := later.length_le
    simp [readings, always] at longer

theorem Gives.current (gives : s.Gives a) : s.current = a := gives _ s.current_mem

theorem Gives.later (gives : s.Gives a) (later : s'.readings <:+ s.readings) : s'.Gives a :=
  fun b mem => gives b (later.mem mem)

end Script

/-! ### What is left behind -/

namespace Desk

variable {σ : Type} {d d₁ d₂ : Desk σ} {own₁ own₂ : σ} {r₁ r₂ : Storage.Repository}
  {ns₁ ns₂ : List Notice}

/-- What was announced so far, without the times. -/
def notices (d : Desk σ) : List Notice := d.shared.announced.map (·.notice)

/-- One desk after another: with a state, a repository and some announcements more. The clock has
gone on, and identifiers may have been given out. -/
structure Leads (d d' : Desk σ) (own : σ) (repository : Storage.Repository)
    (notices : List Notice) : Prop where
  own : d'.own = own
  repository : d'.shared.repository = repository
  notices : d'.notices = d.notices ++ notices
  issued : d.shared.issued ≤ d'.shared.issued
  clock : d'.shared.clock.readings <:+ d.shared.clock.readings

/-- A desk at which nothing happened but that time passed. -/
abbrev Passes (d d' : Desk σ) : Prop := d.Leads d' d.own d.shared.repository []

theorem Passes.refl (d : Desk σ) : d.Passes d :=
  ⟨rfl, rfl, (List.append_nil _).symm, Nat.le_refl _, List.suffix_refl _⟩

theorem Leads.trans (first : d.Leads d₁ own₁ r₁ ns₁) (second : d₁.Leads d₂ own₂ r₂ ns₂) :
    d.Leads d₂ own₂ r₂ (ns₁ ++ ns₂) where
  own := second.own
  repository := second.repository
  notices := by rw [second.notices, first.notices, List.append_assoc]
  issued := Nat.le_trans first.issued second.issued
  clock := second.clock.trans first.clock

theorem Leads.andPasses (first : d.Leads d₁ own₁ r₁ ns₁) (second : d₁.Passes d₂) :
    d.Leads d₂ own₁ r₁ ns₁ := by
  have both := first.trans second
  rw [first.own, first.repository, List.append_nil] at both
  exact both

theorem Passes.andLeads (first : d.Passes d₁) (second : d₁.Leads d₂ own₂ r₂ ns₂) :
    d.Leads d₂ own₂ r₂ ns₂ := by
  have both := first.trans second
  rw [List.nil_append] at both
  exact both

theorem Passes.trans (first : d.Passes d₁) (second : d₁.Passes d₂) : d.Passes d₂ :=
  Leads.andPasses first second

/-- The desk after the clock was read. -/
def ticked (d : Desk σ) : Desk σ :=
  { d with shared := { d.shared with clock := d.shared.clock.rest } }

theorem passes_ticked (d : Desk σ) : d.Passes d.ticked :=
  { Passes.refl d with clock := d.shared.clock.rest_suffix }

/-- A desk at which documents were read: nothing that the parts share has changed, but that
identifiers may have been given out and files waited for. -/
structure Reads (d d' : Desk σ) : Prop where
  repository : d'.shared.repository = d.shared.repository
  clock : d'.shared.clock = d.shared.clock
  announced : d'.shared.announced = d.shared.announced
  issued : d.shared.issued ≤ d'.shared.issued

theorem Reads.refl (d : Desk σ) : d.Reads d := ⟨rfl, rfl, rfl, Nat.le_refl _⟩

theorem Reads.trans (first : d.Reads d₁) (second : d₁.Reads d₂) : d.Reads d₂ where
  repository := second.repository.trans first.repository
  clock := second.clock.trans first.clock
  announced := second.announced.trans first.announced
  issued := Nat.le_trans first.issued second.issued

end Desk

/-! ### Operations, step by step -/

namespace Operation

variable {σ α β : Type} {d d' : Desk σ}

theorem on_bind (x : Operation σ α) (f : α → Operation σ β) (d : Desk σ) :
    (x >>= f).on d =
      match x.on d with
      | (.ok a, d') => (f a).on d'
      | (.error e, d') => (.error e, d') := by
  change (ExceptT.bindCont f (x.on d).1).run (x.on d).2 = _
  rcases x.on d with ⟨_ | _, d'⟩ <;> rfl

/-- What follows an operation that succeeded. -/
theorem on_bind_ok {x : Operation σ α} {a : α} (h : x.on d = (.ok a, d'))
    (f : α → Operation σ β) : (x >>= f).on d = (f a).on d' := by
  rw [on_bind, h]

/-- Nothing follows an operation that failed. -/
theorem on_bind_error {x : Operation σ α} {e : Failure} (h : x.on d = (.error e, d'))
    (f : α → Operation σ β) : (x >>= f).on d = (.error e, d') := by
  rw [on_bind, h]

/-- How an operation in two parts can end: its first part fails, or it goes on with the result. -/
theorem on_bind_cases {x : Operation σ α} {f : α → Operation σ β} {r : Except Failure β}
    (h : (x >>= f).on d = (r, d')) :
    (∃ e, x.on d = (.error e, d') ∧ r = .error e) ∨
      ∃ a d₁, x.on d = (.ok a, d₁) ∧ (f a).on d₁ = (r, d') := by
  rcases first : x.on d with ⟨e | a, d₁⟩
  · rw [on_bind_error first] at h
    cases h
    exact .inl ⟨e, rfl, rfl⟩
  · rw [on_bind_ok first] at h
    exact .inr ⟨a, d₁, rfl, h⟩

@[simp] theorem on_own (d : Desk σ) : (own : Operation σ σ).on d = (.ok d.own, d) := rfl

@[simp] theorem on_change (f : σ → σ) (d : Desk σ) :
    (change f).on d = (.ok (), { d with own := f d.own }) := rfl

@[simp] theorem on_now (d : Desk σ) :
    (now : Operation σ Calendar.Moment).on d = (.ok d.shared.clock.current, d.ticked) := rfl

@[simp] theorem on_attempt (r : Except Failure α) (d : Desk σ) : (attempt r).on d = (r, d) := rfl

/-- An operation of a part changes that part of the whole only. -/
theorem on_within {τ : Type} (get : τ → σ) (set : σ → τ → τ) (op : Operation σ α) (d : Desk τ) :
    (within get set op).on d = ((op.on ⟨get d.own, d.shared⟩).1,
      ⟨set (op.on ⟨get d.own, d.shared⟩).2.own d.own, (op.on ⟨get d.own, d.shared⟩).2.shared⟩) :=
  rfl

theorem on_attempt_bind (r : Except Failure α) (f : α → Operation σ β) (d : Desk σ) :
    (attempt r >>= f).on d =
      match r with
      | .ok a => (f a).on d
      | .error e => (.error e, d) := by
  cases r <;> rfl

theorem attempt_spec {x r : Except Failure α} (ran : (attempt x).on d = (r, d')) :
    d = d' ∧ x = r := by
  cases ran
  exact ⟨rfl, rfl⟩

theorem mapError_eq_ok {ε ε' : Type} {x : Except ε α} {f : ε → ε'} {a : α}
    (ok : x.mapError f = .ok a) : x = .ok a := by
  cases x with
  | error => cases ok
  | ok b =>
    cases ok
    rfl

/-- Announcing something succeeds and leaves nothing else behind. -/
theorem announce_leads (notice : Notice) (d : Desk σ) :
    ∃ d', (announce notice).on d = (.ok (), d') ∧
      d.Leads d' d.own d.shared.repository [notice] := by
  refine ⟨_, rfl, rfl, rfl, ?_, Nat.le_refl _, d.shared.clock.rest_suffix⟩
  simp [Desk.notices]

/-- The identifier that is given out after some. -/
def identifier (issued : Nat) : String := s!"tpl-{issued}"

/-- Giving out an identifier leaves nothing behind but that it is given out. -/
theorem issue_passes (d : Desk σ) :
    ∃ d', (issue : Operation σ String).on d = (.ok (identifier (d.shared.issued + 1)), d') ∧
      d.Passes d' ∧ d'.shared.issued = d.shared.issued + 1 ∧ d'.shared.clock = d.shared.clock :=
  ⟨_, rfl, ⟨rfl, rfl, (List.append_nil _).symm, Nat.le_succ _, List.suffix_refl _⟩, rfl, rfl⟩

theorem await_passes (key : Option String) (d : Desk σ) :
    ∃ d', (await key).on d = (.ok (), d') ∧ d.Passes d' := by
  refine ⟨_, rfl, ?_⟩
  change d.Passes (if _ then _ else _)
  split
  · exact ⟨rfl, rfl, (List.append_nil _).symm, Nat.le_refl _, List.suffix_refl _⟩
  · exact .refl d

theorem await_reads (key : Option String) (d : Desk σ) :
    ∃ d', (await key).on d = (.ok (), d') ∧ d.Reads d' ∧ d'.own = d.own := by
  refine ⟨_, rfl, ?_⟩
  change d.Reads (if _ then _ else _) ∧ Desk.own (if _ then _ else _) = _
  split
  · exact ⟨⟨rfl, rfl, rfl, Nat.le_refl _⟩, rfl⟩
  · exact ⟨.refl d, rfl⟩

theorem fetch_reads (space : Storage.Space) (key : String) (d : Desk σ) :
    ∃ d', (fetch space key).on d = (d.shared.repository.get space key, d') ∧ d.Reads d' ∧
      d'.own = d.own := by
  obtain ⟨d₁, awaited, reads, own⟩ := await_reads (some key) d
  refine ⟨d₁, (on_bind_ok awaited _).trans ?_, reads, own⟩
  rw [← reads.repository]
  rfl

theorem keys_reads (space : Storage.Space) (d : Desk σ) :
    ∃ d', (keys space).on d = (d.shared.repository.keys space, d') ∧ d.Reads d' ∧
      d'.own = d.own := by
  obtain ⟨d₁, awaited, reads, own⟩ := await_reads none d
  refine ⟨d₁, (on_bind_ok awaited _).trans ?_, reads, own⟩
  rw [← reads.repository]
  rfl

/-- Storing a document puts the repository in which it is stored in the place of the one before, or
fails and leaves that one. -/
theorem store_cases (space : Storage.Space) (key : String) (document : Datum) (d : Desk σ) :
    (∃ e d', d.shared.repository.set space key document = .error e ∧
        (store space key document).on d = (.error e, d') ∧ d.Passes d') ∨
      ∃ r d', d.shared.repository.set space key document = .ok r ∧
        (store space key document).on d = (.ok (), d') ∧ d.Leads d' d.own r [] := by
  obtain ⟨d₁, awaited, passes⟩ := await_passes (some key) d
  have same : (store space key document).on d =
      match d.shared.repository.set space key document with
      | .ok r => (.ok (), { d₁ with shared := { d₁.shared with repository := r } })
      | .error e => (.error e, d₁) := by
    unfold store
    rw [on_bind_ok awaited]
    change (attempt (d₁.shared.repository.set space key document) >>= useRepository).on d₁ = _
    rw [on_bind, on_attempt, passes.repository]
    cases d.shared.repository.set space key document <;> rfl
  cases stored : d.shared.repository.set space key document with
  | error e =>
    rw [stored] at same
    exact .inl ⟨e, d₁, rfl, same, passes⟩
  | ok r =>
    rw [stored] at same
    exact .inr ⟨r, _, rfl, same, { passes with repository := rfl }⟩

/-- What follows a failure that is caught. -/
theorem on_tryCatch (op : Operation σ α) (handle : Failure → Operation σ α) (d : Desk σ) :
    (tryCatch op handle).on d =
      match op.on d with
      | (.ok a, d') => (.ok a, d')
      | (.error e, d') => (handle e).on d' := by
  let ended : Operation σ α := ExceptT.mk fun _ => op.on d
  have same : (tryCatch op handle).on d = (tryCatch ended handle).on d := rfl
  rw [same]
  unfold ended
  rcases op.on d with ⟨_ | _, d'⟩ <;> rfl

/-- A failure that is reacted to passes on, after the reaction. -/
theorem on_onFailure (react : Failure → Operation σ Unit) (op : Operation σ α) (d : Desk σ) :
    (onFailure react op).on d =
      match op.on d with
      | (.ok a, d') => (.ok a, d')
      | (.error e, d') => (react e >>= fun _ => throw e).on d' :=
  on_tryCatch ..

/-! ### What an operation keeps -/

/-- An operation that leads from states of a part with one property to states with another, whether
or not it succeeds. -/
def Brings (P Q : σ → Prop) (op : Operation σ α) : Prop := ∀ d, P d.own → Q (op.on d).2.own

/-- A property of the state of a part that an operation keeps, whether or not it succeeds. -/
def Keeps (P : σ → Prop) (op : Operation σ α) : Prop := ∀ d, P d.own → P (op.on d).2.own

section

variable {P Q R : σ → Prop}

/-- Where the first of two operations may fail, what it brings has to imply what both bring. -/
theorem Brings.bind {x : Operation σ α} {f : α → Operation σ β} (first : Brings P Q x)
    (early : ∀ s, Q s → R s) (second : ∀ a, Brings Q R (f a)) : Brings P R (x >>= f) := by
  intro d holds
  have after := first d holds
  rw [on_bind]
  rcases ran : x.on d with ⟨_ | a, d₁⟩
  · rw [ran] at after
    exact early _ after
  · rw [ran] at after
    exact second a d₁ after

theorem Keeps.bind {x : Operation σ α} {f : α → Operation σ β} (first : Keeps P x)
    (second : ∀ a, Keeps P (f a)) : Keeps P (x >>= f) :=
  Brings.bind first (fun _ holds => holds) second

theorem keeps_own : Keeps P own := fun _ holds => holds

theorem keeps_now : Keeps P now := fun _ holds => holds

theorem keeps_pure (a : α) : Keeps P (pure a) := fun _ holds => holds

theorem keeps_attempt (r : Except Failure α) : Keeps P (attempt r) := fun _ holds => holds

theorem keeps_announce (notice : Notice) : Keeps P (announce notice) := by
  intro d holds
  obtain ⟨d', ran, leads⟩ := announce_leads notice d
  rw [ran]
  rw [← leads.own] at holds
  exact holds

theorem keeps_keys (space : Storage.Space) : Keeps P (keys space) := by
  intro d holds
  obtain ⟨d', ran, -, own⟩ := keys_reads space d
  rw [ran]
  rw [← own] at holds
  exact holds

theorem keeps_change {f : σ → σ} (step : ∀ s, P s → P (f s)) : Keeps P (change f) :=
  fun _ holds => step _ holds

theorem Keeps.tryCatch {op : Operation σ α} {handle : Failure → Operation σ α}
    (first : Keeps P op) (second : ∀ e, Keeps P (handle e)) : Keeps P (tryCatch op handle) := by
  intro d holds
  have after := first d holds
  rw [on_tryCatch]
  rcases ran : op.on d with ⟨e | a, d₁⟩
  · rw [ran] at after
    exact second e d₁ after
  · rw [ran] at after
    exact after

end

/-! ### Loops -/

section

variable {round : String → Operation σ Unit} {keys : List String}

/-- A loop over keys whose rounds hand nothing on does its rounds one after another. -/
theorem forIn_eq_forM (round : String → Operation σ Unit) (keys : List String) :
    (forIn keys PUnit.unit fun key _ => do
      round key
      pure (ForInStep.yield PUnit.unit) : Operation σ PUnit) = forM keys round := by
  induction keys with
  | nil => rfl
  | cons key keys ih =>
    rw [List.forIn_cons, List.forM_cons, ← ih]
    simp only [bind_assoc, pure_bind]

theorem on_forM_cons (round : String → Operation σ Unit) (key : String) (keys : List String)
    (d : Desk σ) : (forM (key :: keys) round).on d =
      match (round key).on d with
      | (.ok _, d') => (forM keys round).on d'
      | (.error e, d') => (.error e, d') := by
  rw [List.forM_cons, on_bind]
  rcases (round key).on d with ⟨_ | _, d'⟩ <;> rfl

/-- What every round preserves, whether or not it succeeds, the rounds preserve. -/
theorem forM_preserves {P : Desk σ → Prop}
    (rounds : ∀ key ∈ keys, ∀ d, P d → P ((round key).on d).2) (start : P d) :
    P ((forM keys round).on d).2 := by
  induction keys generalizing d with
  | nil => exact start
  | cons key keys ih =>
    have first := rounds key List.mem_cons_self d start
    rw [on_forM_cons]
    rcases ran : (round key).on d with ⟨e | _, d₁⟩
    · rw [ran] at first
      exact first
    · rw [ran] at first
      exact ih (fun other mem => rounds other (List.mem_cons_of_mem _ mem)) first

/-- The rounds succeed if and only if every single one can. -/
theorem forM_ok_iff {P : Desk σ → Prop} {Succeeds : String → Prop}
    (rounds : ∀ key ∈ keys, ∀ d, P d →
      P ((round key).on d).2 ∧ (((round key).on d).1 = .ok () ↔ Succeeds key)) (start : P d) :
    ((forM keys round).on d).1 = .ok () ↔ ∀ key ∈ keys, Succeeds key := by
  induction keys generalizing d with
  | nil => exact ⟨fun _ _ mem => absurd mem List.not_mem_nil, fun _ => rfl⟩
  | cons key keys ih =>
    obtain ⟨holds, succeeds⟩ := rounds key List.mem_cons_self d start
    rw [on_forM_cons, List.forall_mem_cons]
    rcases ran : (round key).on d with ⟨e | ⟨⟩, d₁⟩
    · rw [ran] at succeeds
      exact ⟨nofun, fun all => nomatch succeeds.2 all.1⟩
    · rw [ran] at holds succeeds
      rw [ih (fun other mem => rounds other (List.mem_cons_of_mem _ mem)) holds]
      exact ⟨fun rest => ⟨succeeds.1 rfl, rest⟩, And.right⟩

/-- Rounds that each succeed and give their key a value give every key its value. -/
theorem forM_looks {γ : Type} {P : Desk σ → Prop} (look : σ → String → γ) (value : String → γ)
    (rounds : ∀ key ∈ keys, ∀ d, P d → ∃ d', (round key).on d = (.ok (), d') ∧ P d' ∧
      ∀ id, look d'.own id = if key = id then value key else look d.own id) (start : P d) :
    ∃ d', (forM keys round).on d = (.ok (), d') ∧ P d' ∧
      ∀ id, look d'.own id = if id ∈ keys then value id else look d.own id := by
  induction keys generalizing d with
  | nil => exact ⟨d, rfl, start, fun _ => rfl⟩
  | cons key keys ih =>
    obtain ⟨d₁, ran, holds, first⟩ := rounds key List.mem_cons_self d start
    obtain ⟨d₂, rest, holds', looks⟩ :=
      ih (fun other mem => rounds other (List.mem_cons_of_mem _ mem)) holds
    refine ⟨d₂, (on_bind_ok ran _).trans rest, holds', fun id => ?_⟩
    rw [looks, first]
    by_cases same : key = id
    · subst same
      simp
    · simp [same, Ne.symm same]

/-- The keys that come before the first place of one. -/
def before (key : String) (keys : List String) : List String := keys.takeWhile (· ≠ key)

/-- What rounds do to one key, when every round keeps the invariant: the round of the key itself
succeeds and settles what is looked up, those of other keys leave it. -/
structure Settles {γ : Type} (P : Desk σ → Prop) (Succeeds : String → Prop) (look : σ → γ)
    (target : String) (a : γ) (round : String → Operation σ Unit) (key : String) : Prop where
  holds : ∀ d, P d → P ((round key).on d).2
  succeeds : ∀ d, P d → (((round key).on d).1 = .ok () ↔ Succeeds key)
  settles : key = target → ∀ d, P d → look ((round key).on d).2.own = a
  leaves : key ≠ target → ∀ d, P d → look ((round key).on d).2.own = look d.own

section

variable {γ : Type} {P : Desk σ → Prop} {Succeeds : String → Prop} {look : σ → γ}
  {target : String} {a : γ} {keys : List String} {d : Desk σ}

/-- What is settled stays settled. -/
theorem forM_settled (rounds : ∀ key ∈ keys, Settles P Succeeds look target a round key)
    (start : P d) (settled : look d.own = a) : look ((forM keys round).on d).2.own = a := by
  refine (forM_preserves (P := fun d => P d ∧ look d.own = a) ?_ ⟨start, settled⟩).2
  rintro key mem d ⟨holds, same⟩
  refine ⟨(rounds key mem).holds d holds, ?_⟩
  by_cases here : key = target
  · exact (rounds key mem).settles here d holds
  · exact ((rounds key mem).leaves here d holds).trans same

/-- What is looked up for a key is settled if the rounds before it succeed, and is left as it was
otherwise. -/
theorem forM_settles (rounds : ∀ key ∈ keys, Settles P Succeeds look target a round key)
    (start : P d) (target_succeeds : Succeeds target) (listed : target ∈ keys) :
    ((∀ key ∈ before target keys, Succeeds key) → look ((forM keys round).on d).2.own = a) ∧
      ((¬ ∀ key ∈ before target keys, Succeeds key) →
        look ((forM keys round).on d).2.own = look d.own) := by
  induction keys generalizing d with
  | nil => exact absurd listed List.not_mem_nil
  | cons key keys ih =>
    have first := rounds key List.mem_cons_self
    have rest := fun other mem => rounds other (List.mem_cons_of_mem key mem)
    have holds := first.holds d start
    have succeeds := first.succeeds d start
    rw [on_forM_cons]
    by_cases here : key = target
    · have none_before : before target (key :: keys) = [] := by simp [before, here]
      have settled := first.settles here d start
      rw [here] at succeeds
      rw [none_before]
      refine ⟨fun _ => ?_, fun some_fails => absurd (fun _ mem => nomatch mem) some_fails⟩
      rcases ran : (round key).on d with ⟨e | ⟨⟩, d₁⟩
      · rw [here] at ran
        rw [ran] at succeeds
        exact nomatch succeeds.2 target_succeeds
      · rw [ran] at holds settled
        exact forM_settled rest holds settled
    · have one_before : before target (key :: keys) = key :: before target keys := by
        simp [before, here]
      have left := first.leaves here d start
      rw [one_before, List.forall_mem_cons]
      rcases ran : (round key).on d with ⟨e | ⟨⟩, d₁⟩
      · rw [ran] at left succeeds
        exact ⟨fun all => (nomatch succeeds.2 all.1), fun _ => left⟩
      · rw [ran] at holds left succeeds
        obtain ⟨settles, leaves⟩ := ih rest holds (List.mem_of_ne_of_mem (Ne.symm here) listed)
        have now : Succeeds key := succeeds.1 rfl
        refine ⟨fun all => settles all.2, fun fails => ?_⟩
        exact (leaves fun all => fails ⟨now, all⟩).trans left

end

end

/-! ### Rounds with results -/

/-- Rounds over a list succeed if each of them does where those before it were done. -/
theorem mapM_runs {f : α → Operation σ β} {xs : List α} {P : List α → Desk σ → Prop}
    (rounds : ∀ before x after d, xs = before ++ x :: after → P before d →
      ∃ r d', (f x).on d = (.ok r, d') ∧ P (before ++ [x]) d') (start : P [] d) :
    ∃ rs d', (xs.mapM f).on d = (.ok rs, d') ∧ P xs d' := by
  suffices rest : ∀ before after d, xs = before ++ after → P before d →
      ∃ rs d', (after.mapM f).on d = (.ok rs, d') ∧ P xs d' from rest [] xs d rfl start
  intro before after d whole done
  induction after generalizing before d with
  | nil =>
    rw [List.append_nil] at whole
    exact ⟨[], d, rfl, whole ▸ done⟩
  | cons x after ih =>
    obtain ⟨r, d₁, ran, next⟩ := rounds before x after d whole done
    obtain ⟨rs, d₂, later, all⟩ := ih (before ++ [x]) d₁ (by rw [whole, List.append_cons]) next
    refine ⟨r :: rs, d₂, ?_, all⟩
    rw [List.mapM_cons, on_bind_ok ran, on_bind_ok later]
    rfl

theorem filterMapM_runs {f : α → Operation σ (Option β)} {xs : List α}
    {P : List α → Desk σ → Prop}
    (rounds : ∀ before x after d, xs = before ++ x :: after → P before d →
      ∃ r d', (f x).on d = (.ok r, d') ∧ P (before ++ [x]) d') (start : P [] d) :
    ∃ rs d', (xs.filterMapM f).on d = (.ok rs, d') ∧ P xs d' := by
  suffices rest : ∀ before after d, xs = before ++ after → P before d →
      ∃ rs d', (after.filterMapM f).on d = (.ok rs, d') ∧ P xs d' from rest [] xs d rfl start
  intro before after d whole done
  induction after generalizing before d with
  | nil =>
    rw [List.append_nil] at whole
    exact ⟨[], d, rfl, whole ▸ done⟩
  | cons x after ih =>
    obtain ⟨r, d₁, ran, next⟩ := rounds before x after d whole done
    obtain ⟨rs, d₂, later, all⟩ := ih (before ++ [x]) d₁ (by rw [whole, List.append_cons]) next
    rw [List.filterMapM_cons, on_bind_ok ran]
    cases r with
    | none => exact ⟨rs, d₂, later, all⟩
    | some r =>
      refine ⟨r :: rs, d₂, ?_, all⟩
      rw [on_bind_ok later]
      rfl

end Operation

end Promptuary
