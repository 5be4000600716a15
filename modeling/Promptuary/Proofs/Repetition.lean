import Promptuary.Proofs.Operation

/-!
Operations that are done a second time. A round that has succeeded rests: done again, it gives an
idle result and leaves all as it is, whatever the rounds after it did. Rounds over a list rest then
as a whole, and where one of them failed, they fail there again.
-/

namespace Promptuary

namespace Operation

variable {σ α β : Type} {d d' : Desk σ}

/-- Done again after itself, an operation changes nothing. It gives the idle result if it succeeded
before, and fails in the same way if it failed. -/
def Repeats (op : Operation σ β) (idle : β) (d : Desk σ) : Prop :=
  op.on (op.on d).2 = ((op.on d).1.map fun _ => idle, (op.on d).2)

theorem repeats_of_cases {op : Operation σ β} {idle : β}
    (succeeded : ∀ r d', op.on d = (.ok r, d') → op.on d' = (.ok idle, d'))
    (failed : ∀ e d', op.on d = (.error e, d') → op.on d' = (.error e, d')) :
    op.Repeats idle d := by
  unfold Repeats
  rcases ran : op.on d with ⟨e | r, d'⟩
  · exact failed e d' ran
  · exact succeeded r d' ran

theorem Repeats.failed {op : Operation σ β} {idle : β} {e : Failure} (repeats : op.Repeats idle d)
    (ran : op.on d = (.error e, d')) : op.on d' = (.error e, d') := by
  unfold Repeats at repeats
  rw [ran] at repeats
  exact repeats

/-! ### Rounds -/

section

variable {f : α → Operation σ β} {xs : List α} {P : Desk σ → Prop}

/-- What every round preserves, whether or not it succeeds, the rounds preserve. -/
theorem mapM_preserves (rounds : ∀ x ∈ xs, ∀ d, P d → P ((f x).on d).2) (start : P d) :
    P ((xs.mapM f).on d).2 := by
  induction xs generalizing d with
  | nil => exact start
  | cons x xs ih =>
    have first := rounds x List.mem_cons_self d start
    rw [List.mapM_cons, on_bind]
    rcases ran : (f x).on d with ⟨e | r, d₁⟩
    · rw [ran] at first
      exact first
    · rw [ran] at first
      have rest := ih (fun y mem => rounds y (List.mem_cons_of_mem _ mem)) first
      dsimp only
      rw [on_bind]
      rcases ran' : (xs.mapM f).on d₁ with ⟨e | rs, d₂⟩
      · rw [ran'] at rest
        exact rest
      · rw [ran'] at rest
        exact rest

/-- Rounds that come to rest. Whether a round rests is told by `Idle`, and the desks at which this
holds are those with the invariant `P`. -/
structure Resting (P : Desk σ → Prop) (Idle : α → Desk σ → Prop) (f : α → Operation σ β) (idle : β)
    (xs : List α) : Prop where
  keeps : ∀ x ∈ xs, ∀ d, P d → P ((f x).on d).2
  rests : ∀ x ∈ xs, ∀ d, P d → Idle x d → (f x).on d = (.ok idle, d)
  settles : ∀ x ∈ xs, ∀ d r d', P d → (f x).on d = (.ok r, d') → Idle x d'
  fails : ∀ x ∈ xs, ∀ d e d', P d → (f x).on d = (.error e, d') → (f x).on d' = (.error e, d')
  stays : xs.Pairwise fun x y => ∀ d, P d → Idle x d → Idle x ((f y).on d).2

variable {Idle : α → Desk σ → Prop} {idle : β} {x : α} {rs : List β} {e : Failure}

theorem Resting.tail (resting : Resting P Idle f idle (x :: xs)) : Resting P Idle f idle xs where
  keeps y mem := resting.keeps y (List.mem_cons_of_mem _ mem)
  rests y mem := resting.rests y (List.mem_cons_of_mem _ mem)
  settles y mem := resting.settles y (List.mem_cons_of_mem _ mem)
  fails y mem := resting.fails y (List.mem_cons_of_mem _ mem)
  stays := (List.pairwise_cons.1 resting.stays).2

theorem Resting.kept (resting : Resting P Idle f idle xs) (start : P d) :
    P ((xs.mapM f).on d).2 := mapM_preserves resting.keeps start

/-- A round that rests does so after the rounds that follow it. -/
theorem Resting.idle_kept (resting : Resting P Idle f idle (x :: xs)) (start : P d)
    (idle : Idle x d) : Idle x ((xs.mapM f).on d).2 := by
  refine (mapM_preserves (P := fun d => P d ∧ Idle x d) ?_ ⟨start, idle⟩).2
  rintro y mem d ⟨holds, idle⟩
  constructor
  · exact resting.keeps y (List.mem_cons_of_mem _ mem) d holds
  · exact (List.pairwise_cons.1 resting.stays).1 y mem d holds idle

/-- After rounds that succeeded, each of them rests. -/
theorem Resting.settled (resting : Resting P Idle f idle xs) (start : P d)
    (ran : (xs.mapM f).on d = (.ok rs, d')) : ∀ x ∈ xs, Idle x d' := by
  induction xs generalizing d rs with
  | nil => exact fun _ mem => absurd mem List.not_mem_nil
  | cons x xs ih =>
    rw [List.mapM_cons] at ran
    rcases on_bind_cases ran with ⟨e, -, failed⟩ | ⟨r, d₁, first, more⟩
    · cases failed
    rcases on_bind_cases more with ⟨e, -, failed⟩ | ⟨rs', d₂, rest, done⟩
    · cases failed
    cases done
    have holds : P d₁ := by
      have kept := resting.keeps x List.mem_cons_self d start
      rw [first] at kept
      exact kept
    intro y mem
    rcases List.mem_cons.1 mem with rfl | later
    · have here := resting.idle_kept holds
        (resting.settles y List.mem_cons_self d r d₁ start first)
      rw [rest] at here
      exact here
    · exact ih resting.tail holds rest y later

/-- Where every round rests, the rounds change nothing. -/
theorem Resting.idles (resting : Resting P Idle f idle xs) (holds : P d)
    (all : ∀ x ∈ xs, Idle x d) : (xs.mapM f).on d = (.ok (xs.map fun _ => idle), d) := by
  induction xs with
  | nil => rfl
  | cons x xs ih =>
    have first := resting.rests x List.mem_cons_self d holds (all x List.mem_cons_self)
    have rest := ih resting.tail fun y mem => all y (List.mem_cons_of_mem _ mem)
    rw [List.mapM_cons, on_bind_ok first, on_bind_ok rest]
    rfl

/-- Rounds one of which failed fail there again. -/
theorem Resting.failed (resting : Resting P Idle f idle xs) (start : P d)
    (ran : (xs.mapM f).on d = (.error e, d')) : (xs.mapM f).on d' = (.error e, d') := by
  induction xs generalizing d with
  | nil => cases ran
  | cons x xs ih =>
    rw [List.mapM_cons] at ran ⊢
    rcases on_bind_cases ran with ⟨e', first, same⟩ | ⟨r, d₁, first, more⟩
    · cases same
      exact on_bind_error (resting.fails x List.mem_cons_self d e d' start first) _
    have holds : P d₁ := by
      have kept := resting.keeps x List.mem_cons_self d start
      rw [first] at kept
      exact kept
    rcases on_bind_cases more with ⟨e', rest, same⟩ | ⟨rs', d₂, -, done⟩
    · -- The first round rests after the failure, so that the failure is reached again.
      cases same
      have idle := resting.idle_kept holds
        (resting.settles x List.mem_cons_self d r d₁ start first)
      have kept := resting.tail.kept holds
      rw [rest] at idle kept
      rw [on_bind_ok (resting.rests x List.mem_cons_self d' kept idle),
        on_bind_error (ih resting.tail holds rest)]
    · cases done

/-- Rounds that come to rest repeat themselves as a whole. -/
theorem Resting.repeats (resting : Resting P Idle f idle xs) (start : P d) :
    (xs.mapM f).Repeats (xs.map fun _ => idle) d := by
  refine repeats_of_cases (fun rs d' ran => ?_) fun e d' ran => resting.failed start ran
  have kept := resting.kept start
  rw [ran] at kept
  exact resting.idles kept (resting.settled start ran)

end

/-! ### Results in another form -/

theorem on_bind_pure {γ : Type} (op : Operation σ α) (g : α → γ) (d : Desk σ) :
    (op >>= fun a => pure (g a)).on d = ((op.on d).1.map g, (op.on d).2) := by
  rw [on_bind]
  rcases op.on d with ⟨e | a, d'⟩
  · rfl
  · rfl

/-- An operation whose result is brought into another form repeats itself like the operation. -/
theorem Repeats.map {γ : Type} {op : Operation σ α} {idle : α} (repeats : op.Repeats idle d)
    (g : α → γ) : (op >>= fun a => pure (g a)).Repeats (g idle) d := by
  unfold Repeats at repeats ⊢
  simp only [on_bind_pure, repeats]
  rcases (op.on d).1 with e | a
  · rfl
  · rfl

/-- Rounds that give something or nothing, as rounds the results of which are sorted out later. -/
theorem filterMapM_eq_mapM (f : α → Operation σ (Option β)) (xs : List α) :
    xs.filterMapM f = xs.mapM f >>= fun rs => pure (rs.filterMap id) := by
  induction xs with
  | nil => rfl
  | cons x xs ih =>
    rw [List.filterMapM_cons, List.mapM_cons, ih]
    simp only [bind_assoc, pure_bind]
    refine bind_congr fun r => ?_
    cases r with
    | none => rfl
    | some r => rfl

theorem Resting.filterMapM_idles {f : α → Operation σ (Option β)} {xs : List α}
    {P : Desk σ → Prop} {Idle : α → Desk σ → Prop} (resting : Resting P Idle f none xs)
    (holds : P d) (all : ∀ x ∈ xs, Idle x d) : (xs.filterMapM f).on d = (.ok [], d) := by
  rw [filterMapM_eq_mapM, on_bind_pure, resting.idles holds all]
  simp [Except.map]

end Operation

end Promptuary
