import Promptuary.Proofs.Template.Reading

/-!
Bound text is never read as a template. Conditionals and loops cannot tell one text that is not
empty from another, and a variable's tag passes the text on as it is. Main statement: what a
template compiles to is a fixed row of pieces with the text in its holes, one for each tag of the
name that is left (`bound_text_is_inserted`).
-/

namespace Promptuary

open Token

/-! ### Pieces -/

/-- A part of a compiled template: text that is fixed, or a hole for the text of a name. -/
inductive Piece where
  | fixed (cs : List Char)
  | hole
deriving DecidableEq, Repr

namespace Piece

/-- A piece with its hole filled. -/
def fill (s : String) : Piece → List Char
  | .fixed cs => cs
  | .hole => s.toList

/-- Pieces with their holes filled, one after another. -/
def fillAll (s : String) (pieces : List Piece) : String := String.ofList (pieces.flatMap (fill s))

/-- Whether a piece is a hole. -/
def isHole : Piece → Bool
  | .hole => true
  | .fixed _ => false

end Piece

/-- Whether a token is a tag of a variable with the name, with or without a property. -/
def Token.inserts (name : String) : Token → Bool
  | .tag (.variable other _) _ => other = name
  | _ => false

section

variable {o : CompileOptions} {b : Bindings} {declared : String → Option Variable} {name : String}
  {s s' : String} {ts : List Token}

/-! ### Blocks -/

/-- Conditionals and loops do not tell texts apart that are not empty. -/
theorem blocks_bind_string (some : s ≠ "") (some' : s' ≠ "") :
    (conditionals (b.bind name (.string s)) ts >>= loops (b.bind name (.string s))) =
      (conditionals (b.bind name (.string s')) ts >>= loops (b.bind name (.string s'))) := by
  refine blocks_congr (fun other source _ => ?_) fun other source _ => ?_
  · by_cases here : other = name
    · subst here
      simp [Value.isTruthy, some, some']
    · rw [Bindings.bind_of_ne here, Bindings.bind_of_ne here]
  · by_cases here : other = name
    · subst here
      simp [Value.items]
    · rw [Bindings.bind_of_ne here, Bindings.bind_of_ne here]

/-! ### Variables -/

/-- What a token becomes in the third pass while the text of a name is not known: nothing yet where
that text goes. -/
def outline (o : CompileOptions) (b : Bindings) (declared : String → Option Variable)
    (name : String) (t : Token) : Except EvalError (Option Substitute) :=
  if t.inserts name then .ok none else (substitute o b declared t).map some

/-- What is settled about a token, with the text of the name where it goes. -/
def settle (s : String) : Option Substitute → Substitute
  | none => .text s.toList
  | some part => part

theorem substitute_bind_string (t : Token) :
    substitute o (b.bind name (.string s)) declared t =
      (outline o b declared name t).map (settle s) := by
  unfold outline
  split
  · next reads =>
    unfold inserts at reads
    split at reads
    · next other property source =>
      have shown : renderAt (.string s) property = .ok s := by
        cases property <;> rfl
      obtain rfl : other = name := of_decide_eq_true reads
      rw [substitute, resolve, Bindings.bind_self]
      simp only [shown]
      rfl
    · cases reads
  · next ignores =>
    have same : substitute o (b.bind name (.string s)) declared t = substitute o b declared t := by
      unfold substitute
      split
      · next other property source =>
        have apart : other ≠ name := by simpa [inserts] using ignores
        simp only [resolve, Bindings.bind_of_ne apart]
      · rfl
    rw [same]
    cases substitute o b declared t <;> rfl

/-! ### The whole -/

/-- The piece that is settled about a token. -/
def Piece.of : Option Substitute → Piece
  | some (.text cs) => .fixed cs
  | some (.missing _) => .fixed []
  | none => .hole

/-- What settled parts yield with a text of the name. -/
def yieldOf (s : String) (parts : List (Option Substitute)) : Yield :=
  .concat ((parts.map (settle s)).map .ofSubstitute)

/-- What settled parts compile to: pieces, or the names that are missing. -/
def assemble (parts : List (Option Substitute)) : Except CompileError (List Piece) :=
  let missing := (yieldOf "" parts).missing
  if missing.isEmpty then .ok (parts.map Piece.of) else .error (.missing missing.eraseDups)

/-- With a text of the name, the pieces have their holes filled, and the same names are missing. -/
theorem yieldOf_eq (s : String) (parts : List (Option Substitute)) :
    yieldOf s parts =
      ⟨(parts.map Piece.of).flatMap (Piece.fill s), (yieldOf "" parts).missing⟩ := by
  induction parts with
  | nil => rfl
  | cons part parts ih =>
    have first (s : String) : yieldOf s (part :: parts) =
        Yield.ofSubstitute (settle s part) ++ yieldOf s parts := rfl
    rw [first, first, ih]
    rcases part with - | (cs | other) <;> rfl

theorem result_yieldOf (s : String) (parts : List (Option Substitute)) :
    (yieldOf s parts).result = (assemble parts).map (Piece.fillAll s) := by
  rw [yieldOf_eq, Yield.result, assemble]
  dsimp only
  split <;> rfl

theorem pieces_of_assemble {parts : List (Option Substitute)} {pieces : List Piece}
    (ok : assemble parts = .ok pieces) : pieces = parts.map Piece.of := by
  unfold assemble at ok
  dsimp only at ok
  split at ok
  · exact (Except.ok.inj ok).symm
  · cases ok

/-- Holes stand where the tags of the name are left. -/
theorem isHole_of_outline {kept : List Token} {parts : List (Option Substitute)}
    (ran : kept.mapM (outline o b declared name) = .ok parts) :
    (parts.map Piece.of).map Piece.isHole = kept.map (inserts name) := by
  have one (t : Token) : (outline o b declared name t).map (Piece.isHole ∘ Piece.of) =
      (outline o b declared name t).map fun _ => t.inserts name := by
    unfold outline
    split
    · next reads => rw [reads]; rfl
    · next ignores =>
      cases substitute o b declared t with
      | error => rfl
      | ok part =>
        rw [Bool.not_eq_true] at ignores
        rw [ignores]
        cases part <;> rfl
  induction kept generalizing parts with
  | nil =>
    cases ran
    rfl
  | cons t kept ih =>
    have here := one t
    rw [List.mapM_cons] at ran
    cases first : outline o b declared name t with
    | error =>
      rw [first] at ran
      cases ran
    | ok part =>
      cases rest : kept.mapM (outline o b declared name) with
      | error =>
        rw [first, rest] at ran
        cases ran
      | ok others =>
        rw [first, rest] at ran
        cases ran
        rw [first] at here
        rw [List.map_cons, List.map_cons, List.map_cons, ih rest]
        exact congrArg (· :: _) (Except.ok.inj here)

/-- Compiling with a text that is not empty, if the blocks leave some tokens. -/
theorem expand_bind_string {kept : List Token}
    (blocks : (conditionals (b.bind name (.string s)) ts >>= loops (b.bind name (.string s))) =
      .ok kept) :
    (expand o (b.bind name (.string s)) declared ts).map String.ofList =
      ((kept.mapM (outline o b declared name)).mapError .evaluation).bind fun parts =>
        (assemble parts).map (Piece.fillAll s) := by
  have each : kept.mapM (substitute o (b.bind name (.string s)) declared) = _ :=
    Outcome.mapM_map_step kept substitute_bind_string
  cases ran : kept.mapM (outline o b declared name) with
  | error e =>
    rw [ran] at each
    unfold expand
    rw [blocks, Outcome.ok_bind, each]
    rfl
  | ok parts =>
    rw [ran] at each
    have third : Forest.yields ⟨b.bind name (.string s), declared, o⟩ kept =
        .ok (yieldOf s parts) := by
      unfold Forest.yields
      rw [each]
      rfl
    cases first : conditionals (b.bind name (.string s)) ts with
    | error e =>
      rw [first] at blocks
      cases blocks
    | ok kept₀ =>
      rw [first] at blocks
      have second : loops (b.bind name (.string s)) kept₀ = .ok kept := blocks
      exact (expand_of_yields (σ := ⟨b.bind name (.string s), declared, o⟩) first second
        third).trans (result_yieldOf s parts)

end

/-- Bound text is never evaluated. Whatever a template is and its other names are bound to, with the
layout kept and markup not escaped there is one outcome for all texts of a name that are not empty:
an error, or a row of fixed pieces and holes in which each text stands as it is. The holes are the
tags of the name that conditionals and loops leave, one for one. -/
theorem bound_text_is_inserted (t : Template) {o : CompileOptions} (b : Bindings) (name : String)
    (keeps : o.keepLayout = true) (plain : o.escape = false) :
    ∃ outcome : Except CompileError (List Piece),
      (∀ s, s ≠ "" →
        t.compile o (b.bind name (.string s)) = outcome.map (Piece.fillAll s)) ∧
      ∀ pieces, outcome = .ok pieces → ∃ kept,
        (∀ s, s ≠ "" → (conditionals (b.bind name (.string s)) (ofText t.body) >>=
          loops (b.bind name (.string s))) = .ok kept) ∧
        pieces.map Piece.isHole = kept.map (inserts name) := by
  have finish (cs : List Char) : o.finish cs = cs := by
    simp [CompileOptions.finish, keeps, plain]
  have compiled (s : String) : t.compile o (b.bind name (.string s)) =
      (expand o (b.bind name (.string s)) t.declared? (ofText t.body)).map String.ofList := by
    simp only [Template.compile, finish]
  -- The blocks do not tell texts apart, so one text shows what they make of all.
  have same (s : String) (some : s ≠ "") :
      (conditionals (b.bind name (.string s)) (ofText t.body) >>=
        loops (b.bind name (.string s))) =
      (conditionals (b.bind name (.string "x")) (ofText t.body) >>=
        loops (b.bind name (.string "x"))) :=
    blocks_bind_string some (by decide)
  cases blocks : (conditionals (b.bind name (.string "x")) (ofText t.body) >>=
      loops (b.bind name (.string "x"))) with
  | error e =>
    refine ⟨.error (.evaluation e), fun s some => ?_, fun _ ok => ?_⟩
    · rw [compiled, expand, same s some, blocks]
      rfl
    · cases ok
  | ok kept =>
    refine ⟨((kept.mapM (outline o b t.declared? name)).mapError .evaluation).bind assemble,
      fun s some => ?_, fun pieces ok => ⟨kept, fun s some => (same s some).trans blocks, ?_⟩⟩
    · rw [compiled, expand_bind_string ((same s some).trans blocks)]
      cases kept.mapM (outline o b t.declared? name) <;> rfl
    · cases ran : kept.mapM (outline o b t.declared? name) with
      | error e =>
        rw [ran] at ok
        cases ok
      | ok parts =>
        rw [ran] at ok
        rw [pieces_of_assemble ok]
        exact isHole_of_outline ran

/-- The name of a guest. -/
def guestWord : Word := ⟨['g', 'u', 'e', 's', 't'], by decide, rfl⟩

/-- A greeting for a guest, if there is one. -/
def guestForest : Forest true false :=
  .conditional (Opening.plain guestWord)
    (.text greetingStretch <| .reference { word := guestWord, free := by decide } .nil)
    Closing.plain .nil

/-- A template of the text of `guestForest`. -/
def guestTemplate : Template := { sampleTemplate with body := String.ofList guestForest.source }

theorem bound_text_is_inserted_guestTemplate :
    let o : CompileOptions := { keepLayout := true, escape := false }
    ∃ pieces, pieces.map Piece.isHole = [false, true] ∧ ∀ s, s ≠ "" →
      guestTemplate.compile o (Bindings.bind (fun _ => none) "guest" (.string s)) =
        .ok (Piece.fillAll s pieces) := by
  intro o
  have tokens : ofText guestTemplate.body =
      [.tag (.ifOpen "guest") (braced ['#', 'i', 'f', ' ', 'g', 'u', 'e', 's', 't']),
        .text ['H', 'i', ' '], .tag (.variable "guest" none) (braced ['g', 'u', 'e', 's', 't']),
        .tag .ifClose (braced ['/', 'i', 'f'])] := by
    rw [ofText, guestTemplate, String.toList_ofList, Forest.scan_source]
    rfl
  obtain ⟨outcome, compiles, holes⟩ := bound_text_is_inserted guestTemplate (o := o)
    (fun _ => none) "guest" rfl rfl
  have split : splitAtTag .ifClose [.text ['H', 'i', ' '],
      .tag (.variable "guest" none) (braced ['g', 'u', 'e', 's', 't']),
      .tag .ifClose (braced ['/', 'i', 'f'])] =
        some ([.text ['H', 'i', ' '],
          .tag (.variable "guest" none) (braced ['g', 'u', 'e', 's', 't'])], []) := by
    simp [splitAtTag]
  have blocks : (conditionals (Bindings.bind (fun _ => none) "guest" (.string "Eve"))
      (ofText guestTemplate.body) >>=
        loops (Bindings.bind (fun _ => none) "guest" (.string "Eve"))) =
      .ok [.text ['H', 'i', ' '],
        .tag (.variable "guest" none) (braced ['g', 'u', 'e', 's', 't'])] := by
    rw [tokens, conditionals_closed split]
    simp [Value.isTruthy, conditionals, closeIf, loops, Forest.loops_cons, Except.map]
  have greets : guestTemplate.compile o (Bindings.bind (fun _ => none) "guest" (.string "Eve")) =
      .ok "Hi Eve" := by
    unfold Template.compile expand
    rw [blocks]
    rfl
  cases outcome with
  | error e => cases (compiles "Eve" (by decide)).symm.trans greets
  | ok pieces =>
    obtain ⟨kept, left, shape⟩ := holes pieces rfl
    refine ⟨pieces, ?_, compiles⟩
    rw [shape, ← Except.ok.inj (blocks.symm.trans (left "Eve" (by decide)))]
    rfl

end Promptuary
