import Promptuary.Proofs.Outcome
import Promptuary.Proofs.Template.Passes

/-!
What the passes read of the bindings. Conditionals read the truth of the names in their opening
tags, loops the items of the names in theirs, and no pass makes a tag that was not there before.
-/

namespace Promptuary

/-! ### Bindings with a name more -/

namespace Bindings

/-- Bindings in which a name is bound to a value, whatever it was bound to before. -/
def bind (b : Bindings) (name : String) (v : Value) : Bindings :=
  fun other => if other = name then some v else b other

variable {b : Bindings} {name other : String} {v : Value}

@[simp] theorem bind_self : b.bind name v name = some v := if_pos rfl

theorem bind_of_ne (ne : other ≠ name) : b.bind name v other = b other := if_neg ne

end Bindings

namespace Token

variable {b b' : Bindings} {ts : List Token}

/-- What stands before and after the first tag of a kind, and the tag, are the whole. -/
theorem eq_of_splitAtTag {wanted : Tag} {before after : List Token}
    (split : splitAtTag wanted ts = some (before, after)) :
    ∃ source, ts = before ++ .tag wanted source :: after := by
  induction ts generalizing before with
  | nil => cases split
  | cons t ts ih =>
    have later (found : (splitAtTag wanted ts).map (fun p => (t :: p.1, p.2)) =
        some (before, after)) : ∃ source, t :: ts = before ++ .tag wanted source :: after := by
      obtain ⟨⟨x, y⟩, first, whole⟩ := Option.map_eq_some_iff.1 found
      cases whole
      obtain ⟨source, rfl⟩ := ih first
      exact ⟨source, rfl⟩
    cases t with
    | text source => exact later split
    | tag other source =>
      rw [splitAtTag] at split
      split at split
      · next here =>
        cases split
        exact ⟨source, by rw [here]; rfl⟩
      · exact later split

/-! ### The first pass -/

/-- An opening tag that is never closed becomes text. -/
theorem conditionals_unclosed {name : String} {source : List Char} {rest : List Token}
    (unclosed : splitAtTag .ifClose rest = none) :
    conditionals b (.tag (.ifOpen name) source :: rest) =
      (conditionals b rest).map (.text source :: ·) := by
  rw [conditionals]
  split
  · cases conditionals b rest <;> rfl
  · next split => cases split.symm.trans unclosed

/-- A block gives its body if its condition holds. -/
theorem conditionals_closed {name : String} {source : List Char} {rest body after : List Token}
    (split : splitAtTag .ifClose rest = some (body, after)) :
    conditionals b (.tag (.ifOpen name) source :: rest) =
      (((b name).getD .null).isTruthy >>= fun kept =>
        (conditionals b after).map ((if kept then body.map closeIf else []) ++ ·)) := by
  rw [conditionals]
  split
  · next unclosed => cases split.symm.trans unclosed
  · next split' =>
    cases split.symm.trans split'
    cases ((b name).getD .null).isTruthy with
    | error => rfl
    | ok kept => cases conditionals b after <;> rfl

/-- A closing tag that closes nothing becomes text. -/
theorem conditionals_stray (source : List Char) (rest : List Token) :
    conditionals b (.tag .ifClose source :: rest) =
      (conditionals b rest).map (.text source :: ·) := by
  rw [conditionals]
  cases conditionals b rest <;> rfl

/-- Conditionals read nothing but the truth of the names that they ask for. -/
theorem conditionals_congr
    (same : ∀ name source, .tag (.ifOpen name) source ∈ ts →
      ((b name).getD .null).isTruthy = ((b' name).getD .null).isTruthy) :
    conditionals b ts = conditionals b' ts := by
  induction ts using conditionals.induct with
  | case1 => rw [conditionals, conditionals]
  | case2 name source rest unclosed ih =>
    rw [conditionals_unclosed unclosed, conditionals_unclosed unclosed,
      ih fun other source mem => same other source (List.mem_cons_of_mem _ mem)]
  | case3 name source rest body after split ih =>
    obtain ⟨closing, rfl⟩ := eq_of_splitAtTag split
    have later := ih fun other source mem => same other source (by simp [mem])
    rw [conditionals_closed split, conditionals_closed split, later,
      same name source List.mem_cons_self]
  | case4 source rest ih =>
    rw [conditionals_stray, conditionals_stray,
      ih fun other source mem => same other source (List.mem_cons_of_mem _ mem)]
  | case5 t rest opens closes ih =>
    rw [Forest.conditionals_cons b opens closes, Forest.conditionals_cons b' opens closes,
      ih fun other source mem => same other source (List.mem_cons_of_mem _ mem)]

/-- What a pass makes of a row of tokens comes before what it makes of the rest. -/
theorem exists_of_map_append {kept : List Token} (front : List Token)
    {r : Except EvalError (List Token)}
    (ran : r.map (front ++ ·) = .ok kept) : ∃ rest, r = .ok rest ∧ kept = front ++ rest := by
  cases r with
  | error => cases ran
  | ok rest => exact ⟨rest, rfl, (Except.ok.inj ran).symm⟩

/-- A tag that is there after the first pass was there before. -/
theorem mem_of_conditionals {kept : List Token} (ran : conditionals b ts = .ok kept) {tag : Tag}
    {source : List Char} (mem : .tag tag source ∈ kept) : .tag tag source ∈ ts := by
  induction ts using conditionals.induct generalizing kept with
  | case1 =>
    rw [conditionals] at ran
    cases ran
    exact mem
  | case2 name opening rest unclosed ih =>
    rw [conditionals_unclosed unclosed] at ran
    obtain ⟨kept, later, rfl⟩ := exists_of_map_append [.text opening] ran
    exact List.mem_cons_of_mem _ (ih later (by simpa using mem))
  | case3 name opening rest body after split ih =>
    obtain ⟨closing, rfl⟩ := eq_of_splitAtTag split
    rw [conditionals_closed split] at ran
    cases truth : ((b name).getD .null).isTruthy with
    | error =>
      rw [truth] at ran
      cases ran
    | ok holds =>
      rw [truth] at ran
      obtain ⟨kept, later, rfl⟩ := exists_of_map_append _ ran
      rcases List.mem_append.1 mem with inside | behind
      · have among : .tag tag source ∈ body := by
          cases holds with
          | false => exact absurd inside List.not_mem_nil
          | true =>
            obtain ⟨t, among, same⟩ := List.mem_map.1 inside
            unfold closeIf at same
            split at same
            · cases same
            · exact same ▸ among
        simp [among]
      · simp [ih later behind]
  | case4 closing rest ih =>
    rw [conditionals_stray] at ran
    obtain ⟨kept, later, rfl⟩ := exists_of_map_append [.text closing] ran
    exact List.mem_cons_of_mem _ (ih later (by simpa using mem))
  | case5 t rest opens closes ih =>
    rw [Forest.conditionals_cons b opens closes] at ran
    obtain ⟨kept, later, rfl⟩ := exists_of_map_append [t] ran
    rcases List.mem_cons.1 mem with rfl | behind
    · exact List.mem_cons_self
    · exact List.mem_cons_of_mem _ (ih later behind)

/-! ### The second pass -/

/-- An opening tag that is never closed becomes text. -/
theorem loops_unclosed {name : String} {source : List Char} {rest : List Token}
    (unclosed : splitAtTag .eachClose rest = none) :
    loops b (.tag (.eachOpen name) source :: rest) = (loops b rest).map (.text source :: ·) := by
  rw [loops]
  split
  · cases loops b rest <;> rfl
  · next split => cases split.symm.trans unclosed

/-- A loop gives its body once for each item. -/
theorem loops_closed {name : String} {source : List Char} {rest body after : List Token}
    (split : splitAtTag .eachClose rest = some (body, after)) :
    loops b (.tag (.eachOpen name) source :: rest) =
      (((b name).getD .null).items.mapM Value.render >>= fun elements =>
        (loops b after).map (unroll (body.map closeEach) elements.length 0 elements ++ ·)) := by
  rw [loops]
  split
  · next unclosed => cases split.symm.trans unclosed
  · next split' =>
    cases split.symm.trans split'
    cases ((b name).getD .null).items.mapM Value.render with
    | error => rfl
    | ok elements => cases loops b after <;> rfl

/-- A closing tag that closes nothing becomes text. -/
theorem loops_stray (source : List Char) (rest : List Token) :
    loops b (.tag .eachClose source :: rest) = (loops b rest).map (.text source :: ·) := by
  rw [loops]
  cases loops b rest <;> rfl

/-- Loops read nothing but the items of the names that they go through. -/
theorem loops_congr
    (same : ∀ name source, .tag (.eachOpen name) source ∈ ts →
      ((b name).getD .null).items = ((b' name).getD .null).items) :
    loops b ts = loops b' ts := by
  induction ts using loops.induct with
  | case1 => rw [loops, loops]
  | case2 name source rest unclosed ih =>
    rw [loops_unclosed unclosed, loops_unclosed unclosed,
      ih fun other source mem => same other source (List.mem_cons_of_mem _ mem)]
  | case3 name source rest body after split ih =>
    obtain ⟨closing, rfl⟩ := eq_of_splitAtTag split
    have later := ih fun other source mem => same other source (by simp [mem])
    rw [loops_closed split, loops_closed split, later, same name source List.mem_cons_self]
  | case4 source rest ih =>
    rw [loops_stray, loops_stray,
      ih fun other source mem => same other source (List.mem_cons_of_mem _ mem)]
  | case5 t rest opens closes ih =>
    rw [Forest.loops_cons b opens closes, Forest.loops_cons b' opens closes,
      ih fun other source mem => same other source (List.mem_cons_of_mem _ mem)]

/-- A tag in the repeated body of a loop stands in the body. -/
theorem mem_of_unroll {body : List Token} {count position : Nat} {elements : List String}
    {tag : Tag} {source : List Char}
    (mem : .tag tag source ∈ unroll body count position elements) : .tag tag source ∈ body := by
  induction elements generalizing position with
  | nil => simp [unroll] at mem
  | cons element elements ih =>
    rcases List.mem_append.1 mem with here | later
    · obtain ⟨t, among, same⟩ := List.mem_map.1 here
      unfold fill at same
      split at same
      · cases same
      · exact same ▸ among
    · exact ih later

/-- A tag that is there after the second pass was there before. -/
theorem mem_of_loops {kept : List Token} (ran : loops b ts = .ok kept) {tag : Tag}
    {source : List Char} (mem : .tag tag source ∈ kept) : .tag tag source ∈ ts := by
  induction ts using loops.induct generalizing kept with
  | case1 =>
    rw [loops] at ran
    cases ran
    exact mem
  | case2 name opening rest unclosed ih =>
    rw [loops_unclosed unclosed] at ran
    obtain ⟨kept, later, rfl⟩ := exists_of_map_append [.text opening] ran
    exact List.mem_cons_of_mem _ (ih later (by simpa using mem))
  | case3 name opening rest body after split ih =>
    obtain ⟨closing, rfl⟩ := eq_of_splitAtTag split
    rw [loops_closed split] at ran
    cases rendered : ((b name).getD .null).items.mapM Value.render with
    | error =>
      rw [rendered] at ran
      cases ran
    | ok elements =>
      rw [rendered] at ran
      obtain ⟨kept, later, rfl⟩ := exists_of_map_append _ ran
      rcases List.mem_append.1 mem with inside | behind
      · obtain ⟨t, among, same⟩ := List.mem_map.1 (mem_of_unroll inside)
        unfold closeEach at same
        split at same
        · cases same
        · simp [← same, among]
      · simp [ih later behind]
  | case4 closing rest ih =>
    rw [loops_stray] at ran
    obtain ⟨kept, later, rfl⟩ := exists_of_map_append [.text closing] ran
    exact List.mem_cons_of_mem _ (ih later (by simpa using mem))
  | case5 t rest opens closes ih =>
    rw [Forest.loops_cons b opens closes] at ran
    obtain ⟨kept, later, rfl⟩ := exists_of_map_append [t] ran
    rcases List.mem_cons.1 mem with rfl | behind
    · exact List.mem_cons_self
    · exact List.mem_cons_of_mem _ (ih later behind)

/-- A tag that is left by both passes was there before. -/
theorem mem_of_blocks {kept : List Token} (ran : (conditionals b ts >>= loops b) = .ok kept)
    {tag : Tag} {source : List Char} (mem : .tag tag source ∈ kept) : .tag tag source ∈ ts := by
  cases first : conditionals b ts with
  | error =>
    rw [first] at ran
    cases ran
  | ok settled =>
    rw [first] at ran
    exact mem_of_conditionals first (mem_of_loops ran mem)

/-- The first two passes do not tell bindings apart in which the conditions of a template have the
same truth and its loops the same items. -/
theorem blocks_congr
    (truths : ∀ name source, .tag (.ifOpen name) source ∈ ts →
      ((b name).getD .null).isTruthy = ((b' name).getD .null).isTruthy)
    (items : ∀ name source, .tag (.eachOpen name) source ∈ ts →
      ((b name).getD .null).items = ((b' name).getD .null).items) :
    (conditionals b ts >>= loops b) = (conditionals b' ts >>= loops b') := by
  rw [← conditionals_congr truths]
  cases ran : conditionals b ts with
  | error => rfl
  | ok kept =>
    exact loops_congr fun name source mem => items name source (mem_of_conditionals ran mem)

/-! ### The last pass -/

/-- The last pass asks for a name only where a variable's tag has it. -/
theorem substitute_congr {o : CompileOptions} {declared : String → Option Variable} {t : Token}
    (same : ∀ name property source, t = .tag (.variable name property) source →
      resolve b declared name = resolve b' declared name) :
    substitute o b declared t = substitute o b' declared t := by
  unfold substitute
  split
  · next name property source => rw [same name property source rfl]
  · rfl

end Token

open Token in
/-- Bindings that neither the blocks of a template nor the tags of its variables tell apart give one
result. -/
theorem expand_congr_on {o : CompileOptions} {b b' : Bindings}
    {declared : String → Option Variable} {ts : List Token}
    (blocks : (conditionals b ts >>= loops b) = (conditionals b' ts >>= loops b'))
    (values : ∀ name property source, .tag (.variable name property) source ∈ ts →
      resolve b declared name = resolve b' declared name) :
    expand o b declared ts = expand o b' declared ts := by
  unfold expand
  rw [← blocks]
  cases left : (conditionals b ts >>= loops b) with
  | error => rfl
  | ok kept =>
    have each : kept.mapM (substitute o b declared) = kept.mapM (substitute o b' declared) := by
      refine Outcome.mapM_congr fun t mem => substitute_congr ?_
      rintro name property source rfl
      exact values name property source (mem_of_blocks left mem)
    rw [Outcome.ok_bind, Outcome.ok_bind, each]

end Promptuary
