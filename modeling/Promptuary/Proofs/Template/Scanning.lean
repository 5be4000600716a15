import Promptuary.Proofs.Template.Forest

/-!
Scanning the source of a forest. Main statement: the tokens of the printed form are those of the
forest with its neighbouring stretches of text joined (`scan_source_append`), and joining changes
neither what the forest means nor what its conditionals ask for.
-/

namespace Promptuary

/-! ### Blanks and words -/

namespace Text

/-- The code points of the blanks beyond ASCII. -/
def wideBlanks : List Nat :=
  [133, 160, 5760, 8192, 8193, 8194, 8195, 8196, 8197, 8198, 8199, 8200, 8201, 8202, 8232, 8233,
   8239, 8287, 12288]

theorem search_wideBlanks : ∀ n ∈ wideBlanks,
    CodeRanges.search wordRanges n (wordRanges.size + 1) 0 wordRanges.size = none := by
  decide +kernel

/-- A blank is no part of a word. -/
theorem isWord_eq_false_of_isBlank {c : Char} (h : isBlank c = true) : isWord c = false := by
  simp only [isBlank, Bool.or_eq_true, Bool.and_eq_true, decide_eq_true_eq, beq_iff_eq] at h
  unfold isWord
  split
  · next ascii =>
    have low : ∀ n ≤ 32, ((Char.ofNat n).isAlphanum || Char.ofNat n = '_') = false := by decide
    have := low c.toNat (by omega)
    rwa [Char.ofNat_toNat] at this
  · next wide =>
    have mem : c.toNat ∈ wideBlanks := by
      simp only [wideBlanks, List.mem_cons, List.not_mem_nil, or_false]
      omega
    unfold CodeRanges.contains CodeRanges.find?
    rw [search_wideBlanks _ mem]
    rfl

theorem isBlank_eq_false_of_isWord {c : Char} (h : isWord c = true) : isBlank c = false := by
  cases blank : isBlank c with
  | false => rfl
  | true => rw [isWord_eq_false_of_isBlank blank] at h; exact absurd h (by decide)

end Text

section Spans

variable {α : Type} {p : α → Bool}

/-- A run of a class in front of something else is what `takeWhile` takes. -/
theorem takeWhile_append_of_all {xs ys : List α} (all : xs.all p = true)
    (stops : ∀ y ∈ ys.head?, p y = false) : (xs ++ ys).takeWhile p = xs := by
  rw [List.takeWhile_append_of_pos (List.all_eq_true.mp all)]
  cases ys with
  | nil => simp
  | cons y ys => simp [stops y rfl]

/-- A run of a class in front of something else is what `dropWhile` drops. -/
theorem dropWhile_append_of_all {xs ys : List α} (all : xs.all p = true)
    (stops : ∀ y ∈ ys.head?, p y = false) : (xs ++ ys).dropWhile p = ys := by
  rw [List.dropWhile_append_of_pos (List.all_eq_true.mp all)]
  cases ys with
  | nil => rfl
  | cons y ys => simp [stops y rfl]

end Spans

/-- The first character of a word. -/
theorem Word.exists_head (w : Word) : ∃ c cs, w.chars = c :: cs ∧ Text.isWord c = true := by
  obtain ⟨c, cs, eq⟩ := List.exists_cons_of_ne_nil w.nonempty
  have word := w.word
  rw [eq, List.all_cons, Bool.and_eq_true] at word
  exact ⟨c, cs, eq, word.1⟩

theorem Word.head_not_blank (w : Word) (cs : List Char) :
    ∀ c ∈ (w.chars ++ cs).head?, Text.isBlank c = false := by
  obtain ⟨c, rest, eq, word⟩ := w.exists_head
  intro d hd
  rw [eq, List.cons_append, List.head?_cons, Option.mem_some_iff] at hd
  rw [← hd]
  exact Text.isBlank_eq_false_of_isWord word

theorem Blanks.head_not_word (b : Blanks) : ∀ c ∈ b.chars.head?, Text.isWord c = false := by
  intro c hc
  exact Text.isWord_eq_false_of_isBlank
    (List.all_eq_true.mp b.blank c (List.mem_of_mem_head? hc))

theorem Word.not_mem (w : Word) {c : Char} (h : Text.isWord c = false) : c ∉ w.chars := by
  intro mem
  have := List.all_eq_true.mp w.word c mem
  rw [h] at this
  exact absurd this (by decide)

theorem Blanks.not_mem (b : Blanks) {c : Char} (h : Text.isBlank c = false) : c ∉ b.chars := by
  intro mem
  have := List.all_eq_true.mp b.blank c mem
  rw [h] at this
  exact absurd this (by decide)

namespace Token

/-! ### Meanings of tags -/

theorem after?_append (word cs : List Char) : after? word (word ++ cs) = some cs := by
  unfold after?
  rw [if_pos (by simp), List.drop_left]

/-- An opening tag is read as the name in it. -/
theorem openName?_inner (o : Opening) {k : Char} {ks : List Char} (solid : Text.isBlank k = false) :
    openName? (k :: ks) (o.inner (k :: ks)) = some o.word.name := by
  have keyword : (o.inner (k :: ks)).dropWhile Text.isBlank =
      (k :: ks) ++ (o.gap.chars ++ (o.word.chars ++ o.after.chars)) := by
    simp only [Opening.inner, List.append_assoc]
    exact dropWhile_append_of_all o.before.blank (by simpa using solid)
  have name : (o.gap.chars ++ (o.word.chars ++ o.after.chars)).dropWhile Text.isBlank =
      o.word.chars ++ o.after.chars :=
    dropWhile_append_of_all o.gap.blank (o.word.head_not_blank _)
  have taken := takeWhile_append_of_all o.word.word o.after.head_not_word
  have left := dropWhile_append_of_all o.word.word o.after.head_not_word
  have gapped : o.gap.chars.length ≠ 0 := by simpa using o.gapped
  unfold openName?
  rw [keyword, after?_append]
  simp only [Option.bind_eq_bind, Option.bind_some, name, taken, left, o.after.blank,
    List.length_append, Word.name]
  rw [if_neg (by omega), if_neg (by simpa using o.word.nonempty)]

/-- No opening tag is read where the keyword does not stand. -/
theorem openName?_eq_none {keyword inner : List Char}
    (differs : keyword.isPrefixOf (inner.dropWhile Text.isBlank) = false) :
    openName? keyword inner = none := by
  simp [openName?, after?, differs]

theorem isClose_eq_false {keyword inner : List Char}
    (differs : keyword.isPrefixOf (inner.dropWhile Text.isBlank) = false) :
    isClose keyword inner = false := by
  simp [isClose, after?, differs]

theorem isClose_inner (c : Closing) {k : Char} {ks : List Char} (solid : Text.isBlank k = false) :
    isClose (k :: ks) (c.inner (k :: ks)) = true := by
  have keyword : (c.inner (k :: ks)).dropWhile Text.isBlank = (k :: ks) ++ c.after.chars := by
    simp only [Closing.inner, List.append_assoc]
    exact dropWhile_append_of_all c.before.blank (by simpa using solid)
  unfold isClose
  rw [keyword, after?_append]
  exact c.after.blank

/-- The blanks before a keyword do not hide it. -/
theorem dropWhile_opening (o : Opening) (k : Char) (ks : List Char)
    (solid : Text.isBlank k = false) :
    ∃ rest, (o.inner (k :: ks)).dropWhile Text.isBlank = k :: ks ++ rest := by
  refine ⟨o.gap.chars ++ (o.word.chars ++ o.after.chars), ?_⟩
  simp only [Opening.inner, List.append_assoc]
  exact dropWhile_append_of_all o.before.blank (by simpa using solid)

theorem dropWhile_closing (c : Closing) (k : Char) (ks : List Char)
    (solid : Text.isBlank k = false) :
    ∃ rest, (c.inner (k :: ks)).dropWhile Text.isBlank = k :: ks ++ rest := by
  refine ⟨c.after.chars, ?_⟩
  simp only [Closing.inner, List.append_assoc]
  exact dropWhile_append_of_all c.before.blank (by simpa using solid)

theorem classify?_ifOpen (o : Opening) :
    classify? (o.inner ['#', 'i', 'f']) = some (.ifOpen o.word.name) := by
  rw [classify?, openName?_inner o (by decide)]

theorem classify?_ifClose (c : Closing) : classify? (c.inner ['/', 'i', 'f']) = some .ifClose := by
  obtain ⟨rest, eq⟩ := dropWhile_closing c '/' ['i', 'f'] (by decide)
  rw [classify?, openName?_eq_none (by rw [eq]; rfl), isClose_inner c (by decide)]
  rfl

theorem classify?_eachOpen (o : Opening) :
    classify? (o.inner ['#', 'e', 'a', 'c', 'h']) = some (.eachOpen o.word.name) := by
  obtain ⟨rest, eq⟩ := dropWhile_opening o '#' ['e', 'a', 'c', 'h'] (by decide)
  rw [classify?, openName?_eq_none (by rw [eq]; rfl), isClose_eq_false (by rw [eq]; rfl),
    openName?_inner o (by decide)]
  rfl

theorem classify?_eachClose (c : Closing) :
    classify? (c.inner ['/', 'e', 'a', 'c', 'h']) = some .eachClose := by
  obtain ⟨rest, eq⟩ := dropWhile_closing c '/' ['e', 'a', 'c', 'h'] (by decide)
  rw [classify?, openName?_eq_none (by rw [eq]; rfl), isClose_eq_false (by rw [eq]; rfl),
    openName?_eq_none (by rw [eq]; rfl), isClose_inner c (by decide)]
  rfl

theorem classify?_item (i : LoopItem) : classify? i.name.toList = some (.loopItem i) := by
  cases i <;> decide

/-- What stands between the braces of a variable's tag begins with a word character. -/
theorem dropWhile_reference (r : Reference) :
    ∃ c cs, r.inner.dropWhile Text.isBlank = c :: cs ∧ Text.isWord c = true := by
  obtain ⟨c, cs, eq, word⟩ := r.word.exists_head
  refine ⟨c, cs ++ r.tail, ?_, word⟩
  rw [Reference.inner, eq, List.cons_append,
    List.dropWhile_cons_of_neg (by rw [Text.isBlank_eq_false_of_isWord word]; decide)]

/-- A keyword that begins with no word character does not begin a variable's tag. -/
theorem isPrefixOf_reference (r : Reference) {k : Char} (ks : List Char)
    (solid : Text.isWord k = false) :
    (k :: ks).isPrefixOf (r.inner.dropWhile Text.isBlank) = false := by
  obtain ⟨c, cs, eq, word⟩ := dropWhile_reference r
  have differs : (k == c) = false := by
    refine beq_eq_false_iff_ne.mpr ?_
    rintro rfl
    rw [solid] at word
    exact absurd word (by decide)
  rw [eq, List.isPrefixOf_cons_cons, differs, Bool.false_and]

theorem isWord_point : Text.isWord '.' = false := by decide

/-- No variable's tag is a loop item. -/
theorem reference_ne_item (r : Reference) (i : LoopItem) : r.inner ≠ i.name.toList := by
  intro eq
  cases property : r.property with
  | some p =>
    -- A loop item's name has no point.
    have point : '.' ∈ i.name.toList := by
      rw [← eq, Reference.inner, Reference.tail, property]
      simp
    revert point
    cases i <;> decide
  | none =>
    rw [Reference.inner, Reference.tail, property, List.append_nil] at eq
    have word := r.word.word
    cases i with
    | this => exact r.free property eq
    | index => rw [eq] at word; exact absurd word (by decide)
    | first => rw [eq] at word; exact absurd word (by decide)
    | last => rw [eq] at word; exact absurd word (by decide)

theorem ofName?_reference (r : Reference) : LoopItem.ofName? (String.ofList r.inner) = none := by
  refine List.find?_eq_none.mpr fun i _ => ?_
  have := reference_ne_item r i
  rw [decide_eq_true_eq]
  intro eq
  exact this (by rw [eq, String.toList_ofList])

theorem tail_not_word (r : Reference) : ∀ c ∈ r.tail.head?, Text.isWord c = false := by
  intro c mem
  cases property : r.property with
  | none => simp [Reference.tail, property] at mem
  | some p =>
    simp only [Reference.tail, property, List.head?_cons, Option.mem_some_iff] at mem
    rw [← mem]
    exact isWord_point

theorem reference?_inner (r : Reference) :
    reference? r.inner = some (.variable r.word.name (r.property.map Word.name)) := by
  have taken : r.inner.takeWhile Text.isWord = r.word.chars :=
    takeWhile_append_of_all r.word.word (tail_not_word r)
  have left : r.inner.dropWhile Text.isWord = r.tail :=
    dropWhile_append_of_all r.word.word (tail_not_word r)
  unfold reference?
  rw [taken, left, if_neg (by simpa using r.word.nonempty)]
  cases property : r.property with
  | none => simp [Reference.tail, property, Word.name]
  | some p =>
    have word := p.word
    have nonempty : p.chars.isEmpty = false := by simpa using p.nonempty
    simp [Reference.tail, property, nonempty, word, Word.name]

theorem classify?_reference (r : Reference) :
    classify? r.inner = some (.variable r.word.name (r.property.map Word.name)) := by
  have open? (ks : List Char) : openName? ('#' :: ks) r.inner = none :=
    openName?_eq_none (isPrefixOf_reference r ks (by decide))
  have close (ks : List Char) : isClose ('/' :: ks) r.inner = false :=
    isClose_eq_false (isPrefixOf_reference r ks (by decide))
  rw [classify?, open?, close, open?, close, ofName?_reference, reference?_inner]
  rfl

/-! ### No closing brace inside a tag -/

theorem closing_not_mem_opening (o : Opening) (keyword : List Char) (free : '\x7d' ∉ keyword) :
    '\x7d' ∉ o.inner keyword := by
  simp only [Opening.inner, List.mem_append, not_or]
  exact ⟨⟨⟨⟨o.before.not_mem (by decide), free⟩, o.gap.not_mem (by decide)⟩,
    o.word.not_mem (by decide)⟩, o.after.not_mem (by decide)⟩

theorem closing_not_mem_closing (c : Closing) (keyword : List Char) (free : '\x7d' ∉ keyword) :
    '\x7d' ∉ c.inner keyword := by
  simp only [Closing.inner, List.mem_append, not_or]
  exact ⟨⟨c.before.not_mem (by decide), free⟩, c.after.not_mem (by decide)⟩

theorem closing_not_mem_reference (r : Reference) : '\x7d' ∉ r.inner := by
  rw [Reference.inner, List.mem_append, not_or]
  refine ⟨r.word.not_mem (by decide), ?_⟩
  unfold Reference.tail
  cases r.property with
  | none => simp
  | some p => simpa using p.not_mem (by decide)

theorem closing_not_mem_item (i : LoopItem) : '\x7d' ∉ i.name.toList := by
  cases i <;> decide

/-! ### Scanning -/

/-- A text that does not have a character is split at the pair behind it. -/
theorem splitAtPair_append {d : Char} {cs : List Char} (free : d ∉ cs) (rest : List Char) :
    splitAtPair d (cs ++ d :: d :: rest) = some (cs, rest) := by
  induction cs with
  | nil => simp [splitAtPair]
  | cons c cs ih =>
    rw [List.mem_cons, not_or] at free
    have step := ih free.2
    cases cs with
    | nil =>
      simp only [List.cons_append, List.nil_append] at step ⊢
      rw [splitAtPair, step]
      simp [Ne.symm free.1]
    | cons c' cs' =>
      simp only [List.cons_append] at step ⊢
      rw [splitAtPair, step]
      simp [Ne.symm free.1]

/-- A text that does not have a character twice is not split. -/
theorem splitAtPair_eq_none {d : Char} {cs : List Char} (free : d ∉ cs) :
    splitAtPair d cs = none := by
  cases split : splitAtPair d cs with
  | none => rfl
  | some parts =>
    rw [eq_of_splitAtPair split] at free
    simp at free

theorem append_braced (before inner after : List Char) :
    before ++ (braced inner ++ after) =
      before ++ '\x7b' :: '\x7b' :: (inner ++ '\x7d' :: '\x7d' :: after) := by
  simp [braced]

/-- A text is one stretch if nothing opens a tag in it. -/
theorem scan_whole {cs : List Char} (whole : splitAtPair '\x7b' cs = none) :
    scan cs = ofStretch cs := by
  rw [scan.eq_def]
  split
  · rfl
  · next split => cases whole.symm.trans split

/-- A text is one stretch if what opens a tag in it is not closed. -/
theorem scan_unclosed {cs before after : List Char}
    (split : splitAtPair '\x7b' cs = some (before, after))
    (unclosed : splitAtPair '\x7d' after = none) : scan cs = ofStretch cs := by
  rw [scan.eq_def]
  split
  · rfl
  · next split' =>
    cases split.symm.trans split'
    split
    · rfl
    · next closed => cases unclosed.symm.trans closed

/-- A text with a tag is the stretch before the tag, the tag, and what follows. -/
theorem scan_tag {cs before rest inner after : List Char}
    (split : splitAtPair '\x7b' cs = some (before, rest))
    (split' : splitAtPair '\x7d' rest = some (inner, after)) :
    scan cs = ofStretch before ++ ofInner inner :: scan after := by
  rw [scan.eq_def]
  split
  · next whole => cases split.symm.trans whole
  · next opens =>
    cases split.symm.trans opens
    split
    · next unclosed => cases split'.symm.trans unclosed
    · next closes =>
      cases split'.symm.trans closes
      rfl

/-- A stretch and the tag behind it are scanned one after the other. -/
theorem scan_braced {s inner : List Char} (free : '\x7b' ∉ s) (closed : '\x7d' ∉ inner)
    (rest : List Char) :
    scan (s ++ (braced inner ++ rest)) = ofStretch s ++ ofInner inner :: scan rest := by
  rw [append_braced, scan_tag (splitAtPair_append free _) (splitAtPair_append closed _)]

theorem scan_stretch {s : List Char} (free : '\x7b' ∉ s) : scan s = ofStretch s :=
  scan_whole (splitAtPair_eq_none free)

/-- A continuation of a text before which a stretch of text ends. -/
def Resumes (rest : List Char) : Prop :=
  ∀ s : List Char, '\x7b' ∉ s → scan (s ++ rest) = ofStretch s ++ scan rest

theorem resumes_nil : Resumes [] := by
  intro s free
  rw [List.append_nil, scan_stretch free, scan_stretch (List.not_mem_nil)]
  simp [ofStretch]

theorem resumes_braced {inner : List Char} (closed : '\x7d' ∉ inner) (rest : List Char) :
    Resumes (braced inner ++ rest) := by
  intro s free
  rw [scan_braced free closed, ← List.nil_append (braced inner ++ rest),
    scan_braced List.not_mem_nil closed]
  simp [ofStretch]

/-! ### Tokens of tags -/

theorem ofInner_of_classify? {inner : List Char} {tag : Tag} (h : classify? inner = some tag) :
    ofInner inner = .tag tag (braced inner) := by
  simp [ofInner, h, braced]

end Token

/-! ### Tokens of forests -/

namespace Stretch

/-- The empty stretch. -/
def empty : Stretch := ⟨[], List.not_mem_nil⟩

/-- One stretch behind another. -/
def append (s t : Stretch) : Stretch :=
  ⟨s.chars ++ t.chars, by
    rw [List.mem_append, not_or]
    exact ⟨s.free, t.free⟩⟩

end Stretch

namespace Forest

open Token

variable {ifs loops : Bool}

/-- The tokens of a forest, one for each stretch, tag and end of a block. -/
def tokens {ifs loops : Bool} : Forest ifs loops → List Token
  | .nil => []
  | .text s rest => .text s.chars :: rest.tokens
  | .reference r rest =>
    .tag (.variable r.word.name (r.property.map Word.name)) (braced r.inner) :: rest.tokens
  | .item i rest => .tag (.loopItem i) (braced i.name.toList) :: rest.tokens
  | .conditional o body c rest =>
    .tag (.ifOpen o.word.name) (braced (o.inner ['#', 'i', 'f'])) :: body.tokens ++
      .tag .ifClose (braced (c.inner ['/', 'i', 'f'])) :: rest.tokens
  | .loop o body c rest =>
    .tag (.eachOpen o.word.name) (braced (o.inner ['#', 'e', 'a', 'c', 'h'])) :: body.tokens ++
      .tag .eachClose (braced (c.inner ['/', 'e', 'a', 'c', 'h'])) :: rest.tokens

/-- A forest behind a stretch of text, which is left out if it is empty. -/
def behind (s : Stretch) (f : Forest ifs loops) : Forest ifs loops :=
  if s.chars.isEmpty then f else .text s f

/-- A forest with its neighbouring stretches joined, behind a stretch that was read before. -/
def joined {ifs loops : Bool} (s : Stretch) : Forest ifs loops → Forest ifs loops
  | .nil => behind s .nil
  | .text t rest => rest.joined (s.append t)
  | .reference r rest => behind s (.reference r (rest.joined .empty))
  | .item i rest => behind s (.item i (rest.joined .empty))
  | .conditional o body c rest =>
    behind s (.conditional o (body.joined .empty) c (rest.joined .empty))
  | .loop o body c rest => behind s (.loop o (body.joined .empty) c (rest.joined .empty))

theorem tokens_behind (s : Stretch) (f : Forest ifs loops) :
    (behind s f).tokens = ofStretch s.chars ++ f.tokens := by
  unfold behind ofStretch
  split
  · rfl
  · rfl

/-- Scanning a block: its opening tag, its body as the body is scanned, and its closing tag. -/
theorem scan_block (s : Stretch) {inner inner' body : List Char} {opening closing : Tag}
    {inside : List Token} (closed : '\x7d' ∉ inner) (closed' : '\x7d' ∉ inner')
    (opens : classify? inner = some opening) (closes : classify? inner' = some closing)
    (scans : ∀ rest, Resumes rest → scan ([] ++ (body ++ rest)) = inside ++ scan rest)
    (rest : List Char) :
    scan (s.chars ++ (braced inner ++ (body ++ (braced inner' ++ rest)))) =
      ofStretch s.chars ++ .tag opening (braced inner) ::
        (inside ++ .tag closing (braced inner') :: scan rest) := by
  have body := scans _ (resumes_braced closed' rest)
  have close := scan_braced List.not_mem_nil closed' rest
  rw [List.nil_append] at body close
  rw [scan_braced s.free closed, ofInner_of_classify? opens, body, close,
    ofInner_of_classify? closes]
  rfl

/-- Scanning the source of a forest gives the tokens of the forest with its stretches joined. -/
theorem scan_source_append (f : Forest ifs loops) (s : Stretch) {rest : List Char}
    (resumes : Resumes rest) :
    scan (s.chars ++ (f.source ++ rest)) = (f.joined s).tokens ++ scan rest := by
  induction f generalizing s rest with
  | nil =>
    rw [joined, tokens_behind, source, tokens, List.append_nil, List.nil_append]
    exact resumes s.chars s.free
  | text t f ih =>
    rw [joined, source, List.append_assoc, ← List.append_assoc s.chars]
    exact ih (s.append t) resumes
  | reference r f ih =>
    have step := ih .empty resumes
    rw [joined, tokens_behind, source, List.append_assoc,
      scan_braced s.free (closing_not_mem_reference r),
      ofInner_of_classify? (classify?_reference r)]
    simpa [tokens, Stretch.empty] using step
  | item i f ih =>
    have step := ih .empty resumes
    rw [joined, tokens_behind, source, List.append_assoc,
      scan_braced s.free (closing_not_mem_item i), ofInner_of_classify? (classify?_item i)]
    simpa [tokens, Stretch.empty] using step
  | conditional o body c f ihBody ihRest =>
    have block := scan_block s (closing_not_mem_opening o _ (by decide))
      (closing_not_mem_closing c _ (by decide)) (classify?_ifOpen o) (classify?_ifClose c)
      (fun rest resumes => ihBody .empty resumes) (f.source ++ rest)
    have after : scan (f.source ++ rest) = (f.joined .empty).tokens ++ scan rest :=
      ihRest .empty resumes
    rw [joined, tokens_behind]
    simp only [source, tokens, List.append_assoc, List.cons_append] at block ⊢
    rw [block, after]
  | loop o body c f ihBody ihRest =>
    have block := scan_block s (closing_not_mem_opening o _ (by decide))
      (closing_not_mem_closing c _ (by decide)) (classify?_eachOpen o) (classify?_eachClose c)
      (fun rest resumes => ihBody .empty resumes) (f.source ++ rest)
    have after : scan (f.source ++ rest) = (f.joined .empty).tokens ++ scan rest :=
      ihRest .empty resumes
    rw [joined, tokens_behind]
    simp only [source, tokens, List.append_assoc, List.cons_append] at block ⊢
    rw [block, after]

/-- Scanning a whole forest. -/
theorem scan_source (f : Forest ifs loops) : scan f.source = (f.joined .empty).tokens := by
  have := scan_source_append f .empty resumes_nil
  rw [scan_stretch List.not_mem_nil] at this
  simpa [Stretch.empty, ofStretch] using this

end Forest

end Promptuary
