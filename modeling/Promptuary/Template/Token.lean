import Promptuary.Text.Word
import Promptuary.Text.Blank

/-!
The tokens of a template: tags between double braces and the stretches of text around them. Every
token keeps its source, so that a tag without meaning stands for itself.
-/

namespace Promptuary

/-- What a loop provides for each element. -/
inductive LoopItem where
  | this | index | first | last
deriving DecidableEq, Repr

/-- The name of a loop item. -/
def LoopItem.name : LoopItem → String
  | .this => "this"
  | .index => "@index"
  | .first => "@first"
  | .last => "@last"

/-- The loop item with a name. -/
def LoopItem.ofName? (s : String) : Option LoopItem :=
  [.this, .index, .first, .last].find? (·.name = s)

@[simp] theorem LoopItem.ofName?_name (i : LoopItem) : ofName? i.name = some i := by
  cases i <;> rfl

/-- The meaning of a tag. -/
inductive Tag where
  | variable (name : String) (property : Option String)
  | loopItem (item : LoopItem)
  | ifOpen (name : String)
  | ifClose
  | eachOpen (name : String)
  | eachClose
deriving DecidableEq, Repr

/-- A stretch of text or a tag, with its source. -/
inductive Token where
  | text (source : List Char)
  | tag (tag : Tag) (source : List Char)
deriving DecidableEq, Repr

namespace Token

/-- The source of a token. -/
def source : Token → List Char
  | .text source => source
  | .tag _ source => source

/-- A token as the text of its source. -/
def asText (t : Token) : Token := .text t.source

/-! ### Tags -/

/-- What follows a word at the start of a text. -/
def after? (word cs : List Char) : Option (List Char) :=
  if word.isPrefixOf cs then some (cs.drop word.length) else none

/-- Reads an opening tag: a keyword, blanks, and a name, with blanks at both ends. -/
def openName? (keyword inner : List Char) : Option String := do
  let rest ← after? keyword (inner.dropWhile Text.isBlank)
  let name := rest.dropWhile Text.isBlank
  if name.length = rest.length then none
  else
    let word := name.takeWhile Text.isWord
    if word.isEmpty || !(name.dropWhile Text.isWord).all Text.isBlank then none
    else some (String.ofList word)

/-- Reads a closing tag: a keyword with blanks at both ends. -/
def isClose (keyword inner : List Char) : Bool :=
  match after? keyword (inner.dropWhile Text.isBlank) with
  | some rest => rest.all Text.isBlank
  | none => false

/-- Reads a name, or a name and a property with a point between them. -/
def reference? (inner : List Char) : Option Tag :=
  let name := inner.takeWhile Text.isWord
  if name.isEmpty then none
  else
    match inner.dropWhile Text.isWord with
    | [] => some (.variable (String.ofList name) none)
    | '.' :: property =>
      if property.isEmpty || !property.all Text.isWord then none
      else some (.variable (String.ofList name) (some (String.ofList property)))
    | _ => none

/-- The meaning of what stands between the braces of a tag, if it has one. -/
def classify? (inner : List Char) : Option Tag :=
  match openName? ['#', 'i', 'f'] inner with
  | some name => some (.ifOpen name)
  | none =>
    if isClose ['/', 'i', 'f'] inner then some .ifClose
    else
      match openName? ['#', 'e', 'a', 'c', 'h'] inner with
      | some name => some (.eachOpen name)
      | none =>
        if isClose ['/', 'e', 'a', 'c', 'h'] inner then some .eachClose
        else
          match LoopItem.ofName? (String.ofList inner) with
          | some item => some (.loopItem item)
          | none => reference? inner

/-- The token of a tag with the given inner text. -/
def ofInner (inner : List Char) : Token :=
  let source := '\x7b' :: '\x7b' :: inner ++ ['\x7d', '\x7d']
  match classify? inner with
  | some meaning => .tag meaning source
  | none => .text source

/-- A stretch of text as a token; an empty one is none. -/
def ofStretch (stretch : List Char) : List Token :=
  if stretch.isEmpty then [] else [.text stretch]

/-! ### Scanning -/

/-- The text before and after the first place where a character stands twice. -/
def splitAtPair (c : Char) : List Char → Option (List Char × List Char)
  | a :: b :: rest =>
    if a = c && b = c then some ([], rest)
    else (splitAtPair c (b :: rest)).map fun (before, after) => (a :: before, after)
  | _ => none

theorem eq_of_splitAtPair {c : Char} {cs before after : List Char}
    (h : splitAtPair c cs = some (before, after)) : cs = before ++ c :: c :: after := by
  fun_induction splitAtPair c cs generalizing before with
  | case1 a b rest hab =>
    simp only [Bool.and_eq_true, decide_eq_true_eq] at hab
    simp only [Option.some.injEq, Prod.mk.injEq] at h
    obtain ⟨rfl, rfl⟩ := h
    simp [hab]
  | case2 a b rest hab ih =>
    obtain ⟨⟨x, y⟩, hx, hy⟩ := Option.map_eq_some_iff.1 h
    simp only [Prod.mk.injEq] at hy
    obtain ⟨rfl, rfl⟩ := hy
    rw [ih hx]
    rfl
  | case3 => simp at h

theorem length_of_splitAtPair {c : Char} {cs before after : List Char}
    (h : splitAtPair c cs = some (before, after)) : after.length + 2 ≤ cs.length := by
  rw [eq_of_splitAtPair h]
  simp

/-- The tokens of a text. A tag reaches from the first pair of opening braces to the first pair of
closing braces after it. -/
def scan (cs : List Char) : List Token :=
  match _h : splitAtPair '\x7b' cs with
  | none => ofStretch cs
  | some (before, rest) =>
    match _h' : splitAtPair '\x7d' rest with
    | none => ofStretch cs
    | some (inner, after) => ofStretch before ++ ofInner inner :: scan after
termination_by cs.length
decreasing_by
  have := length_of_splitAtPair _h
  have := length_of_splitAtPair _h'
  omega

/-- The tokens of a template's text. -/
def ofText (s : String) : List Token := scan s.toList

end Token

/-- The names that the tags of a template read, each once, in the order of first use. -/
def referencedNames (tokens : List Token) : List String :=
  (tokens.filterMap fun
    | .tag (.variable name _) _ => some name
    | .tag (.ifOpen name) _ => some name
    | .tag (.eachOpen name) _ => some name
    | _ => none).eraseDups

/-- The names that a template's text reads. -/
def extractVariables (text : String) : List String := referencedNames (Token.ofText text)

end Promptuary
