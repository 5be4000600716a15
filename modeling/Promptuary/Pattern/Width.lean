import Promptuary.Pattern.Basic

/-!
How many characters a pattern can match. Counts beyond a limit are not told apart, and a least count
at the limit is told as one less than a most count there, so that what is too wide to be counted has
no fixed width.
-/

namespace Promptuary.Pattern

/-- The count from which on counts are not told apart. -/
def countLimit : Nat := 4294967295

namespace Width

/-- The width of a place. -/
def zero : Width := ⟨0, 0⟩

/-- The width of a character. -/
def one : Width := ⟨1, 1⟩

/-- A width within the limit. -/
def clamp (w : Width) : Width := ⟨min w.least (countLimit - 1), min w.most countLimit⟩

/-- The width of one after another. -/
def add (a b : Width) : Width := ⟨a.least + b.least, a.most + b.most⟩

/-- The width of one or another. -/
def join (a b : Width) : Width := ⟨min a.least b.least, max a.most b.most⟩

/-- The width of a number of repeats. -/
def times (w : Width) (least : Nat) (most : Option Nat) : Width :=
  ⟨w.least * least, w.most * most.getD countLimit⟩

/-- Whether there is only one width. -/
def isFixed (w : Width) : Bool := w.least = w.most

end Width

mutual

/-- The width of a node, given those of the groups. -/
def Node.width (groups : List (Option Width)) : Node → Width
  | .char .. | .any _ | .set .. => .one
  | .place _ | .ahead .. | .behind .. => .zero
  | .sequence nodes => widthOfAll groups nodes
  | .either nodes => (widthOfAny groups nodes).getD .zero
  | .repeated least most _ node => (node.width groups).clamp.times least most
  | .group _ node | .scope node | .atomic node => (node.width groups).clamp
  | .back _ index => (groups[index]?.join).getD .zero
  | .branch _ yes no => (yes.width groups).clamp.join (no.width groups).clamp

/-- The width of nodes one after another. -/
def widthOfAll (groups : List (Option Width)) : List Node → Width
  | [] => .zero
  | node :: nodes => (node.width groups).add (widthOfAll groups nodes)

/-- The width of one node of several. -/
def widthOfAny (groups : List (Option Width)) : List Node → Option Width
  | [] => none
  | node :: nodes =>
    let first := (node.width groups).clamp
    match widthOfAny groups nodes with
    | none => some first
    | some others => some (first.join others)

end

mutual

/-- What is wrong with a node once it has been read: a look behind has no fixed width, or something
is repeated in template mode. The first fault counts, from the outside in. -/
def Node.fault? (template : Bool) : Node → Option Fault
  | .repeated _ _ greed node =>
    if template then some (.templateRepeat greed) else node.fault? template
  | .behind _ width node =>
    if width.isFixed then node.fault? template else some .variableWidth
  | .sequence nodes | .either nodes => firstFault? template nodes
  | .group _ node | .scope node | .atomic node | .ahead _ node => node.fault? template
  | .branch _ yes no => yes.fault? template <|> no.fault? template
  | _ => none

/-- The first fault of several nodes. -/
def firstFault? (template : Bool) : List Node → Option Fault
  | [] => none
  | node :: nodes => node.fault? template <|> firstFault? template nodes

end

end Promptuary.Pattern
