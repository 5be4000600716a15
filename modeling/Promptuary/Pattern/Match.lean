import Promptuary.Pattern.Attempt
import Promptuary.Pattern.Parser
import Std.Data.HashSet

/-!
Searching a text for a pattern. A node leads from a place in the text to several others, listed in
the order in which they are tried: the alternatives from the left, and a repeat as often or as
rarely as possible. What is tried first counts where only one way is kept, as in an atomic group or
a look ahead. A place that is reached again is dropped, so that nested repeats do not take longer.
-/

namespace Promptuary.Pattern

/-! ### Repeats -/

/-- Spots without those that came before among them or are seen already. -/
def unseen (seen : Std.HashSet Spot) : List Spot → List Spot
  | [] => []
  | s :: rest => if seen.contains s then unseen seen rest else s :: unseen (seen.insert s) rest

/-- Spots, each where it comes first. -/
def distinct : List Spot → List Spot
  | [] => []
  | [s] => [s]
  | spots => unseen ∅ spots

/-- The spots after a run of characters that pass a test. -/
def takeRun (text : Array Char) (p : Char → Bool) (least : Nat) (most : Option Nat) (greed : Greed)
    (s : Spot) : List Spot :=
  let rest := text.size - s.position
  let last := runEnd text p (min (most.getD rest) rest) s.position
  let first := s.position + least
  let ends := (List.range (last + 1 - first)).map (first + ·)
  let spots (ends : List Nat) : List Spot := ends.map fun position => { s with position }
  match greed with
  | .greedy => spots ends.reverse
  | .lazy => spots ends
  | .possessive => spots (ends.reverse.take 1)

/-- Applies a step to several spots a number of times, unless it changes nothing before. -/
def iterate (step : List Spot → List Spot) : (count : Nat) → List Spot → List Spot
  | 0, spots => spots
  | count + 1, spots =>
    let next := step spots
    if next = spots then spots else iterate step count next

/-- The way through the repeats of a step: the spots at which a number of further repeats has been
tried, and those reached, the latest first. -/
structure Trail where
  tried : Std.HashSet (Spot × Option Nat) := ∅
  reached : List Spot := []

/-- One more spot that is reached. -/
def Trail.reach (t : Trail) (s : Spot) : Trail := { t with reached := s :: t.reached }

/-- Repeats a step from a spot, at most a number of times. A repeat that takes no character is the
last one, so that `fuel` beyond the length of the text is never used up. -/
def Trail.follow (trail : Trail) (step : Spot → List Spot) (few : Bool) : (fuel : Nat) →
    (left : Option Nat) → Spot → Trail
  | 0, _, _ => trail
  | fuel + 1, left, s =>
    if trail.tried.contains (s, left) then trail
    else
      let trail := { trail with tried := trail.tried.insert (s, left) }
      let trail := if few then trail.reach s else trail
      let trail :=
        if left = some 0 then trail
        else
          (step s).foldl (fun trail t =>
            if t.position = s.position then trail.reach t
            else trail.follow step few fuel (left.map (· - 1)) t) trail
      if few then trail else trail.reach s

/-- The spots after a number of repeats of a step from several spots. -/
def takeRepeats (step : List Spot → List Spot) (fuel least : Nat) (most : Option Nat) (few : Bool)
    (spots : List Spot) : List Spot :=
  let left := most.map (· - least)
  let trail : Trail := (iterate step least spots).foldl
    (fun trail s => trail.follow (fun s => step [s]) few fuel left s) {}
  distinct trail.reached.reverse

/-- The spot that an attempt has reached, if any. -/
def Outcome.spots : Outcome → List Spot
  | .reached s => [s]
  | .stuck _ => []

/-! ### Nodes -/

/-- The spot that is left after looking around from a spot, given the ways to match there. -/
def lookAround (negated : Bool) (s : Spot) : (ways : List Spot) → List Spot
  | [] => if negated then [s] else []
  | t :: _ => if negated then [] else [{ s with captures := t.captures }]

mutual

/-- The spots to which a node leads from several spots, in the order in which they are tried: all
from the first spot, then what is new from the next. The times of a possessive repeat are attempts;
`inside` says that the node is part of another repeat. -/
def Node.steps (text : Array Char) : Node → (inside : Bool) → List Spot → List Spot
  | .char folding negated code, _, spots =>
    spots.flatMap (takeChar text fun d => code.alike folding d != negated)
  | .any lineFeed, _, spots => spots.flatMap (takeChar text fun d => lineFeed || d ≠ '\n')
  | .set folding negated members, _, spots =>
    spots.flatMap (takeChar text (inSet folding negated members))
  | .place place, _, spots => spots.filter (place.holds text ·.position)
  | .sequence nodes, inside, spots => stepsAll text nodes inside spots
  | .either nodes, inside, spots => distinct (spots.flatMap fun s => stepsAny text nodes inside [s])
  | .repeated least most greed node, inside, spots =>
    match node.test? with
    | some p => distinct (spots.flatMap (takeRun text p least most greed))
    | none =>
      let fuel := text.size + 2
      match greed with
      | .greedy => takeRepeats (node.steps text true) fuel least most false spots
      | .lazy => takeRepeats (node.steps text true) fuel least most true spots
      | .possessive =>
        let part := node.attempt text inside .any finish
        distinct (spots.flatMap fun s => (repeatSole part fuel least most s).spots)
  | .group index node, inside, spots =>
    distinct ((node.steps text inside (spots.map (·.openGroup index))).map (·.closeGroup index))
  | .scope node, inside, spots => node.steps text inside spots
  | .atomic node, inside, spots =>
    distinct (spots.flatMap fun s => (node.steps text inside [s]).take 1)
  | .back folding index, _, spots => spots.flatMap (takeGroup text folding index)
  | .ahead negated node, inside, spots =>
    distinct (spots.flatMap fun s => lookAround negated s (node.steps text inside [s]))
  | .behind negated width node, inside, spots =>
    distinct (spots.flatMap fun s =>
      lookAround negated s
        (if s.position < width.least then []
        else node.steps text inside [{ s with position := s.position - width.least }]))
  | .branch index yes no, inside, spots =>
    distinct (spots.flatMap fun s =>
      if (s.stretch? index).isSome then yes.steps text inside [s] else no.steps text inside [s])

/-- The spots to which nodes lead one after another. -/
def stepsAll (text : Array Char) : List Node → (inside : Bool) → List Spot → List Spot
  | [], _, spots => spots
  | node :: nodes, inside, spots => stepsAll text nodes inside (node.steps text inside spots)

/-- The spots to which one of several nodes leads. -/
def stepsAny (text : Array Char) : List Node → (inside : Bool) → List Spot → List Spot
  | [], _, _ => []
  | node :: nodes, inside, spots =>
    node.steps text inside spots ++ stepsAny text nodes inside spots

end

/-! ### Groups -/

mutual

/-- Whether a node refers back to a group. -/
def Node.refersBack : Node → Bool
  | .back .. | .branch .. => true
  | .sequence nodes | .either nodes => refersBackAny nodes
  | .repeated _ _ _ node | .group _ node | .scope node | .atomic node | .ahead _ node
  | .behind _ _ node => node.refersBack
  | _ => false

/-- Whether one of several nodes refers back to a group. -/
def refersBackAny : List Node → Bool
  | [] => false
  | node :: nodes => node.refersBack || refersBackAny nodes

end

mutual

/-- A node whose groups are not recorded, except in a possessive repeat: how far an attempt gets
there depends on them. -/
def Node.withoutGroups : Node → Node
  | .sequence nodes => .sequence (withoutGroupsAll nodes)
  | .either nodes => .either (withoutGroupsAll nodes)
  | .repeated least most greed node =>
    .repeated least most greed (if greed = .possessive then node else node.withoutGroups)
  | .group _ node => node.withoutGroups
  | .scope node => node.withoutGroups
  | .atomic node => .atomic node.withoutGroups
  | .ahead negated node => .ahead negated node.withoutGroups
  | .behind negated width node => .behind negated width node.withoutGroups
  | node => node

/-- Nodes whose groups are not recorded. -/
def withoutGroupsAll : List Node → List Node
  | [] => []
  | node :: nodes => node.withoutGroups :: withoutGroupsAll nodes

end

/-- Whether a node leads anywhere from one of the positions of a text from `start` to before
`limit`. They are tried together, in batches of which each is twice as large as the one before. -/
def Node.leads (text : Array Char) (node : Node) (limit : Nat) : (fuel start count : Nat) → Bool
  | 0, _, _ => false
  | fuel + 1, start, count =>
    let starts := (List.range (min count (limit - start))).map fun i =>
      ({ position := start + i } : Spot)
    !starts.isEmpty &&
      (!(node.steps text false starts).isEmpty ||
        node.leads text limit fuel (start + count) (2 * count))

/-- Whether a pattern matches somewhere in a text. Nothing is tried where fewer characters are left
than the pattern takes. Groups are recorded only for a pattern that refers back to one. -/
def Whole.search (whole : Whole) (text : String) : Bool :=
  let chars := text.toList.toArray
  let node := if whole.node.refersBack then whole.node else whole.node.withoutGroups
  node.leads chars (chars.size + 1 - whole.least) (chars.size + 1) 0 1

/-- Whether the pattern written in one text matches somewhere in another. -/
def search (pattern text : String) : Except PatternError Bool :=
  (parse pattern).map (·.search text)

end Promptuary.Pattern
