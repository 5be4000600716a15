import Promptuary.Pattern.Opening
import Promptuary.Pattern.Spot

/-!
Attempts: one way through a node after the other, each followed to its end before the next one is
tried. An attempt tells more than which spot is reached first. One that fails leaves the reading
somewhere, mostly where the last of its ways began, and a possessive repeat goes on from there once
a further time has failed.

What is kept of the groups of a way that failed differs as well. Inside a repeat that may give times
back they are as before; elsewhere only those groups are forgotten that had not been seen before.
-/

namespace Promptuary.Pattern

/-- What comes of an attempt. -/
inductive Outcome where
  | reached (s : Spot)
  /-- All ways have failed, and the reading was left at a spot. -/
  | stuck (left : Spot)

/-- A stuck attempt leaves the reading at a position. -/
def Outcome.leftAt (position : Nat) : Outcome → Outcome
  | .reached s => .reached s
  | .stuck left => .stuck (left.moved position)

/-- How to go on from a spot. The number is the position where the reading was left before. -/
abbrev Course := Nat → Spot → Outcome

/-- The end of a course. -/
def finish : Course := fun _ s => .reached s

/-! ### Groups of ways that failed -/

/-- The rank of the last bound of a group that has been seen: even ranks are starts, odd ones
stops. -/
def Spot.lastBound (s : Spot) : Nat :=
  (s.captures.map fun (index, c) => if c.stop.isSome then 2 * index + 1 else 2 * index).foldl max 0

/-- A capture as far as its bounds are not beyond a rank. -/
def Capture.upTo? (rank index : Nat) (c : Capture) : Option (Nat × Capture) :=
  if 2 * index + 1 ≤ rank then some (index, c)
  else if 2 * index ≤ rank then some (index, { c with stop := none })
  else none

/-- The spot from which the next way is tried after one has failed. -/
def Spot.after (s : Spot) (inside : Bool) (left : Spot) : Spot :=
  if inside then s
  else { s with captures := left.captures.filterMap fun (index, c) => c.upTo? s.lastBound index }

/-! ### What a node opens with -/

/-- What the first step of nodes asks of the next character, as far as it is looked at ahead. -/
inductive Opener where
  | char (code : Code)
  | set (test : Char → Bool)
  | any

namespace Opener

/-- Whether a position can be right for what opens so. -/
def admits (text : Array Char) (position : Nat) : Opener → Bool
  | .char code => (text[position]?).any fun c => c.toNat = code
  | .set test => (text[position]?).any test
  | .any => true

/-- Runs of characters look only at a single character ahead. -/
def ofRun : Opener → Opener
  | .char code => .char code
  | _ => .any

end Opener

/-- Whether a member of a set has case, or may have it. -/
def Member.hasCase (folding : Text.Folding) : Member → Bool
  | .char code => lastBasic < code || code.isCased folding
  | .range first last =>
    lastBasic < last ||
      (List.range (last + 1 - first)).any fun i => Code.isCased folding (first + i)
  | .kind .. => false

/-- Whether case matters in a set. -/
def mindsCase (folding : Text.Folding) (members : List Member) : Bool :=
  folding ≠ .exact && members.any (·.hasCase folding)

mutual

/-- What a node opens with, given what follows it. -/
def Node.opener (next : Opener) : Node → Opener
  | .char folding negated code =>
    if negated || (folding ≠ .exact && code.isCased folding) then .any else .char code
  | .set folding negated members =>
    if mindsCase folding members then .any else .set (inSet folding negated members)
  | .sequence nodes => openerOf next nodes
  | .scope node => node.opener next
  | _ => .any

/-- What nodes open with, given what follows them. -/
def openerOf (next : Opener) : List Node → Opener
  | [] => next
  | node :: nodes => node.opener (openerOf next nodes)

end

/-- Whether a run of a node's characters is read step by step. -/
def Node.isStepwise : Node → Bool
  | .char folding _ code =>
    code.char?.any fun c => folding.isCased c && !(folding.variants (folding.small c)).isEmpty
  | .set folding _ members => mindsCase folding members
  | .scope node => node.isStepwise
  | _ => false

/-! ### Runs of characters -/

/-- A run of characters that pass a test, to be followed by something. -/
structure Run where
  test : Char → Bool
  least : Nat
  most : Option Nat
  /-- Whether it is read step by step, so that the reading is left at its end. -/
  isStepwise : Bool
  next : Opener

namespace Run

/-- Tries to go on from several positions after a run. -/
def tryEnds (text : Array Char) (inside : Bool) (next : Opener) (k : Course) :
    (ends : List Nat) → Course
  | [], left, s => .stuck (s.moved left)
  | stop :: ends, left, s =>
    if next.admits text stop then
      match k stop (s.moved stop) with
      | .reached t => .reached t
      | .stuck u => tryEnds text inside next k ends u.position (s.after inside u)
    else tryEnds text inside next k ends left s

/-- Tries to go on from a spot, and from further ones after one more character each. -/
def tryFurther (text : Array Char) (inside : Bool) (r : Run) (k : Course) :
    (fuel : Nat) → (more : Option Nat) → Spot → Outcome
  | 0, _, s => .stuck s
  | fuel + 1, more, s =>
    match k s.position s with
    | .reached t => .reached t
    | .stuck u =>
      let s := s.after inside u
      if (text[s.position]?).any r.test then
        if more = some 0 then .stuck (s.moved (if r.isStepwise then s.position + 1 else s.position))
        else tryFurther text inside r k fuel (more.map (· - 1)) (s.moved (s.position + 1))
      else .stuck s

/-- Attempts a run and what follows it. -/
def attempt (text : Array Char) (inside : Bool) (r : Run) (greed : Greed) (k : Course) : Course :=
  fun left s =>
    let start := s.position
    let rest := text.size - start
    if rest < r.least then .stuck (s.moved left)
    else
      let most := match greed with
        | .lazy => r.least
        | _ => min (r.most.getD rest) rest
      let stop := runEnd text r.test most start
      let left := if r.isStepwise then stop else start
      let first := start + r.least
      if stop < first then .stuck (s.moved left)
      else
        match greed with
        | .greedy =>
          let ends := (List.range (stop + 1 - first)).map (stop - ·)
          tryEnds text inside r.next.ofRun k ends left s
        | .lazy => tryFurther text inside r k (rest + 1) (r.most.map (· - r.least)) (s.moved first)
        | .possessive => k left (s.moved stop)

end Run

/-! ### Repeats -/

/-- Whether one more time is allowed after a number of them. -/
def allowsMore (most : Option Nat) (count : Nat) : Bool := most.all (count < ·)

/-- Repeats a part as often as possible before it goes on. A time that takes no character is the
last one. -/
def repeatMost (part : Course → Course) (k : Course) (least : Nat) (most : Option Nat) :
    (fuel count : Nat) → (last : Option Nat) → Course
  | 0, _, _, _, s => .stuck s
  | fuel + 1, count, last, _, s =>
    let again (last : Option Nat) : Outcome :=
      part (repeatMost part k least most fuel (count + 1) last) s.position s
    if count < least then (again last).leftAt s.position
    else
      match if allowsMore most count && last ≠ some s.position then again (some s.position)
        else .stuck s with
      | .reached t => .reached t
      | .stuck _ => (k s.position s).leftAt s.position

/-- Repeats a part as rarely as possible before it goes on. -/
def repeatFew (part : Course → Course) (inside : Bool) (k : Course) (least : Nat)
    (most : Option Nat) : (fuel count : Nat) → (last : Option Nat) → Course
  | 0, _, _, _, s => .stuck s
  | fuel + 1, count, last, _, s =>
    let again (last : Option Nat) (s : Spot) : Outcome :=
      (part (repeatFew part inside k least most fuel (count + 1) last) s.position s).leftAt
        s.position
    if count < least then again last s
    else
      match k s.position s with
      | .reached t => .reached t
      | .stuck u =>
        let s := s.after inside u
        if allowsMore most count && last ≠ some s.position then again (some s.position) s
        else .stuck s

/-- Repeats the first way of a part a number of times. -/
def repeatFirst (part : Course) : (count : Nat) → Spot → Outcome
  | 0, s => .reached s
  | count + 1, s =>
    match part s.position s with
    | .reached t => if t = s then .reached s else repeatFirst part count t
    | .stuck u => .stuck u

/-- Repeats the first way of a part as often as possible, at most a number of times. The time that
fails leaves the reading where it was stuck. -/
def exhaust (part : Course) : (fuel : Nat) → (more : Option Nat) → Spot → Spot
  | 0, _, s => s
  | fuel + 1, more, s =>
    if more = some 0 then s
    else
      match part s.position s with
      | .stuck u => s.moved u.position
      | .reached t =>
        if t.position = s.position then t else exhaust part fuel (more.map (· - 1)) t

/-- Repeats a part of which each time keeps its first way. -/
def repeatSole (part : Course) (fuel least : Nat) (most : Option Nat) (s : Spot) : Outcome :=
  match repeatFirst part least s with
  | .reached t => .reached (exhaust part fuel (most.map (· - least)) t)
  | .stuck u => .stuck (u.moved s.position)

/-! ### Nodes -/

/-- Goes on from the first of several spots. -/
def Course.fromFirst (k : Course) (left : Nat) (s : Spot) : List Spot → Outcome
  | t :: _ => k left t
  | [] => .stuck (s.moved left)

/-- Looks around, some characters back, and goes on from the same position. -/
def lookFrom (inside negated : Bool) (back : Nat) (part k : Course) : Course := fun left s =>
  if s.position < back then if negated then k left s else .stuck (s.moved left)
  else
    let start := s.position - back
    match part start (s.moved start) with
    | .reached t => if negated then .stuck t else k t.position (t.moved s.position)
    | .stuck u => if negated then k u.position (s.after inside u) else .stuck u

mutual

/-- Attempts a node and what follows it; `inside` says that it is part of a repeat that may give
times back. -/
def Node.attempt (text : Array Char) : Node → (inside : Bool) → (next : Opener) → Course → Course
  | .char folding negated code, _, _, k => fun left s =>
    k.fromFirst left s (takeChar text (fun d => code.alike folding d != negated) s)
  | .any lineFeed, _, _, k => fun left s =>
    k.fromFirst left s (takeChar text (fun d => lineFeed || d ≠ '\n') s)
  | .set folding negated members, _, _, k => fun left s =>
    k.fromFirst left s (takeChar text (inSet folding negated members) s)
  | .place place, _, _, k => fun left s =>
    if place.holds text s.position then k left s else .stuck (s.moved left)
  | .sequence nodes, inside, next, k => attemptAll text nodes inside next k
  | .either nodes, inside, _, k => attemptAny text nodes inside k
  | .repeated least most greed node, inside, next, k =>
    match node.test? with
    | some test => Run.attempt text inside ⟨test, least, most, node.isStepwise, next⟩ greed k
    | none =>
      let fuel := text.size + least + 2
      match greed with
      | .greedy =>
        repeatMost (fun k => node.attempt text true .any k) k least most fuel 0 none
      | .lazy =>
        repeatFew (fun k => node.attempt text true .any k) inside k least most fuel 0 none
      | .possessive => fun _ s =>
        match repeatSole (node.attempt text inside .any finish) fuel least most s with
        | .reached t => k t.position t
        | .stuck u => .stuck u
  | .group index node, inside, _, k => fun left s =>
    node.attempt text inside .any (fun left t => k left (t.closeGroup index)) left
      (s.openGroup index)
  | .scope node, inside, next, k => node.attempt text inside next k
  | .atomic node, inside, _, k => fun _ s =>
    match node.attempt text inside .any finish s.position s with
    | .reached t => k t.position t
    | .stuck u => .stuck (u.moved s.position)
  | .back folding index, _, _, k => fun left s =>
    k.fromFirst left s (takeGroup text folding index s)
  | .ahead negated node, inside, _, k =>
    lookFrom inside negated 0 (node.attempt text inside .any finish) k
  | .behind negated width node, inside, _, k =>
    lookFrom inside negated width.least (node.attempt text inside .any finish) k
  | .branch index yes no, inside, next, k => fun left s =>
    if (s.stretch? index).isSome then
      yes.attempt text inside (if no.toList.isEmpty then next else .any) k left s
    else no.attempt text inside next k left s

/-- Attempts nodes one after another and what follows them. -/
def attemptAll (text : Array Char) : List Node → (inside : Bool) → (next : Opener) → Course → Course
  | [], _, _, k => k
  | node :: nodes, inside, next, k =>
    node.attempt text inside (openerOf next nodes) (attemptAll text nodes inside next k)

/-- Attempts one of several nodes after the other, each with what follows. -/
def attemptAny (text : Array Char) : List Node → (inside : Bool) → Course → Course
  | [], _, _ => fun left s => .stuck (s.moved left)
  | node :: nodes, inside, k => fun left s =>
    if (node.opener .any).admits text s.position then
      match node.attempt text inside .any k s.position s with
      | .reached t => .reached t
      | .stuck u => attemptAny text nodes inside k u.position (s.after inside u)
    else attemptAny text nodes inside k left s

end

end Promptuary.Pattern
