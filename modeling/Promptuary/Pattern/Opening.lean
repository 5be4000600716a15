import Promptuary.Pattern.Basic

/-!
The set that a pattern opens with. A search begins only where that set holds the next character
under the options of the whole pattern, even when the set stands in a part with options of its own.
Sets in which case matters are left out.
-/

namespace Promptuary.Pattern

/-- Whether the character of a code point has case. -/
def Code.isCased (folding : Text.Folding) (code : Code) : Bool := code.char?.any folding.isCased

/-- A member whose classes are those of ASCII, or those of every script. -/
def Member.inClasses (ascii : Bool) : Member → Member
  | .kind k negated _ => .kind k negated ascii
  | member => member

/-- Whether a member of a set has no case. -/
def Member.isCaseless (folding : Text.Folding) : Member → Bool
  | .char code => !code.isCased folding
  | .range first last =>
    folding = .exact ||
      (last ≤ 0xFFFF &&
        (List.range (last + 1 - first)).all fun i => !Code.isCased folding (first + i))
  | .kind .. => true

mutual

/-- The members of the set without case that a node opens with, and whether it is negated. -/
def Node.opening? : Node → Option (Bool × List Member)
  | .set folding negated members =>
    if members.all (·.isCaseless folding) then some (negated, members) else none
  | .sequence nodes => openingOf? nodes
  | .group _ node | .scope node => node.opening?
  | _ => none

/-- The members of the set without case that nodes open with, and whether it is negated. -/
def openingOf? : List Node → Option (Bool × List Member)
  | [] => none
  | node :: _ => node.opening?

end

/-- A pattern that also asks for the set it opens with under the options of the whole pattern. -/
def Node.guarded (ascii : Bool) (node : Node) : Node :=
  match node.opening? with
  | none => node
  | some (negated, members) =>
    let whole := members.map (·.inClasses ascii)
    if whole = members then node
    else .sequence [.ahead false (.set .exact negated whole), node]

end Promptuary.Pattern
