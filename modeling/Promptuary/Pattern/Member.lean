import Promptuary.Pattern.Basic
import Promptuary.Text.Word
import Promptuary.Text.Digit
import Promptuary.Text.Blank

/-!
Which characters a set holds. Where case is ignored, a member up to U+FFFF holds what is alike to
one of its characters. Beyond that a single character holds only itself as a small letter, and a
range holds the small letters that lie in it or have their capital form in it.
-/

namespace Promptuary.Pattern

/-- Whether a character belongs to a named class. -/
def Kind.holds (kind : Kind) (ascii : Bool) (c : Char) : Bool :=
  (!ascii || c.toNat < 128) &&
    match kind with
    | .digit => Text.isDecimal c
    | .space => Text.isBlank c && !(ascii && 28 ≤ c.toNat && c.toNat < 32)
    | .word => Text.isWord c

/-- Whether a character is a word character. -/
def isWordChar (ascii : Bool) (c : Char) : Bool := Kind.word.holds ascii c

/-- The last code point of the basic plane. -/
def lastBasic : Code := 0xFFFF

/-- Whether a character is alike to that of a code point. -/
def Code.alike (folding : Text.Folding) (code : Code) (d : Char) : Bool :=
  code.char?.any (folding.alike · d)

/-- Whether a member of a set holds a character. -/
def Member.holds (folding : Text.Folding) (d : Char) : Member → Bool
  | .char code =>
    if code ≤ lastBasic then code.alike folding d else code = (folding.small d).toNat
  | .range first last =>
    let within (c : Char) : Bool := first ≤ c.toNat && c.toNat ≤ last
    if folding = .exact then within d
    else
      let small := folding.small d
      (folding.forms small).any (fun c => c.toNat ≤ lastBasic && within c) ||
        (lastBasic < last && (within small || within (Text.capitalOf small)))
  | .kind k negated ascii => k.holds ascii d != negated

/-- Whether a character is in a set, or outside of a negated one. -/
def inSet (folding : Text.Folding) (negated : Bool) (members : List Member) (d : Char) : Bool :=
  members.any (·.holds folding d) != negated

/-- The characters that a node takes, if it always takes a single one. -/
def Node.test? : Node → Option (Char → Bool)
  | .char folding negated code => some fun d => code.alike folding d != negated
  | .any lineFeed => some fun d => lineFeed || d ≠ '\n'
  | .set folding negated members => some (inSet folding negated members)
  | .scope node => node.test?
  | _ => none

end Promptuary.Pattern
