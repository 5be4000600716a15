import Promptuary.Text.Folding
import Promptuary.Text.Quoted
import Promptuary.Number.Reading

/-!
Patterns: what a parsed pattern consists of, and what can be wrong with the text of one. Case is
resolved while parsing: each node says how far it ignores case, whether a dot matches a line feed,
and whether the ends of lines count.
-/

namespace Promptuary.Pattern

/-- The options that a pattern can switch on, as a whole or for a group. -/
structure Modes where
  ignoreCase : Bool := false
  multiline : Bool := false
  dotAll : Bool := false
  verbose : Bool := false
  ascii : Bool := false
deriving DecidableEq

/-- How far case is ignored under the options. -/
def Modes.folding (m : Modes) : Text.Folding :=
  if !m.ignoreCase then .exact else if m.ascii then .ascii else .full

/-- The named classes of characters. -/
inductive Kind where
  | digit | space | word
deriving DecidableEq

/-- A code point. A pattern can name those of surrogates, which no character has. -/
abbrev Code := Nat

/-- The character of a code point. -/
def Code.char? (code : Code) : Option Char :=
  if code.isValidChar then some (Char.ofNat code) else none

/-- A member of a set of characters. -/
inductive Member where
  | char (code : Code)
  | range (first last : Code)
  | kind (kind : Kind) (negated ascii : Bool)
deriving DecidableEq

/-- Places in a text that match without taking a character. -/
inductive Place where
  | textStart
  | textEnd
  /-- The start of the text, and with lines that of each line. -/
  | start (lines : Bool)
  /-- The end of the text or the place before a line feed at its end, and with lines the end of each
  line. -/
  | stop (lines : Bool)
  | boundary (negated ascii : Bool)
deriving DecidableEq

/-- Which numbers of times a repeat tries first: the large ones, the small ones, or only the largest
one. -/
inductive Greed where
  | greedy | lazy | possessive
deriving DecidableEq, Repr

/-- The least and the most characters that a node can match, as far as they are counted. -/
structure Width where
  least : Nat
  most : Nat
deriving DecidableEq

/-- A parsed pattern. -/
inductive Node where
  | char (folding : Text.Folding) (negated : Bool) (code : Code)
  | any (lineFeed : Bool)
  | set (folding : Text.Folding) (negated : Bool) (members : List Member)
  | place (place : Place)
  | sequence (nodes : List Node)
  | either (nodes : List Node)
  /-- At least `least` and at most `most` times. -/
  | repeated (least : Nat) (most : Option Nat) (greed : Greed) (node : Node)
  | group (index : Nat) (node : Node)
  /-- A part with options of its own. -/
  | scope (node : Node)
  /-- Keeps only the first way to match. -/
  | atomic (node : Node)
  /-- What the group of that number matched last. -/
  | back (folding : Text.Folding) (index : Nat)
  /-- What lies ahead matches or does not match. -/
  | ahead (negated : Bool) (node : Node)
  /-- The characters behind, as many as the width says, match or do not match. -/
  | behind (negated : Bool) (width : Width) (node : Node)
  /-- One of two patterns, by whether the group of that number has matched. -/
  | branch (index : Nat) (yes no : Node)

/-- Several nodes as one. -/
def Node.ofList : List Node → Node
  | [node] => node
  | nodes => .sequence nodes

/-- The nodes that follow one another in a node. -/
def Node.toList : Node → List Node
  | .sequence nodes => nodes
  | node => [node]

/-- What is wrong with the text of a pattern. -/
inductive Fault where
  | trailingBackslash
  | badEscape (text : String)
  | incompleteEscape (text : String)
  | octalRange (text : String)
  | unknownCharacterName (name : String)
  | missingBrace
  | unterminatedSet
  | badRange (first last : String)
  | repeatBounds
  | nothingToRepeat
  | multipleRepeat
  | unexpectedEnd
  | unknownExtension (text : String)
  | unterminatedComment
  | unterminatedGroup
  | unbalanced
  | missing (what : String)
  | unterminatedName (terminator : String)
  | badGroupName (name : String)
  | unknownGroupName (name : String)
  | openGroup
  | sameLookbehind
  | badGroupNumber
  | invalidReference (index : Nat)
  | redefined (name : String) (index earlier : Nat)
  | tooManyBranches
  | lateModes
  | unknownMode
  | localeMode
  | incompatibleModes
  | wholeModeOn
  | wholeModeOff
  | typeModeOff
  | contradictoryModes
  | variableWidth
  /-- A pattern in template mode repeats something. -/
  | templateRepeat (greed : Greed)
deriving DecidableEq, Repr

/-- The wording of a fault. -/
def Fault.message : Fault → String
  | .trailingBackslash => "bad escape (end of pattern)"
  | .badEscape text => s!"bad escape {text}"
  | .incompleteEscape text => s!"incomplete escape {text}"
  | .octalRange text => s!"octal escape value {text} outside of range 0-0o377"
  | .unknownCharacterName name => "undefined character name " ++ Text.quoted name
  | .missingBrace => "missing \x7b"
  | .unterminatedSet => "unterminated character set"
  | .badRange first last => s!"bad character range {first}-{last}"
  | .repeatBounds => "min repeat greater than max repeat"
  | .nothingToRepeat => "nothing to repeat"
  | .multipleRepeat => "multiple repeat"
  | .unexpectedEnd => "unexpected end of pattern"
  | .unknownExtension text => s!"unknown extension ?{text}"
  | .unterminatedComment => "missing ), unterminated comment"
  | .unterminatedGroup => "missing ), unterminated subpattern"
  | .unbalanced => "unbalanced parenthesis"
  | .missing what => s!"missing {what}"
  | .unterminatedName terminator => s!"missing {terminator}, unterminated name"
  | .badGroupName name => "bad character in group name " ++ Text.quoted name
  | .unknownGroupName name => "unknown group name " ++ Text.quoted name
  | .openGroup => "cannot refer to an open group"
  | .sameLookbehind => "cannot refer to group defined in the same lookbehind subpattern"
  | .badGroupNumber => "bad group number"
  | .invalidReference index => s!"invalid group reference {index}"
  | .redefined name index earlier =>
    s!"redefinition of group name {Text.quoted name} as group {index}; was group {earlier}"
  | .tooManyBranches => "conditional backref with more than two branches"
  | .lateModes => "global flags not at the start of the expression"
  | .unknownMode => "unknown flag"
  | .localeMode => "bad inline flags: cannot use 'L' flag with a str pattern"
  | .incompatibleModes => "bad inline flags: flags 'a', 'u' and 'L' are incompatible"
  | .wholeModeOn => "bad inline flags: cannot turn on global flag"
  | .wholeModeOff => "bad inline flags: cannot turn off global flag"
  | .typeModeOff => "bad inline flags: cannot turn off flags 'a', 'u' and 'L'"
  | .contradictoryModes => "bad inline flags: flag turned on and off"
  | .variableWidth => "look-behind requires fixed-width pattern"
  | .templateRepeat greed =>
    "internal: unsupported template operator " ++
      match greed with
      | .greedy => "MAX_REPEAT"
      | .lazy => "MIN_REPEAT"
      | .possessive => "POSSESSIVE_REPEAT"

/-- What breaks off reading a pattern without being a fault at a place of its text. -/
inductive Break where
  /-- A repeat count exceeds what can be counted. -/
  | repeatTooLarge
  /-- A repeat count has more digits than can be read. -/
  | repeatTooLong (digits : Nat)
  /-- Both the classes of ASCII and those of every script are asked for. -/
  | asciiAndUnicode
deriving DecidableEq, Repr

/-- The wording of a break. -/
def Break.message : Break → String
  | .repeatTooLarge => "the repetition number is too large"
  | .repeatTooLong digits => (Number.IntegerError.tooManyDigits digits).message
  | .asciiAndUnicode => "ASCII and UNICODE flags are incompatible"

/-- Why a text is no pattern. -/
inductive PatternError where
  /-- The text is malformed, where a place is known at a position of the text. -/
  | malformed (fault : Fault) (position : Option Nat)
  | broken (cause : Break)
deriving DecidableEq, Repr

/-- The wording of a fault in a text: with the position, and with line and column in a text of
several lines. -/
def Fault.describe (fault : Fault) (text : String) : (position : Option Nat) → String
  | none => fault.message
  | some position =>
    let before := text.toList.take position
    let line := before.count '\n' + 1
    let column := (before.reverse.takeWhile (· ≠ '\n')).length + 1
    let place := s!"{fault.message} at position {position}"
    if text.contains '\n' then s!"{place} (line {line}, column {column})" else place

end Promptuary.Pattern
