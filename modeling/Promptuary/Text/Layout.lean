import Promptuary.Text.Blank
import Promptuary.Text.Split

/-!
The layout of a compiled prompt. Runs of blanks inside a line become one space, lines lose the
blanks at their ends, at most one empty line separates two others, and the whole text starts and
ends with a character that is not blank.
-/

namespace Promptuary.Text

/-- The blanks that a run inside a line is made of. -/
def isInlineBlank (c : Char) : Bool :=
  c = ' ' || c = '\t' || c = '\r' || c = '\x0b' || c = '\x0c'

/-- Writes each run of inline blanks as one space; `inRun` says that such a run is under way. -/
def squeeze (inRun : Bool) : List Char → List Char
  | [] => []
  | c :: rest =>
    if isInlineBlank c then
      if inRun then squeeze true rest else ' ' :: squeeze true rest
    else c :: squeeze false rest

/-- Keeps at most two line feeds of each run; `run` counts those kept so far. -/
def capLineFeeds (run : Nat) : List Char → List Char
  | [] => []
  | c :: rest =>
    if c = '\n' then
      if run < 2 then c :: capLineFeeds (run + 1) rest else capLineFeeds run rest
    else c :: capLineFeeds 0 rest

/-- A line with single spaces inside and no blank at either end. -/
def tidyLine (line : List Char) : List Char := trimChars (squeeze false line)

/-- The normal layout of a text. -/
def tidy (cs : List Char) : List Char :=
  trimChars (capLineFeeds 0 (join '\n' ((split '\n' cs).map tidyLine)))

end Promptuary.Text
