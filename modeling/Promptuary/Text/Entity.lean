/-!
Text made safe for markup. Five characters are written as entities, in five replacements of which
the ampersand comes first, so that no entity is escaped again. Main statement: the five
replacements write each character on its own.
-/

namespace Promptuary.Text

/-- Writes `text` in the place of every occurrence of a character. -/
def replaceChar (c : Char) (text : List Char) (cs : List Char) : List Char :=
  cs.flatMap fun d => if d = c then text else [d]

/-- The entity of the ampersand. -/
def ampersand : List Char := ['&', 'a', 'm', 'p', ';']
/-- The entity of the less-than sign. -/
def lessThan : List Char := ['&', 'l', 't', ';']
/-- The entity of the greater-than sign. -/
def greaterThan : List Char := ['&', 'g', 't', ';']
/-- The entity of the double quote. -/
def doubleQuote : List Char := ['&', 'q', 'u', 'o', 't', ';']
/-- The entity of the single quote. -/
def singleQuote : List Char := ['&', '#', 'x', '2', '7', ';']

/-- A text with its five markup characters written as entities. -/
def escapeMarkup (cs : List Char) : List Char :=
  replaceChar '\'' singleQuote <| replaceChar '"' doubleQuote <|
    replaceChar '>' greaterThan <| replaceChar '<' lessThan <| replaceChar '&' ampersand cs

/-- How one character is written. -/
def entityOf (c : Char) : List Char :=
  if c = '&' then ampersand
  else if c = '<' then lessThan
  else if c = '>' then greaterThan
  else if c = '"' then doubleQuote
  else if c = '\'' then singleQuote
  else [c]

@[simp] theorem replaceChar_nil (c : Char) (text : List Char) : replaceChar c text [] = [] := rfl

theorem replaceChar_cons (c d : Char) (text cs : List Char) :
    replaceChar c text (d :: cs) = (if d = c then text else [d]) ++ replaceChar c text cs := rfl

theorem escapeMarkup_cons (c : Char) (cs : List Char) :
    escapeMarkup (c :: cs) = entityOf c ++ escapeMarkup cs := by
  simp only [escapeMarkup, entityOf]
  by_cases h1 : c = '&'
  · subst h1; rfl
  by_cases h2 : c = '<'
  · subst h2; rfl
  by_cases h3 : c = '>'
  · subst h3; rfl
  by_cases h4 : c = '"'
  · subst h4; rfl
  by_cases h5 : c = '\''
  · subst h5; rfl
  simp [h1, h2, h3, h4, h5, replaceChar_cons]

theorem escapeMarkup_eq_flatMap (cs : List Char) : escapeMarkup cs = cs.flatMap entityOf := by
  induction cs with
  | nil => rfl
  | cons c cs ih => rw [escapeMarkup_cons, ih, List.flatMap_cons]

end Promptuary.Text
