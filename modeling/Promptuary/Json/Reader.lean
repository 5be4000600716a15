import Promptuary.Datum.Basic

/-!
Reading JSON text. Names for the floats that are not finite are accepted, and of two fields of one
name the later value counts, in the place of the earlier. An error names what was expected and
where: the position is counted from the start of the text, and lines and columns from one.
Containers lie in one another up to a limit.
-/

namespace Promptuary.Json

open Number (IntegerError Numeral readDigits takeDigits takeExponent?)

/-- What is wrong with a text. -/
inductive Fault where
  | value
  | name
  | colon
  | comma
  | extra
  | unterminated
  | control
  | escape
  | unitEscape
  | byteOrderMark
deriving DecidableEq, Repr

/-- The wording of a fault. -/
def Fault.message : Fault → String
  | .value => "Expecting value"
  | .name => "Expecting property name enclosed in double quotes"
  | .colon => "Expecting ':' delimiter"
  | .comma => "Expecting ',' delimiter"
  | .extra => "Extra data"
  | .unterminated => "Unterminated string starting at"
  | .control => "Invalid control character at"
  | .escape => "Invalid \\escape"
  | .unitEscape => "Invalid \\uXXXX escape"
  | .byteOrderMark => "Unexpected UTF-8 BOM (decode using utf-8-sig)"

/-- What holds other values. -/
inductive Container where
  | array | object
deriving DecidableEq, Repr

/-- The name of a container, with its article. -/
def Container.name : Container → String
  | .array => "a JSON array"
  | .object => "a JSON object"

/-- Why a text could not be read. -/
inductive ReadError where
  /-- A fault at a position of the text. -/
  | fault (cause : Fault) (line column position : Nat)
  | integer (cause : IntegerError)
  /-- A container lies in too many others. -/
  | tooDeep (container : Container)
deriving DecidableEq, Repr

/-- The wording of a read error. -/
def ReadError.message : ReadError → String
  | .fault cause line column position =>
    s!"{cause.message}: line {line} column {column} (char {position})"
  | .integer cause => cause.message
  | .tooDeep container =>
    s!"maximum recursion depth exceeded while decoding {container.name} from a unicode string"

/-- A failure while reading: a fault with what is left of the text from the faulty place on. -/
inductive Failure where
  | fault (cause : Fault) (rest : List Char)
  | integer (cause : IntegerError)
  | tooDeep (container : Container)

/-- The blanks between the parts of a text. -/
def isSpace (c : Char) : Bool := c = ' ' || c = '\t' || c = '\n' || c = '\r'

/-- A text without the blanks at its start. -/
def skipSpace (cs : List Char) : List Char := cs.dropWhile isSpace

/-! ### Texts -/

/-- The value of a hexadecimal digit. -/
def hexValue? (c : Char) : Option Nat :=
  let n := c.toNat
  if 48 ≤ n && n ≤ 57 then some (n - 48)
  else if 97 ≤ n && n ≤ 102 then some (n - 87)
  else if 65 ≤ n && n ≤ 70 then some (n - 55)
  else none

/-- The unit of sixteen bits that four hexadecimal digits at the start of a text denote. -/
def unit? : List Char → Option (Nat × List Char)
  | a :: b :: c :: d :: rest => do
    let a ← hexValue? a
    let b ← hexValue? b
    let c ← hexValue? c
    let d ← hexValue? d
    return (((a * 16 + b) * 16 + c) * 16 + d, rest)
  | _ => none

/-- The character that an escape by one letter denotes. -/
def letterEscape? (c : Char) : Option Char :=
  if c = '"' || c = '\\' || c = '/' then some c
  else if c = 'b' then some '\x08'
  else if c = 'f' then some '\x0c'
  else if c = 'n' then some '\n'
  else if c = 'r' then some '\r'
  else if c = 't' then some '\t'
  else none

/-- A unit of sixteen bits as a character; a surrogate without its partner is not one. -/
def unitChar (n : Nat) : Char := if n.isValidChar then Char.ofNat n else '\uFFFD'

/-- Reads the digits of an escape by number, and those of the second half of a pair. At least one
character has to follow the digits. -/
def readUnit (escape cs : List Char) : Except Failure (Char × List Char) :=
  match unit? cs with
  | none => .error (.fault .unitEscape escape)
  | some (_, []) => .error (.fault .unitEscape escape)
  | some (high, rest) =>
    if 0xD800 ≤ high && high < 0xDC00 then
      match rest with
      | '\\' :: 'u' :: more =>
        match unit? more with
        | none =>
          if more.length < 5 then .ok (unitChar high, rest)
          else .error (.fault .unitEscape ('u' :: more))
        | some (low, after) =>
          if 0xDC00 ≤ low && low < 0xE000 && !after.isEmpty then
            .ok (Char.ofNat (0x10000 + (high - 0xD800) * 0x400 + (low - 0xDC00)), after)
          else .ok (unitChar high, rest)
      | _ => .ok (unitChar high, rest)
    else .ok (unitChar high, rest)

/-- Reads a text up to its closing quote; `start` is the text from the opening quote on. -/
def readText (start : List Char) :
    (fuel : Nat) → (read : List Char) → List Char → Except Failure (String × List Char)
  | 0, _, cs => .error (.fault .unterminated cs)
  | _ + 1, _, [] => .error (.fault .unterminated start)
  | fuel + 1, read, c :: rest =>
    if c = '"' then .ok (String.ofList read.reverse, rest)
    else if c = '\\' then
      match rest with
      | [] => .error (.fault .unterminated start)
      | 'u' :: more => do
        let (d, after) ← readUnit ('u' :: more) more
        readText start fuel (d :: read) after
      | e :: more =>
        match letterEscape? e with
        | some d => readText start fuel (d :: read) more
        | none => .error (.fault .escape (c :: rest))
    else if c.toNat < 32 then .error (.fault .control (c :: rest))
    else readText start fuel (c :: read) rest

/-! ### Numbers -/

/-- The digits before a point: a zero alone, or digits that start with another one. -/
def readWhole? (cs : List Char) : Option (List Char × List Char) :=
  match cs with
  | '0' :: rest => some (['0'], rest)
  | _ =>
    let (digits, rest) := takeDigits cs
    if digits.isEmpty then none else some (digits, rest)

/-- A point with at least one digit, if the text goes on with one. -/
def readFraction (cs : List Char) : Option (List Char) × List Char :=
  match cs with
  | '.' :: rest =>
    let (digits, after) := takeDigits rest
    if digits.isEmpty then (none, cs) else (some digits, after)
  | _ => (none, cs)

/-- Reads a number; without point and exponent it is an integer. -/
def readNumber (negative : Bool) (start cs : List Char) : Except Failure (Datum × List Char) :=
  match readWhole? cs with
  | none => .error (.fault .value start)
  | some (whole, rest) =>
    let (fraction, rest) := readFraction rest
    match fraction, takeExponent? rest with
    | none, none =>
      match readDigits (String.ofList whole) with
      | .ok n => .ok (.int (if negative then -(n : Int) else n), rest)
      | .error e => .error (.integer e)
    | _, some (e, rest) =>
      .ok (.float (Numeral.toFloat ⟨negative, whole, fraction, some e⟩), rest)
    | some _, none =>
      .ok (.float (Numeral.toFloat ⟨negative, whole, fraction, none⟩), rest)

/-! ### Values -/

/-- What follows a word at the start of a text. -/
def word? (word : List Char) (cs : List Char) : Option (List Char) :=
  if word.isPrefixOf cs then some (cs.drop word.length) else none

/-- Reads a value that is neither a text nor a container. -/
def readAtom (cs : List Char) : Except Failure (Datum × List Char) :=
  let word (w : String) (d : Datum) (other : Except Failure (Datum × List Char)) :
      Except Failure (Datum × List Char) :=
    match word? w.toList cs with
    | some rest => .ok (d, rest)
    | none => other
  word "null" .null <| word "true" (.bool true) <| word "false" (.bool false) <|
    word "NaN" .nan <| word "Infinity" (.float (1.0 / 0.0)) <|
      word "-Infinity" (.float (-1.0 / 0.0)) <|
        match cs with
        | '-' :: rest => readNumber true cs rest
        | _ => readNumber false cs cs

mutual

/-- Reads a value that may hold containers up to a depth. -/
def readValue : (fuel depth : Nat) → List Char → Except Failure (Datum × List Char)
  | 0, _, cs => .error (.fault .value cs)
  | fuel + 1, depth, cs =>
    match cs, depth with
    | '"' :: rest, _ => do
      let (s, rest) ← readText cs fuel [] rest
      return (.text s, rest)
    | '\x7b' :: _, 0 => .error (.tooDeep .object)
    | '\x7b' :: rest, depth + 1 =>
      match skipSpace rest with
      | '\x7d' :: rest => .ok (.object [], rest)
      | rest => do
        let (fields, rest) ← readFields fuel depth rest
        return (.object (Entries.ofPairs fields), rest)
    | '[' :: _, 0 => .error (.tooDeep .array)
    | '[' :: rest, depth + 1 =>
      match skipSpace rest with
      | ']' :: rest => .ok (.list [], rest)
      | rest => do
        let (items, rest) ← readItems fuel depth rest
        return (.list items, rest)
    | cs, _ => readAtom cs

/-- Reads items up to the closing bracket. -/
def readItems : (fuel depth : Nat) → List Char → Except Failure (List Datum × List Char)
  | 0, _, cs => .error (.fault .value cs)
  | fuel + 1, depth, cs => do
    let (item, rest) ← readValue fuel depth cs
    match skipSpace rest with
    | ']' :: rest => return ([item], rest)
    | ',' :: rest =>
      let (items, rest) ← readItems fuel depth (skipSpace rest)
      return (item :: items, rest)
    | rest => .error (.fault .comma rest)

/-- Reads fields up to the closing brace. -/
def readFields : (fuel depth : Nat) → List Char →
    Except Failure (List (String × Datum) × List Char)
  | 0, _, cs => .error (.fault .name cs)
  | fuel + 1, depth, cs =>
    match cs with
    | '"' :: rest => do
      let (key, rest) ← readText cs fuel [] rest
      match skipSpace rest with
      | ':' :: rest =>
        let (value, rest) ← readValue fuel depth (skipSpace rest)
        match skipSpace rest with
        | '\x7d' :: rest => return ([(key, value)], rest)
        | ',' :: rest =>
          let (fields, rest) ← readFields fuel depth (skipSpace rest)
          return ((key, value) :: fields, rest)
        | rest => .error (.fault .comma rest)
      | rest => .error (.fault .colon rest)
    | cs => .error (.fault .name cs)

end

/-- A failure with its place in the text. -/
def Failure.locate (text : List Char) : Failure → ReadError
  | .integer cause => .integer cause
  | .tooDeep container => .tooDeep container
  | .fault cause rest =>
    let before := text.take (text.length - rest.length)
    let lastLine := (before.reverse.takeWhile (· ≠ '\n')).length
    .fault cause (before.count '\n' + 1) (lastLine + 1) before.length

/-- Reads a whole text in which containers may lie in one another up to a limit. Each step of
reading a value or what follows one uses up a character, and a container takes two steps for its
first. -/
def parse (text : String) (limit : Nat := Datum.callLimit) : Except ReadError Datum :=
  let cs := text.toList
  let result : Except Failure Datum :=
    if cs.head? = some '\uFEFF' then .error (.fault .byteOrderMark cs)
    else
      match readValue (2 * cs.length + 1) limit (skipSpace cs) with
      | .error e => .error e
      | .ok (d, rest) =>
        match skipSpace rest with
        | [] => .ok d
        | rest => .error (.fault .extra rest)
  match result with
  | .ok d => .ok d
  | .error e => .error (e.locate cs)

end Promptuary.Json
