import Promptuary.Pattern.Escape
import Promptuary.Pattern.Opening
import Promptuary.Text.Name

/-!
Reading the text of a pattern. A group without a number or options of its own is only a way to write
its nodes, and alternatives that each match a single character are a set.
-/

namespace Promptuary.Pattern

/-! ### Sets -/

/-- The member that a piece of a set stands for. -/
def memberOf (ascii : Bool) : Piece → Step Member
  | .plain c => return .char c.toNat
  | .escape c => setEscape ascii c

/-- Reads the members of a set that was opened at `opened`, up to the closing bracket. -/
def readMembers (ascii : Bool) (opened : Nat) : (fuel : Nat) → (members : List Member) →
    Step (List Member)
  | 0, _ => fail .unexpectedEnd
  | fuel + 1, members => do
    let unterminated {α : Type} : Step α := do fail .unterminatedSet ((← get).position - opened)
    match ← advance with
    | none => unterminated
    | some piece =>
      if piece = .plain ']' && !members.isEmpty then return members
      let first ← memberOf ascii piece
      if ← accept '-' then
        match ← advance with
        | none => unterminated
        | some last =>
          if last = .plain ']' then return members ++ [first, .char '-'.toNat]
          let bad {α : Type} : Step α :=
            fail (.badRange piece.text last.text) (piece.length + 1 + last.length)
          match first, ← memberOf ascii last with
          | .char a, .char b =>
            if b < a then bad
            readMembers ascii opened fuel (members ++ [.range a b])
          | _, _ => bad
      else readMembers ascii opened fuel (members ++ [first])

/-- A set of members. A single character is no set, and each member counts once. -/
def setNode (folding : Text.Folding) (negated : Bool) (members : List Member) : Node :=
  match members.eraseDups with
  | [.char code] => .char folding negated code
  | members => .set folding negated members

/-! ### Alternatives -/

/-- Whether two nodes are the same and hold no others. -/
def sameLeaf : Node → Node → Bool
  | .char f n c, .char f' n' c' => f = f' && n = n' && c = c'
  | .any l, .any l' => l = l'
  | .set f n ms, .set f' n' ms' => f = f' && n = n' && ms = ms'
  | .place p, .place p' => p = p'
  | .back f i, .back f' i' => f = f' && i = i'
  | _, _ => false

/-- The number of nodes that a list and several others begin with in common. -/
def sharedLength : List Node → (others : List (List Node)) → Nat
  | [], _ => 0
  | node :: nodes, others =>
    if others.all fun other => (other.head?.map (sameLeaf node)).getD false then
      sharedLength nodes (others.map List.tail) + 1
    else 0

/-- The members of the set that a list of nodes amounts to, if it is a single one that takes a
character out of several. -/
def membersOf? : List Node → Option (List Member)
  | [.char _ false code] => some [.char code]
  | [.set _ false members] => some members
  | _ => none

/-- Alternatives as nodes one after another: what all begin with in common, and then a set or what
is left of each. -/
def joinEither (folding : Text.Folding) : (alternatives : List (List Node)) → List Node
  | [] => []
  | [nodes] => nodes
  | first :: others =>
    let shared := sharedLength first others
    let left := (first :: others).map (·.drop shared)
    first.take shared ++
      match left.mapM membersOf? with
      | some members => [.set folding false members.flatten.eraseDups]
      | none => [.either (left.map .ofList)]

/-! ### Modes -/

/-- The letters of the modes. -/
def isMode (c : Char) : Bool :=
  c = 'i' || c = 'L' || c = 'm' || c = 's' || c = 'x' || c = 'a' || c = 't' || c = 'u'

/-- The modes that fix what a word is. -/
def isTypeMode (c : Char) : Bool := c = 'a' || c = 'u' || c = 'L'

/-- Switches a mode. -/
def Modes.switch (on : Bool) (m : Modes) (c : Char) : Modes :=
  if c = 'i' then { m with ignoreCase := on }
  else if c = 'm' then { m with multiline := on }
  else if c = 's' then { m with dotAll := on }
  else if c = 'x' then { m with verbose := on }
  else if c = 'a' then { m with ascii := on }
  else if c = 'u' then { m with ascii := false }
  else m

/-- A fault for a letter that is no mode. -/
def strayMode {α : Type} (other : String) : Option Piece → Step α
  | none => fail (.missing other)
  | some (.plain c) =>
    fail (if Text.isLetter c then .unknownMode else .missing other) 1
  | some piece => fail (.missing other) piece.length

/-- Reads the modes that are switched on, from a first letter up to a terminator. -/
def readOn : (fuel : Nat) → (on : List Char) → (c : Char) → Step (List Char × Char)
  | 0, _, _ => fail .unexpectedEnd
  | fuel + 1, on, c => do
    if c = 'L' then fail .localeMode
    if isTypeMode c && on.any (fun d => isTypeMode d && d ≠ c) then fail .incompatibleModes
    match ← advance with
    | some (.plain d) =>
      if d = ')' || d = '-' || d = ':' then return (on ++ [c], d)
      else if isMode d then readOn fuel (on ++ [c]) d
      else strayMode "-, : or )" (some (.plain d))
    | piece => strayMode "-, : or )" piece

/-- Reads the modes that are switched off, from a first letter up to the colon. -/
def readOff : (fuel : Nat) → (off : List Char) → (c : Char) → Step (List Char)
  | 0, _, _ => fail .unexpectedEnd
  | fuel + 1, off, c => do
    if isTypeMode c then fail .typeModeOff
    match ← advance with
    | some (.plain d) =>
      if d = ':' then return off ++ [c]
      else if isMode d then readOff fuel (off ++ [c]) d
      else strayMode ":" (some (.plain d))
    | piece => strayMode ":" piece

/-- Reads the modes of a group after its first character: those switched on and off, or, for the
whole pattern, only those switched on. -/
def readModes (c : Char) : Step (List Char × Option (List Char)) := do
  let fuel := (← get).text.size + 1
  let (on, terminator) ← if c = '-' then pure ([], '-') else readOn fuel [] c
  if terminator = ')' then return (on, none)
  if on.contains 't' then fail .wholeModeOn 1
  let off ← if terminator = '-' then
      match ← advance with
      | some (.plain d) =>
        if isMode d then readOff fuel [] d else strayMode "flag" (some (.plain d))
      | piece => strayMode "flag" piece
    else pure []
  if off.contains 't' then fail .wholeModeOff 1
  if on.any off.contains then fail .contradictoryModes 1
  return (on, some off)

/-! ### Repeats -/

/-- A repeat count of digits. -/
def repeatCount (digits : List Char) : Step Nat :=
  if Number.digitLimit < digits.length then throw (.broken (.repeatTooLong digits.length))
  else
    let n := ofBase 10 digits
    if countLimit ≤ n then throw (.broken .repeatTooLarge) else return n

/-- Reads the counts of a repeat in braces, after the opening brace. Without a closing brace the
opening one stands for itself. -/
def readCounts : Step (Option (Nat × Option Nat)) := do
  if (← peek) = some (.plain '\x7d') then return none
  let s ← get
  let fuel := s.text.size
  let low ← acceptWhile Char.isDigit fuel
  let high ← if ← accept ',' then acceptWhile Char.isDigit fuel else pure low
  if !(← accept '\x7d') then
    set s
    return none
  let least ← if low.isEmpty then pure 0 else repeatCount low
  if high.isEmpty then return some (least, none)
  let most ← repeatCount high
  if most < least then fail .repeatBounds ((← get).position - s.position)
  return some (least, some most)

/-- Repeats the last of the nodes read so far; `here` is the place after the repeat's character. -/
def repeatLast (here : Nat) (least : Nat) (most : Option Nat) (nodes : List Node) :
    Step (List Node) := do
  let back := (← get).position - here + 1
  match nodes.getLast? with
  | none | some (.place _) => fail .nothingToRepeat back
  | some (.repeated ..) => fail .multipleRepeat back
  | some node =>
    let few ← accept '?'
    let sole ← if few then pure false else accept '+'
    let greed : Greed := if few then .lazy else if sole then .possessive else .greedy
    return nodes.dropLast ++ [.repeated least most greed (.ofList node.toList)]

/-! ### Groups -/

/-- Reads the name of a group up to its terminator. -/
def readGroupName (terminator : Char) : Step String := do
  let name ← takeUntil terminator "group name" ((← get).text.size + 1) ""
  if Text.isName name then return name else fail (.badGroupName name) (name.length + 1)

/-- Opens a group and gives its number. -/
def openGroup (name : Option String) : Step Nat := do
  let s ← get
  let index := s.groups.length
  match name with
  | none => set { s with groups := s.groups ++ [none] }
  | some name =>
    match s.names.lookup name with
    | some earlier => fail (.redefined name index earlier) (name.length + 1)
    | none =>
      set { s with groups := s.groups ++ [none], names := s.names ++ [(name, index)] }
  return index

/-- Closes a group. -/
def closeGroup (index : Nat) (node : Node) : Step Unit :=
  modify fun s => { s with groups := s.groups.set index (some (node.width s.groups).clamp) }

/-- Reads a reference to a group by name, up to the closing parenthesis. -/
def namedReference (modes : Modes) : Step Node := do
  let name ← readGroupName ')'
  match (← get).names.lookup name with
  | none => fail (.unknownGroupName name) (name.length + 1)
  | some index =>
    checkGroup index (name.length + 1)
    return .back modes.folding index

/-- The largest number that a group can have. -/
def groupLimit : Nat := 1073741823

/-- The number of a group, written like any integer. -/
def groupNumber? (name : String) : Option Int :=
  let (negative, cs) := Number.takeSign (Text.trimChars name.toList)
  let digits := (Number.dropUnderscores? cs).getD cs
  if digits.isEmpty || Number.digitLimit < digits.length then none
  else (Number.ofDigits digits).map fun n => if negative then -(n : Int) else n

/-- Reads the group that a condition names, up to the closing parenthesis. -/
def readCondition : Step Nat := do
  let name ← takeUntil ')' "group name" ((← get).text.size + 1) ""
  let s ← get
  let back := name.length + 1
  let index ←
    if Text.isName name then
      match s.names.lookup name with
      | some index => pure index
      | none => fail (.unknownGroupName name) back
    else
      match groupNumber? name with
      | none | some (.negSucc _) => fail (.badGroupName name) back
      | some 0 => fail .badGroupNumber back
      | some (.ofNat index) =>
        if groupLimit ≤ index then fail (.invalidReference index) back
        set { s with conditions := s.conditions ++ [(index, s.position - back)] }
        pure index
  match s.behindFrom with
  | none => pure ()
  | some first =>
    if (s.groups[index]?.join).isNone then fail .openGroup
    if first ≤ index then fail .sameLookbehind
  return index

/-- Takes the closing parenthesis of a group opened at `opened`. -/
def closeParen (opened : Nat) : Step Unit := do
  if !(← accept ')') then fail .unterminatedGroup ((← get).position - opened)

/-- Skips a comment opened at `opened`, up to its closing parenthesis. -/
def skipComment (opened : Nat) : (fuel : Nat) → Step Unit
  | 0 => fail .unexpectedEnd
  | fuel + 1 => do
    match ← advance with
    | none => fail .unterminatedComment ((← get).position - opened)
    | some piece => if piece = .plain ')' then return () else skipComment opened fuel

/-- Skips a comment of a verbose pattern, up to the end of its line. -/
def skipLine : (fuel : Nat) → Step Unit
  | 0 => return ()
  | fuel + 1 => do
    match ← advance with
    | none => return ()
    | some piece => if piece = .plain '\n' then return () else skipLine fuel

/-- The blanks that a verbose pattern passes over. -/
def isVerboseBlank (c : Char) : Bool :=
  c = ' ' || c = '\t' || c = '\n' || c = '\r' || c = '\x0b' || c = '\x0c'

/-! ### Patterns -/

mutual

/-- Reads alternatives up to a closing parenthesis or the end. -/
def readEither (modes : Modes) (outer : Bool) : (fuel : Nat) → (before : List (List Node)) →
    Step Node
  | 0, _ => fail .unexpectedEnd
  | fuel + 1, before => do
    let modes ← if outer then pure (← get).modes else pure modes
    let nodes ← readSequence modes (outer && before.isEmpty) fuel []
    let before := before ++ [nodes]
    if ← accept '|' then readEither modes outer fuel before
    else return .ofList (joinEither modes.folding before)

/-- Reads nodes one after another up to a bar, a closing parenthesis or the end; `first` says that
modes for the whole pattern may still be switched on. While they are read, a group that is only a
way to write its nodes stands as one sequence. -/
def readSequence (modes : Modes) (first : Bool) : (fuel : Nat) → (nodes : List Node) →
    Step (List Node)
  | 0, _ => fail .unexpectedEnd
  | fuel + 1, nodes => do
    let modes ← if first then pure (← get).modes else pure modes
    match ← peek with
    | none => return nodes.flatMap Node.toList
    | some (.plain ')') | some (.plain '|') => return nodes.flatMap Node.toList
    | some (.escape c) =>
      discard advance
      readSequence modes first fuel (nodes ++ [← nodeEscape modes c])
    | some (.plain c) =>
      discard advance
      let here := (← get).position
      let continueWith (nodes : List Node) : Step (List Node) := readSequence modes first fuel nodes
      if modes.verbose && isVerboseBlank c then continueWith nodes
      else if modes.verbose && c = '#' then do
        skipLine ((← get).text.size + 1)
        continueWith nodes
      else if c = '[' then do
        let negated ← accept '^'
        let members ← readMembers modes.ascii (here - 1) ((← get).text.size + 1) []
        continueWith (nodes ++ [setNode modes.folding negated members])
      else if c = '?' then continueWith (← repeatLast here 0 (some 1) nodes)
      else if c = '*' then continueWith (← repeatLast here 0 none nodes)
      else if c = '+' then continueWith (← repeatLast here 1 none nodes)
      else if c = '\x7b' then
        match ← readCounts with
        | none => continueWith (nodes ++ [.char modes.folding false c.toNat])
        | some (least, most) => continueWith (← repeatLast here least most nodes)
      else if c = '.' then continueWith (nodes ++ [.any modes.dotAll])
      else if c = '^' then continueWith (nodes ++ [.place (.start modes.multiline)])
      else if c = '$' then continueWith (nodes ++ [.place (.stop modes.multiline)])
      else if c = '(' then
        continueWith (nodes ++ (← readGroup modes (first && nodes.isEmpty) (here - 1) fuel))
      else continueWith (nodes ++ [.char modes.folding false c.toNat])

/-- Reads a group opened at `opened`, after its opening parenthesis. -/
def readGroup (modes : Modes) (first : Bool) (opened : Nat) : (fuel : Nat) → Step (List Node)
  | 0 => fail .unexpectedEnd
  | fuel + 1 => do
    if !(← accept '?') then readBody modes none opened fuel
    else
      match ← advance with
      | none => fail .unexpectedEnd
      | some (.plain ':') =>
        let node ← readEither modes false fuel []
        closeParen opened
        return [.sequence node.toList]
      | some (.plain '>') =>
        let node ← readEither modes false fuel []
        closeParen opened
        return [.atomic node]
      | some (.plain '#') =>
        skipComment opened ((← get).text.size + 1)
        return []
      | some (.plain '=') => readLook modes false false opened fuel
      | some (.plain '!') => readLook modes false true opened fuel
      | some (.plain '<') =>
        match ← advance with
        | none => fail .unexpectedEnd
        | some (.plain '=') => readLook modes true false opened fuel
        | some (.plain '!') => readLook modes true true opened fuel
        | some piece => fail (.unknownExtension ("<" ++ piece.text)) (piece.length + 2)
      | some (.plain 'P') =>
        if ← accept '<' then
          let name ← readGroupName '>'
          readBody modes (some name) opened fuel
        else if ← accept '=' then return [← namedReference modes]
        else
          match ← advance with
          | none => fail .unexpectedEnd
          | some piece => fail (.unknownExtension ("P" ++ piece.text)) (piece.length + 2)
      | some (.plain '(') =>
        let index ← readCondition
        let yes ← readSequence modes false fuel []
        let no ← if ← accept '|' then readSequence modes false fuel [] else pure []
        if (← peek) = some (.plain '|') then fail .tooManyBranches
        closeParen opened
        return [.branch index (.ofList yes) (.ofList no)]
      | some piece =>
        match piece with
        | .plain c =>
          if isMode c || c = '-' then
            match ← readModes c with
            | (on, none) =>
              if !first then fail .lateModes ((← get).position - opened)
              modify fun s =>
                let modes := on.foldl (Modes.switch true) s.modes
                { s with modes, switched := s.switched ++ on }
              return []
            | (on, some off) =>
              let inner := off.foldl (Modes.switch false) (on.foldl (Modes.switch true) modes)
              let node ← readEither inner false fuel []
              closeParen opened
              return [.scope node]
          else fail (.unknownExtension piece.text) (piece.length + 1)
        | .escape _ => fail (.unknownExtension piece.text) (piece.length + 1)

/-- Reads the body of a numbered group. -/
def readBody (modes : Modes) (name : Option String) (opened : Nat) :
    (fuel : Nat) → Step (List Node)
  | 0 => fail .unexpectedEnd
  | fuel + 1 => do
    let index ← openGroup name
    let node ← readEither modes false fuel []
    closeParen opened
    closeGroup index node
    return [.group index node]

/-- Reads the body of a look ahead or behind. -/
def readLook (modes : Modes) (behind negated : Bool) (opened : Nat) :
    (fuel : Nat) → Step (List Node)
  | 0 => fail .unexpectedEnd
  | fuel + 1 => do
    let outer := (← get).behindFrom
    if behind && outer.isNone then modify fun s => { s with behindFrom := some s.groups.length }
    let node ← readEither modes false fuel []
    if behind && outer.isNone then modify fun s => { s with behindFrom := none }
    closeParen opened
    if behind then
      return [.behind negated (node.width (← get).groups).clamp node]
    else return [.ahead negated node]

end

/-! ### Whole patterns -/

/-- A pattern as a whole. -/
structure Whole where
  node : Node
  /-- The least number of characters that it takes. -/
  least : Nat

/-- Reads the text of a pattern. -/
def parse (text : String) : Except PatternError Whole :=
  let start : Cursor :=
    { text := text.toList.toArray, position := 0, modes := {}, switched := [], groups := [none]
      names := [], behindFrom := none, conditions := [] }
  let fuel := 4 * start.text.size + 8
  let whole : Step Whole := do
    checkAhead start.text 0
    let node ← readEither {} true fuel []
    let s ← get
    if s.switched.contains 'a' && s.switched.contains 'u' then throw (.broken .asciiAndUnicode)
    if (← peek).isSome then fail .unbalanced
    for (index, position) in s.conditions do
      if s.groups.length ≤ index then
        throw (.malformed (.invalidReference index) (some position))
    match node.fault? (s.switched.contains 't') with
    | some fault => throw (.malformed fault none)
    | none => return ⟨node.guarded s.modes.ascii, (node.width s.groups).clamp.least⟩
  (whole.run start).map (·.1)

end Promptuary.Pattern
