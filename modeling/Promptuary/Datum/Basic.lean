import Promptuary.Entries
import Promptuary.Calendar.Iso
import Promptuary.Number.Quantity

/-!
Data as callers hand it over and as documents hold it: the kinds of JSON, with integers and floats
told apart and the order of an object's fields kept, and three kinds that JSON does not have. Of the
floats that are not numbers, the one that documents name is told apart: it is found among others.
-/

namespace Promptuary

/-- How many tokens a provider counted. -/
structure TokenUsage where
  prompt : Int := 0
  completion : Int := 0
  total : Int := 0
deriving DecidableEq, Repr

/-- A piece of data. -/
inductive Datum where
  | null
  | bool (b : Bool)
  | int (n : Int)
  | float (x : Float)
  /-- What a document names as not a number: one and the same wherever it stands. -/
  | nan
  | text (s : String)
  | list (items : List Datum)
  | object (fields : List (String × Datum))
  /-- A list of fixed length, equal to no list. -/
  | tuple (items : List Datum)
  | moment (t : Calendar.Moment)
  | usage (u : TokenUsage)

/-- The fields of an object, in order. -/
abbrev Fields := Entries String Datum

namespace Datum

instance : Inhabited Datum := ⟨.null⟩

/-- A text or nothing. -/
def ofText? : Option String → Datum
  | some s => .text s
  | none => .null

/-- The number that a datum is; the truth values count as one and zero. -/
def quantity? : Datum → Option Number.Quantity
  | .bool b => some (.int (if b then 1 else 0))
  | .int n => some (.int n)
  | .float x => some (.float x)
  | .nan => some (.float Number.notANumber)
  | _ => none

/-- Token counts as an object. -/
def ofUsage (u : TokenUsage) : Datum :=
  .object [("prompt", .int u.prompt), ("completion", .int u.completion), ("total", .int u.total)]

/-- Whether a datum counts as present: it is neither null, false or zero, nor empty. -/
def isPresent : Datum → Bool
  | .null => false
  | .bool b => b
  | .int n => n ≠ 0
  | .float x => !(x == 0)
  | .nan => true
  | .text s => !s.isEmpty
  | .list items => !items.isEmpty
  | .tuple items => !items.isEmpty
  | .object fields => !fields.isEmpty
  | .moment _ => true
  | .usage _ => true

/-! ### Equality -/

mutual

/-- Whether one datum is found where another stands: numbers of all kinds by their value, objects
whatever the order of their fields, and a tuple never as a list. -/
def same : Datum → Datum → Bool
  | .null, .null => true
  | .nan, .nan => true
  | .text s, .text t => s == t
  | .list xs, .list ys => sameItems xs ys
  | .tuple xs, .tuple ys => sameItems xs ys
  | .object fs, .object gs => fs.length == gs.length && sameFields fs gs
  | .moment s, .moment t => s.same t
  | .usage u, .usage v => u == v
  | a, b =>
    match a.quantity?, b.quantity? with
    | some m, some n => m.same n
    | _, _ => false

/-- Equality of items, one by one. -/
def sameItems : List Datum → List Datum → Bool
  | [], [] => true
  | x :: xs, y :: ys => x.same y && sameItems xs ys
  | _, _ => false

/-- Whether every field has an equal one of its name among others. -/
def sameFields : List (String × Datum) → Fields → Bool
  | [], _ => true
  | (key, value) :: fs, gs =>
    match gs.get? key with
    | some other => value.same other && sameFields fs gs
    | none => false

end

/-! ### Depth -/

mutual

/-- How deep a datum is nested; one that holds no others is one deep. -/
def depth : Datum → Nat
  | .list xs => depthOfItems xs + 1
  | .tuple xs => depthOfItems xs + 1
  | .object fs => depthOfFields fs + 1
  | _ => 1

/-- The depth of the deepest item. -/
def depthOfItems : List Datum → Nat
  | [] => 0
  | x :: xs => max x.depth (depthOfItems xs)

/-- The depth of the deepest field. -/
def depthOfFields : List (String × Datum) → Nat
  | [] => 0
  | (_, value) :: fs => max value.depth (depthOfFields fs)

end

/-- How many calls may lie in one another, unless more or fewer are allowed. Data that lie in one
another are read, written and copied by such calls. -/
def callLimit : Nat := 980

mutual

/-- How many more calls lie in one another while a datum is copied than while a text is: two for a
list or an object, three for a tuple. -/
def copyCalls : Datum → Nat
  | .list xs => copyCallsOfItems xs + 2
  | .tuple xs => copyCallsOfItems xs + 3
  | .object fs => copyCallsOfFields fs + 2
  | .moment t => if t.offset.isSome then 9 else 3
  | .usage _ => 7
  | _ => 0

/-- The calls for the item that takes most. -/
def copyCallsOfItems : List Datum → Nat
  | [] => 0
  | x :: xs => max x.copyCalls (copyCallsOfItems xs)

/-- The calls for the field that takes most. -/
def copyCallsOfFields : List (String × Datum) → Nat
  | [] => 0
  | (_, value) :: fs => max value.copyCalls (copyCallsOfFields fs)

end

/-! ### Forms -/

mutual

/-- The form in which records are merged: token counts become an object. -/
def unfolded : Datum → Datum
  | .usage u => ofUsage u
  | .list xs => .list (unfoldedItems xs)
  | .tuple xs => .tuple (unfoldedItems xs)
  | .object fs => .object (unfoldedFields fs)
  | d => d

/-- Items in the form in which records are merged. -/
def unfoldedItems : List Datum → List Datum
  | [] => []
  | x :: xs => x.unfolded :: unfoldedItems xs

/-- Fields in the form in which records are merged. -/
def unfoldedFields : List (String × Datum) → List (String × Datum)
  | [] => []
  | (key, value) :: fs => (key, value.unfolded) :: unfoldedFields fs

end

mutual

/-- The form in which records are stored, with nothing but the kinds of JSON: moments as text,
tuples as lists, token counts as objects, and null for a float that is not finite. -/
def stored : Datum → Datum
  | .moment t => .text t.iso
  | .usage u => ofUsage u
  | .float x => if x.isFinite then .float x else .null
  | .nan => .null
  | .list xs => .list (storedItems xs)
  | .tuple xs => .list (storedItems xs)
  | .object fs => .object (storedFields fs)
  | d => d

/-- Items in the form in which records are stored. -/
def storedItems : List Datum → List Datum
  | [] => []
  | x :: xs => x.stored :: storedItems xs

/-- Fields in the form in which records are stored. -/
def storedFields : List (String × Datum) → List (String × Datum)
  | [] => []
  | (key, value) :: fs => (key, value.stored) :: storedFields fs

end

end Datum

end Promptuary
