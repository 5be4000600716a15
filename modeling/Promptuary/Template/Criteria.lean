import Promptuary.Template.Record

/-!
Criteria of a search: filters, the key to sort by and the page to cut out.
-/

namespace Promptuary

open Schema

/-- What found templates are sorted by. -/
inductive SortKey where
  | createdAt | updatedAt | name | usage | performance
deriving DecidableEq, Repr

namespace SortKey

/-- All keys, in the order in which messages name them. -/
def all : List SortKey := [.createdAt, .updatedAt, .name, .usage, .performance]

/-- The word for a key. -/
def word : SortKey → String
  | .createdAt => "created_at"
  | .updatedAt => "updated_at"
  | .name => "name"
  | .usage => "usage"
  | .performance => "performance"

/-- The key with a word. -/
def ofWord? (s : String) : Option SortKey := all.find? (·.word = s)

@[simp] theorem ofWord?_word (k : SortKey) : ofWord? k.word = some k := by
  cases k <;> rfl

end SortKey

/-- The word for an order. -/
def orderWord (descending : Bool) : String := if descending then "desc" else "asc"

/-- The order with a word. -/
def ofOrderWord? (s : String) : Option Bool := [false, true].find? (orderWord · = s)

/-- Criteria of a search. A filter that is absent, or an empty text, lets everything pass. -/
structure Criteria where
  query : Option String := none
  category : Option String := none
  /-- At least one of these tags, if there are any. -/
  tags : List String := []
  createdBy : Option String := none
  createdAfter : Option Calendar.Moment := none
  createdBefore : Option Calendar.Moment := none
  isActive : Option Bool := none
  hasVariables : Option Bool := none
  sortBy : Option SortKey := none
  descending : Bool := false
  offset : Int := 0
  limit : Option Int := none

/-- Criteria from the fields of an object. -/
def Criteria.shape : Shape Criteria := record "SearchCriteria" fun fields =>
  Criteria.mk
    <$> fieldOr "query" (nullable text) none fields
    <*> fieldOr "category" (nullable text) none fields
    <*> fieldOr "tags" (list text) [] fields
    <*> fieldOr "created_by" (nullable text) none fields
    <*> fieldOr "created_after" (nullable moment) none fields
    <*> fieldOr "created_before" (nullable moment) none fields
    <*> fieldOr "is_active" (nullable truth) none fields
    <*> fieldOr "has_variables" (nullable truth) none fields
    <*> fieldOr "sort_by" (nullable (word (SortKey.all.map SortKey.word) SortKey.ofWord?)) none
          fields
    <*> fieldOr "sort_order" (word ([false, true].map orderWord) ofOrderWord?) false fields
    <*> fieldOr "offset" (integerFrom 0) 0 fields
    <*> fieldOr "limit" (nullable (integerFrom 0)) none fields

/-- Criteria as an object. -/
def Criteria.toDatum (form : Form) (c : Criteria) : Datum :=
  .object
    [("query", orNull .text c.query),
     ("category", orNull .text c.category),
     ("tags", texts c.tags),
     ("created_by", orNull .text c.createdBy),
     ("created_after", orNull form.moment c.createdAfter),
     ("created_before", orNull form.moment c.createdBefore),
     ("is_active", orNull .bool c.isActive),
     ("has_variables", orNull .bool c.hasVariables),
     ("sort_by", orNull (fun k => .text k.word) c.sortBy),
     ("sort_order", .text (orderWord c.descending)),
     ("offset", .int c.offset),
     ("limit", orNull .int c.limit)]

end Promptuary
