import Sleepypods.Library.OrderedMap

/-! JSON values. Objects are entries in key order; numbers are kept as their text. -/

set_option autoImplicit false

namespace Library

inductive Value where
  | null
  | bool (value : Bool)
  | number (digits : String)
  | string (text : String)
  | array (items : List Value)
  | object (entries : List (String × Value))
  deriving Inhabited

namespace Value

def asStr : Value → Option String
  | .string text => some text
  | _ => none

def asArray : Value → Option (List Value)
  | .array items => some items
  | _ => none

def asObject : Value → Option (List (String × Value))
  | .object entries => some entries
  | _ => none

def get? (key : String) : Value → Option Value
  | .object entries => Entries.get? key entries
  | _ => none

/-- The value under a key, `null` when there is none. -/
def index (value : Value) (key : String) : Value := (value.get? key).getD .null

def pointer : List String → Value → Option Value
  | [], value => some value
  | key :: rest, value => (value.get? key).bind (pointer rest)

/-- Set a key of an object, starting one from `null`; other values are left alone. -/
def set (value : Value) (key : String) (item : Value) : Value :=
  match value with
  | .object entries => .object (Entries.insert key item entries)
  | .null => .object [(key, item)]
  | other => other

/-- Change the value under a key, `null` when there is none. -/
def update (key : String) (change : Value → Value) (value : Value) : Value :=
  value.set key (change (value.index key))

def ofStrings (entries : List (String × String)) : Value :=
  .object (entries.map fun entry => (entry.1, .string entry.2))

inductive Ordered : Value → Prop where
  | null : Ordered .null
  | bool (value : Bool) : Ordered (.bool value)
  | number (digits : String) : Ordered (.number digits)
  | string (text : String) : Ordered (.string text)
  | array (items : List Value) : (∀ item ∈ items, Ordered item) → Ordered (.array items)
  | object (entries : List (String × Value)) :
      Entries.Sorted entries → (∀ entry ∈ entries, Ordered entry.2) → Ordered (.object entries)

variable {entries : List (String × Value)}

theorem Ordered.sorted (ordered : Ordered (.object entries)) : Entries.Sorted entries := by
  cases ordered with
  | object _ sorted => exact sorted

theorem Ordered.of_mem (ordered : Ordered (.object entries)) {entry : String × Value}
    (member : entry ∈ entries) : Ordered entry.2 := by
  cases ordered with
  | object _ _ each => exact each entry member

theorem Ordered.empty : Ordered (.object []) := .object [] List.Pairwise.nil nofun

theorem Ordered.insert (ordered : Ordered (.object entries)) (key : String) {item : Value}
    (itemOrdered : Ordered item) : Ordered (.object (Entries.insert key item entries)) := by
  apply Ordered.object
  · exact ordered.sorted.insert
  · intro entry member
    cases Entries.mem_insert member with
    | inl added => exact added ▸ itemOrdered
    | inr present => exact ordered.of_mem present

theorem Ordered.erase (ordered : Ordered (.object entries)) (key : String) :
    Ordered (.object (Entries.erase key entries)) := by
  apply Ordered.object
  · exact ordered.sorted.erase
  · intro entry member
    exact ordered.of_mem (List.mem_of_mem_filter member)

/-- Members can be set: the value is an object, or `null`, which one is started from. -/
def isOpen : Value → Bool
  | .object _ | .null => true
  | _ => false

theorem get?_set {value item : Value} {key other : String} (room : value.isOpen = true) :
    (value.set key item).get? other = if key = other then some item else value.get? other := by
  cases value with
  | object => exact Entries.get?_insert
  | null => rfl
  | _ => cases room

theorem isOpen_set {value item : Value} {key : String} (room : value.isOpen = true) :
    (value.set key item).isOpen = true := by
  cases value with
  | object | null => rfl
  | _ => cases room

theorem get?_update {value : Value} {change : Value → Value} {key other : String}
    (room : value.isOpen = true) : (value.update key change).get? other =
      if key = other then some (change (value.index key)) else value.get? other :=
  get?_set room

theorem index_of_get? {value item : Value} {key : String} (found : value.get? key = some item) :
    value.index key = item := by
  rw [index, found, Option.getD_some]

mutual

def objects : Value → List (List (String × Value))
  | .array items => objectsOfItems items
  | .object entries => entries :: objectsOfEntries entries
  | .null => []
  | .bool _ => []
  | .number _ => []
  | .string _ => []

def objectsOfItems : List Value → List (List (String × Value))
  | [] => []
  | item :: rest => objects item ++ objectsOfItems rest

def objectsOfEntries : List (String × Value) → List (List (String × Value))
  | [] => []
  | (_, item) :: rest => objects item ++ objectsOfEntries rest

end

theorem mem_objectsOfItems {items : List Value} {entries : List (String × Value)} :
    entries ∈ objectsOfItems items ↔ ∃ item ∈ items, entries ∈ item.objects := by
  induction items with
  | nil => simp only [objectsOfItems, List.not_mem_nil, false_and, exists_false]
  | cons _ _ ih =>
    simp only [objectsOfItems, List.mem_append, ih, List.mem_cons, exists_eq_or_imp]

theorem mem_objectsOfEntries {members entries : List (String × Value)} :
    entries ∈ objectsOfEntries members ↔ ∃ entry ∈ members, entries ∈ entry.2.objects := by
  induction members with
  | nil => simp only [objectsOfEntries, List.not_mem_nil, false_and, exists_false]
  | cons _ _ ih =>
    simp only [objectsOfEntries, List.mem_append, ih, List.mem_cons, exists_eq_or_imp]

end Value

structure Document where
  value : Value
  ordered : value.Ordered

end Library
