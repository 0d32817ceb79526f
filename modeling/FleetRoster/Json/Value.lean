import FleetRoster.Json.Number

/-!
# JSON values

A value as a tree. Where an object is read, `insert` puts its members in the order of their names,
each name once, and the last value under a name stays; an object that stands for a record has its
fields in the order in which they are declared.
-/

namespace FleetRoster.Json

/-- A JSON value. -/
inductive Value
  | null
  | bool (b : Bool)
  | number (n : Number)
  | string (s : String)
  | array (items : List Value)
  | object (members : List (String × Value))
  deriving Repr, Inhabited, BEq

/-- The members of an object. -/
abbrev Members := List (String × Value)

namespace Members

/-- The members with one more, at its place in the order; it replaces a member of its name. -/
def insert (members : Members) (name : String) (value : Value) : Members :=
  match members with
  | [] => [(name, value)]
  | (n, v) :: rest =>
    if name < n then (name, value) :: (n, v) :: rest
    else if name = n then (name, value) :: rest
    else (n, v) :: insert rest name value

/-- The members of a list of pairs, from the first pair to the last. -/
def ofList (pairs : List (String × Value)) : Members :=
  pairs.foldl (fun members pair => members.insert pair.1 pair.2) []

/-- The value under a name. -/
def get? (members : Members) (name : String) : Option Value :=
  (members.find? fun pair => pair.1 == name).map (·.2)

end Members

namespace Value

/-- The member of an object under a name; other values have none. -/
def get? : Value → String → Option Value
  | .object members, name => Members.get? members name
  | _, _ => none

/-- The text of a string value. -/
def asString? : Value → Option String
  | .string s => some s
  | _ => none

/-- A value that may be absent; its absence is written as null. -/
def orNull {α : Type} (write : α → Value) : Option α → Value
  | some a => write a
  | none => .null

/-- A list of texts. -/
def texts (items : List String) : Value :=
  .array (items.map .string)

/-- An integer. -/
def int (n : Int) : Value :=
  .number (.int n)

end Value

end FleetRoster.Json
