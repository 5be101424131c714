import ResultCursor.Toml.Value

/-! Tables while a document is read. Every key is given a value once. A table may come into being
before it has a heading of its own, since a longer heading or a dotted key passes through it; how it
came into being decides who may still add to it. -/

namespace ResultCursor.Toml

inductive Origin where
  /-- A heading of the table itself. -/
  | headed
  /-- A heading of a table within it. -/
  | implied
  /-- A dotted key. -/
  | dotted
  deriving DecidableEq, Repr

inductive Node where
  | value (v : Value)
  | table (origin : Origin) (fields : List (String × Node))
  /-- Tables under one heading, the newest first. -/
  | series (newest : List (String × Node)) (older : List (List (String × Node)))

namespace Node

abbrev Fields := List (String × Node)

/-- Gives the key a node in place of the one that it has. -/
def replace (name : String) (node : Node) : Fields → Fields
  | [] => []
  | (k, n) :: rest => if k = name then (k, node) :: rest else (k, n) :: replace name node rest

/-- Changes the fields of the table at a path, which comes into being where it is missing. A dotted
key does not pass through a table with a heading. -/
def within? (dotted : Bool) (change : Origin → Fields → Option Fields) :
    List String → Origin → Fields → Option Fields
  | [], origin, fields => change origin fields
  | name :: path, _, fields =>
    match fields.lookup name with
    | none => do
      let origin := if dotted then Origin.dotted else .implied
      let inner ← within? dotted change path origin []
      return fields ++ [(name, .table origin inner)]
    | some (.table origin inner) =>
      if dotted && origin = .headed then none
      else do
        let inner ← within? dotted change path origin inner
        return replace name (.table origin inner) fields
    | some (.series newest older) => do
      let newest ← within? dotted change path .headed newest
      return replace name (.series newest older) fields
    | some (.value _) => none

/-- Gives a key its value. Behind a dotted path the table must have come into being by one. -/
def assign? (path : List String) (name : String) (v : Value) (fields : Fields) : Option Fields :=
  let put (origin : Origin) (fields : Fields) : Option Fields :=
    if decide (origin = .dotted) = path.isEmpty then none
    else if (fields.lookup name).isSome then none
    else some (fields ++ [(name, .value v)])
  within? true put path .headed fields

/-- Puts a heading over a table, which must not have had one. -/
def head? (path : List String) (name : String) (fields : Fields) : Option Fields :=
  let put (_ : Origin) (fields : Fields) : Option Fields :=
    match fields.lookup name with
    | none => some (fields ++ [(name, .table .headed [])])
    | some (.table .implied inner) => some (replace name (.table .headed inner) fields)
    | some _ => none
  within? false put path .headed fields

/-- Begins a new table under a heading that may stand any number of times. -/
def headNext? (path : List String) (name : String) (fields : Fields) : Option Fields :=
  let put (_ : Origin) (fields : Fields) : Option Fields :=
    match fields.lookup name with
    | none => some (fields ++ [(name, .series [] [])])
    | some (.series newest older) => some (replace name (.series [] (newest :: older)) fields)
    | some _ => none
  within? false put path .headed fields

mutual

def toValue : Node → Value
  | .value v => v
  | .table _ fields => .table (fieldValues fields)
  | .series newest older => .array (tableValues older ++ [.table (fieldValues newest)])

def fieldValues : List (String × Node) → Table
  | [] => []
  | (name, n) :: rest => (name, toValue n) :: fieldValues rest

/-- The tables from the oldest on. -/
def tableValues : List (List (String × Node)) → List Value
  | [] => []
  | fields :: older => tableValues older ++ [.table (fieldValues fields)]

end

/-- The table of the keys and values between braces. -/
def inlineTable? (pairs : List (List String × String × Value)) : Option Table :=
  (pairs.foldlM (fun fields p => assign? p.1 p.2.1 p.2.2 fields) []).map fieldValues

end Node

end ResultCursor.Toml
