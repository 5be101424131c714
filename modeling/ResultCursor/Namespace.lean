/-! The database and collection that a cursor reads. -/

namespace ResultCursor

structure Namespace where
  database : String
  collection : String
  deriving DecidableEq, Repr, Inhabited

namespace Namespace

def text (ns : Namespace) : String := ns.database ++ "." ++ ns.collection

/-- What stands before and after the first dot; `none` without a dot. -/
def splitFirstDot : List Char → Option (List Char × List Char)
  | [] => none
  | c :: rest =>
    if c = '.' then some ([], rest)
    else (splitFirstDot rest).map fun (before, after) => (c :: before, after)

/-- The parts around the first dot, both of them present. The collection may hold more dots. -/
def ofText? (s : String) : Option Namespace :=
  match splitFirstDot s.toList with
  | some (database, collection) =>
    if database.isEmpty || collection.isEmpty then none
    else some ⟨String.ofList database, String.ofList collection⟩
  | none => none

end Namespace

end ResultCursor
