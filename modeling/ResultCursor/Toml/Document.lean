import ResultCursor.Toml.Statement

/-! Whole TOML documents. Keys belong to the table of the last heading before them. -/

namespace ResultCursor.Toml

/-- A document while it is read: all tables, and the path of the one that is open. -/
structure Document where
  fields : Node.Fields := []
  place : List String := []

namespace Document

def add? (d : Document) : Statement → Option Document
  | .assign path name v =>
    (Node.within? false (fun _ fields => Node.assign? path name v fields) d.place .headed
      d.fields).map fun fields => { d with fields }
  | .head path name => (Node.head? path name d.fields).map fun fields => ⟨fields, path ++ [name]⟩
  | .headNext path name =>
    (Node.headNext? path name d.fields).map fun fields => ⟨fields, path ++ [name]⟩

def ofStatements? (statements : List Statement) : Option Document :=
  statements.foldlM add? {}

def table (d : Document) : Table := Node.fieldValues d.fields

end Document

/-- A mark of the encoding at the beginning is no part of the text. -/
def dropMark : List Char → List Char
  | c :: rest => if c = '\ufeff' then rest else c :: rest
  | [] => []

/-- The table of a text. -/
def tableOf? (cs : List Char) : Option Table :=
  let cs := dropMark cs
  ((readStatements (cs.length + 1) cs).bind Document.ofStatements?).map Document.table

def ofText? (s : String) : Option Table := tableOf? s.toList

end ResultCursor.Toml
