import ResultCursor.Bson.Value
import ResultCursor.Numeric.Shortest
import ResultCursor.Text.Quoted

/-! The text of a BSON value in diagnostics: the name of its type around its content. -/

namespace ResultCursor.Bson

open Text Numeric

/-- Parts with a comma between them. -/
def commaSeparated (parts : List String) : String := ", ".intercalate parts

mutual

def inspect : Bson → String
  | double word => "Double(" ++ binary64Text word ++ ")"
  | int32 n => "Int32(" ++ toString n.toInt ++ ")"
  | int64 n => "Int64(" ++ toString n.toInt ++ ")"
  | string s => "String(" ++ quoted s ++ ")"
  | array items => "Array([" ++ commaSeparated (inspectItems items) ++ "])"
  | document fields =>
    "Document(\x7b" ++ commaSeparated (inspectFields fields) ++ "\x7d)"
  | bool b => "Boolean(" ++ toString b ++ ")"
  | null => "Null"
  | undefined => "Undefined"
  | minKey => "MinKey"
  | maxKey => "MaxKey"
  | symbol s => "Symbol(" ++ quoted s ++ ")"
  | code s => "JavaScriptCode(" ++ quoted s ++ ")"
  | objectId hex => "ObjectId(" ++ quoted hex ++ ")"
  | timestamp t =>
    "Timestamp \x7b time: " ++ toString t.time.toNat ++ ", increment: " ++
      toString t.increment.toNat ++ " \x7d"
  | other shown => shown

def inspectItems : List Bson → List String
  | [] => []
  | v :: rest => inspect v :: inspectItems rest

def inspectFields : List (String × Bson) → List String
  | [] => []
  | (name, v) :: rest => (quoted name ++ ": " ++ inspect v) :: inspectFields rest

end

end ResultCursor.Bson
