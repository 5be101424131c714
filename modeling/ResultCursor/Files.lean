import ResultCursor.Failure

/-! A tree of folders and files under one folder, by the places of its entries. Places are written
with slashes between their parts, and may pass through `.` and `..`. -/

namespace ResultCursor

inductive FileFault where
  | missing
  | notFolder
  | isFolder
  | taken
  | badName
  | longName
  | notText
  deriving DecidableEq, Repr

namespace FileFault

def message : FileFault → String
  | missing => "No such file or directory (os error 2)"
  | notFolder => "Not a directory (os error 20)"
  | isFolder => "Is a directory (os error 21)"
  | taken => "File exists (os error 17)"
  | badName => "file name contained an unexpected NUL byte"
  | longName => "File name too long (os error 36)"
  | notText => "stream did not contain valid UTF-8"

end FileFault

inductive Files.Entry where
  | folder
  | file (content : ByteArray)

/-- The entries by their places, each of which names the folders from the top and then the entry. -/
structure Files where
  entries : List (List String × Files.Entry) := []

namespace Files

def get? (f : Files) (place : List String) : Option Entry :=
  if place = [] then some .folder else f.entries.lookup place

def put (f : Files) (place : List String) (e : Entry) : Files :=
  ⟨(place, e) :: f.entries.filter fun old => old.1 ≠ place⟩

/-- The parts between slashes. -/
def splitParts : List Char → List (List Char)
  | [] => [[]]
  | c :: rest =>
    if c = '/' then [] :: splitParts rest
    else
      match splitParts rest with
      | [] => [[c]]
      | part :: parts => (c :: part) :: parts

def partsOf (path : String) : List String := (splitParts path.toList).map String.ofList

/-- One part further from a folder. With `create`, a folder that is missing comes into being. -/
def step (create : Bool) (f : Files) (here : List String) (part : String) :
    Files × Except FileFault (List String) :=
  match f.get? here with
  | none => (f, .error .missing)
  | some (.file _) => (f, .error .notFolder)
  | some .folder =>
    if part = "" || part = "." then (f, .ok here)
    else if part = ".." then (f, .ok here.dropLast)
    else if 255 < part.utf8ByteSize then (f, .error .longName)
    else
      let there := here ++ [part]
      match f.get? there with
      | some _ => (f, .ok there)
      | none => if create then (f.put there .folder, .ok there) else (f, .error .missing)

/-- The place that the parts lead to. -/
def walk (create : Bool) (f : Files) (here : List String) :
    List String → Files × Except FileFault (List String)
  | [] => (f, .ok here)
  | part :: parts =>
    match f.step create here part with
    | (f, .error e) => (f, .error e)
    | (f, .ok here) => f.walk create here parts

def hasZero (s : String) : Bool := s.toList.contains '\x00'

/-- Paths are shorter than this many bytes. -/
def pathBound : Nat := 4096

def isLong (path : String) : Bool := pathBound ≤ path.utf8ByteSize

/-- The bytes of the file at a path. -/
def read (f : Files) (path : String) : Except FileFault ByteArray :=
  if path = "" then .error .missing
  else if hasZero path then .error .badName
  else if isLong path then .error .longName
  else
    match (f.walk false [] (partsOf path)).2 with
    | .error e => .error e
    | .ok here =>
      match f.get? here with
      | some (.file content) => .ok content
      | some .folder => .error .isFolder
      | none => .error .missing

def readText (f : Files) (path : String) : Except FileFault String :=
  match f.read path with
  | .error e => .error e
  | .ok content =>
    match String.fromUTF8? content with
    | some s => .ok s
    | none => .error .notText

/-- Whether there is anything at a path. -/
def holds (f : Files) (path : String) : Bool :=
  match f.read path with
  | .ok _ => true
  | .error .isFolder => true
  | .error _ => false

/-- Whether a part names an entry, or leads up. -/
def isStep (part : String) : Bool := part ≠ "" && part ≠ "."

/-- The parts before the last step of a path. -/
def parentParts (path : String) : List String :=
  let parts := (partsOf path).reverse.dropWhile fun part => !isStep part
  (parts.tail.dropWhile fun part => !isStep part).reverse

/-- The path of the folder that a path leads through last. -/
def parentOf (path : String) : String := "/".intercalate (parentParts path)

/-- Makes all folders on the way to a path and finds the last of them. -/
def makeWay (f : Files) (path : String) : Files × Except FileFault (List String) :=
  let parts := parentParts path
  if parts.any hasZero then (f, .error .badName)
  else if isLong (parentOf path) then (f, .error .longName)
  else
    match f.walk true [] parts with
    | (f, .error e) => (f, .error e)
    | (f, .ok here) =>
      match f.get? here with
      | some .folder => (f, .ok here)
      | _ => (f, .error .taken)

/-- The last part of a path. -/
def nameOf (path : String) : String := (partsOf path).getLast?.getD ""

/-- Gives the file at a path, which leads to a folder first, its content. -/
def write (f : Files) (here : List String) (path : String) (content : ByteArray) :
    Except FileFault Files :=
  let name := nameOf path
  match f.get? here with
  | none => .error .missing
  | some (.file _) => .error .notFolder
  | some .folder =>
    if hasZero name then .error .badName
    else if isLong path then .error .longName
    else if name = "" || name = "." || name = ".." then .error .isFolder
    else if 255 < name.utf8ByteSize then .error .longName
    else
      let there := here ++ [name]
      match f.get? there with
      | some .folder => .error .isFolder
      | _ => .ok (f.put there (.file content))

/-- With one more file, and all folders on the way to it. -/
def withFile (f : Files) (path : String) (content : ByteArray) : Files :=
  match f.makeWay path with
  | (f, .error _) => f
  | (f, .ok here) =>
    match f.write here path content with
    | .error _ => f
    | .ok f => f

end Files

end ResultCursor
