import ResultCursor.Numeric.DecimalText
import ResultCursor.Pattern.Automaton
import ResultCursor.Settings.Basic
import ResultCursor.Text.Bytes

/-! Which notes are shown. A filter is a list of directives with commas between them, each for all
notes or for those of one target, of one span or with a certain field. What is looked for here is
the last level that any directive lets through. -/

namespace ResultCursor

/-- All notes up to a level, or none. -/
abbrev Limit := Option Level

namespace Limit

def rank : Limit → Nat
  | some l => l.rank
  | none => 0

def max (a b : Limit) : Limit := if a.rank < b.rank then b else a

/-- A limit by its number or by its name, in any case. -/
def ofText? (s : String) : Option Limit :=
  match Text.readNat? s.toList with
  | some 0 => some none
  | some n => (Level.all.find? fun l => l.rank = n).map some
  | none =>
    let name := Text.lowerAscii s
    if name = "off" then some none else (Level.ofName? name).map some

end Limit

/-! ### Directives -/

/-- The bytes from `start` up to `stop`. -/
structure Piece where
  start : Nat
  stop : Nat
  deriving DecidableEq, Repr

def Piece.of? (p : Piece) (cs : List Char) : Option (List Char) :=
  (Text.dropBytes? p.start cs).bind (Text.takeBytes? (p.stop - p.start))

/-- Where the pieces of a directive stand. -/
inductive Outline where
  /-- One word, which is a limit or else a target. -/
  | word
  /-- The field between braces, and where the limit begins. -/
  | pieces (field : Option Piece) (limit : Option Nat)
  deriving DecidableEq, Repr

namespace Outline

/-- What may follow a span: the end, or a limit. The first number counts the bytes before. -/
def afterSpan? (before : Nat) (field : Option Piece) : List Char → Option Outline
  | [] => some (.pieces field none)
  | '=' :: _ => some (.pieces field (some (before + 1)))
  | _ => none

/-- The rest of a directive after an opening bracket: a span's name, a field in braces or both. -/
def inSpan? (before : Nat) (cs : List Char) : Option Outline :=
  let inName (c : Char) : Bool := c ≠ ']' && c ≠ '\x7b'
  let start := before + Text.byteLength (cs.takeWhile inName) + 1
  match cs.dropWhile inName with
  | ']' :: rest => afterSpan? start none rest
  | '\x7b' :: rest =>
    let field := rest.takeWhile (· ≠ '\x7d')
    let stop := start + Text.byteLength field
    match rest.dropWhile (· ≠ '\x7d') with
    | _ :: ']' :: rest =>
      if field.isEmpty then none else afterSpan? (stop + 2) (some ⟨start, stop⟩) rest
    | _ => none
  | _ => none

/-- The first character of a target. -/
def opensTarget (c : Char) : Bool :=
  Text.isAlphanumeric c || c = '-' || c = ':' || c = '_'

/-- The outline of a directive without blanks around it. -/
def ofChars? (cs : List Char) : Option Outline :=
  let inTarget (c : Char) : Bool := c ≠ '=' && c ≠ '['
  match cs with
  | [] => none
  | '[' :: rest => inSpan? 1 rest
  | c :: _ =>
    let before := Text.byteLength (cs.takeWhile inTarget) + 1
    if !opensTarget c then none
    else
      match cs.dropWhile inTarget with
      | [] => some .word
      | '=' :: _ => some (.pieces none (some before))
      | _ :: rest => inSpan? before rest

end Outline

structure Directive where
  limit : Limit
  /-- It depends on the values of fields, which nobody knows beforehand. -/
  seesValues : Bool
  deriving DecidableEq, Repr

namespace Directive

/-- The limit after an equals sign; nothing after it lets everything through. -/
def limitOf? (cs : List Char) : Option Limit :=
  if cs.isEmpty then some (some .trace) else Limit.ofText? (String.ofList cs)

/-- The value that a field must have: what stands between its first two equals signs. -/
def valueOf? (field : List Char) : Option String :=
  match field.dropWhile (· ≠ '=') with
  | _ :: value => some (String.ofList (value.takeWhile (· ≠ '=')))
  | [] => none

/-- A value to compare with is a number or a pattern. -/
def isValue (s : String) : Bool :=
  (Numeric.readBinary64? s).isSome || ((Pattern.ofText? s).map Pattern.isUsable).getD false

/-- Whether a field is compared with a value, which must be a good one. -/
def seesValue? (field : List Char) : Option Bool :=
  match valueOf? field with
  | some value => if isValue value then some true else none
  | none => some false

def ofPieces? (cs : List Char) (field : Option Piece) (limit : Option Nat) : Option Directive := do
  let seesValues ← match field with
    | some piece => (piece.of? cs).bind seesValue?
    | none => some false
  let limit ← match limit with
    | some start => (Text.dropBytes? start cs).bind limitOf?
    | none => some (some .trace)
  return ⟨limit, seesValues⟩

/-- The directive of a text. The outline is that of the text without the blanks around it; its
places are counted in the whole text. -/
def ofText? (s : String) : Option Directive :=
  match Outline.ofChars? (Text.trimChars s.toList) with
  | none => none
  | some .word => some ⟨(Limit.ofText? s).getD (some .trace), false⟩
  | some (.pieces field limit) => ofPieces? s.toList field limit

end Directive

/-- The last level that a filter lets through. Without any directive that is none. -/
def filterLimit? (s : String) : Option Limit :=
  ((s.splitOn ",").filter fun part => part ≠ "").mapM Directive.ofText? |>.map fun directives =>
    if directives.any (·.seesValues) then some .trace
    else directives.foldl (fun l d => l.max d.limit) none

/-- What is shown: the filter decides if there is a good one, and otherwise the level that is
set. -/
def LogSettings.limit (s : LogSettings) (filter : Option String) : Limit :=
  (filter.bind filterLimit?).getD (some s.level)

/-- Begins to show notes, which happens once: what shows them already stays as it is. Says what is
shown then, and whether it has begun just now. -/
def LogSettings.start (s : LogSettings) (filter : Option String) (running : Option Limit) :
    Limit × Bool :=
  match running with
  | some limit => (limit, false)
  | none => (s.limit filter, true)

end ResultCursor
