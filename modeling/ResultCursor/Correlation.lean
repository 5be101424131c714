import ResultCursor.Bson.Value

/-! Comments by which the commands of one operation can be found again: the client's name and a
random identifier of 128 bits, of which six bits say that it is random. -/

namespace ResultCursor

/-- A random identifier: 16 bytes, the version and the variant among them. -/
structure RandomId where
  bytes : List UInt8
  deriving DecidableEq, Repr

namespace RandomId

/-- The identifier made from two random words. -/
def ofWords (high low : UInt64) : RandomId :=
  let high := (high &&& 0xffffffffffff0fff) ||| 0x4000
  let low := (low &&& 0x3fffffffffffffff) ||| 0x8000000000000000
  let bytesOf (w : UInt64) : List UInt8 :=
    (List.range 8).map fun k => (w >>> (56 - 8 * UInt64.ofNat k)).toUInt8
  ⟨bytesOf high ++ bytesOf low⟩

def byteText (b : UInt8) : List Char :=
  [Nat.digitChar (b.toNat / 16), Nat.digitChar (b.toNat % 16)]

/-- Lower-case hexadecimal digits in groups of 8, 4, 4, 4 and 12. -/
def text (r : RandomId) : String :=
  let group (start n : Nat) : List Char := ((r.bytes.drop start).take n).flatMap byteText
  String.ofList (group 0 4 ++ ['-'] ++ group 4 2 ++ ['-'] ++ group 6 2 ++ ['-'] ++ group 8 2 ++
    ['-'] ++ group 10 6)

/-- A text of the form that `text` gives to random identifiers. -/
def isText (s : String) : Bool :=
  let isHex (c : Char) : Bool := c.isDigit || ('a' ≤ c && c ≤ 'f')
  let cs := s.toList
  cs.length = 36 &&
    (List.range 36).all fun i =>
      match cs[i]? with
      | none => false
      | some c =>
        if i = 8 || i = 13 || i = 18 || i = 23 then c = '-'
        else if i = 14 then c = '4'
        else if i = 19 then c = '8' || c = '9' || c = 'a' || c = 'b'
        else isHex c

end RandomId

/-- The comment of one operation. -/
structure Correlation where
  comment : String
  deriving DecidableEq, Repr

namespace Correlation

/-- The client's name where none is configured: that of the host, if it has one. -/
def clientOf (host : Option String) : String :=
  match host with
  | some name => if name.isEmpty then "localhost" else name
  | none => "localhost"

def commentHead (client : String) : String := "mongosh-" ++ client ++ "-"

def new (client : String) (id : RandomId) : Correlation := ⟨commentHead client ++ id.text⟩

/-- The comment without the identifier at its end. -/
def head (c : Correlation) : String := String.ofList (c.comment.toList.take (c.comment.length - 36))

/-- The last 36 characters of the comment. -/
def tail (c : Correlation) : String := String.ofList (c.comment.toList.drop (c.comment.length - 36))

def toBson (c : Correlation) : Bson := .string c.comment

end Correlation

end ResultCursor
