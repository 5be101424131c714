import ResultCursor.Text.Hexadecimal
import ResultCursor.Text.Hidden

/-! Texts between double quotes, as they appear in diagnostics. Quotes, backslashes, tabs and
line ends have short escapes; what cannot be seen is written by its number. -/

namespace ResultCursor.Text

/-- The written form of one character inside double quotes. -/
def quotedChar (c : Char) : String :=
  if c = '\x00' then "\\0"
  else if c = '\t' then "\\t"
  else if c = '\r' then "\\r"
  else if c = '\n' then "\\n"
  else if c = '"' then "\\\""
  else if c = '\\' then "\\\\"
  else if c.toNat < 0x20 || c.toNat = 0x7f || (c.toNat > 0x7f && isHidden c) then
    "\\u\x7b" ++ hexText c.toNat ++ "\x7d"
  else c.toString

def quoted (s : String) : String :=
  "\"" ++ String.join (s.toList.map quotedChar) ++ "\""

end ResultCursor.Text
