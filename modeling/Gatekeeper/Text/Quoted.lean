import Gatekeeper.Text.Visible

set_option autoImplicit false

namespace Gatekeeper.Text

def codePointEscape (c : Char) : String :=
  "\\u\x7b" ++ String.ofList (Nat.toDigits 16 c.toNat) ++ "\x7d"

def quoteChar (c : Char) : String :=
  if c = '"' then "\\\""
  else if c = '\\' then "\\\\"
  else if c = '\n' then "\\n"
  else if c = '\r' then "\\r"
  else if c = '\t' then "\\t"
  else if c = '\x00' then "\\0"
  else if isVisible c then String.singleton c
  else codePointEscape c

def quote (s : String) : String := "\"" ++ String.join (s.toList.map quoteChar) ++ "\""

end Gatekeeper.Text
