import PushRelay.Text.Printable

/-!
# PushRelay.Text.Quoted

The quoted form of a text, in which reports and error messages show names:
between double quotes, with a backslash before a quote or a backslash, short
forms for NUL, tab, line feed and carriage return, and the code point in
hexadecimal for every character that does not print by itself.
-/

namespace PushRelay

namespace Text

/-- A character as it stands in a quoted text. -/
def quotedChar (c : Char) : List Char :=
  if c = '\x00' then ['\\', '0']
  else if c = '\t' then ['\\', 't']
  else if c = '\n' then ['\\', 'n']
  else if c = '\r' then ['\\', 'r']
  else if c = '"' then ['\\', '"']
  else if c = '\\' then ['\\', '\\']
  else if standsAlone c then [c]
  else ['\\', 'u', '\x7b'] ++ Nat.toDigits 16 c.toNat ++ ['\x7d']

/-- The quoted form of a text. -/
def quoted (s : String) : String :=
  String.ofList ('"' :: s.toList.flatMap quotedChar ++ ['"'])

/-- The quoted forms of several texts, in brackets. -/
def quotedList (names : List String) : String :=
  "[" ++ ", ".intercalate (names.map quoted) ++ "]"

example : quoted "a\"b" = "\"a\\\"b\"" := by decide +kernel

example : quoted "\u00A0e\u0301" = "\"\\u\x7ba0\x7de\\u\x7b301\x7d\"" := by decide +kernel

end Text

end PushRelay
