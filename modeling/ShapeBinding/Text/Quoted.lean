import ShapeBinding.Text.Unprintable
/-!
# Quoted text in messages

Names and lexical forms stand in messages between double quotes.  The quote and the backslash are written after a
backslash, four control characters by their letters, and every other character that does not print by its code point
in lower-case hexadecimal digits between braces.
-/
namespace ShapeBinding

namespace Quoted

def hex (n : Nat) : List Char := Nat.toDigits 16 n

def char (c : Char) : List Char :=
  if c = '"' then ['\\', '"']
  else if c = '\\' then ['\\', '\\']
  else if c = '\n' then ['\\', 'n']
  else if c = '\r' then ['\\', 'r']
  else if c = '\t' then ['\\', 't']
  else if c = '\x00' then ['\\', '0']
  else if Unprintable.contains c then ['\\', 'u', '\x7b'] ++ hex c.toNat ++ ['\x7d']
  else [c]

end Quoted

/-- The text between double quotes, with what does not print made visible. -/
def quoted (s : String) : String := "\"" ++ String.ofList (s.toList.flatMap Quoted.char) ++ "\""

end ShapeBinding
