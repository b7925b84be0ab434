import DatasetQuery.Text.Printable
/-!
Quoted text, as it stands in structural descriptions. Quotes and backslashes are escaped, four
controls have letters of their own, and all other characters that cannot be shown are given by
their code point.
-/
namespace DatasetQuery.Text

def escapedChar (c : Char) : List Char :=
  if c = '"' then ['\\', '"']
  else if c = '\\' then ['\\', '\\']
  else if c = '\n' then ['\\', 'n']
  else if c = '\r' then ['\\', 'r']
  else if c = '\t' then ['\\', 't']
  else if c = '\x00' then ['\\', '0']
  else if isPrintable c then [c]
  else '\\' :: 'u' :: '\x7b' :: Nat.toDigits 16 c.toNat ++ ['\x7d']

def quoted (s : String) : String :=
  String.ofList ('"' :: s.toList.flatMap escapedChar ++ ['"'])

end DatasetQuery.Text
