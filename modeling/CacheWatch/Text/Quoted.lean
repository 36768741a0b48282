import CacheWatch.Text.Printable

/-! Quoted text for messages: one quoted line in which every character can be seen. -/
namespace CacheWatch.Text

/-- A character between `quote` marks. -/
def visible (quote c : Char) : List Char :=
  if c = '\x00' then ['\\', '0']
  else if c = '\t' then ['\\', 't']
  else if c = '\r' then ['\\', 'r']
  else if c = '\n' then ['\\', 'n']
  else if c = quote || c = '\\' then ['\\', c]
  else if isPrintable c then [c]
  else ['\\', 'u', '\x7b'] ++ Nat.toDigits 16 c.toNat ++ ['\x7d']

def quoted (s : String) : String :=
  String.ofList ('"' :: (s.toList.flatMap (visible '"') ++ ['"']))

def quotedChar (c : Char) : String :=
  String.ofList ('\'' :: (visible '\'' c ++ ['\'']))

end CacheWatch.Text
