import CacheWatch.Text.Digits

/-! Percent-encoding of characters by their UTF-8 bytes. -/
namespace CacheWatch.Text

def upperHexDigit (n : Nat) : Char := (Nat.digitChar (n % 16)).toUpper

def percentByte (b : UInt8) : List Char :=
  ['%', upperHexDigit (b.toNat / 16), upperHexDigit b.toNat]

/-- Controls and everything outside ASCII are always encoded. -/
def isPlain (c : Char) : Bool := 32 ≤ c.toNat && c.toNat < 127

def percentChar (isSpecial : Char → Bool) (c : Char) : List Char :=
  if isPlain c && !isSpecial c then [c] else (String.utf8EncodeChar c).flatMap percentByte

def percentEncode (isSpecial : Char → Bool) (cs : List Char) : List Char :=
  cs.flatMap (percentChar isSpecial)

/-- The UTF-8 bytes of a text in which encoded bytes are resolved; a percent sign without two
hexadecimal digits stays. -/
def percentBytes : List Char → List UInt8
  | '%' :: a :: b :: rest =>
    match hexValue? a, hexValue? b with
    | some a, some b => UInt8.ofNat (16 * a + b) :: percentBytes rest
    | _, _ => String.utf8EncodeChar '%' ++ percentBytes (a :: b :: rest)
  | c :: rest => String.utf8EncodeChar c ++ percentBytes rest
  | [] => []

def percentDecode? (cs : List Char) : Option (List Char) :=
  (String.fromUTF8? ⟨(percentBytes cs).toArray⟩).map String.toList

end CacheWatch.Text
