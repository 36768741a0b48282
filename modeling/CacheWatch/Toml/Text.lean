import CacheWatch.Text.Digits

/-! TOML strings: basic ones with escapes and literal ones without, each on one line between
single quotation marks or on several lines between threefold ones.
-/
namespace CacheWatch.Toml

def isBlank (c : Char) : Bool := c = ' ' || c = '\t'

def skipBlanks (cs : List Char) : List Char := cs.dropWhile isBlank

/-- The characters that stand nowhere, line ends apart. -/
def isControl (c : Char) : Bool := (c.toNat < 32 && c ≠ '\t') || c = '\x7f'

/-- Passes over a line feed, which a carriage return may precede. -/
def newline? : List Char → Option (List Char)
  | '\n' :: rest => some rest
  | '\r' :: '\n' :: rest => some rest
  | _ => none

def simpleEscape? (c : Char) : Option Char :=
  if c = '"' || c = '\\' then some c
  else if c = 'b' then some '\x08'
  else if c = 'f' then some '\x0c'
  else if c = 'n' then some '\n'
  else if c = 'r' then some '\r'
  else if c = 't' then some '\t'
  else none

def scalar? (ds : List Char) : Option Char :=
  match Text.hexNumber? ds with
  | some n => if n.isValidChar then some (Char.ofNat n) else none
  | none => none

/-- The character of an escape without its backslash, and how many characters the escape has. -/
def escape? : List Char → Option (Char × Nat)
  | 'u' :: rest => if rest.length < 4 then none else (scalar? (rest.take 4)).map (·, 5)
  | 'U' :: rest => if rest.length < 8 then none else (scalar? (rest.take 8)).map (·, 9)
  | c :: _ => (simpleEscape? c).map (·, 1)
  | [] => none

/-- The text up to the closing quotation mark, and what follows it. The characters of an escape
that has been read are passed over. -/
def shortText (quote : Char) (escapes : Bool) :
    Nat → List Char → Option (List Char × List Char)
  | _, [] => none
  | n + 1, _ :: rest => shortText quote escapes n rest
  | 0, c :: rest =>
    if c = quote then some ([], rest)
    else if escapes && c = '\\' then
      match escape? rest with
      | none => none
      | some (e, n) =>
        (shortText quote escapes n rest).map (fun (text, after) => (e :: text, after))
    else if isControl c then none
    else (shortText quote escapes 0 rest).map (fun (text, after) => (c :: text, after))

/-- Where a text on several lines is being read. -/
inductive Place where
  | text
  /-- Behind a line end that is not part of the text. -/
  | lineStart
  /-- In an escape of which some characters are left. -/
  | escape (left : Nat)

/-- The end of a text on several lines: three marks, and up to two more before them. -/
def closing? (quote : Char) (cs : List Char) : Option (List Char × List Char) :=
  let marks := (cs.takeWhile (· = quote)).length
  if marks < 3 then none
  else
    let inside := min (marks - 3) 2
    some (List.replicate inside quote, cs.drop (3 + inside))

/-- The text up to three closing marks. Line ends become line feeds; a backslash before a line
end removes it together with all blanks and line ends that follow. -/
def longText (quote : Char) (escapes : Bool) :
    Place → List Char → Option (List Char × List Char)
  | _, [] => none
  | .escape (n + 1), _ :: rest => longText quote escapes (.escape n) rest
  | place, c :: rest =>
    let keep := fun c place => (longText quote escapes place rest).map
      (fun (text, after) => (c :: text, after))
    let skipped := match place with
      | .lineStart => isBlank c || c = '\n' || (c = '\r' && rest.head? = some '\n')
      | _ => false
    if skipped then longText quote escapes .lineStart rest
    else if c = quote then
      match closing? quote (c :: rest) with
      | some ending => some ending
      | none => keep c .text
    else if escapes && c = '\\' then
      if (newline? (skipBlanks rest)).isSome then longText quote escapes .lineStart rest
      else
        match escape? rest with
        | none => none
        | some (e, n) => keep e (.escape n)
    else if c = '\n' then keep c .text
    else if c = '\r' && rest.head? = some '\n' then longText quote escapes .text rest
    else if isControl c then none
    else keep c .text

def oneLine (quote : Char) (cs : List Char) : Option (List Char × List Char) :=
  shortText quote (quote = '"') 0 cs

/-- A string of either length behind its first quotation mark. A line end that follows three
opening marks is not part of the text. -/
def quotedText (quote : Char) (cs : List Char) : Option (List Char × List Char) :=
  if cs.take 2 = [quote, quote] then
    let body := cs.drop 2
    longText quote (quote = '"') .text ((newline? body).getD body)
  else oneLine quote cs

end CacheWatch.Toml
