import CacheWatch.Toml.Scalar
import CacheWatch.Toml.Text

/-! TOML documents: keys, values, lines. -/
namespace CacheWatch.Toml

/-- Arrays and inline tables nest at most this deep, and keys have at most so many parts. -/
def nestingLimit : Nat := 79

def isBareKeyChar (c : Char) : Bool := c.isAlphanum || c = '_' || c = '-'

def simpleKey (cs : List Char) : Option (String × List Char) :=
  match cs with
  | '"' :: rest => (oneLine '"' rest).map (fun (text, after) => (String.ofList text, after))
  | '\'' :: rest => (oneLine '\'' rest).map (fun (text, after) => (String.ofList text, after))
  | cs =>
    let name := cs.takeWhile isBareKeyChar
    if name.isEmpty then none else some (String.ofList name, cs.dropWhile isBareKeyChar)

/-- Parts with points between them, and blanks around each. -/
def keyParts : Nat → List Char → Option (List String × List Char)
  | 0, _ => none
  | n + 1, cs =>
    match simpleKey (skipBlanks cs) with
    | none => none
    | some (part, cs) =>
      match skipBlanks cs with
      | '.' :: rest => (keyParts n rest).map (fun (parts, after) => (part :: parts, after))
      | cs => some ([part], cs)

def keyOfParts : List String → Option Key
  | [] => none
  | [name] => some ⟨[], name⟩
  | parent :: rest => (keyOfParts rest).map (fun key => ⟨parent :: key.above, key.name⟩)

def key (cs : List Char) : Option (Key × List Char) :=
  match keyParts nestingLimit cs with
  | none => none
  | some (parts, after) => (keyOfParts parts).map (·, after)

/-- Passes over blanks, line ends and comments between the items of an array. -/
def gap (inComment : Bool) : List Char → Option (List Char)
  | [] => some []
  | c :: rest =>
    if c = '\n' then gap false rest
    else if c = '\r' then (if rest.head? = some '\n' then gap inComment rest else none)
    else if inComment then (if isControl c then none else gap true rest)
    else if isBlank c then gap false rest
    else if c = '#' then gap true rest
    else some (c :: rest)

def stringValue (quote : Char) (cs : List Char) : Option (Toml × List Char) :=
  (quotedText quote cs).map (fun (text, after) => (.string (String.ofList text), after))

mutual

/-- A value at the head of a text. `depth` is how deep it may nest, `fuel` bounds the work. -/
def value : Nat → Nat → List Char → Option (Toml × List Char)
  | 0, _, _ => none
  | fuel + 1, depth, cs =>
    match cs with
    | '"' :: rest => stringValue '"' rest
    | '\'' :: rest => stringValue '\'' rest
    | '[' :: rest =>
      if depth = 0 then none
      else (items fuel (depth - 1) rest).map (fun (found, after) => (.array found, after))
    | '\x7b' :: rest =>
      if depth = 0 then none
      else
        match skipBlanks rest with
        | '\x7d' :: after => some (.table .inline [], after)
        | rest =>
          match pairs fuel (depth - 1) rest with
          | none => none
          | some (found, after) => (assignAll [] found).map (fun t => (.table .inline t, after))
    | 't' :: 'r' :: 'u' :: 'e' :: rest => some (.bool true, rest)
    | 'f' :: 'a' :: 'l' :: 's' :: 'e' :: rest => some (.bool false, rest)
    | cs => scalar cs

/-- Items up to the closing bracket. A comma may stand behind the last one. -/
def items : Nat → Nat → List Char → Option (List Toml × List Char)
  | 0, _, _ => none
  | fuel + 1, depth, cs =>
    match gap false cs with
    | none => none
    | some (']' :: rest) => some ([], rest)
    | some cs =>
      match value fuel depth cs with
      | none => none
      | some (item, cs) =>
        match gap false cs with
        | some (',' :: rest) =>
          (items fuel depth rest).map (fun (found, after) => (item :: found, after))
        | some (']' :: rest) => some ([item], rest)
        | _ => none

/-- Assignments up to the closing brace, with commas between them. -/
def pairs : Nat → Nat → List Char → Option (List (Key × Toml) × List Char)
  | 0, _, _ => none
  | fuel + 1, depth, cs =>
    match key cs with
    | some (name, '=' :: cs) =>
      match value fuel depth (skipBlanks cs) with
      | none => none
      | some (item, cs) =>
        match skipBlanks cs with
        | ',' :: rest =>
          (pairs fuel depth rest).map (fun (found, after) => ((name, item) :: found, after))
        | '\x7d' :: rest => some ([(name, item)], rest)
        | _ => none
    | _ => none

end

/-- A value that nests no deeper than allowed. Every second step takes a character. -/
def wholeValue (cs : List Char) : Option (Toml × List Char) :=
  value (2 * cs.length + 2) nestingLimit cs

/-- Passes over the rest of a line: blanks, a comment, and the line end or the end of the text. -/
def lineEnd? (cs : List Char) : Option (List Char) :=
  let behind := match skipBlanks cs with
    | '#' :: rest => rest.dropWhile (!isControl ·)
    | rest => rest
  if behind.isEmpty then some [] else newline? behind

def statement (cs : List Char) : Option (Statement × List Char) :=
  match cs with
  | '[' :: '[' :: rest =>
    match key rest with
    | some (name, ']' :: ']' :: after) => some (.header ⟨true, name⟩, after)
    | _ => none
  | '[' :: rest =>
    match key rest with
    | some (name, ']' :: after) => some (.header ⟨false, name⟩, after)
    | _ => none
  | cs =>
    match key cs with
    | some (name, '=' :: rest) =>
      (wholeValue (skipBlanks rest)).map (fun (item, after) => (.assignment name item, after))
    | _ => none

/-- Statements on lines of their own. Every line takes a character. -/
def statementsWithin : Nat → List Char → Option (List Statement)
  | fuel, cs =>
    match skipBlanks cs, fuel with
    | [], _ => some []
    | _ :: _, 0 => none
    | c :: rest, fuel + 1 =>
      if c = '\n' || c = '\r' || c = '#' then
        match lineEnd? (c :: rest) with
        | none => none
        | some after => statementsWithin fuel after
      else
        match statement (c :: rest) with
        | none => none
        | some (first, after) =>
          match lineEnd? after with
          | none => none
          | some after => (statementsWithin fuel after).map (first :: ·)

/-- Reads a document. A byte order mark may precede it. -/
def read (cs : List Char) : Option Members :=
  let cs := match cs with
    | '\uFEFF' :: rest => rest
    | cs => cs
  match statementsWithin (cs.length + 1) cs with
  | none => none
  | some statements => build statements

def ofText? (s : String) : Option Members := read s.toList

end CacheWatch.Toml
