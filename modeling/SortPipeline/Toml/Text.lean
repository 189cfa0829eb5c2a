import SortPipeline.Json.Node

namespace SortPipeline.Toml

open Json (hexNumber?)

def isSpace (c : Char) : Bool := c = ' ' || c = '\t'

def skipSpaces (cs : List Char) : List Char := cs.dropWhile isSpace

def isText (c : Char) : Bool := c = '\t' || (32 ≤ c.toNat && c.toNat ≠ 127)

def readNewline? : List Char → Option (List Char)
  | '\n' :: cs => some cs
  | '\r' :: '\n' :: cs => some cs
  | _ => none

def skipComment? : List Char → Option (List Char)
  | '#' :: cs =>
    match cs.dropWhile isText with
    | [] => some []
    | rest => (readNewline? rest).map fun _ => rest
  | cs => some cs

def readLineEnd? (cs : List Char) : Option (List Char) :=
  match skipComment? (skipSpaces cs) with
  | some [] => some []
  | some rest => readNewline? rest
  | none => none

def skipVoid? (inComment : Bool) : List Char → Option (List Char)
  | [] => some []
  | '\n' :: cs => skipVoid? false cs
  | '\r' :: '\n' :: cs => skipVoid? false cs
  | c :: cs =>
    if inComment then if isText c then skipVoid? true cs else none
    else if isSpace c then skipVoid? false cs
    else if c = '#' then skipVoid? true cs
    else some (c :: cs)

def charOfCode? (n : Nat) : Option Char := if n.isValidChar then some (Char.ofNat n) else none

def readEscape? : List Char → Option (Char × List Char)
  | 'b' :: cs => some ('\x08', cs)
  | 't' :: cs => some ('\t', cs)
  | 'n' :: cs => some ('\n', cs)
  | 'f' :: cs => some ('\x0c', cs)
  | 'r' :: cs => some ('\r', cs)
  | 'e' :: cs => some ('\x1b', cs)
  | '"' :: cs => some ('"', cs)
  | '\\' :: cs => some ('\\', cs)
  | 'x' :: cs => readCode 2 cs
  | 'u' :: cs => readCode 4 cs
  | 'U' :: cs => readCode 8 cs
  | _ => none
where
  readCode (count : Nat) (cs : List Char) : Option (Char × List Char) :=
    if cs.length < count then none
    else ((hexNumber? (cs.take count)).bind charOfCode?).map (·, cs.drop count)

def readBasic? : Nat → List Char → Option (List Char × List Char)
  | 0, _ | _, [] => none
  | _, '"' :: cs => some ([], cs)
  | fuel + 1, '\\' :: cs => do
    let (c, cs) ← readEscape? cs
    let (text, cs) ← readBasic? fuel cs
    return (c :: text, cs)
  | fuel + 1, c :: cs =>
    if isText c then (readBasic? fuel cs).map fun (t, r) => (c :: t, r) else none

def readLiteral? (cs : List Char) : Option (List Char × List Char) :=
  match cs.dropWhile fun c => isText c && c ≠ '\x27' with
  | '\x27' :: rest => some (cs.takeWhile fun c => isText c && c ≠ '\x27', rest)
  | _ => none

/-- Up to two quotes may stand right before the closing three. -/
def closingQuotes (quote : Char) : List Char → List Char × List Char
  | a :: b :: cs =>
    if a = quote ∧ b = quote then ([quote, quote], cs)
    else if a = quote then ([quote], b :: cs)
    else ([], a :: b :: cs)
  | [a] => if a = quote then ([quote], []) else ([], [a])
  | [] => ([], [])

def skipContinuation : List Char → List Char
  | '\n' :: cs => skipContinuation cs
  | '\r' :: '\n' :: cs => skipContinuation cs
  | c :: cs => if isSpace c then skipContinuation cs else c :: cs
  | [] => []

def readLongBasic? : Nat → List Char → Option (List Char × List Char)
  | 0, _ | _, [] => none
  | _, '"' :: '"' :: '"' :: cs => some (closingQuotes '"' cs)
  | fuel + 1, '\\' :: cs =>
    match readNewline? (skipSpaces cs) with
    | some rest => readLongBasic? fuel (skipContinuation rest)
    | none => do
      let (c, cs) ← readEscape? cs
      let (text, cs) ← readLongBasic? fuel cs
      return (c :: text, cs)
  | fuel + 1, '\r' :: '\n' :: cs =>
    (readLongBasic? fuel cs).map fun (t, r) => ('\r' :: '\n' :: t, r)
  | fuel + 1, c :: cs =>
    if isText c || c = '\n' then (readLongBasic? fuel cs).map fun (t, r) => (c :: t, r) else none

def readLongLiteral? : List Char → Option (List Char × List Char)
  | [] => none
  | '\x27' :: '\x27' :: '\x27' :: cs => some (closingQuotes '\x27' cs)
  | '\r' :: '\n' :: cs => (readLongLiteral? cs).map fun (t, r) => ('\r' :: '\n' :: t, r)
  | c :: cs =>
    if isText c || c = '\n' then (readLongLiteral? cs).map fun (t, r) => (c :: t, r) else none

def skipFirstNewline (cs : List Char) : List Char := (readNewline? cs).getD cs

def readString? (cs : List Char) : Option (String × List Char) :=
  let text : Option (List Char × List Char) :=
    match cs with
    | '"' :: '"' :: '"' :: rest => readLongBasic? (rest.length + 1) (skipFirstNewline rest)
    | '\x27' :: '\x27' :: '\x27' :: rest => readLongLiteral? (skipFirstNewline rest)
    | '"' :: rest => readBasic? (rest.length + 1) rest
    | '\x27' :: rest => readLiteral? rest
    | _ => none
  text.map fun (text, rest) => (String.ofList text, rest)

def isBareKey (c : Char) : Bool := c.isAlphanum || c = '_' || c = '-'

def readSimpleKey? (cs : List Char) : Option (String × List Char) :=
  let text : Option (List Char × List Char) :=
    match cs with
    | '"' :: rest => readBasic? (rest.length + 1) rest
    | '\x27' :: rest => readLiteral? rest
    | _ => if (cs.takeWhile isBareKey).isEmpty then none else some (cs.span isBareKey)
  text.map fun (text, rest) => (String.ofList text, rest)

def readKeys? : Nat → List Char → Option (List String × List Char)
  | 0, _ => none
  | fuel + 1, cs => do
    let (key, cs) ← readSimpleKey? cs
    match skipSpaces cs with
    | '.' :: rest =>
      let (keys, rest) ← readKeys? fuel (skipSpaces rest)
      return (key :: keys, rest)
    | rest => return ([key], rest)

/-- A key has no more parts, and items are nested no deeper. -/
def maxDepth : Nat := 80

def readKey? (cs : List Char) : Option ((List String × String) × List Char) := do
  let (keys, rest) ← readKeys? maxDepth cs
  let name ← keys.getLast?
  return ((keys.dropLast, name), rest)

end SortPipeline.Toml
