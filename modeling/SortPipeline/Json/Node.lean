import SortPipeline.Json.Literal

/-! JSON text as it is written. A node keeps what a value cannot hold: repeated members, numbers
beyond the doubles, strings with half of a surrogate pair, and the place where the text stops
being JSON. Who only passes over a node minds the last of these alone. -/

namespace SortPipeline.Json

/-- A number or string is `none` if it is well spelled and still has no value. Nothing follows
`broken` in the text. -/
inductive Node
  | null
  | bool (b : Bool)
  | number (n : Option Number)
  | string (s : Option String)
  | array (items : List Node)
  | object (members : List (Option String × Node))
  | broken

def isBlank (c : Char) : Bool := c = ' ' || c = '\n' || c = '\t' || c = '\r'

def skipBlanks (cs : List Char) : List Char := cs.dropWhile isBlank

def hexValue? (c : Char) : Option Nat :=
  if '0' ≤ c ∧ c ≤ '9' then some (c.toNat - 48)
  else if 'a' ≤ c ∧ c ≤ 'f' then some (c.toNat - 87)
  else if 'A' ≤ c ∧ c ≤ 'F' then some (c.toNat - 55)
  else none

def hexNumber? (digits : List Char) : Option Nat :=
  digits.foldlM (fun n c => (16 * n + ·) <$> hexValue? c) 0

def codes? : List Char → Option (List Nat × List Char)
  | [] => none
  | '"' :: rest => some ([], rest)
  | '\\' :: 'u' :: a :: b :: c :: d :: rest =>
    match hexNumber? [a, b, c, d], codes? rest with
    | some n, some (ns, tail) => some (n :: ns, tail)
    | _, _ => none
  | '\\' :: e :: rest =>
    match escaped? e, codes? rest with
    | some n, some (ns, tail) => some (n :: ns, tail)
    | _, _ => none
  | c :: rest =>
    if c.toNat < 32 ∨ c = '\\' then none
    else (codes? rest).map fun (ns, tail) => (c.toNat :: ns, tail)
where
  escaped? : Char → Option Nat
    | '"' => some 34
    | '\\' => some 92
    | '/' => some 47
    | 'b' => some 8
    | 'f' => some 12
    | 'n' => some 10
    | 'r' => some 13
    | 't' => some 9
    | _ => none

/-- Surrogates have to come in pairs. -/
def charsOfCodes? : List Nat → Option (List Char)
  | [] => some []
  | high :: low :: rest =>
    if 0xD800 ≤ high ∧ high < 0xDC00 ∧ 0xDC00 ≤ low ∧ low < 0xE000 then
      (charsOfCodes? rest).map
        (Char.ofNat (0x10000 + (high - 0xD800) * 0x400 + (low - 0xDC00)) :: ·)
    else if 0xD800 ≤ high ∧ high < 0xE000 then none
    else (charsOfCodes? (low :: rest)).map (Char.ofNat high :: ·)
  | [n] => if 0xD800 ≤ n ∧ n < 0xE000 then none else some [Char.ofNat n]

def stringOfCodes? (codes : List Nat) : Option String := (charsOfCodes? codes).map String.ofList

namespace Node

mutual

def read : Nat → List Char → Node × Option (List Char)
  | 0, _ => (.broken, none)
  | fuel + 1, cs =>
    match skipBlanks cs with
    | 'n' :: 'u' :: 'l' :: 'l' :: rest => (.null, some rest)
    | 't' :: 'r' :: 'u' :: 'e' :: rest => (.bool true, some rest)
    | 'f' :: 'a' :: 'l' :: 's' :: 'e' :: rest => (.bool false, some rest)
    | '"' :: rest =>
      match codes? rest with
      | some (codes, rest) => (.string (stringOfCodes? codes), some rest)
      | none => (.broken, none)
    | '[' :: rest =>
      match skipBlanks rest with
      | ']' :: rest => (.array [], some rest)
      | rest =>
        let (items, rest) := readItems fuel rest
        (.array items, rest)
    | '\x7b' :: rest =>
      match skipBlanks rest with
      | '\x7d' :: rest => (.object [], some rest)
      | rest =>
        let (members, rest) := readMembers fuel rest
        (.object members, rest)
    | cs =>
      match Literal.read? cs with
      | some (l, rest) => (.number l.number?, some rest)
      | none => (.broken, none)

def readItems : Nat → List Char → List Node × Option (List Char)
  | 0, _ => ([.broken], none)
  | fuel + 1, cs =>
    match read fuel cs with
    | (v, none) => ([v], none)
    | (v, some rest) =>
      match skipBlanks rest with
      | ']' :: rest => ([v], some rest)
      | ',' :: rest =>
        let (items, rest) := readItems fuel rest
        (v :: items, rest)
      | _ => ([v, .broken], none)

def readMembers : Nat → List Char → List (Option String × Node) × Option (List Char)
  | 0, _ => ([(none, .broken)], none)
  | fuel + 1, cs =>
    match skipBlanks cs with
    | '"' :: rest =>
      match codes? rest with
      | none => ([(none, .broken)], none)
      | some (codes, rest) =>
        let name := stringOfCodes? codes
        match skipBlanks rest with
        | ':' :: rest =>
          match read fuel rest with
          | (v, none) => ([(name, v)], none)
          | (v, some rest) =>
            match skipBlanks rest with
            | '\x7d' :: rest => ([(name, v)], some rest)
            | ',' :: rest =>
              let (members, rest) := readMembers fuel rest
              ((name, v) :: members, rest)
            | _ => ([(name, v), (none, .broken)], none)
        | _ => ([(name, .broken)], none)
    | _ => ([(none, .broken)], none)

end

mutual

def intact : Node → Bool
  | .broken => false
  | .array items => intactItems items
  | .object members => intactMembers members
  | _ => true

def intactItems : List Node → Bool
  | [] => true
  | v :: rest => v.intact && intactItems rest

def intactMembers : List (Option String × Node) → Bool
  | [] => true
  | (_, v) :: rest => v.intact && intactMembers rest

end

mutual

def value? (depth : Nat) : Node → Option Value
  | .null => some .null
  | .bool b => some (.bool b)
  | .number n => n.map .number
  | .string s => s.map .string
  | .array items =>
    match depth with
    | 0 => none
    | d + 1 => (valueItems? d items).map .array
  | .object members =>
    match depth with
    | 0 => none
    | d + 1 => (valueMembers? d members).map fun ms => .object (Entries.ofList ms)
  | .broken => none

def valueItems? (depth : Nat) : List Node → Option (List Value)
  | [] => some []
  | v :: rest => do
    let v ← v.value? depth
    let rest ← valueItems? depth rest
    return v :: rest

def valueMembers? (depth : Nat) : List (Option String × Node) → Option (List (String × Value))
  | [] => some []
  | (name, v) :: rest => do
    let name ← name
    let v ← v.value? depth
    let rest ← valueMembers? depth rest
    return (name, v) :: rest

end

end Node

def maxDepth : Nat := 127

structure Document where
  root : Node
  closed : Bool

def Document.ofText (text : String) : Document :=
  let cs := text.toList
  match Node.read (2 * cs.length + 2) cs with
  | (root, none) => ⟨root, false⟩
  | (root, some rest) => ⟨root, (skipBlanks rest).isEmpty⟩

def read? (text : String) : Option Value :=
  let d := Document.ofText text
  if d.closed then d.root.value? maxDepth else none

end SortPipeline.Json
