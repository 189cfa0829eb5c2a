import SortPipeline.Toml.Scalar
import SortPipeline.Toml.Table

namespace SortPipeline.Toml

def readAssignment? (cs : List Char) : Option ((List String × String) × List Char) :=
  match readKey? cs with
  | none => none
  | some (key, rest) =>
    match skipVoid? false rest with
    | some ('=' :: rest) => (skipVoid? false rest).map (key, ·)
    | _ => none

mutual

def readItem? : Nat → Nat → List Char → Option (Item × List Char)
  | 0, _, _ => none
  | fuel + 1, depth, cs =>
    match cs with
    | '[' :: rest =>
      match depth with
      | 0 => none
      | d + 1 => (readItems? fuel d rest).map fun (items, rest) => (.array items, rest)
    | '\x7b' :: rest =>
      match depth with
      | 0 => none
      | d + 1 =>
        match readEntries? fuel d rest with
        | some (entries, rest) => (inlineTable? entries).map (·, rest)
        | none => none
    | c :: _ =>
      if c = '"' ∨ c = '\x27' then (readString? cs).map fun (s, rest) => (.string s, rest)
      else readScalar? cs
    | [] => none

def readItems? : Nat → Nat → List Char → Option (List Item × List Char)
  | 0, _, _ => none
  | fuel + 1, depth, cs =>
    match skipVoid? false cs with
    | none => none
    | some (']' :: rest) => some ([], rest)
    | some cs =>
      match readItem? fuel depth cs with
      | none => none
      | some (item, rest) =>
        match skipVoid? false rest with
        | some (']' :: rest) => some ([item], rest)
        | some (',' :: rest) =>
          (readItems? fuel depth rest).map fun (items, r) => (item :: items, r)
        | _ => none

def readEntries? : Nat → Nat → List Char → Option (List (List String × String × Item) × List Char)
  | 0, _, _ => none
  | fuel + 1, depth, cs =>
    match skipVoid? false cs with
    | none => none
    | some ('\x7d' :: rest) => some ([], rest)
    | some cs =>
      match readAssignment? cs with
      | none => none
      | some ((path, name), rest) =>
        match readItem? fuel depth rest with
        | none => none
        | some (item, rest) =>
          let entry := (path, name, item)
          match skipVoid? false rest with
          | some ('\x7d' :: rest) => some ([entry], rest)
          | some (',' :: rest) =>
            (readEntries? fuel depth rest).map fun (entries, r) => (entry :: entries, r)
          | _ => none

end

def readStatement? (cs : List Char) : Option (Statement × List Char) :=
  match cs with
  | '[' :: '[' :: rest =>
    match readKey? (skipSpaces rest) with
    | some ((path, name), ']' :: ']' :: rest) =>
      (readLineEnd? rest).map (.tables path name, ·)
    | _ => none
  | '[' :: rest =>
    match readKey? (skipSpaces rest) with
    | some ((path, name), ']' :: rest) => (readLineEnd? rest).map (.table path name, ·)
    | _ => none
  | cs =>
    match readKey? cs with
    | some ((path, name), '=' :: rest) =>
      match readItem? (2 * rest.length + 2) maxDepth (skipSpaces rest) with
      | some (item, rest) => (readLineEnd? rest).map (.entry path name item, ·)
      | none => none
    | _ => none

def readStatements? : Nat → List Char → Option (List Statement)
  | 0, _ => none
  | fuel + 1, cs =>
    match skipVoid? false cs with
    | none => none
    | some [] => some []
    | some cs =>
      match readStatement? cs with
      | none => none
      | some (statement, rest) => (readStatements? fuel rest).map (statement :: ·)

def read? (text : String) : Option Item :=
  let cs :=
    match text.toList with
    | '\ufeff' :: cs => cs
    | cs => cs
  ((readStatements? (cs.length + 1) cs).bind rootOfStatements?).map (.table .header)

end SortPipeline.Toml
