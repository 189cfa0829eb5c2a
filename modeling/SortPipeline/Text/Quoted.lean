import SortPipeline.Text.EscapeData

namespace SortPipeline.Text

def hexText (n : Nat) : List Char := Nat.toDigits 16 n

def visible (c : Char) : List Char :=
  match c with
  | '\x00' => ['\\', '0']
  | '\t' => ['\\', 't']
  | '\n' => ['\\', 'n']
  | '\r' => ['\\', 'r']
  | '"' => ['\\', '"']
  | '\\' => ['\\', '\\']
  | c =>
    if invisible.contains c then ['\\', 'u', '\x7b'] ++ hexText c.toNat ++ ['\x7d'] else [c]

def quoted (text : String) : String :=
  "\"" ++ String.ofList (text.toList.flatMap visible) ++ "\""

end SortPipeline.Text
