import SortPipeline.Text.CaseData

/-! Lower case. Every character has a mapping of its own; only a capital sigma looks around, for
it is written in another form at the end of a word. -/

namespace SortPipeline.Text

def lowerChar (c : Char) : List Char :=
  if c = '\u0130' then ['i', '\u0307']
  else
    let n := c.toNat
    match lowerRuns.find? fun r => r.first ≤ n && n ≤ r.last && (n - r.first) % r.step == 0 with
    | some r => [Char.ofNat (n + r.shift).toNat]
    | none => [c]

/-- Whether a cased character comes first behind those that do not matter for case. -/
def casedAhead (cs : List Char) : Bool :=
  match (cs.dropWhile caseIgnorable.contains).head? with
  | some c => cased.contains c
  | none => false

def lowerFrom (before : List Char) : List Char → List Char
  | [] => []
  | c :: rest =>
    let lowered :=
      if c = '\u03A3' then [if casedAhead before && !casedAhead rest then '\u03C2' else '\u03C3']
      else lowerChar c
    lowered ++ lowerFrom (c :: before) rest

def lowercase (text : String) : String := String.ofList (lowerFrom [] text.toList)

end SortPipeline.Text
