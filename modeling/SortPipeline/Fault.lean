namespace SortPipeline

inductive Fault
  | missing (field : String)
  | duplicate (field : String)
  | malformed
  deriving DecidableEq

def Fault.message : Fault → String
  | .missing field => "missing field `" ++ field ++ "`"
  | .duplicate field => "duplicate field `" ++ field ++ "`"
  | .malformed => "malformed"

def Fault.orMalformed {α : Type u} : Option α → Except Fault α
  | some a => .ok a
  | none => .error .malformed

end SortPipeline
