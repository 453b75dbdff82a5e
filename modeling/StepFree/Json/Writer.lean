import StepFree.Datum.Literal

namespace StepFree.Json

open StepFree.Text

def escapeChar (c : Char) : List Char :=
  if c = '\x22' || c = '\\' then ['\\', c]
  else if c.toNat < 0x20 then '\\' :: 'u' :: hexDigits 4 c.toNat
  else [c]

def quoted (s : String) : String :=
  String.ofList ('\x22' :: s.toList.flatMap escapeChar ++ ['\x22'])

mutual

def write : Datum → String
  | .null => "null"
  | .bool b => if b then "true" else "false"
  | .int n => toString n
  | .float x => Number.text x
  | .text s => quoted s
  | .list items | .tuple items | .set items => "[" ++ ", ".intercalate (writeItems items) ++ "]"
  | .dict entries => "\x7b" ++ ", ".intercalate (writeMembers entries) ++ "\x7d"

def writeItems : List Datum → List String
  | [] => []
  | d :: r => write d :: writeItems r

def writeMembers : List (Datum × Datum) → List String
  | [] => []
  | (k, v) :: r => (quoted k.plain ++ ": " ++ write v) :: writeMembers r

end

end StepFree.Json
