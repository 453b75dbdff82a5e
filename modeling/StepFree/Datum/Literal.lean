import StepFree.Datum.Basic
import StepFree.Number.Style
import StepFree.Text.Quoted

namespace StepFree.Datum

open StepFree.Text

def bracketed (opening closing : String) (members : List String) : String :=
  opening ++ ", ".intercalate members ++ closing

mutual

def literal : Datum → String
  | .null => "None"
  | .bool b => if b then "True" else "False"
  | .int n => toString n
  | .float x => Number.text x
  | .text s => quoted s
  | .list items => bracketed "[" "]" (literals items)
  | .tuple items =>
    match literals items with
    | [only] => "(" ++ only ++ ",)"
    | members => bracketed "(" ")" members
  | .set items =>
    match literals items with
    | [] => "set()"
    | members => bracketed "\x7b" "\x7d" members
  | .dict entries => bracketed "\x7b" "\x7d" (entryLiterals entries)

def literals : List Datum → List String
  | [] => []
  | d :: r => d.literal :: literals r

def entryLiterals : List (Datum × Datum) → List String
  | [] => []
  | (k, v) :: r => (k.literal ++ ": " ++ v.literal) :: entryLiterals r

end

def plain (d : Datum) : String :=
  match d with
  | .text s => s
  | d => d.literal

end StepFree.Datum
