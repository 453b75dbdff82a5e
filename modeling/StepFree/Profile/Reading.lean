import StepFree.Config.Reading
import StepFree.Json.Reader
import StepFree.Profile.Basic
import StepFree.Tables.Overrides

namespace StepFree

inductive FileContent where
  | missing
  | text (s : String)

def FileContent.datum : FileContent → Except Fault Datum
  | .missing => .error .missingFile
  | .text s =>
    match Json.read s with
    | .ok d => .ok d
    | .error .malformed => .error .badJson
    | .error (.oversized digits) => .error (.oversizedInteger digits)

def readPart {α β : Type} (usual : β) (read : α → Except Fault β) : Option α → Except Fault β
  | none => .ok usual
  | some a => read a

namespace Settings

def ofData (config? categories? vocabulary? : Option Datum) : Except Fault Settings := do
  let config ← readPart {} Config.read config?
  let categories ← readPart .standard Categories.standard.overriddenBy categories?
  let vocabulary ← readPart .standard Vocabulary.standard.overriddenBy vocabulary?
  return { config, categories, vocabulary }

end Settings

namespace Profile

def ofData (config? categories? vocabulary? : Option Datum) (answers : FixedAnswers) :
    Except Fault Profile := do
  let s ← Settings.ofData config? categories? vocabulary?
  return ⟨s, (Lookups.standard s.config).fix answers⟩

/-- A profile from a configuration file and a file of tier overrides. A file is read only after all
that comes before it has been accepted. -/
def ofFiles (config? categories? : Option FileContent) : Except Fault Profile := do
  let config ← readPart {} (fun f => f.datum >>= Config.read) config?
  let categories ←
    readPart .standard (fun f => f.datum >>= Categories.standard.overriddenBy) categories?
  return ofSettings { config, categories }

end Profile
end StepFree
