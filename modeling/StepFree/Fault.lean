import StepFree.Datum.Literal
import StepFree.Number.Numeral

/-! The causes of failure, and the wording of each in one place. Of what may be wrong with a configuration,
problems of single members come first, in the order of the fields, then members that are no field; only
when there are none of these are the bounds compared. -/
namespace StepFree

inductive MemberProblem where
  | notPositive
  | noFloat
  | malformedFloat
  | noInt
  | malformedInt
  | fractionalInt
  | unboundedInt
  | oversizedInt
  | noBool
  | malformedBool
  | unknownMember
  deriving DecidableEq, Repr

def MemberProblem.code : MemberProblem → String
  | .notPositive => "greater_than"
  | .noFloat => "float_type"
  | .malformedFloat => "float_parsing"
  | .noInt => "int_type"
  | .malformedInt => "int_parsing"
  | .fractionalInt => "int_from_float"
  | .unboundedInt => "finite_number"
  | .oversizedInt => "int_parsing_size"
  | .noBool => "bool_type"
  | .malformedBool => "bool_parsing"
  | .unknownMember => "extra_forbidden"

inductive ConfigProblem where
  | notObject
  | member (name : String) (problem : MemberProblem)
  | speedBounds
  | ferryBounds
  deriving DecidableEq, Repr

def ConfigProblem.text : ConfigProblem → String
  | .notObject => ": model_type"
  | .member name problem => name ++ ": " ++ problem.code
  | .speedBounds =>
    ": value_error: Value error, min_speed must be less than or equal to max_speed"
  | .ferryBounds =>
    ": value_error: Value error, ferry_min_speed must be less than or equal to ferry_max_speed"

inductive Fault where
  /-- Tags or overrides that are no mapping. -/
  | notMapping (found : String)
  /-- A collection was asked for and something without members was given. -/
  | notIterable (found : String)
  /-- A list, a set or a mapping was used as a key. -/
  | noKey (found : String)
  /-- A prefix of keys has to be a text. -/
  | noText (found : String)
  /-- Data of different sorts cannot be put in order. -/
  | unordered
  | notGraph (found : String)
  | nullNode
  | unknownCategories (table : String) (names : List Datum)
  | categoryNotList (name : String)
  | unknownVerdict (given : Datum)
  | excludedSpeed
  /-- The speed of a ferry trip, or a bound of it, that is too large for a double. -/
  | unboundedSpeed
  | badConfig (problems : List ConfigProblem)
  | badJson
  | oversizedInteger (digits : Nat)
  | missingFile

def Fault.message : Fault → String
  | .notMapping found => "Expected a mapping, got " ++ found
  | .notIterable found => "Expected a collection, got " ++ found
  | .noKey found => "Not usable as a key: " ++ found
  | .noText found => "Expected a text, got " ++ found
  | .unordered => "The names cannot be sorted"
  | .notGraph found => "Expected a networkx graph, got " ++ found
  | .nullNode => "None cannot be a node"
  | .unknownCategories table names =>
    "Unknown " ++ table ++ " categories: " ++ (Datum.list names).literal
  | .categoryNotList name => "Category '" ++ name ++ "' must be a list of strings"
  | .unknownVerdict given => given.literal ++ " is not a valid AccessVerdict"
  | .excludedSpeed => "Excluded ways have no speed"
  | .unboundedSpeed => "The speed is not finite"
  | .badConfig problems => "; ".intercalate (problems.map ConfigProblem.text)
  | .badJson => "The text is no JSON value"
  | .oversizedInteger digits =>
    "Exceeds the limit (" ++ toString Number.digitLimit ++
      " digits) for integer string conversion: value has " ++ toString digits ++
      " digits; use sys.set_int_max_str_digits() to increase the limit"
  | .missingFile => "The file does not exist"

/-- Whether a value is to blame that was given, and not its kind, a file or a computation. -/
def Fault.isBadValue : Fault → Bool
  | .nullNode | .unknownCategories .. | .categoryNotList _ | .unknownVerdict _ | .excludedSpeed => true
  | .badConfig _ | .badJson | .oversizedInteger _ => true
  | .notMapping _ | .notIterable _ | .noKey _ | .noText _ | .unordered | .notGraph _ => false
  | .unboundedSpeed | .missingFile => false

theorem exists_of_map_eq_ok {ε α β : Type} {x : Except ε α} {f : α → β} {b : β}
    (mapped : x.map f = .ok b) : ∃ a, x = .ok a ∧ f a = b := by
  cases x with
  | error _ => cases mapped
  | ok a => exact ⟨a, rfl, Except.ok.inj mapped⟩

theorem bind_eq_ok_iff {ε α β : Type} {x : Except ε α} {f : α → Except ε β} {b : β} :
    (x >>= f) = .ok b ↔ ∃ a, x = .ok a ∧ f a = .ok b := by
  cases x with
  | error f => exact iff_of_false (fun h => nomatch h) (fun ⟨_, h, _⟩ => nomatch h)
  | ok a => exact ⟨fun h => ⟨a, rfl, h⟩, fun ⟨_, same, h⟩ => Except.ok.inj same ▸ h⟩

end StepFree
