import StepFree.Number.Numeral
import StepFree.Tags.Basic
import StepFree.Text.Basic

/-! Declared speed limits in km/h. A limit is a numeral with or without a unit, or one of two words;
what cannot be read, and what is not positive and finite, counts as 0, which means unknown. -/
namespace StepFree.SpeedLimit

open StepFree.Text

def kmhPerMph : Float := 1.60934

def kmhPerKnot : Float := 1.852

def walkingSpeed : Float := 6.0

def unlimitedSpeed : Float := 140.0

def takeUnit (s : List Char) : Float × List Char :=
  if occurs "mph".toList s then (kmhPerMph, eraseWord "mph".toList s)
  else if occurs "knots".toList s then (kmhPerKnot, eraseWord "knots".toList s)
  else (1.0, s)

def dropKmh (s : List Char) : List Char :=
  eraseWord "kmh".toList (eraseWord "km/h".toList s)

def parseChars (s : List Char) : Float :=
  let s := trimBy isBlank (lower s)
  if s = "walk".toList then walkingSpeed
  else if s = "none".toList then unlimitedSpeed
  else
    let (factor, rest) := takeUnit s
    match Number.parse? (trimBy isBlank (dropKmh rest)) with
    | none => 0.0
    | some x =>
      let speed := x * factor
      if !speed.isFinite || speed ≤ 0.0 then 0.0 else speed

def parse (value? : Option String) : Float :=
  (value?.map fun s => parseChars s.toList).getD 0.0

def keys : List String := ["maxspeed", "maxspeed:forward", "maxspeed:backward"]

def least : List Float → Float
  | [] => 0.0
  | x :: r => r.foldl (fun m y => if y < m then y else m) x

def ofTags (t : Tags) : Float :=
  least ((keys.map fun k => parse (t.first? k)).filter (0.0 < ·))

theorem ofTags_congr {t u : Tags} (same : ∀ k ∈ keys, t.first? k = u.first? k) :
    ofTags t = ofTags u := by
  have parsed : (keys.map fun k => parse (t.first? k)) = keys.map fun k => parse (u.first? k) :=
    List.map_congr_left fun k read => by rw [same k read]
  rw [ofTags, ofTags, parsed]

end StepFree.SpeedLimit
