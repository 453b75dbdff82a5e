import StepFree.Profile.Basic
import StepFree.Proofs.Number.Infinity

namespace StepFree

open StepFree.Number

namespace FerrySpeed

/-- The trip has a duration and a distance, and no double holds its speed. -/
def Overflows (t : Tags) : Prop :=
  0.0 < hours t ∧ 0.0 < metres t ∧ tripSpeed (hours t) (metres t) = infinity

theorem usable_unrounded_iff (hours metres : Float) :
    (isUsable hours metres = true ∧ nearestInt? (tripSpeed hours metres) = none) ↔
      0.0 < hours ∧ 0.0 < metres ∧ tripSpeed hours metres = infinity := by
  simp only [isUsable, Bool.and_eq_true, decide_eq_true_eq, and_assoc, unrounded_iff]

theorem ofTrip_error_iff (bounds : Bounds) (hours metres : Float) (f : Fault) :
    ofTrip bounds hours metres = .error f ↔
      f = .unboundedSpeed ∧ isUsable hours metres = true ∧
        nearestInt? (tripSpeed hours metres) = none := by
  unfold ofTrip
  by_cases usable : isUsable hours metres = true
  · rw [if_pos usable]
    cases nearestInt? (tripSpeed hours metres) with
    | none => simp [usable, eq_comm]
    | some n => simp
  · simp [usable]

theorem ofTags_error_iff (bounds : Bounds) (t : Tags) (f : Fault) :
    ofTags bounds t = .error f ↔ f = .unboundedSpeed ∧ Overflows t := by
  rw [ofTags, ofTrip_error_iff, usable_unrounded_iff, Overflows]

end FerrySpeed

namespace Profile

variable (s : Settings) (t : Tags) (bonus : Int)

theorem ferrySpeed_error_iff (f : Fault) :
    (ofSettings s).speed t .ferry = .error f ↔ f = .unboundedSpeed ∧ FerrySpeed.Overflows t := by
  rw [← FerrySpeed.ofTags_error_iff s.config.ferryBounds t f]
  change (FerrySpeed.ofTags s.config.ferryBounds t).map Speed.measured = .error f ↔ _
  cases FerrySpeed.ofTags s.config.ferryBounds t <;> simp [Except.map]

theorem wayResult_error_iff (f : Fault) :
    (ofSettings s).wayResult t bonus = .error f ↔
      f = .unboundedSpeed ∧ s.verdict t = .ferry ∧ FerrySpeed.Overflows t := by
  rw [show s.verdict t = (s.decideAccess t).verdict from rfl]
  simp only [wayResult]
  rw [show (ofSettings s).settings = s from rfl]
  cases (s.decideAccess t).verdict with
  | excluded => simp
  | ferry =>
    have h := ferrySpeed_error_iff s t f
    cases speed : (ofSettings s).speed t .ferry with
    | error g => simpa [Except.map, speed] using h
    | ok x => simpa [Except.map, speed] using h
  | routable => simp [speed, Settings.speedFor, Except.map]

theorem wayResult_ok (fine : ¬ (s.verdict t = .ferry ∧ FerrySpeed.Overflows t)) :
    ∃ r, (ofSettings s).wayResult t bonus = .ok r := by
  cases result : (ofSettings s).wayResult t bonus with
  | ok r => exact ⟨r, rfl⟩
  | error f => exact absurd ((wayResult_error_iff s t bonus f).mp result).2 fine

theorem wayResultOf_dict (p : Profile) (entries : List (Datum × Datum)) :
    p.wayResultOf (.dict entries) bonus = p.wayResult (.ofEntries entries) bonus :=
  rfl

/-- A mapping of tags is classified as a way unless it is a ferry with an infinite speed, and as a node
or a relation in any case. -/
theorem classified_unless_overflow (entries : List (Datum × Datum)) :
    ((∃ r, (ofSettings s).wayResultOf (.dict entries) bonus = .ok r) ↔
      ¬ (s.verdict (.ofEntries entries) = .ferry ∧ FerrySpeed.Overflows (.ofEntries entries))) ∧
    (∀ f, (ofSettings s).wayResultOf (.dict entries) bonus = .error f → f = .unboundedSpeed) ∧
    (∃ n, (ofSettings s).nodeDecisionOf (.dict entries) = .ok n) ∧
    (∃ b, (ofSettings s).relationBonusOf (.dict entries) = .ok b) := by
  rw [wayResultOf_dict]
  refine ⟨⟨?_, wayResult_ok s _ bonus⟩, ?_, ⟨_, rfl⟩, ⟨_, rfl⟩⟩
  · rintro ⟨r, result⟩ overflow
    have fault := (wayResult_error_iff s _ bonus .unboundedSpeed).mpr ⟨rfl, overflow⟩
    rw [result] at fault
    cases fault
  · intro f fault
    exact ((wayResult_error_iff s _ bonus f).mp fault).1

def boundlessFerry : List (Datum × Datum) := [
  (.text "route", .text "ferry"), (.text "duration:seconds", .text "1e-300"),
  (.text "estimated_distance", .text "1e300")]

theorem boundlessFerry_overflows :
    (ofSettings {}).wayResultOf (.dict boundlessFerry) 0 = .error .unboundedSpeed := by
  rw [wayResultOf_dict, wayResult_error_iff]
  refine ⟨rfl, ?_, ?_, ?_, ?_⟩
  · decide +kernel
  · decide +kernel
  · decide +kernel
  · decide +kernel

end Profile
end StepFree
