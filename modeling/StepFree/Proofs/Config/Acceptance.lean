import StepFree.Config.Reading
import StepFree.Proofs.Way.SpeedBounds

namespace StepFree

open StepFree.Number

namespace Member

theorem positiveFloat_eq_ok_iff {d : Datum} {x : Float} :
    positiveFloat d = .ok x ↔ float d = .ok x ∧ 0.0 < x := by
  rw [positiveFloat, bind_eq_ok_iff]
  constructor
  · rintro ⟨y, number, kept⟩
    split at kept
    · rename_i positive
      cases kept
      exact ⟨number, positive⟩
    · cases kept
  · rintro ⟨number, positive⟩
    exact ⟨x, number, if_pos positive⟩

end Member

theorem mapError_eq_ok_iff {ε ε' α : Type} {x : Except ε α} {f : ε → ε'} {a : α} :
    x.mapError f = .ok a ↔ x = .ok a := by
  cases x with
  | error _ => exact iff_of_false (fun h => nomatch h) (fun h => nomatch h)
  | ok b =>
    change Except.ok b = Except.ok a ↔ _
    rw [Except.ok.injEq, Except.ok.injEq]

namespace Config

namespace Field

variable {α : Type} {f : Field α}

theorem result_of_no_problems (none : f.problems = []) (usual : α) :
    f.result = .ok (f.value usual) := by
  unfold problems at none
  unfold value
  cases read : f.result with
  | ok a => rfl
  | error p =>
    rw [read] at none
    cases none

theorem problems_of_result {a : α} (read : f.result = .ok a) : f.problems = [] := by
  rw [problems, read]

theorem value_of_result {a : α} (read : f.result = .ok a) (usual : α) : f.value usual = a := by
  rw [value, read]
  rfl

end Field

variable {entries : List (Datum × Datum)} {c : Config}

/-- What a configuration has is what its fields are read as. No other member is there, and the bounds are
in order. -/
structure ReadFrom (entries : List (Datum × Datum)) (c : Config) : Prop where
  blockFords :
    (field entries "block_fords" ({} : Config).blockFords Member.bool).result = .ok c.blockFords
  blockPotentialBarriers :
    (field entries "block_potential_barriers" ({} : Config).blockPotentialBarriers
      Member.bool).result = .ok c.blockPotentialBarriers
  meanSpeed :
    (field entries "mean_speed" ({} : Config).meanSpeed Member.positiveFloat).result =
      .ok c.meanSpeed
  minSpeed :
    (field entries "min_speed" ({} : Config).minSpeed Member.positiveFloat).result = .ok c.minSpeed
  maxSpeed :
    (field entries "max_speed" ({} : Config).maxSpeed Member.positiveFloat).result = .ok c.maxSpeed
  ferryMinSpeed :
    (field entries "ferry_min_speed" ({} : Config).ferryMinSpeed Member.positiveFloat).result =
      .ok c.ferryMinSpeed
  ferryMaxSpeed :
    (field entries "ferry_max_speed" ({} : Config).ferryMaxSpeed Member.positiveFloat).result =
      .ok c.ferryMaxSpeed
  preferredRouteBonus :
    (field entries "preferred_route_bonus" ({} : Config).preferredRouteBonus Member.int).result =
      .ok c.preferredRouteBonus
  ferryRouteBonus :
    (field entries "ferry_route_bonus" ({} : Config).ferryRouteBonus Member.int).result =
      .ok c.ferryRouteBonus
  logSkippedWays :
    (field entries "log_skipped_ways" ({} : Config).logSkippedWays Member.bool).result =
      .ok c.logSkippedWays
  known : unknownMembers entries = []
  bounded : c.boundProblem? = none

theorem readFrom_of_accepted (accepted : ofEntries entries = .ok c) : ReadFrom entries c := by
  simp only [ofEntries] at accepted
  split at accepted
  · rename_i none
    split at accepted
    · rename_i bounded
      cases accepted
      simp only [List.append_eq_nil_iff, and_assoc] at none
      obtain ⟨fords, barriers, mean, min, max, ferryMin, ferryMax, preferred, ferry, log, known⟩ :=
        none
      exact {
        blockFords := Field.result_of_no_problems fords _
        blockPotentialBarriers := Field.result_of_no_problems barriers _
        meanSpeed := Field.result_of_no_problems mean _
        minSpeed := Field.result_of_no_problems min _
        maxSpeed := Field.result_of_no_problems max _
        ferryMinSpeed := Field.result_of_no_problems ferryMin _
        ferryMaxSpeed := Field.result_of_no_problems ferryMax _
        preferredRouteBonus := Field.result_of_no_problems preferred _
        ferryRouteBonus := Field.result_of_no_problems ferry _
        logSkippedWays := Field.result_of_no_problems log _
        known, bounded }
    · cases accepted
  · cases accepted

theorem accepted_of_readFrom (read : ReadFrom entries c) : ofEntries entries = .ok c := by
  have problems {α : Type} {f : Field α} {a : α} (h : f.result = .ok a) := Field.problems_of_result h
  have value {α : Type} {f : Field α} {a : α} (h : f.result = .ok a) := Field.value_of_result h
  simp only [ofEntries, List.append_nil, problems read.blockFords,
    problems read.blockPotentialBarriers, problems read.meanSpeed, problems read.minSpeed,
    problems read.maxSpeed, problems read.ferryMinSpeed, problems read.ferryMaxSpeed,
    problems read.preferredRouteBonus, problems read.ferryRouteBonus, problems read.logSkippedWays,
    value read.blockFords, value read.blockPotentialBarriers, value read.meanSpeed,
    value read.minSpeed, value read.maxSpeed, value read.ferryMinSpeed, value read.ferryMaxSpeed,
    value read.preferredRouteBonus, value read.ferryRouteBonus, value read.logSkippedWays,
    read.known, read.bounded]

theorem read_eq_ok_iff {d : Datum} :
    read d = .ok c ↔ ∃ entries, d = .dict entries ∧ ReadFrom entries c := by
  cases d with
  | dict entries =>
    rw [read, mapError_eq_ok_iff]
    constructor
    · intro accepted
      exact ⟨entries, rfl, readFrom_of_accepted accepted⟩
    · rintro ⟨_, same, members⟩
      cases same
      exact accepted_of_readFrom members
  | _ => exact iff_of_false (fun h => nomatch h) (fun ⟨_, h, _⟩ => nomatch h)

theorem boundProblem?_eq_none_iff :
    c.boundProblem? = none ↔ ¬ c.maxSpeed < c.minSpeed ∧ ¬ c.ferryMaxSpeed < c.ferryMinSpeed := by
  unfold boundProblem?
  by_cases speeds : c.maxSpeed < c.minSpeed
  · simp [speeds]
  · by_cases ferries : c.ferryMaxSpeed < c.ferryMinSpeed <;> simp [speeds, ferries]

theorem positive_of_field {name : String} {usual x : Float} (positive : 0.0 < usual)
    (read : (field entries name usual Member.positiveFloat).result = .ok x) : 0.0 < x := by
  unfold field at read
  cases given : member? entries name with
  | none =>
    rw [given] at read
    cases read
    exact positive
  | some d =>
    rw [given] at read
    exact (Member.positiveFloat_eq_ok_iff.mp read).2

theorem sane_of_readFrom (members : ReadFrom entries c) : c.Sane := by
  have minSpeed := positive_of_field (by decide) members.minSpeed
  have maxSpeed := positive_of_field (by decide) members.maxSpeed
  have ferryMinSpeed := positive_of_field (by decide) members.ferryMinSpeed
  have ferryMaxSpeed := positive_of_field (by decide) members.ferryMaxSpeed
  obtain ⟨speeds, ferries⟩ := boundProblem?_eq_none_iff.mp members.bounded
  exact {
    mean_positive := positive_of_field (by decide) members.meanSpeed
    min_positive := minSpeed
    min_le_max := le_of_not_lt (isNaN_of_lt maxSpeed).2 (isNaN_of_lt minSpeed).2 speeds
    ferry_min_positive := ferryMinSpeed
    ferry_min_le_max :=
      le_of_not_lt (isNaN_of_lt ferryMaxSpeed).2 (isNaN_of_lt ferryMinSpeed).2 ferries }

theorem positiveFloat_of_positive {x : Float} (positive : 0.0 < x) :
    Member.positiveFloat (.float x) = .ok x :=
  Member.positiveFloat_eq_ok_iff.mpr ⟨rfl, positive⟩

theorem read_toDatum (sane : c.Sane) : read c.toDatum = .ok c := by
  refine read_eq_ok_iff.mpr ⟨_, rfl, ?_⟩
  exact {
    blockFords := rfl
    blockPotentialBarriers := rfl
    meanSpeed := positiveFloat_of_positive sane.mean_positive
    minSpeed := positiveFloat_of_positive sane.min_positive
    maxSpeed := positiveFloat_of_positive (positive_of_le sane.min_positive sane.min_le_max)
    ferryMinSpeed := positiveFloat_of_positive sane.ferry_min_positive
    ferryMaxSpeed :=
      positiveFloat_of_positive (positive_of_le sane.ferry_min_positive sane.ferry_min_le_max)
    preferredRouteBonus := rfl
    ferryRouteBonus := rfl
    logSkippedWays := rfl
    known := rfl
    bounded := boundProblem?_eq_none_iff.mpr
      ⟨not_lt_of_le sane.min_le_max, not_lt_of_le sane.ferry_min_le_max⟩ }

def speeds (c : Config) : List Float :=
  [c.meanSpeed, c.minSpeed, c.maxSpeed, c.ferryMinSpeed, c.ferryMaxSpeed]

theorem isNaN_of_mem_speeds (sane : c.Sane) : ∀ x ∈ c.speeds, x.isNaN = false := by
  obtain ⟨min, max⟩ := isNaN_of_le sane.min_le_max
  obtain ⟨ferryMin, ferryMax⟩ := isNaN_of_le sane.ferry_min_le_max
  simp only [speeds, List.forall_mem_cons]
  exact ⟨(isNaN_of_lt sane.mean_positive).2, min, max, ferryMin, ferryMax, List.forall_mem_nil _⟩

/-- Whatever is accepted as a configuration is sane: each speed is a number, and a number that is kept
within bounds comes to lie between them. Nothing sane is left out. -/
theorem accepted_is_sane :
    (∀ d c, read d = .ok c → c.Sane ∧ (∀ x ∈ c.speeds, x.isNaN = false) ∧
      ∀ x, x.isNaN = false → c.speedBounds.Holds (c.speedBounds.clamp x) ∧
        c.ferryBounds.Holds (c.ferryBounds.clamp x)) ∧
    ∀ c, c.Sane → read c.toDatum = .ok c := by
  refine ⟨fun d c accepted => ?_, fun c sane => read_toDatum sane⟩
  obtain ⟨_, _, members⟩ := read_eq_ok_iff.mp accepted
  have sane := sane_of_readFrom members
  refine ⟨sane, isNaN_of_mem_speeds sane, fun x number => ?_⟩
  exact ⟨Bounds.holds_clamp sane.min_le_max number, Bounds.holds_clamp sane.ferry_min_le_max number⟩

example : read (.dict [(.text "min_speed", .float (0.0 / 0.0))]) =
    .error (.badConfig [.member "min_speed" .notPositive]) :=
  rfl

def looseSpeeds : Datum := .dict [
  (.text "mean_speed", .text " 2.5e0 "), (.text "min_speed", .bool true),
  (.text "max_speed", .float (1.0 / 0.0)), (.text "ferry_min_speed", .int 2),
  (.text "ferry_max_speed", .text "2_0")]

def boundlessSpeeds : Config :=
  { meanSpeed := 2.5, maxSpeed := 1.0 / 0.0, ferryMinSpeed := 2.0, ferryMaxSpeed := 20.0 }

theorem boundlessSpeeds_accepted :
    read looseSpeeds = .ok boundlessSpeeds ∧ boundlessSpeeds.Sane ∧
      (∀ x ∈ boundlessSpeeds.speeds, x.isNaN = false) ∧
      boundlessSpeeds.speedBounds.Holds (boundlessSpeeds.speedBounds.clamp 0.25) ∧
      read boundlessSpeeds.toDatum = .ok boundlessSpeeds := by
  have accepted : read looseSpeeds = .ok boundlessSpeeds := rfl
  obtain ⟨sane, numbers, within⟩ := accepted_is_sane.1 _ _ accepted
  exact ⟨accepted, sane, numbers, (within 0.25 (by decide)).1, accepted_is_sane.2 _ sane⟩

end Config
end StepFree
