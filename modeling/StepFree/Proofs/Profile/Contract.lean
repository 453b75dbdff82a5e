import StepFree.Profile.Basic
import StepFree.Proofs.Way.SpeedBounds

namespace StepFree.Profile

open StepFree.Number

/-- What a result has to say of a way with certain tags and a certain bonus. -/
structure Contract (s : Settings) (t : Tags) (bonus : Int) (r : WayResult) : Prop where
  verdict : r.verdict = s.verdict t
  excluded : r.verdict = .excluded → r.speed? = none ∧ r.band? = none
  ferry : r.verdict = .ferry → r.band? = none ∧
    ∃ x, r.speed? = some (.measured x) ∧ (ofSettings s).speed t r.verdict = .ok (.measured x) ∧
      s.config.ferryMinSpeed ≤ x ∧ x ≤ s.config.ferryMaxSpeed
  routable : r.verdict = .routable →
    r.band? = some (.ofScore ((ofSettings s).signals t).score) ∧
    ∃ x, r.speed? = some (.measured x) ∧ (ofSettings s).speed t r.verdict = .ok (.measured x) ∧
      s.config.minSpeed ≤ x ∧ x ≤ s.config.maxSpeed
  relationBonus : r.relationBonus = bonus
  others : ∀ other, (ofSettings s).wayResult t other = .ok { r with relationBonus := other }

theorem wayResult_bonus (p : Profile) (t : Tags) (bonus other : Int) :
    p.wayResult t other =
      (p.wayResult t bonus).map fun r => { r with relationBonus := other } := by
  simp only [wayResult]
  cases (p.settings.decideAccess t).verdict with
  | excluded => rfl
  | ferry => cases p.speed t .ferry <;> rfl
  | routable => cases p.speed t .routable <;> rfl

theorem parts_of_result {p : Profile} {t : Tags} {bonus : Int} {r : WayResult}
    (returned : p.wayResult t bonus = .ok r) :
    r.access = p.settings.decideAccess t ∧ r.relationBonus = bonus ∧
      match r.verdict with
      | .excluded => r.speed? = none ∧ r.band? = none
      | .ferry => ∃ x, p.speed t .ferry = .ok x ∧ r.speed? = some x ∧ r.band? = none
      | .routable => ∃ x, p.speed t .routable = .ok x ∧ r.speed? = some x ∧
          r.band? = some (p.signals t).band := by
  simp only [wayResult] at returned
  cases verdict : (p.settings.decideAccess t).verdict with
  | excluded =>
    rw [verdict] at returned
    cases returned
    simp [WayResult.verdict, verdict]
  | ferry =>
    rw [verdict] at returned
    obtain ⟨x, speed, rfl⟩ := exists_of_map_eq_ok returned
    simp [WayResult.verdict, verdict, speed]
  | routable =>
    rw [verdict] at returned
    obtain ⟨x, speed, rfl⟩ := exists_of_map_eq_ok returned
    simp [WayResult.verdict, verdict, speed]

theorem missing_iff {p : Profile} {t : Tags} {bonus : Int} {r : WayResult}
    (returned : p.wayResult t bonus = .ok r) :
    (r.speed? = none ↔ r.verdict = .excluded) ∧ (r.band? = none ↔ r.verdict ≠ .routable) := by
  obtain ⟨_, _, parts⟩ := parts_of_result returned
  cases verdict : r.verdict with
  | excluded =>
    simp only [verdict] at parts
    simp [parts]
  | ferry =>
    simp only [verdict] at parts
    obtain ⟨x, _, speed, band⟩ := parts
    simp [speed, band]
  | routable =>
    simp only [verdict] at parts
    obtain ⟨x, _, speed, band⟩ := parts
    simp [speed, band]

variable {s : Settings} {t : Tags} {bonus : Int} {r : WayResult}

theorem ferrySpeed_within (sane : s.config.Sane) {x : Speed}
    (found : (ofSettings s).speed t .ferry = .ok x) :
    ∃ y, x = .measured y ∧ s.config.ferryBounds.Holds y := by
  have ordered : s.config.ferryBounds.low ≤ s.config.ferryBounds.high := sane.ferry_min_le_max
  change (FerrySpeed.ofTags s.config.ferryBounds t).map Speed.measured = .ok x at found
  obtain ⟨y, trip, rfl⟩ := exists_of_map_eq_ok found
  exact ⟨y, rfl, FerrySpeed.ofTags_within ordered trip⟩

theorem contract_of_result (sane : s.config.Sane)
    (returned : (ofSettings s).wayResult t bonus = .ok r) : Contract s t bonus r := by
  obtain ⟨access, relationBonus, parts⟩ := parts_of_result returned
  constructor
  case verdict => exact congrArg AccessDecision.verdict access
  case relationBonus => exact relationBonus
  case excluded =>
    intro verdict
    simpa only [verdict] using parts
  case ferry =>
    intro verdict
    simp only [verdict] at parts ⊢
    obtain ⟨x, found, speed, band⟩ := parts
    obtain ⟨y, rfl, low, high⟩ := ferrySpeed_within sane found
    exact ⟨band, y, speed, found, low, high⟩
  case routable =>
    intro verdict
    simp only [verdict] at parts ⊢
    obtain ⟨x, found, speed, band⟩ := parts
    cases found
    obtain ⟨low, high⟩ := Settings.waySpeed_within t sane
    exact ⟨band, s.waySpeed t, speed, rfl, low, high⟩
  case others =>
    intro other
    rw [wayResult_bonus _ _ bonus other, returned]
    rfl

/-- Under a sane configuration every result keeps the contract, whether the tags are given as they are
or as loose data. -/
theorem result_keeps_contract (s : Settings) (sane : s.config.Sane) (bonus : Int) (r : WayResult) :
    (∀ t, (ofSettings s).wayResult t bonus = .ok r → Contract s t bonus r) ∧
    ∀ d, (ofSettings s).wayResultOf d bonus = .ok r →
      ∃ t, Tags.ofDatum d = .ok t ∧ Contract s t bonus r := by
  refine ⟨fun t => contract_of_result sane, fun d returned => ?_⟩
  unfold wayResultOf at returned
  cases tags : Tags.ofDatum d with
  | error f =>
    rw [tags] at returned
    cases returned
  | ok t =>
    rw [tags] at returned
    exact ⟨t, rfl, contract_of_result sane returned⟩

def crawling : Settings := { config := { meanSpeed := Float.ofBits 1 } }

def cobbledFootway : Tags :=
  ⟨[("highway", ⟨"footway", ["path"]⟩), ("surface", ⟨"sett", []⟩)], by decide⟩

def looseFootway : Datum :=
  .dict [(.text "highway", .list [.text "footway", .text "path"]), (.text "surface", .text "sett")]

theorem crawling_sane : crawling.config.Sane :=
  ⟨by decide, by decide, by decide, by decide, by decide⟩

theorem ofDatum_looseFootway : Tags.ofDatum looseFootway = .ok cobbledFootway :=
  congrArg Except.ok (by decide +kernel)

theorem vanished_speed_keeps_contract :
    crawling.config.Sane ∧ crawling.unclampedSpeed cobbledFootway = 0.0 ∧
    ∃ r, (ofSettings crawling).wayResult cobbledFootway 5 = .ok r ∧
      (ofSettings crawling).wayResultOf looseFootway 5 = .ok r ∧
      r.speed? = some (.measured 1.0) ∧ Contract crawling cobbledFootway 5 r ∧
      ∃ t, Tags.ofDatum looseFootway = .ok t ∧ Contract crawling t 5 r := by
  refine ⟨crawling_sane, by decide +kernel, ?_⟩
  have verdict : (crawling.decideAccess cobbledFootway).verdict = .routable := by decide +kernel
  have returned : (ofSettings crawling).wayResult cobbledFootway 5 =
      .ok ⟨crawling.decideAccess cobbledFootway, some (.measured (crawling.waySpeed cobbledFootway)),
        some ((ofSettings crawling).signals cobbledFootway).band, 5⟩ := by
    simp only [wayResult]
    rw [show (ofSettings crawling).settings = crawling from rfl, verdict]
    rfl
  have loose : (ofSettings crawling).wayResultOf looseFootway 5 =
      (ofSettings crawling).wayResult cobbledFootway 5 := by
    rw [wayResultOf, ofDatum_looseFootway]
    rfl
  obtain ⟨kept, keptOf⟩ := result_keeps_contract crawling crawling_sane 5 _
  refine ⟨_, returned, loose.trans returned, ?_, kept _ returned, keptOf _ (loose.trans returned)⟩
  exact congrArg (some ∘ Speed.measured) (by decide +kernel)

end StepFree.Profile
