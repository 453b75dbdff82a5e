import StepFree.Profile.Basic
import StepFree.Proofs.Number.Scaling
import StepFree.Proofs.Tags.Adding
import StepFree.Proofs.Way.SpeedBounds

namespace StepFree

open StepFree.Number

/-- Whether one run of factors slows down at least as much as another: besides those that both have
it has only factors of at most one, and lacks only factors of at least one. -/
inductive Slower : List Float → List Float → Prop
  | nil : Slower [] []
  | keep {c : Float} {l r : List Float} (scale : Scale c) (rest : Slower l r) :
      Slower (c :: l) (c :: r)
  | slowed {c : Float} {l r : List Float} (scale : Scale c) (factor : c ≤ 1.0)
      (rest : Slower l r) : Slower (c :: l) r
  | quickened {c : Float} {l r : List Float} (scale : Scale c) (factor : 1.0 ≤ c)
      (rest : Slower l r) : Slower l (c :: r)

namespace Slower

variable {l r l' r' : List Float}

theorem refl (scales : ∀ c ∈ l, Scale c) : Slower l l := by
  induction l with
  | nil => exact .nil
  | cons c l ih =>
    obtain ⟨scale, rest⟩ := List.forall_mem_cons.mp scales
    exact .keep scale (ih rest)

theorem append (first : Slower l r) (second : Slower l' r') : Slower (l ++ l') (r ++ r') := by
  induction first with
  | nil => exact second
  | keep scale _ ih => exact .keep scale ih
  | slowed scale factor _ ih => exact .slowed scale factor ih
  | quickened scale factor _ ih => exact .quickened scale factor ih

theorem scaled (slower : Slower l r) {x y : Float} (magnitude : Magnitude x)
    (other : Magnitude y) (le : x ≤ y) :
    Magnitude (l.foldl (· * ·) x) ∧ Magnitude (r.foldl (· * ·) y) ∧
      l.foldl (· * ·) x ≤ r.foldl (· * ·) y := by
  -- Both numbers stay magnitudes, and the first stays behind the second.
  induction slower generalizing x y with
  | nil => exact ⟨magnitude, other, le⟩
  | keep scale _ ih =>
    exact ih (magnitude_mul magnitude scale) (magnitude_mul other scale)
      (scale_mono magnitude other scale scale le scale.magnitude.le_self)
  | slowed scale factor _ ih =>
    exact ih (magnitude_mul magnitude scale) other (scale_le magnitude other scale le factor)
  | quickened scale factor _ ih =>
    exact ih magnitude (magnitude_mul other scale) (le_scale magnitude other scale le factor)

theorem slowed_if {c : Float} {b b' : Bool} (scale : Scale c) (factor : c ≤ 1.0)
    (met : b' = true → b = true) :
    Slower (if b then [c] else []) (if b' then [c] else []) := by
  cases b with
  | true =>
    cases b' with
    | true => exact .keep scale .nil
    | false => exact .slowed scale factor .nil
  | false =>
    cases b' with
    | true => cases met rfl
    | false => exact .nil

theorem quickened_if {c : Float} {b b' : Bool} (scale : Scale c) (factor : 1.0 ≤ c)
    (met : b = true → b' = true) :
    Slower (if b then [c] else []) (if b' then [c] else []) := by
  cases b' with
  | true =>
    cases b with
    | true => exact .keep scale .nil
    | false => exact .quickened scale factor .nil
  | false =>
    cases b with
    | true => cases met rfl
    | false => exact .nil

end Slower

namespace Settings

theorem possibleFactors_scale : ∀ c ∈ possibleFactors, Scale c := by
  decide

def conditionKeys : List String :=
  ["sidewalk", "surface", "smoothness", "tracktype"]

/-- Whether tags speak at least as well of the sidewalk and the surface as others do, and say the
same on all else. -/
structure Smoother (s : Settings) (t u : Tags) : Prop where
  others : ∀ k, k ∉ conditionKeys → t.SameValues u k
  sidewalk : s.usableSidewalk t = true → s.usableSidewalk u = true
  problematic : s.problematic u = true → s.problematic t = true
  preferred : s.preferred t = true → s.preferred u = true

namespace Smoother

variable {s : Settings} {t u : Tags} (smoother : s.Smoother t u)

include smoother

theorem highwayIn (k : Tier) : s.highwayIn t k = s.highwayIn u k :=
  (smoother.others "highway" (by decide)).carriesAny _

theorem assumedFactors : Slower (s.assumedFactors t) (s.assumedFactors u) := by
  refine Slower.slowed_if (by decide) (by decide) fun missed => ?_
  rw [Bool.and_eq_true, Bool.not_eq_true'] at missed ⊢
  refine ⟨smoother.highwayIn _ ▸ missed.1, Bool.eq_false_iff.mpr fun usable => ?_⟩
  exact Bool.eq_false_iff.mp missed.2 (smoother.sidewalk usable)

theorem footCrossing : footCrossing t = footCrossing u := by
  unfold Settings.footCrossing
  rw [(smoother.others "footway" (by decide)).carries,
    (smoother.others "highway" (by decide)).carries]

theorem accessibleFactors : Slower (s.accessibleFactors t) (s.accessibleFactors u) := by
  unfold Settings.accessibleFactors
  rw [smoother.highwayIn, smoother.highwayIn, smoother.footCrossing]
  split
  · split
    · -- Where pedestrians rule, no sidewalk is asked for.
      exact .keep (by decide) (Slower.quickened_if (by decide) (by decide) id)
    · cases usable : s.usableSidewalk t with
      | true =>
        rw [smoother.sidewalk usable]
        exact .nil
      | false =>
        have missed : Scale 0.9 := by decide
        cases s.usableSidewalk u with
        | true => exact .slowed missed (by decide) .nil
        | false => exact .keep missed .nil
  · exact .nil

theorem restrictedFactors : s.restrictedFactors t = s.restrictedFactors u := by
  unfold Settings.restrictedFactors Settings.restrictedCrossing Settings.intended
  rw [smoother.highwayIn, (smoother.others "foot" (by decide)).carriesAny,
    (smoother.others "wheelchair" (by decide)).carriesAny,
    (smoother.others "cycleway" (by decide)).carries,
    (smoother.others "bridleway" (by decide)).carries,
    (smoother.others "highway" (by decide)).carries]

theorem speedFactors : Slower (s.speedFactors t) (s.speedFactors u) := by
  have restricted : Slower (s.restrictedFactors t) (s.restrictedFactors u) := by
    rw [smoother.restrictedFactors]
    exact Slower.refl fun c known => possibleFactors_scale c (s.restrictedFactors_subset u known)
  have surface : Slower (s.surfaceFactors t) (s.surfaceFactors u) :=
    (Slower.slowed_if (by decide) (by decide) smoother.problematic).append
      (Slower.quickened_if (by decide) (by decide) smoother.preferred)
  exact ((smoother.assumedFactors.append smoother.accessibleFactors).append restricted).append
    surface

theorem waySpeed (mean : 0.0 < s.config.meanSpeed) (least : 0.0 < s.config.minSpeed)
    (ordered : s.config.minSpeed ≤ s.config.maxSpeed) : s.waySpeed t ≤ s.waySpeed u := by
  have start := magnitude_of_positive mean
  obtain ⟨_, _, le⟩ := smoother.speedFactors.scaled start start start.le_self
  exact Bounds.clamp_mono (isNaN_of_lt least).2 (isNaN_of_le ordered).2 le

end Smoother

variable (s : Settings) (t : Tags) {key value : String}

theorem problematic_eq_true : s.problematic t = true ↔
    t.Shows "surface" (s.categories.tier .problematicSurfaces) ∨
      t.Shows "smoothness" (s.categories.tier .problematicSmoothnesses) ∨
      t.Shows "tracktype" (s.categories.tier .problematicTracktypes) := by
  simp only [problematic, Bool.or_eq_true, Tags.carriesAny_eq_true, or_assoc]

theorem preferred_eq_true : s.preferred t = true ↔
    t.Shows "surface" (s.categories.tier .preferredSurfaces) ∨
      t.Shows "smoothness" (s.categories.tier .preferredSmoothnesses) := by
  simp only [preferred, Bool.or_eq_true, Tags.carriesAny_eq_true]

variable {s t}

theorem problematic_add (problematic : s.problematic t = true) :
    s.problematic (t.add key value) = true := by
  rw [problematic_eq_true] at problematic ⊢
  exact problematic.imp (·.add key value) (·.imp (·.add key value) (·.add key value))

theorem preferred_add (preferred : s.preferred t = true) :
    s.preferred (t.add key value) = true := by
  rw [preferred_eq_true] at preferred ⊢
  exact preferred.imp (·.add key value) (·.add key value)

theorem ne_of_condition {k : String} (condition : key ∈ conditionKeys)
    (other : k ∉ conditionKeys) : k ≠ key :=
  fun here => other (here ▸ condition)

theorem smoother_add (condition : key ∈ conditionKeys)
    (surface : key = "surface" → value ∉ s.categories.tier .problematicSurfaces)
    (smoothness : key = "smoothness" → value ∉ s.categories.tier .problematicSmoothnesses)
    (tracktype : key = "tracktype" → value ∉ s.categories.tier .problematicTracktypes) :
    s.Smoother t (t.add key value) where
  others k other := fun v => (t.sameValues_add value (ne_of_condition condition other) v).symm
  sidewalk := Tags.carriesAny_mono (t.values_subset_add key value _)
  problematic found := by
    rw [problematic_eq_true] at found ⊢
    refine found.imp (·.of_add fun here => surface here.symm) (Or.imp ?_ ?_)
    · exact (·.of_add fun here => smoothness here.symm)
    · exact (·.of_add fun here => tracktype here.symm)
  preferred := preferred_add

theorem smoother_of_add (condition : key ∈ conditionKeys)
    (sidewalk : key = "sidewalk" → value ∉ s.vocabulary.usableSidewalk)
    (surface : key = "surface" → value ∉ s.categories.tier .preferredSurfaces)
    (smoothness : key = "smoothness" → value ∉ s.categories.tier .preferredSmoothnesses) :
    s.Smoother (t.add key value) t where
  others k other := t.sameValues_add value (ne_of_condition condition other)
  sidewalk usable := by
    rw [usableSidewalk, Tags.carriesAny_eq_true] at usable ⊢
    exact usable.of_add fun here => sidewalk here.symm
  problematic := problematic_add
  preferred found := by
    rw [preferred_eq_true] at found ⊢
    exact found.imp (·.of_add fun here => surface here.symm)
      (·.of_add fun here => smoothness here.symm)

variable (s)

/-- Whether a value of a key speaks for an easy ride: of a usable sidewalk, or of a surface that is
preferred and not at the same time problematic. -/
def Eases (key value : String) : Prop :=
  (key = "sidewalk" ∧ value ∈ s.vocabulary.usableSidewalk) ∨
    (key = "surface" ∧ value ∈ s.categories.tier .preferredSurfaces ∧
      value ∉ s.categories.tier .problematicSurfaces) ∨
    (key = "smoothness" ∧ value ∈ s.categories.tier .preferredSmoothnesses ∧
      value ∉ s.categories.tier .problematicSmoothnesses)

/-- Whether a value of a key speaks of a problematic surface that is not at the same time preferred.
No track type is preferred. -/
def Hampers (key value : String) : Prop :=
  (key = "surface" ∧ value ∈ s.categories.tier .problematicSurfaces ∧
      value ∉ s.categories.tier .preferredSurfaces) ∨
    (key = "smoothness" ∧ value ∈ s.categories.tier .problematicSmoothnesses ∧
      value ∉ s.categories.tier .preferredSmoothnesses) ∨
    (key = "tracktype" ∧ value ∈ s.categories.tier .problematicTracktypes)

variable {s}

theorem Eases.smoother (eases : s.Eases key value) : s.Smoother t (t.add key value) := by
  rcases eases with ⟨rfl, _⟩ | ⟨rfl, _, fine⟩ | ⟨rfl, _, fine⟩
  · exact smoother_add (by decide) (absurd · (by decide)) (absurd · (by decide))
      (absurd · (by decide))
  · exact smoother_add (by decide) (fun _ => fine) (absurd · (by decide)) (absurd · (by decide))
  · exact smoother_add (by decide) (absurd · (by decide)) (fun _ => fine) (absurd · (by decide))

theorem Hampers.smoother (hampers : s.Hampers key value) : s.Smoother (t.add key value) t := by
  rcases hampers with ⟨rfl, _, plain⟩ | ⟨rfl, _, plain⟩ | ⟨rfl, _⟩
  · exact smoother_of_add (by decide) (absurd · (by decide)) (fun _ => plain)
      (absurd · (by decide))
  · exact smoother_of_add (by decide) (absurd · (by decide)) (absurd · (by decide))
      (fun _ => plain)
  · exact smoother_of_add (by decide) (absurd · (by decide)) (absurd · (by decide))
      (absurd · (by decide))

end Settings

namespace Profile

/-- A routable way has a speed, whatever is added to its tags; a value that speaks for an easy ride
never lowers it, and one that speaks of a problematic surface never raises it. -/
theorem speed_follows_evidence (p : Profile) (t : Tags)
    (mean : 0.0 < p.settings.config.meanSpeed) (least : 0.0 < p.settings.config.minSpeed)
    (ordered : p.settings.config.minSpeed ≤ p.settings.config.maxSpeed) (key value : String) :
    ∃ x y, p.speed t .routable = .ok (.measured x) ∧
      p.speed (t.add key value) .routable = .ok (.measured y) ∧
      (p.settings.Eases key value → x ≤ y) ∧ (p.settings.Hampers key value → y ≤ x) :=
  ⟨p.settings.waySpeed t, p.settings.waySpeed (t.add key value), rfl, rfl,
    fun eases => eases.smoother.waySpeed mean least ordered,
    fun hampers => hampers.smoother.waySpeed mean least ordered⟩

def residentialStreet : Tags :=
  ⟨[("highway", ⟨"residential", []⟩)], by decide⟩

/-- A sidewalk does not slow down a residential street, and gravel does not speed it up. -/
theorem residential_speed_follows_evidence :
    (∃ x y, (default : Profile).speed residentialStreet .routable = .ok (.measured x) ∧
      (default : Profile).speed (residentialStreet.add "sidewalk" "both") .routable =
        .ok (.measured y) ∧ x ≤ y) ∧
    (∃ x y, (default : Profile).speed residentialStreet .routable = .ok (.measured x) ∧
      (default : Profile).speed (residentialStreet.add "surface" "gravel") .routable =
        .ok (.measured y) ∧ y ≤ x) := by
  have mean : 0.0 < (default : Profile).settings.config.meanSpeed := by decide
  have least : 0.0 < (default : Profile).settings.config.minSpeed := by decide
  have ordered : (default : Profile).settings.config.minSpeed ≤
      (default : Profile).settings.config.maxSpeed := by decide
  have sidewalk : (default : Profile).settings.Eases "sidewalk" "both" := .inl (by decide)
  have gravel : (default : Profile).settings.Hampers "surface" "gravel" := .inl (by decide)
  obtain ⟨x, y, before, after, quicker, _⟩ :=
    speed_follows_evidence default residentialStreet mean least ordered "sidewalk" "both"
  obtain ⟨v, w, usual, hampered, _, slower⟩ :=
    speed_follows_evidence default residentialStreet mean least ordered "surface" "gravel"
  exact ⟨⟨x, y, before, after, quicker sidewalk⟩, v, w, usual, hampered, slower gravel⟩

end Profile
end StepFree
