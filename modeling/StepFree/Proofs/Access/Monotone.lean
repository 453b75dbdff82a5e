import StepFree.Proofs.Access.Closure
import StepFree.Proofs.Tags.Adding

/-! Evidence and the verdict. One way is milder than another if it says all that the other says for access,
and nothing against it that the other does not say. A milder way is open wherever the other is. A value
more for access gives a milder way, and a value more against it a way that the old one is milder than. -/
namespace StepFree

def accessKeys : List String := ["foot", "access", "wheelchair"]

def hindranceKeys : List String :=
  ["surface", "smoothness", "tracktype", "sac_scale", "motorroad", "ford"]

def crossingKeys : List String := ["route", "public_transport", "railway"]

namespace Settings

/-- Whether `u` is milder than `t`. -/
structure Milder (s : Settings) (u t : Tags) : Prop where
  allows : ∀ k ∈ accessKeys, t.Shows k s.vocabulary.intended → u.Shows k s.vocabulary.intended
  denies : ∀ k ∈ accessKeys, u.Shows k s.vocabulary.restricted → t.Shows k s.vocabulary.restricted
  usable : t.Shows "sidewalk" s.vocabulary.usableSidewalk →
    u.Shows "sidewalk" s.vocabulary.usableSidewalk
  missing : u.Shows "sidewalk" s.vocabulary.noSidewalk → t.Shows "sidewalk" s.vocabulary.noSidewalk
  hindrances : ∀ k ∈ "highway" :: hindranceKeys, u.values k ⊆ t.values k
  highway : u.values "highway" = [] → t.values "highway" = []
  crossings : ∀ k ∈ crossingKeys, t.values k ⊆ u.values k

namespace Milder

variable {s : Settings} {t u : Tags} (milder : s.Milder u t)

include milder

theorem denied (keys : s.vocabulary.restrictionKeys ⊆ accessKeys) (closed : s.Denied u) :
    s.Denied t := by
  obtain ⟨⟨k, hk, denies⟩, silent, bare⟩ := closed
  refine ⟨⟨k, hk, milder.denies k (keys hk) denies⟩, ?_, fun usable => bare (milder.usable usable)⟩
  rintro ⟨j, hj, allows⟩
  exact silent ⟨j, hj, milder.allows j (keys hj) allows⟩

theorem shows_of_hindrance {k : String} (key : k ∈ "highway" :: hindranceKeys)
    {accepted : ValueSet} (shows : u.Shows k accepted) : t.Shows k accepted :=
  shows.mono (milder.hindrances k key)

theorem unfit (closed : s.Unfit u) : s.Unfit t := by
  rcases closed with scale | surface | smoothness | tracktype
  · exact .inl (milder.shows_of_hindrance (by decide) scale)
  · exact .inr (.inl (milder.shows_of_hindrance (by decide) surface))
  · exact .inr (.inr (.inl (milder.shows_of_hindrance (by decide) smoothness)))
  · exact .inr (.inr (.inr (milder.shows_of_hindrance (by decide) tracktype)))

theorem turnedAway {p q : Prop} (also : p → q) (closed : s.TurnedAway u p) : s.TurnedAway t q := by
  obtain ⟨noWheelchair, reason⟩ := closed
  refine ⟨fun allows => noWheelchair (milder.allows _ (by decide) allows), ?_⟩
  rcases reason with denies | ⟨noFoot, denies | other⟩
  · exact .inl (milder.denies _ (by decide) denies)
  · exact .inr ⟨fun allows => noFoot (milder.allows _ (by decide) allows),
      .inl (milder.denies _ (by decide) denies)⟩
  · exact .inr ⟨fun allows => noFoot (milder.allows _ (by decide) allows), .inr (also other)⟩

theorem hindered (closed : s.Hindered u) : s.Hindered t := by
  obtain ⟨bare, reason⟩ := closed
  have values {k : String} (key : k ∈ "highway" :: hindranceKeys) := milder.hindrances k key
  refine ⟨fun usable => bare (milder.usable usable), ?_⟩
  rcases reason with ⟨missing, large⟩ | motorroad | ⟨blocked, ford | ford⟩
  · exact .inl ⟨milder.missing missing, milder.shows_of_hindrance (by decide) large⟩
  · exact .inr (.inl (values (by decide) motorroad))
  · exact .inr (.inr ⟨blocked, .inl (values (by decide) ford)⟩)
  · have kept : u.values "ford" ⊆ t.values "ford" := values (by decide)
    exact .inr (.inr ⟨blocked, .inr fun none => ford (List.subset_nil.mp (none ▸ kept))⟩)

theorem ferryOrPlatform (crossing : s.FerryRoute t ∨ s.Platform t) :
    s.FerryRoute u ∨ s.Platform u := by
  rcases crossing with ferry | platform | platform
  · exact .inl (ferry.mono (milder.crossings _ (by decide)))
  · exact .inr (.inl (platform.mono (milder.crossings _ (by decide))))
  · exact .inr (.inr (platform.mono (milder.crossings _ (by decide))))

theorem closed (keys : s.vocabulary.restrictionKeys ⊆ accessKeys) (closed : s.Closed u) :
    s.Closed t := by
  have street (present : u.values "highway" ≠ []) : t.values "highway" ≠ [] :=
    fun none => present (List.subset_nil.mp (none ▸ milder.hindrances "highway" (by decide)))
  rcases closed with denied | ⟨absent, reason⟩ | ⟨present, reason⟩
  · exact .inl (milder.denied keys denied)
  · refine .inr (.inl ⟨milder.highway absent, ?_⟩)
    rcases reason with nothing | turned
    · refine .inl (not_or.mp fun crossing => ?_)
      exact not_or.mpr nothing (milder.ferryOrPlatform crossing)
    · exact .inr (milder.turnedAway id turned)
  · refine .inr (.inr ⟨street present, ?_⟩)
    rcases reason with unfit | never | turned
    · exact .inl (milder.unfit unfit)
    · exact .inr (.inl (milder.shows_of_hindrance (by decide) never))
    · exact .inr (.inr (milder.turnedAway milder.hindered turned))

theorem excluded (keys : s.vocabulary.restrictionKeys ⊆ accessKeys)
    (excluded : s.verdict u = .excluded) : s.verdict t = .excluded := by
  rw [excluded_iff_closed] at excluded ⊢
  exact milder.closed keys excluded

end Milder

variable (s : Settings) (t : Tags) {key value : String}

theorem milder_add (access : key ∈ accessKeys → value ∉ s.vocabulary.restricted)
    (sidewalk : key = "sidewalk" → value ∉ s.vocabulary.noSidewalk)
    (harmless : key ∉ "highway" :: hindranceKeys) : s.Milder (t.add key value) t where
  allows _ _ := Tags.Shows.mono (t.values_subset_add key value _)
  denies _ hk shows := shows.of_add fun here => access (here ▸ hk)
  usable := Tags.Shows.mono (t.values_subset_add key value _)
  missing shows := shows.of_add fun here => sidewalk here.symm
  hindrances _ hk := Tags.values_add_subset fun here => harmless (here ▸ hk)
  highway none := List.subset_nil.mp (none ▸ t.values_subset_add key value "highway")
  crossings _ _ := t.values_subset_add key value _

theorem milder_of_add (access : key ∈ accessKeys → value ∉ s.vocabulary.intended)
    (sidewalk : key = "sidewalk" → value ∉ s.vocabulary.usableSidewalk)
    (street : key = "highway" → t.values "highway" ≠ []) (useless : key ∉ crossingKeys) :
    s.Milder t (t.add key value) where
  allows k hk shows := shows.of_add fun here => access (here ▸ hk)
  denies _ _ := Tags.Shows.mono (t.values_subset_add key value _)
  usable shows := shows.of_add fun here => sidewalk here.symm
  missing := Tags.Shows.mono (t.values_subset_add key value _)
  hindrances _ _ := t.values_subset_add key value _
  highway none := by
    have other : "highway" ≠ key := fun here => street here.symm none
    exact List.subset_nil.mp (none ▸ Tags.values_add_subset other)
  crossings k hk := Tags.values_add_subset fun here => useless (here ▸ hk)

/-- Whether a value of a key speaks for access. -/
def Favours (key value : String) : Prop :=
  (key ∈ accessKeys ∧ value ∈ s.vocabulary.intended) ∨
    (key = "sidewalk" ∧ value ∈ s.vocabulary.usableSidewalk)

/-- Whether a value of a key speaks against access. One more value of a highway tag does so, whatever it
is; a first one could open the way. -/
def Disfavours (key value : String) : Prop :=
  (key ∈ accessKeys ∧ value ∈ s.vocabulary.restricted) ∨
    (key = "sidewalk" ∧ value ∈ s.vocabulary.noSidewalk) ∨
    (key = "highway" ∧ t.values "highway" ≠ []) ∨ key ∈ hindranceKeys

theorem accessKeys_apart : ∀ k ∈ accessKeys,
    k ≠ "sidewalk" ∧ k ≠ "highway" ∧ k ∉ "highway" :: hindranceKeys ∧ k ∉ crossingKeys := by
  decide

theorem hindranceKeys_apart : ∀ k ∈ hindranceKeys,
    k ∉ accessKeys ∧ k ≠ "sidewalk" ∧ k ≠ "highway" ∧ k ∉ crossingKeys := by
  decide

variable {s} (words : ∀ v ∈ s.vocabulary.intended, v ∉ s.vocabulary.restricted)
  (sidewalks : ∀ v ∈ s.vocabulary.usableSidewalk, v ∉ s.vocabulary.noSidewalk)

include words sidewalks

theorem Favours.milder (favours : s.Favours key value) : s.Milder (t.add key value) t := by
  rcases favours with ⟨access, intended⟩ | ⟨rfl, usable⟩
  · obtain ⟨noSidewalk, _, harmless, _⟩ := accessKeys_apart key access
    exact s.milder_add t (fun _ => words value intended) (fun here => absurd here noSidewalk)
      harmless
  · exact s.milder_add t (fun access => absurd access (by decide))
      (fun _ => sidewalks value usable) (by decide)

theorem Disfavours.milder (disfavours : s.Disfavours t key value) :
    s.Milder t (t.add key value) := by
  rcases disfavours with ⟨access, restricted⟩ | ⟨rfl, missing⟩ | ⟨rfl, present⟩ | hindrance
  · obtain ⟨noSidewalk, noHighway, _, useless⟩ := accessKeys_apart key access
    exact s.milder_of_add t (fun _ intended => words value intended restricted)
      (fun here => absurd here noSidewalk) (fun here => absurd here noHighway) useless
  · exact s.milder_of_add t (fun access => absurd access (by decide))
      (fun _ usable => sidewalks value usable missing) (fun here => absurd here (by decide))
      (by decide)
  · exact s.milder_of_add t (fun access => absurd access (by decide))
      (fun here => absurd here (by decide)) (fun _ => present) (by decide)
  · obtain ⟨noAccess, noSidewalk, noHighway, useless⟩ := hindranceKeys_apart key hindrance
    exact s.milder_of_add t (fun access => absurd access noAccess)
      (fun here => absurd here noSidewalk) (fun here => absurd here noHighway) useless

/-- With access keys and words that do not contradict each other, a value for access never closes an
open way, and a value against it never opens a closed one. -/
theorem evidence_moves_one_way (keys : s.vocabulary.restrictionKeys ⊆ accessKeys)
    (key value : String) :
    (s.Favours key value → s.verdict t ≠ .excluded → s.verdict (t.add key value) ≠ .excluded) ∧
    (s.Disfavours t key value → s.verdict t = .excluded →
      s.verdict (t.add key value) = .excluded) := by
  refine ⟨fun favours opened closed => ?_, fun disfavours closed => ?_⟩
  · exact opened ((favours.milder t words sidewalks).excluded keys closed)
  · exact (disfavours.milder t words sidewalks).excluded keys closed

omit words sidewalks

def limitedTrunkRoad : Tags :=
  ⟨[("highway", ⟨"trunk", []⟩), ("foot", ⟨"no", []⟩), ("wheelchair", ⟨"limited", []⟩)], by decide⟩

def bareTrunkRoad : Tags :=
  ⟨[("highway", ⟨"trunk", []⟩), ("sidewalk", ⟨"none", []⟩)], by decide⟩

theorem evidence_moves_trunk_roads :
    (({} : Settings).Favours "access" "permissive" ∧
      ({} : Settings).verdict (limitedTrunkRoad.add "access" "permissive") ≠ .excluded) ∧
    (({} : Settings).Disfavours bareTrunkRoad "highway" "footway" ∧
      ({} : Settings).verdict (bareTrunkRoad.add "highway" "footway") = .excluded) := by
  have words : ∀ v ∈ Vocabulary.standard.intended.members,
      v ∉ Vocabulary.standard.restricted := by decide
  have sidewalks : ∀ v ∈ Vocabulary.standard.usableSidewalk.members,
      v ∉ Vocabulary.standard.noSidewalk := by decide
  have keys : ({} : Settings).vocabulary.restrictionKeys ⊆ accessKeys := by decide
  have favours : ({} : Settings).Favours "access" "permissive" :=
    .inl ⟨by decide, by decide⟩
  have disfavours : ({} : Settings).Disfavours bareTrunkRoad "highway" "footway" :=
    .inr (.inr (.inl ⟨rfl, by decide⟩))
  exact ⟨⟨favours, (evidence_moves_one_way limitedTrunkRoad words sidewalks keys _ _).1 favours
      (by decide)⟩,
    ⟨disfavours, (evidence_moves_one_way bareTrunkRoad words sidewalks keys _ _).2 disfavours
      (by decide)⟩⟩

end Settings
end StepFree
