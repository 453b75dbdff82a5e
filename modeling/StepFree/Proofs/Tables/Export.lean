import StepFree.Profile.Reading
import StepFree.Proofs.Json.TextTable
import StepFree.Proofs.Tables.Kind

namespace StepFree

namespace Categories

def kind : TableKind Categories Tier where
  all := Tier.all
  name := Tier.name
  texts t k := (t.tier k).members
  kept _ := sortedTexts
  replace := replace
  mem_all := Tier.mem_all
  names_distinct := by decide
  texts_replace t k values j := by
    by_cases here : j = k <;> simp [replace, here, ValueSet.members_ofList]
  kept_texts t k := (t.tier k).sortedTexts_members
  eq_of_texts _ _ same :=
    congrArg mk (funext fun k => ValueSet.eq_of_members (congrFun same k))

theorem toDatum_eq (t : Categories) : t.toDatum = kind.toDatum t := by
  rw [toDatum, table, List.map_map]
  rfl

theorem read_write (t : Categories) : Json.read (Json.write t.toDatum) = .ok t.toDatum := by
  refine Json.read_write t.table ?_
  rw [table, List.map_map]
  exact kind.names_distinct

end Categories

namespace Vocabulary

def kind : TableKind Vocabulary Term where
  all := Term.all
  name := Term.name
  texts := texts
  kept k values := if k = .restrictionKeys then values else sortedTexts values
  replace := replace
  mem_all := Term.mem_all
  names_distinct := by decide
  texts_replace p k values j := by
    cases k <;> cases j <;> simp [replace, texts, ValueSet.members_ofList]
  kept_texts p k := by
    cases k <;> simp [texts, ValueSet.sortedTexts_members]
  eq_of_texts p q same := by
    have sets (k : Term) {a b : ValueSet} (ha : p.texts k = a.members) (hb : q.texts k = b.members) :
        a = b := ValueSet.eq_of_members (ha.symm.trans ((congrFun same k).trans hb))
    exact (Vocabulary.mk.injEq ..).mpr ⟨congrFun same .restrictionKeys, sets .intended rfl rfl,
      sets .restricted rfl rfl, sets .usableSidewalk rfl rfl, sets .noSidewalk rfl rfl,
      sets .ferryRoutes rfl rfl⟩

theorem toDatum_eq (p : Vocabulary) : p.toDatum = kind.toDatum p := by
  rw [toDatum, table, List.map_map]
  rfl

end Vocabulary

namespace Categories

theorem overriddenBy_export (b t : Categories) : b.overriddenBy t.toDatum = .ok t := by
  rw [t.toDatum_eq]
  exact kind.overriddenBy_toDatum _ b t

theorem ofFiles_export {t : Categories} {file : FileContent} (saved : file.datum = .ok t.toDatum) :
    Profile.ofFiles none (some file) = .ok (.ofSettings { categories := t }) := by
  have loaded : (file.datum >>= standard.overriddenBy) = .ok t :=
    bind_eq_ok_iff.mpr ⟨_, saved, overriddenBy_export standard t⟩
  exact bind_eq_ok_iff.mpr ⟨{}, rfl, bind_eq_ok_iff.mpr ⟨t, loaded, rfl⟩⟩

theorem ofFiles_saved (t : Categories) :
    Profile.ofFiles none (some (.text (Json.write t.toDatum))) =
      .ok (.ofSettings { categories := t }) := by
  apply ofFiles_export
  rw [FileContent.datum, t.read_write]

end Categories

/-- An export overrides any table by the exported one, and so does a file of it, in particular one that
holds the JSON text in which exports are written. After an override the
export has for a category the texts of the override, in ascending order and without repetitions, but the
access keys just as given; the categories that are not named are as before. -/
theorem overrides_invert_exports :
    (∀ b t : Categories, b.overriddenBy t.toDatum = .ok t) ∧
    (∀ b p : Vocabulary, b.overriddenBy p.toDatum = .ok p) ∧
    (∀ (t : Categories) (file : FileContent), file.datum = .ok t.toDatum →
      Profile.ofFiles none (some file) = .ok (.ofSettings { categories := t })) ∧
    (∀ t : Categories, Profile.ofFiles none (some (.text (Json.write t.toDatum))) =
      .ok (.ofSettings { categories := t })) ∧
    (∀ (b t : Categories) (o : Datum), b.overriddenBy o = .ok t →
      t.toDatum = .ofMembers (Tier.all.map fun k => (k.name, .ofTexts
        (((o.member? k.name).map fun values => sortedTexts values.texts).getD
          (b.tier k).members)))) ∧
    (∀ (b p : Vocabulary) (o : Datum), b.overriddenBy o = .ok p →
      p.toDatum = .ofMembers (Term.all.map fun k => (k.name, .ofTexts
        (((o.member? k.name).map fun values =>
          if k = .restrictionKeys then values.texts else sortedTexts values.texts).getD
            (b.texts k))))) := by
  refine ⟨Categories.overriddenBy_export, ?_, fun _ _ => Categories.ofFiles_export,
    Categories.ofFiles_saved, ?_, ?_⟩
  -- Overriding is that of the kind by definition, only the export is put together differently.
  · intro b p
    rw [p.toDatum_eq]
    exact Vocabulary.kind.overriddenBy_toDatum _ b p
  · intro b t o accepted
    rw [t.toDatum_eq]
    exact Categories.kind.toDatum_overriddenBy accepted
  · intro b p o accepted
    rw [p.toDatum_eq]
    exact Vocabulary.kind.toDatum_overriddenBy accepted

def sandOverride : Datum :=
  .dict [(.text "inaccessible_surfaces",
    .tuple [.text "sand", .text "pavé", .text "sand", .int 5])]

def keyOverride : Datum :=
  .dict [
    (.text "restriction_keys", .list [.text "wheelchair", .text "foot", .text "wheelchair"]),
    (.text "ferry_routes", .set [])]

theorem sandOverride_exported :
    (∃ t, Categories.standard.overriddenBy sandOverride = .ok t ∧
      t.toDatum.member? "inaccessible_surfaces" = some (.ofTexts ["5", "pavé", "sand"]) ∧
      t.toDatum.member? "preferred_surfaces" = some (.ofTexts ["asphalt", "paved"]) ∧
      Profile.ofFiles none (some (.text (Json.write t.toDatum))) =
        .ok (.ofSettings { categories := t })) ∧
    (∃ p, Vocabulary.standard.overriddenBy keyOverride = .ok p ∧
      p.toDatum.member? "restriction_keys" = some (.ofTexts ["wheelchair", "foot", "wheelchair"]) ∧
      p.toDatum.member? "ferry_routes" = some (.ofTexts []) ∧
      Vocabulary.standard.overriddenBy p.toDatum = .ok p) := by
  obtain ⟨-, words, -, saved, tiers, terms⟩ := overrides_invert_exports
  have surfaces : sortedTexts ["sand", "pavé", "sand", "5"] = ["5", "pavé", "sand"] := by
    rw [← ValueSet.members_ofList]
    rfl
  have nothing : sortedTexts [] = [] := by
    rw [← ValueSet.members_ofList]
    rfl
  constructor
  · refine ⟨_, rfl, ?_, ?_, saved _⟩
    · rw [tiers Categories.standard _ sandOverride rfl]
      exact congrArg (fun texts => some (Datum.ofTexts texts)) surfaces
    · rw [tiers Categories.standard _ sandOverride rfl]
      rfl
  · refine ⟨_, rfl, ?_, ?_, words _ _⟩
    · rw [terms Vocabulary.standard _ keyOverride rfl]
      rfl
    · rw [terms Vocabulary.standard _ keyOverride rfl]
      exact congrArg (fun texts => some (Datum.ofTexts texts)) nothing

end StepFree
