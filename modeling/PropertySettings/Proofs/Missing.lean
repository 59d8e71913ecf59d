import Mathlib
import PropertySettings.Proofs.Complaints

/-!
# What leaves less missing

Keys stop being missing, and never start to be, in two ways. One is to give more values: the keys
that are missing depend on which keys have a value, and on nothing else, and they only become fewer
as more keys have one (`Registry.missing_sublist_of_gives`). The other one is to declare more: an
alternative whose key is new settles its target just if that key has a value, and leaves all else as
it is (`Registry.missing_insert`), wherever among the declarations it stands. The key has to be new,
for an alternative that is declared again counts for its last target only.
-/

namespace PropertySettings.Registry

open scoped List

variable {registry : Registry} {properties others : PropertySet} {before after : List Declaration}
  {key target other stand : Text} {lines : List Text}

/-! ### More values -/

theorem mem_names_of_gives (h : properties.Gives key) : key ∈ properties.names := by
  refine Decidable.byContradiction fun hnot => ?_
  rw [PropertySet.Gives, PropertySet.value?, Assignments.get?_eq_none_iff.mpr hnot] at h
  exact absurd h (by simp)

/-- A key stays satisfied as long as no value is taken away. -/
theorem Satisfied.mono (hgives : ∀ key, properties.Gives key → others.Gives key)
    (h : registry.Satisfied properties key) : registry.Satisfied others key := by
  rw [satisfied_iff_exists_remedy] at h ⊢
  obtain ⟨remedy, hremedy, hvalue⟩ := h
  exact ⟨remedy, hremedy, hgives remedy hvalue⟩

/-- The more keys have a value, the fewer are missing. -/
theorem missing_sublist_of_gives (hgives : ∀ key, properties.Gives key → others.Gives key) :
    registry.missing others <+ registry.missing properties := by
  refine List.monotone_filter_right _ fun key hmissing => ?_
  have hnot : ¬ registry.Satisfied others key := of_decide_eq_true hmissing
  exact decide_eq_true (mt (Satisfied.mono hgives) hnot)

/-- What is missing depends on which keys have a value. -/
theorem missing_congr (hgives : ∀ key, others.Gives key ↔ properties.Gives key) :
    registry.missing others = registry.missing properties :=
  (missing_sublist_of_gives fun key => (hgives key).mpr).antisymm
    (missing_sublist_of_gives fun key => (hgives key).mp)

/-! ### More alternatives -/

/-- A key can stand in for the last target that it is declared with. -/
theorem mem_alternativesFor_iff :
    stand ∈ registry.alternativesFor key ↔ registry.alternatives.get? stand = some key := by
  rw [alternativesFor, List.mem_map, Assignments.get?_eq_some_iff_mem]
  constructor
  · rintro ⟨⟨name, target⟩, hmem, rfl⟩
    obtain ⟨hmem, htarget⟩ := List.mem_filter.mp hmem
    exact of_decide_eq_true htarget ▸ hmem
  · exact fun hmem => ⟨_, List.mem_filter.mpr ⟨hmem, decide_eq_true rfl⟩, rfl⟩

/-- What makes a key an alternative is a declaration of it. -/
theorem mem_map_key_of_target? {declarations : List Declaration}
    (h : key ∈ (declarations.filterMap Declaration.target?).map Prod.fst) :
    key ∈ declarations.map (·.key) := by
  obtain ⟨⟨name, target⟩, hmem, rfl⟩ := List.mem_map.mp h
  obtain ⟨d, hd, htarget⟩ := List.mem_filterMap.mp hmem
  unfold Declaration.target? at htarget
  split at htarget
  · exact List.mem_map.mpr ⟨d, hd, congrArg Prod.fst (Option.some.inj htarget)⟩
  · exact absurd htarget (by simp)

theorem alternatives_get?_of_not_mem (h : key ∉ registry.keys) :
    registry.alternatives.get? key = none := by
  rw [alternatives, Assignments.get?_eq_none_iff, Assignments.names_ofList,
    Assignments.mem_firstOccurrences]
  exact mt mem_map_key_of_target? h

/-- One more alternative has its target, and the others have theirs, if its key is new. -/
theorem alternatives_insert_get? (h : key ∉ (⟨before ++ after⟩ : Registry).keys) :
    (⟨before ++ .alternative key target lines :: after⟩ : Registry).alternatives.get? stand =
      if stand = key then some target
      else (⟨before ++ after⟩ : Registry).alternatives.get? stand := by
  have hafter : key ∉ (after.filterMap Declaration.target?).map Prod.fst := by
    intro hmem
    refine h ?_
    rw [keys, List.map_append]
    exact List.mem_append_right _ (mem_map_key_of_target? hmem)
  rw [alternatives, alternatives, List.filterMap_append, List.filterMap_append]
  exact Assignments.get?_ofList_append_cons hafter target stand

/-- With one more alternative, whose key is new, its target is satisfied too if that key has a value,
and no other key that was not. -/
theorem satisfied_insert_iff (h : key ∉ (⟨before ++ after⟩ : Registry).keys) :
    (⟨before ++ .alternative key target lines :: after⟩ : Registry).Satisfied properties other ↔
      (⟨before ++ after⟩ : Registry).Satisfied properties other ∨
        (other = target ∧ properties.Gives key) := by
  simp only [Satisfied, mem_alternativesFor_iff, alternatives_insert_get? h]
  constructor
  · rintro (hself | ⟨stand, hstand, hgives⟩)
    · exact .inl (.inl hself)
    · split at hstand
      case isTrue heq => exact .inr ⟨(Option.some.inj hstand).symm, heq ▸ hgives⟩
      case isFalse => exact .inl (.inr ⟨stand, hstand, hgives⟩)
  · rintro ((hself | ⟨stand, hstand, hgives⟩) | ⟨rfl, hgives⟩)
    · exact .inl hself
    · -- the key is not an alternative yet, so what stands in is another key
      have hne : stand ≠ key := by
        rintro rfl
        exact absurd (hstand.symm.trans (alternatives_get?_of_not_mem h)) (by simp)
      exact .inr ⟨stand, by rw [if_neg hne, hstand], hgives⟩
    · exact .inr ⟨key, if_pos rfl, hgives⟩

theorem requiredKeys_insert :
    (⟨before ++ .alternative key target lines :: after⟩ : Registry).requiredKeys
      = (⟨before ++ after⟩ : Registry).requiredKeys := by
  simp [requiredKeys, Declaration.alternative]

/-- One more alternative, whose key is new, takes its target from the missing keys just if that key
has a value. -/
theorem missing_insert (h : key ∉ (⟨before ++ after⟩ : Registry).keys) :
    (⟨before ++ .alternative key target lines :: after⟩ : Registry).missing properties =
      if properties.Gives key then
        ((⟨before ++ after⟩ : Registry).missing properties).filter (· ≠ target)
      else (⟨before ++ after⟩ : Registry).missing properties := by
  rw [missing, missing, requiredKeys_insert]
  split
  case isTrue hgives =>
    rw [List.filter_filter]
    refine List.filter_congr fun other _ => ?_
    simp only [satisfied_insert_iff h, hgives, and_true, not_or, Bool.decide_and]
    exact Bool.and_comm ..
  case isFalse hnot =>
    refine List.filter_congr fun other _ => ?_
    simp only [satisfied_insert_iff h, hnot, and_false, or_false]

/-- **What leaves less missing.** Give values to more keys: of the missing keys some are left, in the
same order, and all of them if no key has got a value that had none. Or declare one more alternative,
anywhere among the declarations and for any target, with a key that is not declared yet: all missing
keys are left if that key has no value, and otherwise all but the target, which is not missing any
more, however often it is required. -/
theorem missing_shrinks (registry : Registry) (properties : PropertySet) :
    (∀ others : PropertySet, (∀ key, properties.Gives key → others.Gives key) →
      registry.missing others <+ registry.missing properties ∧
      ((∀ key, others.Gives key → properties.Gives key) →
        registry.missing others = registry.missing properties)) ∧
    ∀ before after, registry.declarations = before ++ after →
      ∀ key target lines, key ∉ registry.keys →
        let extended : Registry := ⟨before ++ .alternative key target lines :: after⟩
        extended.missing properties <+ registry.missing properties ∧
        extended.missing properties
          = if properties.Gives key then (registry.missing properties).filter (· ≠ target)
            else registry.missing properties := by
  refine ⟨fun others hgives => ⟨missing_sublist_of_gives hgives, fun hback => ?_⟩, ?_⟩
  · exact missing_congr fun key => ⟨hback key, hgives key⟩
  · intro before after hdeclarations key target lines hnew extended
    obtain rfl : registry = ⟨before ++ after⟩ := congrArg Registry.mk hdeclarations
    have hmissing : extended.missing properties = _ := missing_insert hnew
    refine ⟨?_, hmissing⟩
    rw [hmissing]
    split
    · exact List.filter_sublist
    · exact List.Sublist.refl _

/-- A key that is required twice, and one that can stand in for it and is declared to stand in for
another one later on. Other values for the same keys change nothing, nor does a null; a new alternative
between the two declarations settles both occurrences. -/
theorem missing_shrinks_of_repeated_keys :
    let before : List Declaration := [.required "a".toList [], .alternative "c".toList "a".toList []]
    let after : List Declaration := [.required "b".toList [], .required "a".toList [],
      .alternative "c".toList "d".toList []]
    let registry : Registry := ⟨before ++ after⟩
    let extended : Registry := ⟨before ++ .alternative "e".toList "a".toList [] :: after⟩
    let properties : PropertySet := .ofList [("c".toList, some []), ("e".toList, some [])]
    let others : PropertySet :=
      .ofList [("e".toList, some "x".toList), ("b".toList, some []), ("c".toList, some [])]
    let same : PropertySet :=
      .ofList [("a".toList, none), ("e".toList, some "y".toList), ("c".toList, some "z".toList)]
    registry.missing properties = ["a".toList, "b".toList, "a".toList] ∧
      registry.missing others <+ registry.missing properties ∧
      registry.missing same = registry.missing properties ∧
      extended.missing properties = ["b".toList] := by
  intro before after registry extended properties others same
  obtain ⟨hvalues, halternatives⟩ := missing_shrinks registry properties
  have hothers : ∀ key, properties.Gives key → others.Gives key := by
    have hall : ∀ key ∈ properties.names, others.Gives key := by decide
    exact fun key hgives => hall key (mem_names_of_gives hgives)
  have hsame : ∀ key, properties.Gives key → same.Gives key := by
    have hall : ∀ key ∈ properties.names, same.Gives key := by decide
    exact fun key hgives => hall key (mem_names_of_gives hgives)
  have hback : ∀ key, same.Gives key → properties.Gives key := by
    have hall : ∀ key ∈ same.names, same.Gives key → properties.Gives key := by decide
    exact fun key hgives => hall key (mem_names_of_gives hgives) hgives
  obtain ⟨-, hextended⟩ :=
    halternatives before after rfl "e".toList "a".toList [] (by decide)
  exact ⟨by decide, (hvalues others hothers).1, (hvalues same hsame).2 hback,
    hextended.trans (by decide)⟩

end PropertySettings.Registry
