import Mathlib
import PropertySettings.Proofs.Missing

/-!
# Alternatives by their declarations

A key may be offered as an alternative time and again. The last offer says which key it stands in
for (`Registry.mem_alternativesFor_iff_standsIn`), and the first one its place among the
alternatives (`Registry.pairwise_alternativesFor`). A key is satisfied by a value of its own or of a
key that stands in for it (`Registry.satisfied_iff_exists_value`); what stands in for such a key
does not count. Where no key is declared twice, a key stands in for another one just if its
declaration says so (`Registry.standsIn_iff_get?`).
-/

namespace PropertySettings

/-! ### First and last occurrences -/

section Occurrences

variable {δ ν α : Type} {names : List ν} {first second : ν}

/-- One occurrence of the first name comes before all those of the second. -/
def ComesUpBefore (names : List ν) (first second : ν) : Prop :=
  ∃ before after, names = before ++ first :: after ∧ second ∉ before ++ [first]

theorem ComesUpBefore.append (h : ComesUpBefore names first second) (more : List ν) :
    ComesUpBefore (names ++ more) first second := by
  obtain ⟨before, after, rfl, hnot⟩ := h
  exact ⟨before, after ++ more, by simp, hnot⟩

/-- A name that is there comes up before one that is yet to come. -/
theorem comesUpBefore_of_mem (hfirst : first ∈ names) (hsecond : second ∉ names) :
    ComesUpBefore names first second := by
  obtain ⟨before, after, rfl⟩ := List.append_of_mem hfirst
  refine ⟨before, after, rfl, fun hmem => hsecond ?_⟩
  rw [List.append_cons]
  exact List.mem_append_left after hmem

/-- The last pair with a name comes from the last item that gives one. -/
theorem Assignments.lastIn_filterMap_iff {items : List δ} {f : δ → Option (ν × α)} {name : ν}
    {value : α} :
    LastIn (items.filterMap f) name value ↔
      ∃ before d after, items = before ++ d :: after ∧ f d = some (name, value) ∧
        ∀ e ∈ after, ∀ other, f e ≠ some (name, other) := by
  constructor
  · rintro ⟨front, back, hsplit, hback⟩
    obtain ⟨before, rest, rfl, -, hrest⟩ := List.filterMap_eq_append_iff.mp hsplit
    obtain ⟨silent, d, after, rfl, -, hd, hafter⟩ := List.filterMap_eq_cons_iff.mp hrest
    refine ⟨before ++ silent, d, after, by simp, hd, fun e he other hvalue => ?_⟩
    exact hback (name, other) (hafter ▸ List.mem_filterMap.mpr ⟨e, he, hvalue⟩) rfl
  · rintro ⟨before, d, after, rfl, hd, hafter⟩
    refine ⟨before.filterMap f, after.filterMap f, ?_, ?_⟩
    · rw [List.filterMap_append, List.filterMap_cons_some hd]
    · rintro ⟨other, value'⟩ hentry rfl
      obtain ⟨e, he, hvalue⟩ := List.mem_filterMap.mp hentry
      exact hafter e he value' hvalue

variable [DecidableEq ν]

theorem Assignments.pairwise_firstOccurrences (names : List ν) :
    (firstOccurrences names).Pairwise (ComesUpBefore names) := by
  induction names using List.reverseRecOn with
  | nil => exact List.Pairwise.nil
  | append_singleton names name ih =>
    have hmore := ih.imp fun h => h.append [name]
    rw [firstOccurrences_concat]
    split
    case isTrue => exact hmore
    case isFalse hnew =>
      refine List.pairwise_append.mpr ⟨hmore, List.pairwise_singleton _ _, ?_⟩
      intro first hfirst second hsecond
      rw [List.mem_singleton.mp hsecond]
      exact (comesUpBefore_of_mem (mem_firstOccurrences.mp hfirst) hnew).append [name]

end Occurrences

/-! ### Offers -/

/-- The declaration makes its key an alternative to the target. -/
def Declaration.Offers (d : Declaration) (stand target : Text) : Prop :=
  d.role = .alternative ∧ d.key = stand ∧ d.replaces = some target

instance (d : Declaration) (stand target : Text) : Decidable (d.Offers stand target) :=
  inferInstanceAs (Decidable (_ ∧ _ ∧ _))

theorem Declaration.target?_eq_some_iff {d : Declaration} {stand target : Text} :
    d.target? = some (stand, target) ↔ d.Offers stand target := by
  obtain ⟨key, role, lines, replaces⟩ := d
  cases role <;> cases replaces <;> simp [target?, Offers]

namespace Registry

variable {registry : Registry} {properties : PropertySet} {key stand first second : Text}

/-- The last declaration that makes `stand` an alternative makes it one to `key`. -/
def StandsIn (registry : Registry) (stand key : Text) : Prop :=
  ∃ before d after, registry.declarations = before ++ d :: after ∧ d.Offers stand key ∧
    ∀ e ∈ after, ∀ target, ¬ e.Offers stand target

/-- Some declaration makes `first` an alternative, and none up to that one makes `second` one. -/
def OfferedBefore (registry : Registry) (first second : Text) : Prop :=
  ∃ before d after, registry.declarations = before ++ d :: after ∧
    (∃ target, d.Offers first target) ∧
    ∀ e ∈ before ++ [d], ∀ target, ¬ e.Offers second target

/-- **The last offer counts.** -/
theorem mem_alternativesFor_iff_standsIn :
    stand ∈ registry.alternativesFor key ↔ registry.StandsIn stand key := by
  rw [mem_alternativesFor_iff, alternatives, Assignments.get?_ofList_eq_some_iff_lastIn,
    Assignments.lastIn_filterMap_iff, StandsIn]
  simp only [Declaration.target?_eq_some_iff, ne_eq]

/-- What comes up first among the pairs was offered first. -/
theorem offeredBefore_of_comesUpBefore
    (h : ComesUpBefore ((registry.declarations.filterMap Declaration.target?).map Prod.fst)
      first second) : registry.OfferedBefore first second := by
  obtain ⟨front, back, hsplit, hnot⟩ := h
  rw [List.map_filterMap] at hsplit
  obtain ⟨before, rest, hdeclarations, hbefore, hrest⟩ := List.filterMap_eq_append_iff.mp hsplit
  obtain ⟨silent, d, after, rfl, hsilent, hd, -⟩ := List.filterMap_eq_cons_iff.mp hrest
  obtain ⟨⟨stand, target⟩, htarget, rfl⟩ := Option.map_eq_some_iff.mp hd
  refine ⟨before ++ silent, d, after, by simp [hdeclarations],
    ⟨target, Declaration.target?_eq_some_iff.mp htarget⟩, fun e he other hoffers => hnot ?_⟩
  have hsecond : (Declaration.target? e).map Prod.fst = some second := by
    rw [Declaration.target?_eq_some_iff.mpr hoffers, Option.map_some]
  rw [List.append_assoc] at he
  rcases List.mem_append.mp he with he | he
  · rw [← hbefore]
    exact List.mem_append_left _ (List.mem_filterMap.mpr ⟨e, he, hsecond⟩)
  · rcases List.mem_append.mp he with he | he
    · exact absurd (hsecond.symm.trans (hsilent e he)) (by simp)
    · rw [List.mem_singleton.mp he, hd] at hsecond
      exact List.mem_append_right _ (List.mem_singleton.mpr (Option.some.inj hsecond).symm)

theorem alternativesFor_sublist :
    (registry.alternativesFor key).Sublist registry.alternatives.names :=
  List.filter_sublist.map Prod.fst

/-- **The first offer tells the place.** -/
theorem pairwise_alternativesFor :
    (registry.alternativesFor key).Pairwise registry.OfferedBefore := by
  refine List.Pairwise.sublist alternativesFor_sublist ?_
  rw [alternatives, Assignments.names_ofList]
  exact (Assignments.pairwise_firstOccurrences _).imp offeredBefore_of_comesUpBefore

/-- A key is satisfied by a value of its own or of one that stands in for it. -/
theorem satisfied_iff_exists_value :
    registry.Satisfied properties key ↔
      ∃ giver value, (giver = key ∨ registry.StandsIn giver key) ∧
        properties.get? giver = some (some value) := by
  simp only [satisfied_iff_exists_remedy, remedies, List.mem_cons, mem_alternativesFor_iff_standsIn,
    PropertySet.Gives, PropertySet.value?, Option.isSome_iff_exists, Option.join_eq_some_iff,
    exists_and_left]

/-- Where no key is declared twice, no other declaration has the key of one. -/
theorem key_ne_of_split (hkeys : registry.keys.Nodup) {before after : List Declaration}
    {d : Declaration} (hsplit : registry.declarations = before ++ d :: after) :
    ∀ e ∈ before ++ after, e.key ≠ d.key := by
  have hperm : (before ++ d :: after).Perm (d :: (before ++ after)) := List.perm_middle
  rw [keys, hsplit, (hperm.map _).nodup_iff, List.map_cons, List.nodup_cons] at hkeys
  exact fun e he heq => hkeys.1 (List.mem_map.mpr ⟨e, he, heq⟩)

/-- Where no key is declared twice, the declaration of a key says what it stands in for. -/
theorem standsIn_iff_get? (hkeys : registry.keys.Nodup) :
    registry.StandsIn stand key ↔
      ∃ d, registry.get? stand = some d ∧ d.role = .alternative ∧ d.replaces = some key := by
  simp only [get?, List.find?_eq_some_iff_append, decide_eq_true_eq, Bool.not_eq_true',
    decide_eq_false_iff_not]
  constructor
  · rintro ⟨before, d, after, hsplit, ⟨hrole, rfl, htarget⟩, -⟩
    have hbefore : ∀ e ∈ before, e.key ≠ d.key := fun e he =>
      key_ne_of_split hkeys hsplit e (List.mem_append_left after he)
    exact ⟨d, ⟨rfl, before, after, hsplit, hbefore⟩, hrole, htarget⟩
  · rintro ⟨d, ⟨rfl, before, after, hsplit, -⟩, hrole, htarget⟩
    refine ⟨before, d, after, hsplit, ⟨hrole, rfl, htarget⟩, fun e he target hoffers => ?_⟩
    exact key_ne_of_split hkeys hsplit e (List.mem_append_right before he) hoffers.2.1

/-- **Which keys stand in for a key, and when it is satisfied.** Whatever the declarations are, the
keys that can stand in for a key are those whose last offer is one for it, each once and in the
order in which keys are offered first; and the key is satisfied just if it or one of these has a
value, be it empty, so that a key which stands in for one of these does not help. Where no key is
declared twice, the keys that count are those which their own declarations offer for it. -/
theorem alternatives_by_last_offer (registry : Registry) (key : Text) :
    (∀ stand, stand ∈ registry.alternativesFor key ↔ registry.StandsIn stand key) ∧
    (registry.alternativesFor key).Nodup ∧
    (registry.alternativesFor key).Pairwise registry.OfferedBefore ∧
    (∀ properties : PropertySet, registry.Satisfied properties key ↔
      ∃ giver value, (giver = key ∨ registry.StandsIn giver key) ∧
        properties.get? giver = some (some value)) ∧
    (registry.keys.Nodup → ∀ properties : PropertySet, registry.Satisfied properties key ↔
      ∃ giver value, (giver = key ∨ ∃ d, registry.get? giver = some d ∧ d.role = .alternative ∧
          d.replaces = some key) ∧
        properties.get? giver = some (some value)) := by
  refine ⟨fun stand => mem_alternativesFor_iff_standsIn, ?_, pairwise_alternativesFor,
    fun properties => satisfied_iff_exists_value, fun hkeys properties => ?_⟩
  · exact alternativesFor_sublist.nodup registry.alternatives.nodup_names
  · rw [satisfied_iff_exists_value]
    simp only [standsIn_iff_get? hkeys]

/-- A key that is offered first for another key and last for this one comes first; one that is
offered for another key in the end does not count. -/
example : (⟨[.alternative "d".toList "x".toList [], .alternative "c".toList "a".toList [],
    .alternative "b".toList "a".toList [], .alternative "d".toList "a".toList [],
    .optional "c".toList [], .alternative "b".toList "x".toList []]⟩ : Registry).alternativesFor
      "a".toList = ["d".toList, "c".toList] := by decide

/-- A chain of two alternatives, declared back to front, of which the far one has an empty value: it
satisfies the key in the middle, and the required key at the other end is not satisfied by that. -/
theorem alternatives_of_chain :
    let registry : Registry := ⟨[.alternative "c".toList "b".toList [], .required "a".toList [],
      .alternative "b".toList "a".toList []]⟩
    let properties : PropertySet := .ofList [("b".toList, none), ("c".toList, some [])]
    registry.keys.Nodup ∧ registry.Satisfied properties "b".toList ∧
      ¬ registry.Satisfied properties "a".toList := by
  intro registry properties
  have hkeys : registry.keys.Nodup := by decide
  obtain ⟨-, -, -, -, hmiddle⟩ := alternatives_by_last_offer registry "b".toList
  obtain ⟨-, -, -, -, hend⟩ := alternatives_by_last_offer registry "a".toList
  refine ⟨hkeys, (hmiddle hkeys properties).mpr ?_, fun hsatisfied => ?_⟩
  · exact ⟨"c".toList, [], .inr ⟨_, rfl, rfl, rfl⟩, rfl⟩
  · -- only the far key has a value, and its declaration offers it for the middle one
    obtain ⟨giver, value, hgiver, hvalue⟩ := (hend hkeys properties).mp hsatisfied
    have hmem : (giver, some value) ∈ [("b".toList, none), ("c".toList, some [])] :=
      Assignments.get?_eq_some_iff_mem.mp hvalue
    obtain rfl : giver = "c".toList := by simp_all
    rcases hgiver with heq | ⟨d, hget, -, htarget⟩
    · exact absurd heq (by decide)
    · obtain rfl : Declaration.alternative "c".toList "b".toList [] = d := Option.some.inj hget
      exact absurd htarget (by decide)

end Registry

end PropertySettings
