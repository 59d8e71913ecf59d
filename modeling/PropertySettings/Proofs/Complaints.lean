import Mathlib
import PropertySettings.Proofs.Assignments
import PropertySettings.Proofs.PathText
import PropertySettings.Settings.Basic

/-!
# Complaints and what settles them

A missing key has **remedies**: the key itself and those that can stand in for it. They are what a
complaint names. The complaints are one for each missing key, in the order of the registry, and
there are none just if the properties are complete. Giving a value to a remedy of each complaint
makes the properties complete, for values that are given are never taken away
(`PropertySet.gives_give_iff`); and nothing but a remedy settles a complaint
(`Registry.complaints_name_what_settles_them`). The registry may be as odd as it likes: remedies of
different keys can overlap, and a required key can be a remedy of another one.
-/

namespace PropertySettings

namespace PropertySet

/-- Gives values under their keys; none of them is null. -/
def give (properties : PropertySet) (values : List (Text × Text)) : PropertySet :=
  properties.assignAll (values.map fun (key, value) => (key, some value))

variable {properties : PropertySet} {key : Text}

/-- After values are given, just those keys have one that got it or had one before. -/
theorem gives_give_iff {values : List (Text × Text)} :
    (properties.give values).Gives key ↔ key ∈ values.map Prod.fst ∨ properties.Gives key := by
  induction values generalizing properties with
  | nil => simp [give]
  | cons entry rest ih =>
    obtain ⟨name, value⟩ := entry
    have hassign : Gives (properties.assign name (some value)) key ↔
        key = name ∨ properties.Gives key := by
      rw [Gives, value?_assign, Gives]
      split <;> simp_all
    calc (properties.give ((name, value) :: rest)).Gives key
        ↔ (give (properties.assign name (some value)) rest).Gives key := Iff.rfl
      _ ↔ key ∈ rest.map Prod.fst ∨ key = name ∨ properties.Gives key := by rw [ih, hassign]
      _ ↔ key ∈ ((name, value) :: rest).map Prod.fst ∨ properties.Gives key := by
        rw [List.map_cons, List.mem_cons, or_left_comm, or_assoc]

/-- A key that is not assigned keeps its value. -/
theorem value?_assignAll_of_not_mem {entries : List (Text × Option Text)}
    (h : ∀ entry ∈ entries, entry.1 ≠ key) :
    value? (properties.assignAll entries) key = properties.value? key :=
  congrArg Option.join (properties.get?_assignAll_of_not_mem h)

end PropertySet

namespace Registry

variable {registry : Registry} {properties others : PropertySet} {key : Text}

/-- The keys of which one must have a value: the key itself, and those that can stand in for it. -/
def remedies (registry : Registry) (key : Text) : List Text :=
  key :: registry.alternativesFor key

theorem satisfied_iff_exists_remedy :
    registry.Satisfied properties key ↔ ∃ remedy ∈ registry.remedies key, properties.Gives remedy := by
  simp [Satisfied, remedies]

/-- Whether a key is satisfied depends on its remedies alone. -/
theorem satisfied_congr
    (h : ∀ remedy ∈ registry.remedies key, others.value? remedy = properties.value? remedy) :
    registry.Satisfied others key ↔ registry.Satisfied properties key := by
  simp only [satisfied_iff_exists_remedy, PropertySet.Gives]
  exact exists_congr fun remedy => and_congr_right fun hremedy => by rw [h remedy hremedy]

theorem mem_missing_iff :
    key ∈ registry.missing properties ↔
      key ∈ registry.requiredKeys ∧ ¬ registry.Satisfied properties key := by
  simp [missing]

/-- A key is missing as often as it is required, or not at all. -/
theorem count_missing :
    (registry.missing properties).count key =
      if registry.Satisfied properties key then 0 else registry.requiredKeys.count key := by
  rw [missing]
  split
  case isTrue h => exact List.count_eq_zero.mpr fun hmem => by simp [h] at hmem
  case isFalse h => exact List.count_filter (by simp [h])

theorem map_key_complaints :
    (registry.complaints properties).map (·.key) = registry.missing properties := by
  simp [complaints, Function.comp_def]

theorem complaints_eq_nil_iff :
    registry.complaints properties = [] ↔ registry.Complete properties := by
  rw [← missing_eq_nil_iff, complaints, List.map_eq_nil_iff]

theorem mem_complaints_iff {complaint : Complaint} :
    complaint ∈ registry.complaints properties ↔
      complaint.key ∈ registry.missing properties ∧
        complaint.message = registry.missingMessage complaint.key := by
  rw [complaints, List.mem_map]
  constructor
  · rintro ⟨key, hkey, rfl⟩
    exact ⟨hkey, rfl⟩
  · rintro ⟨hkey, hmessage⟩
    exact ⟨_, hkey, by rw [← hmessage]⟩

/-- There are as many complaints about a key as the key is missing times. -/
theorem count_complaints {complaint : Complaint}
    (h : complaint.message = registry.missingMessage complaint.key) :
    (registry.complaints properties).count complaint
      = (registry.missing properties).count complaint.key := by
  have hinjective : Function.Injective fun key => Complaint.mk key (registry.missingMessage key) :=
    fun _ _ heq => congrArg Complaint.key heq
  have hself : complaint = ⟨complaint.key, registry.missingMessage complaint.key⟩ := by rw [← h]
  rw [complaints]
  nth_rewrite 1 [hself]
  exact List.count_map_of_injective _ _ hinjective _

/-- The message of a complaint names all that can stand in for its key. -/
theorem infix_missingMessage {stand : Text} (h : stand ∈ registry.alternativesFor key) :
    stand <:+: registry.missingMessage key := by
  unfold missingMessage
  split
  case h_1 hnil => simp [hnil] at h
  case h_2 => exact ((Text.infix_intercalate h).trans (List.infix_append _ _ _))

/-- **What settles complaints.** There are none just if the properties are complete; otherwise they
are about the missing keys, in order and with repeats, and each one names all that can stand in for
its key. Once a remedy of each complaint is given, whichever it is and whatever the value, the
properties are complete. As long as no remedy of a complaint is assigned, it is made as often as
before. -/
theorem complaints_name_what_settles_them (registry : Registry) (properties : PropertySet)
    (separator : Text) :
    let complaints := registry.complaints properties
    ((⟨properties, registry, separator⟩ : Settings).Complete ↔ registry.missing properties = []) ∧
    (registry.missing properties = [] ↔ complaints = []) ∧
    complaints.map (·.key) = registry.missing properties ∧
    (∀ complaint ∈ complaints, ∀ stand ∈ registry.alternativesFor complaint.key,
      stand <:+: complaint.message) ∧
    (∀ values : List (Text × Text),
      (∀ complaint ∈ complaints, ∃ entry ∈ values, entry.1 ∈ registry.remedies complaint.key) →
        (⟨properties.give values, registry, separator⟩ : Settings).Complete) ∧
    ∀ complaint ∈ complaints, ∀ entries : List (Text × Option Text),
      (∀ entry ∈ entries, entry.1 ∉ registry.remedies complaint.key) →
        (registry.complaints (properties.assignAll entries)).count complaint
          = complaints.count complaint := by
  intro complaints
  have hcomplete : registry.Complete properties ↔ registry.missing properties = [] :=
    (registry.missing_eq_nil_iff properties).symm
  have hmessage : ∀ complaint ∈ complaints,
      complaint.message = registry.missingMessage complaint.key :=
    fun complaint h => (mem_complaints_iff.mp h).2
  refine ⟨hcomplete, hcomplete.symm.trans complaints_eq_nil_iff.symm, map_key_complaints,
    fun complaint h stand hstand => ?_, fun values hvalues => ?_,
    fun complaint h entries hentries => ?_⟩
  · rw [hmessage complaint h]
    exact infix_missingMessage hstand
  · show registry.Complete (properties.give values)
    intro key hkey
    rw [satisfied_iff_exists_remedy]
    by_cases hsatisfied : registry.Satisfied properties key
    · -- what satisfies a key is kept
      obtain ⟨remedy, hremedy, hgives⟩ := satisfied_iff_exists_remedy.mp hsatisfied
      exact ⟨remedy, hremedy, PropertySet.gives_give_iff.mpr (.inr hgives)⟩
    · -- any other key is complained about
      have hmissing := mem_missing_iff.mpr ⟨hkey, hsatisfied⟩
      obtain ⟨entry, hentry, hremedy⟩ :=
        hvalues ⟨key, registry.missingMessage key⟩ (mem_complaints_iff.mpr ⟨hmissing, rfl⟩)
      exact ⟨entry.1, hremedy,
        PropertySet.gives_give_iff.mpr (.inl (List.mem_map_of_mem hentry))⟩
  · have hsame : registry.Satisfied (properties.assignAll entries) complaint.key ↔
        registry.Satisfied properties complaint.key :=
      satisfied_congr fun remedy hremedy => PropertySet.value?_assignAll_of_not_mem
        fun entry hentry heq => hentries entry hentry (heq ▸ hremedy)
    rw [count_complaints (hmessage complaint h), count_complaints (hmessage complaint h),
      count_missing, count_missing, if_congr hsame rfl rfl]

/-- A key that is required twice, one that is required and can stand in for it, and one that is
declared to stand in for both, of which the last counts. -/
theorem complaints_of_overlapping_remedies :
    let registry : Registry := ⟨[.required "a".toList [], .required "b".toList [],
      .required "a".toList [], .alternative "c".toList "a".toList [],
      .alternative "b".toList "a".toList [], .alternative "c".toList "b".toList []]⟩
    let properties : PropertySet := .ofList [("c".toList, none), ("d".toList, some "x".toList)]
    let complaint : Complaint :=
      ⟨"a".toList, "Required property is not set (or use b).".toList⟩
    registry.missing properties = ["a".toList, "b".toList, "a".toList] ∧
      registry.Complete (properties.give [("b".toList, [])]) ∧
      complaint ∈ registry.complaints properties ∧
      (registry.complaints (properties.assignAll
        [("c".toList, some []), ("d".toList, none)])).count complaint = 2 := by
  intro registry properties complaint
  obtain ⟨-, -, -, -, hsettled, hkept⟩ :=
    complaints_name_what_settles_them registry properties ":".toList
  have hcomplaint : complaint ∈ registry.complaints properties := by decide
  exact ⟨by decide, hsettled [("b".toList, [])] (by decide), hcomplaint,
    (hkept complaint hcomplaint [("c".toList, some []), ("d".toList, none)] (by decide)).trans
      (by decide)⟩

end Registry

end PropertySettings
