import Mathlib
import PropertySettings.Property

/-!
# What assignments leave

After assignments that follow one another, the last one to a name is what is found
(`Assignments.get?_assignAll`). If no name is assigned twice, just the assigned pairs are found
(`Assignments.get?_ofList_eq_some_iff`). Names stand in the order of their first occurrences
(`Assignments.names_assignAll`). Assignments are known by their names and by what is found
(`Assignments.ext_get?`), so that making assignments one after the other is an update by what they
come to (`Assignments.update_ofList`). For property sets, giving a value and taking null for absent
do not interfere (`PropertySet.value?_ofValues`).
-/

namespace PropertySettings

/-- Where no name stands twice, looking up finds just the pairs of the list. -/
theorem lookup_eq_some_iff_mem {ν α : Type} [BEq ν] [LawfulBEq ν] {entries : List (ν × α)}
    (h : (entries.map Prod.fst).Nodup) {name : ν} {value : α} :
    entries.lookup name = some value ↔ (name, value) ∈ entries := by
  induction entries with
  | nil => simp
  | cons entry rest ih =>
    obtain ⟨key, current⟩ := entry
    obtain ⟨hkey, hrest⟩ := List.nodup_cons.mp h
    rw [List.lookup_cons, List.mem_cons]
    by_cases hname : name = key
    · subst hname
      have hnot : (name, value) ∉ rest := fun hmem => hkey (List.mem_map.mpr ⟨_, hmem, rfl⟩)
      simp [hnot, eq_comm]
    · have hbeq : (name == key) = false := beq_eq_false_iff_ne.mpr hname
      simp [hbeq, hname, ih hrest]

namespace Assignments

variable {ν α β : Type} [DecidableEq ν]

/-- The last assignment to a name counts. -/
theorem get?_assignAll (a : Assignments ν α) (entries : List (ν × α)) (name : ν) :
    (a.assignAll entries).get? name = (entries.reverse.lookup name).or (a.get? name) := by
  induction entries generalizing a with
  | nil => rfl
  | cons entry rest ih =>
    obtain ⟨key, value⟩ := entry
    rw [assignAll_cons, ih, get?_assign, List.reverse_cons, List.lookup_append, Option.or_assoc]
    by_cases h : name = key
    · simp [h]
    · simp [h, List.lookup_cons, beq_eq_false_iff_ne.mpr h]

theorem get?_assignAll_of_not_mem (a : Assignments ν α) {entries : List (ν × α)} {name : ν}
    (h : ∀ entry ∈ entries, entry.1 ≠ name) : (a.assignAll entries).get? name = a.get? name := by
  have hnone : entries.reverse.lookup name = none := by
    rw [List.lookup_eq_none_iff]
    exact fun entry hentry => bne_iff_ne.mpr (h entry (List.mem_reverse.mp hentry)).symm
  rw [get?_assignAll, hnone, Option.none_or]

theorem get?_ofList (entries : List (ν × α)) (name : ν) :
    (ofList entries).get? name = entries.reverse.lookup name := by
  rw [ofList, get?_assignAll, get?_empty, Option.or_none]

/-- One more assignment counts for its own name, if that is not assigned behind it, and for no other
name, wherever it is made. -/
theorem get?_ofList_append_cons {front back : List (ν × α)} {name : ν}
    (h : name ∉ back.map Prod.fst) (value : α) (other : ν) :
    (ofList (front ++ (name, value) :: back)).get? other =
      if other = name then some value else (ofList (front ++ back)).get? other := by
  have hfront : ofList (front ++ (name, value) :: back)
      = ((ofList front).assign name value).assignAll back := by
    rw [ofList, assignAll_append, assignAll_cons, ofList]
  rw [hfront, get?_assignAll, get?_assign]
  split
  case isTrue heq =>
    have hnone : back.reverse.lookup other = none := by
      rw [List.lookup_eq_none_iff]
      rintro entry hentry
      refine bne_iff_ne.mpr fun hname => h ?_
      exact List.mem_map.mpr ⟨entry, List.mem_reverse.mp hentry, (heq ▸ hname).symm⟩
    rw [hnone, Option.none_or]
  case isFalse => rw [← get?_assignAll, ofList, ← assignAll_append, ofList]

/-- If no name is assigned twice, what is found is what was assigned. -/
theorem get?_ofList_eq_some_iff {entries : List (ν × α)} (h : (entries.map Prod.fst).Nodup)
    {name : ν} {value : α} : (ofList entries).get? name = some value ↔ (name, value) ∈ entries := by
  have hreverse : (entries.reverse.map Prod.fst).Nodup := by
    rw [List.map_reverse]
    exact (List.reverse_perm _).nodup_iff.mpr h
  rw [get?_ofList, lookup_eq_some_iff_mem hreverse, List.mem_reverse]

/-- If no name is assigned twice, the order of the assignments does not matter to what is found. -/
theorem get?_ofList_perm {entries others : List (ν × α)} (hperm : entries.Perm others)
    (h : (entries.map Prod.fst).Nodup) (name : ν) :
    (ofList others).get? name = (ofList entries).get? name := by
  have hothers : (others.map Prod.fst).Nodup := (hperm.map Prod.fst).nodup_iff.mp h
  refine Option.ext fun value => ?_
  rw [get?_ofList_eq_some_iff hothers, get?_ofList_eq_some_iff h, hperm.mem_iff]

/-- Where a table says what is assigned to each name, if anything, that is what is found. -/
theorem get?_ofList_filterMap {table : List (ν × β)} (h : (table.map Prod.fst).Nodup)
    (f : β → Option α) {name : ν} {b : β} (hb : (name, b) ∈ table) :
    (ofList (table.filterMap fun (name, b) => (f b).map (name, ·))).get? name = f b := by
  have hnodup : ((table.filterMap fun (name, b) => (f b).map (name, ·)).map Prod.fst).Nodup := by
    refine List.Nodup.sublist ?_ h
    clear h hb
    induction table with
    | nil => simp
    | cons entry rest ih =>
      obtain ⟨name, b⟩ := entry
      simp only [List.filterMap_cons, List.map_cons]
      cases f b with
      | none => exact ih.cons name
      | some value => exact ih.cons_cons name
  refine Option.ext fun value => (get?_ofList_eq_some_iff hnodup).trans ?_
  rw [List.mem_filterMap]
  constructor
  · rintro ⟨⟨name', b'⟩, hb', hvalue⟩
    obtain ⟨value', hf, heq⟩ := Option.map_eq_some_iff.mp hvalue
    obtain ⟨rfl, rfl⟩ := Prod.mk.inj heq
    -- the table has one row for the name
    have hrow := (lookup_eq_some_iff_mem h).mpr hb'
    rw [(lookup_eq_some_iff_mem h).mpr hb] at hrow
    rwa [Option.some.inj hrow]
  · exact fun hf => ⟨_, hb, by simp [hf]⟩

/-- A name that the table does not have is not assigned. -/
theorem get?_ofList_filterMap_of_not_mem {table : List (ν × β)} (f : β → Option α) {name : ν}
    (h : name ∉ table.map Prod.fst) :
    (ofList (table.filterMap fun (name, b) => (f b).map (name, ·))).get? name = none := by
  rw [get?_ofList, List.lookup_eq_none_iff]
  intro entry hentry
  obtain ⟨⟨name', b⟩, hrow, hvalue⟩ := List.mem_filterMap.mp (List.mem_reverse.mp hentry)
  obtain ⟨value, -, rfl⟩ := Option.map_eq_some_iff.mp hvalue
  have hne : name ≠ name' := by
    rintro rfl
    exact h (List.mem_map.mpr ⟨_, hrow, rfl⟩)
  simpa using hne

theorem get?_map (f : α → β) (a : Assignments ν α) (name : ν) :
    (a.map f).get? name = (a.get? name).map f := by
  show List.lookup name (a.toList.map fun entry => (entry.1, f entry.2)) = _
  rw [get?]
  induction a.toList with
  | nil => rfl
  | cons entry rest ih =>
    rw [List.map_cons, List.lookup_cons, List.lookup_cons]
    cases name == entry.1 with
    | true => rfl
    | false => exact ih

/-! ### The last assignment to a name -/

/-- Among the pairs, the last one with the name has the value. -/
def LastIn (entries : List (ν × α)) (name : ν) (value : α) : Prop :=
  ∃ before after, entries = before ++ (name, value) :: after ∧ ∀ entry ∈ after, entry.1 ≠ name

theorem lookup_reverse_eq_some_iff {entries : List (ν × α)} {name : ν} {value : α} :
    entries.reverse.lookup name = some value ↔ LastIn entries name value := by
  rw [List.lookup_eq_some_iff]
  constructor
  · rintro ⟨after, before, hsplit, hafter⟩
    refine ⟨before.reverse, after.reverse, ?_, fun entry hentry => ?_⟩
    · rw [← List.reverse_reverse entries, hsplit]
      simp
    · exact (bne_iff_ne.mp (hafter entry (List.mem_reverse.mp hentry))).symm
  · rintro ⟨before, after, rfl, hafter⟩
    refine ⟨after.reverse, before.reverse, by simp, fun entry hentry => ?_⟩
    exact bne_iff_ne.mpr (hafter entry (List.mem_reverse.mp hentry)).symm

theorem get?_ofList_eq_some_iff_lastIn {entries : List (ν × α)} {name : ν} {value : α} :
    (ofList entries).get? name = some value ↔ LastIn entries name value := by
  rw [get?_ofList, lookup_reverse_eq_some_iff]

theorem get?_eq_some_iff_mem {a : Assignments ν α} {name : ν} {value : α} :
    a.get? name = some value ↔ (name, value) ∈ a.toList :=
  lookup_eq_some_iff_mem a.nodup_names

theorem get?_eq_none_iff {a : Assignments ν α} {name : ν} : a.get? name = none ↔ name ∉ a.names := by
  rw [get?, List.lookup_eq_none_iff, names, List.mem_map]
  constructor
  · rintro h ⟨entry, hentry, rfl⟩
    exact absurd (h entry hentry) (by simp)
  · intro h entry hentry
    exact bne_iff_ne.mpr fun hname => h ⟨entry, hentry, hname.symm⟩

/-- Whatever is left of assignments was assigned. -/
theorem mem_of_mem_toList_ofList {entries : List (ν × α)} {entry : ν × α}
    (h : entry ∈ (ofList entries).toList) : entry ∈ entries := by
  obtain ⟨name, value⟩ := entry
  obtain ⟨before, after, rfl, -⟩ :=
    get?_ofList_eq_some_iff_lastIn.mp (get?_eq_some_iff_mem.mpr h)
  exact List.mem_append_right _ List.mem_cons_self

/-- The names in order and what is found make up the assignments. -/
theorem ext_get? {a b : Assignments ν α} (hnames : a.names = b.names)
    (hget : ∀ name, a.get? name = b.get? name) : a = b := by
  have hpairs : ∀ c : Assignments ν α,
      c.toList.map (fun entry => (entry.1, some entry.2))
        = c.names.map fun name => (name, c.get? name) := by
    intro c
    rw [names, List.map_map]
    refine List.map_congr_left fun entry hentry => ?_
    rw [Function.comp_apply, get?_eq_some_iff_mem.mpr hentry]
  have hinjective : Function.Injective fun entry : ν × α => (entry.1, some entry.2) := by
    rintro ⟨name, value⟩ ⟨name', value'⟩ h
    simpa using h
  refine Assignments.ext (List.map_injective_iff.mpr hinjective ?_)
  calc a.toList.map (fun entry => (entry.1, some entry.2))
      = a.names.map fun name => (name, a.get? name) := hpairs a
    _ = b.names.map fun name => (name, b.get? name) := by simp only [hnames, hget]
    _ = b.toList.map fun entry => (entry.1, some entry.2) := (hpairs b).symm

/-! ### The order of names -/

/-- Each name once, in the order in which they come up first. -/
def firstOccurrences (names : List ν) : List ν :=
  names.eraseDups

@[simp]
theorem mem_firstOccurrences {names : List ν} {name : ν} :
    name ∈ firstOccurrences names ↔ name ∈ names :=
  List.mem_eraseDups

theorem firstOccurrences_concat (names : List ν) (name : ν) :
    firstOccurrences (names ++ [name])
      = if name ∈ names then firstOccurrences names else firstOccurrences names ++ [name] := by
  rw [firstOccurrences, List.eraseDups_append, List.cons_removeAll]
  by_cases h : name ∈ names <;>
    simp [h, List.nil_removeAll, List.eraseDups_cons, firstOccurrences]

theorem firstOccurrences_of_nodup {names : List ν} (h : names.Nodup) :
    firstOccurrences names = names := by
  induction names using List.reverseRecOn with
  | nil => exact List.eraseDups_nil
  | append_singleton names name ih =>
    obtain ⟨hnames, -, hdisjoint⟩ := List.nodup_append.mp h
    rw [firstOccurrences_concat, if_neg fun hmem => hdisjoint name hmem name (by simp) rfl,
      ih hnames]

/-- Names stand in the order of their first occurrences. -/
theorem names_assignAll (a : Assignments ν α) (entries : List (ν × α)) :
    (a.assignAll entries).names = firstOccurrences (a.names ++ entries.map Prod.fst) := by
  induction entries using List.reverseRecOn with
  | nil =>
    rw [assignAll_nil, List.map_nil, List.append_nil]
    exact (firstOccurrences_of_nodup a.nodup_names).symm
  | append_singleton entries entry ih =>
    obtain ⟨name, value⟩ := entry
    rw [assignAll_append, assignAll_cons, assignAll_nil, names_assign, ih, List.map_append,
      ← List.append_assoc, List.map_singleton, firstOccurrences_concat]
    simp only [mem_firstOccurrences]

theorem names_ofList (entries : List (ν × α)) :
    (ofList entries).names = firstOccurrences (entries.map Prod.fst) :=
  names_assignAll ∅ entries

/-- If no name is assigned twice, the assignments are the list. -/
theorem toList_ofList {entries : List (ν × α)} (h : (entries.map Prod.fst).Nodup) :
    (ofList entries).toList = entries := by
  have hself : ofList entries = ⟨entries, h⟩ := by
    refine ext_get? ((names_ofList entries).trans (firstOccurrences_of_nodup h)) fun name => ?_
    refine Option.ext fun value => (get?_ofList_eq_some_iff h).trans ?_
    exact (get?_eq_some_iff_mem (a := ⟨entries, h⟩)).symm
  rw [hself]

/-! ### Updates -/

theorem get?_update (a b : Assignments ν α) (name : ν) :
    (a.update b).get? name = (b.get? name).or (a.get? name) := by
  have hreverse : b.toList.reverse.lookup name = b.get? name := by
    rw [← get?_ofList, ofList]
    exact Option.ext fun value =>
      (get?_ofList_eq_some_iff b.nodup_names).trans get?_eq_some_iff_mem.symm
  rw [update, get?_assignAll, hreverse]

theorem names_update (a b : Assignments ν α) :
    (a.update b).names = firstOccurrences (a.names ++ b.names) :=
  names_assignAll a b.toList

theorem update_assign (a b : Assignments ν α) (name : ν) (value : α) :
    a.update (b.assign name value) = (a.update b).assign name value := by
  refine ext_get? ?_ fun other => ?_
  · rw [names_update, names_assign, names_assign, names_update]
    by_cases h : name ∈ b.names
    · simp [h]
    · simp only [h, if_false, ← List.append_assoc, firstOccurrences_concat, mem_firstOccurrences]
  · rw [get?_update, get?_assign, get?_assign, get?_update]
    split <;> simp

/-- To make assignments one after the other is to update by what they come to. -/
theorem update_ofList (a : Assignments ν α) (entries : List (ν × α)) :
    a.update (ofList entries) = a.assignAll entries := by
  induction entries using List.reverseRecOn with
  | nil => rfl
  | append_singleton entries entry ih =>
    obtain ⟨name, value⟩ := entry
    calc a.update (ofList (entries ++ [(name, value)]))
        = a.update ((ofList entries).assign name value) := by rw [ofList, assignAll_append]; rfl
      _ = (a.assignAll entries).assign name value := by rw [update_assign, ih]
      _ = a.assignAll (entries ++ [(name, value)]) := by rw [assignAll_append]; rfl

theorem ofList_append (first second : List (ν × α)) :
    ofList (first ++ second) = (ofList first).update (ofList second) := by
  rw [update_ofList, ofList, assignAll_append, ofList]

/-- The last assignment counts, those of the second list before those of the first. -/
theorem get?_update_ofList_eq_some_iff {first second : List (ν × α)} {name : ν} {value : α} :
    ((ofList first).update (ofList second)).get? name = some value ↔
      LastIn second name value ∨ (name ∉ second.map Prod.fst ∧ LastIn first name value) := by
  have hnone : (ofList second).get? name = none ↔ name ∉ second.map Prod.fst := by
    rw [get?_eq_none_iff, names_ofList, mem_firstOccurrences]
  rw [get?_update, Option.or_eq_some_iff, get?_ofList_eq_some_iff_lastIn,
    get?_ofList_eq_some_iff_lastIn, hnone]

theorem names_update_ofList (first second : List (ν × α)) :
    ((ofList first).update (ofList second)).names
      = firstOccurrences (first.map Prod.fst ++ second.map Prod.fst) := by
  rw [← ofList_append, names_ofList, List.map_append]

end Assignments

/-- In a set without nulls, a key has the value that is found. -/
theorem PropertySet.value?_ofValues (values : Assignments Text Text) (key : Text) :
    (ofValues values).value? key = values.get? key := by
  rw [value?, ofValues, Assignments.get?_map]
  cases values.get? key <;> rfl

end PropertySettings
