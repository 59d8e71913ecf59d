/-!
# Assignments

Values assigned to names, in the order in which the names were first assigned. A name that is
assigned again keeps its place and takes the new value; so each name occurs once.

`get?_assign` says what is found after an assignment, `names_assign` where the name stands.
-/

namespace PropertySettings

/-- Values by name, in the order of first assignment. -/
structure Assignments (ν : Type) (α : Type) where
  toList : List (ν × α)
  nodup_names : (toList.map Prod.fst).Nodup

namespace Assignments

variable {ν α β : Type}

/-- The assigned names in order. -/
def names (a : Assignments ν α) : List ν :=
  a.toList.map Prod.fst

/-- No name is assigned. -/
def empty : Assignments ν α :=
  ⟨[], by simp⟩

instance : EmptyCollection (Assignments ν α) := ⟨empty⟩

instance : Inhabited (Assignments ν α) := ⟨empty⟩

/-- Applies a function to every value. -/
def map (f : α → β) (a : Assignments ν α) : Assignments ν β :=
  ⟨a.toList.map fun (name, value) => (name, f value), by
    simpa [List.map_map, Function.comp_def] using a.nodup_names⟩

@[ext]
theorem ext {a b : Assignments ν α} (h : a.toList = b.toList) : a = b := by
  cases a
  cases b
  simpa using h

@[simp]
theorem toList_empty : (∅ : Assignments ν α).toList = [] := rfl

variable [DecidableEq ν]

instance [DecidableEq α] : DecidableEq (Assignments ν α) := fun a b =>
  decidable_of_iff (a.toList = b.toList) ⟨ext, fun h => h ▸ rfl⟩

/-- The value of a name. -/
def get? (a : Assignments ν α) (name : ν) : Option α :=
  a.toList.lookup name

/-- Puts the value in the place of the name, or at the end if the name is new. -/
def insertAt (name : ν) (value : α) : List (ν × α) → List (ν × α)
  | [] => [(name, value)]
  | entry :: rest =>
    if entry.1 = name then (name, value) :: rest else entry :: insertAt name value rest

theorem map_fst_insertAt (name : ν) (value : α) (entries : List (ν × α)) :
    (insertAt name value entries).map Prod.fst =
      if name ∈ entries.map Prod.fst then entries.map Prod.fst
      else entries.map Prod.fst ++ [name] := by
  induction entries with
  | nil => simp [insertAt]
  | cons entry rest ih =>
    by_cases h : entry.1 = name
    · simp [insertAt, h]
    · have h' : ¬ name = entry.1 := fun e => h e.symm
      simp only [insertAt, h, if_false, List.map_cons, ih, List.mem_cons, h', false_or]
      split <;> simp

theorem lookup_insertAt (name : ν) (value : α) (entries : List (ν × α)) (other : ν) :
    (insertAt name value entries).lookup other =
      if other = name then some value else entries.lookup other := by
  induction entries with
  | nil =>
    by_cases h : other = name
    · simp [insertAt, h]
    · simp [insertAt, List.lookup_cons, beq_false_of_ne h, h]
  | cons entry rest ih =>
    obtain ⟨key, current⟩ := entry
    by_cases h : key = name
    · subst h
      by_cases h' : other = key
      · simp [insertAt, h']
      · simp [insertAt, List.lookup_cons, beq_false_of_ne h', h']
    · by_cases h' : other = key
      · subst h'
        simp [insertAt, h]
      · simp only [insertAt, h, if_false, List.lookup_cons, beq_false_of_ne h', ih]

/-- Gives the name the value. -/
def assign (a : Assignments ν α) (name : ν) (value : α) : Assignments ν α :=
  ⟨insertAt name value a.toList, by
    rw [map_fst_insertAt]
    split
    · exact a.nodup_names
    · next h =>
      refine List.nodup_append.mpr ⟨a.nodup_names, by simp, fun x hx y hy => ?_⟩
      rw [List.mem_singleton] at hy
      subst hy
      exact fun e => h (e ▸ hx)⟩

/-- The assignments to the names that a test lets through. -/
def filter (a : Assignments ν α) (keep : ν → Bool) : Assignments ν α :=
  ⟨a.toList.filter fun (name, _) => keep name, (List.filter_sublist.map _).nodup a.nodup_names⟩

/-- Takes the name and its value away. -/
def erase (a : Assignments ν α) (name : ν) : Assignments ν α :=
  a.filter (· ≠ name)

/-- Makes assignments one after the other. -/
def assignAll (a : Assignments ν α) (entries : List (ν × α)) : Assignments ν α :=
  entries.foldl (fun a (name, value) => a.assign name value) a

/-- The assignments that a list of pairs makes. -/
def ofList (entries : List (ν × α)) : Assignments ν α :=
  assignAll ∅ entries

/-- Makes the assignments of `b` after those of `a`. -/
def update (a b : Assignments ν α) : Assignments ν α :=
  a.assignAll b.toList

/-! ### What is found, and where -/

@[simp]
theorem get?_empty (name : ν) : (∅ : Assignments ν α).get? name = none := rfl

theorem get?_assign (a : Assignments ν α) (name : ν) (value : α) (other : ν) :
    (a.assign name value).get? other = if other = name then some value else a.get? other :=
  lookup_insertAt name value a.toList other

theorem names_assign (a : Assignments ν α) (name : ν) (value : α) :
    (a.assign name value).names = if name ∈ a.names then a.names else a.names ++ [name] :=
  map_fst_insertAt name value a.toList

@[simp]
theorem assignAll_nil (a : Assignments ν α) : a.assignAll [] = a := rfl

@[simp]
theorem assignAll_cons (a : Assignments ν α) (name : ν) (value : α) (rest : List (ν × α)) :
    a.assignAll ((name, value) :: rest) = (a.assign name value).assignAll rest := rfl

theorem assignAll_append (a : Assignments ν α) (first second : List (ν × α)) :
    a.assignAll (first ++ second) = (a.assignAll first).assignAll second :=
  List.foldl_append

end Assignments

end PropertySettings
