import Mathlib
import PropertySettings.Proofs.Assignments
import PropertySettings.Proofs.Completeness
import PropertySettings.Proofs.PathText

/-!
# Settings that are given again

A snapshot is shown as named fields. From the fields alone, properties can be written that give the
same settings: the number by its digits, flags by their words, directories as they are shown, and
each list of paths inline, joined by the separator. Nothing is given for a field that is null, and
no list file is named.

`Settings.resolve_ofShown`: these properties resolve to the same snapshot whatever the files are,
provided that no path which came from a list file holds the separator. For the paths of an inline
list there is nothing to provide: they cannot hold it. Three round trips meet in it, those of
numerals, of path texts, and of lists that are joined and cut.
-/

namespace PropertySettings

namespace Value

/-- The value of a named field. -/
def field? (value : Value) (name : Text) : Option Value :=
  match value with
  | .fields entries => entries.lookup name
  | _ => none

/-- The text, if the value is one. -/
def text? : Value → Option Text
  | .text t => some t
  | _ => none

/-- What is written for a shown setting as the value of its property, if anything. -/
def propertyText? (separator : Text) : Value → Option Text
  | .bool b => some (flagWord b)
  | .int n => some (Numeral.ofInt n)
  | .text t => some t
  | .list items => some (List.intercalate separator (items.filterMap text?))
  | .null | .fields _ => none

theorem propertyText?_pathValues (separator : Text) (paths : List Path) :
    (Snapshot.pathValues paths).propertyText? separator =
      some (List.intercalate separator (paths.map Path.toText)) := by
  rw [Snapshot.pathValues, propertyText?, List.filterMap_map]
  exact congrArg (fun texts => some (List.intercalate separator texts))
    (congrFun List.filterMap_eq_map paths)

end Value

namespace PropertySet

/-- The keys of the properties that give settings, and the fields by which these are shown. -/
def shownFields : List (Text × Text) :=
  [(Property.bytecodeVersion, "bytecode_version".toList),
    (Property.defaultMethods, "default_methods".toList),
    (Property.inputDir, "input_dir".toList),
    (Property.outputDir, "output_dir".toList),
    (Property.classpath, "classpath".toList),
    (Property.includedFiles, "included_files".toList),
    (Property.javacHacks, "javac_hacks".toList),
    (Property.quiet, "quiet".toList)]

theorem nodup_shownFields : (shownFields.map Prod.fst).Nodup := by decide

/-- The properties that give shown settings again. -/
def ofShown (separator : Text) (shown : Value) : PropertySet :=
  .ofValues (.ofList (shownFields.filterMap fun (key, name) =>
    ((shown.field? name).bind (·.propertyText? separator)).map (key, ·)))

/-- What a property is given is what is written for the field. -/
theorem value?_ofShown (separator : Text) (shown : Value) {key name : Text}
    (h : (key, name) ∈ shownFields) :
    (ofShown separator shown).value? key =
      (shown.field? name).bind (·.propertyText? separator) := by
  rw [ofShown, value?_ofValues]
  exact Assignments.get?_ofList_filterMap nodup_shownFields
    (fun name => (shown.field? name).bind (·.propertyText? separator)) h

/-- No other property is given. -/
theorem value?_ofShown_of_not_mem (separator : Text) (shown : Value) {key : Text}
    (h : key ∉ shownFields.map Prod.fst) : (ofShown separator shown).value? key = none := by
  rw [ofShown, value?_ofValues]
  exact Assignments.get?_ofList_filterMap_of_not_mem
    (fun name => (shown.field? name).bind (·.propertyText? separator)) h

end PropertySet

/-! ### Lists of paths -/

namespace PathList

variable {files : FileTree} {properties : PropertySet} {key fileKey : Text} {c : Char}
  {paths : List Path}

theorem outcome_resolve_of_inline {separator inline : Text} (hsep : separator ≠ [])
    (h : properties.value? key = some inline) :
    (resolve files properties key fileKey separator).outcome =
      .ok (some (ofPieces (Text.pieces separator inline))) := by
  rw [outcome_resolve, h]
  show (parse separator inline).map some = _
  rw [parse_of_ne_nil hsep]
  rfl

/-- Only a list file can bring in a path that holds the separator. -/
theorem not_mem_toText_of_outcome_resolve
    (h : (resolve files properties key fileKey [c]).outcome = .ok (some paths))
    (hfile : properties.value? key = none → ∀ path ∈ paths, c ∉ path.toText) :
    ∀ path ∈ paths, c ∉ path.toText := by
  cases hkey : properties.value? key with
  | none => exact hfile hkey
  | some inline =>
    rw [outcome_resolve_of_inline (by simp) hkey] at h
    obtain rfl := Option.some.inj (Except.ok.inj h)
    exact fun path hpath => not_mem_toText hpath

/-- Paths that are given inline by their texts are found again. -/
theorem outcome_resolve_of_joined (hpaths : ∀ path ∈ paths, c ∉ path.toText)
    (h : properties.value? key = some (List.intercalate [c] (paths.map Path.toText))) :
    (resolve files properties key fileKey [c]).outcome = .ok (some paths) := by
  rw [outcome_resolve_of_inline (by simp) h, ofPieces_intercalate hpaths]

end PathList

/-! ### Snapshots -/

namespace Settings

variable {properties : PropertySet} {registry : Registry} {c : Char} {files : FileTree}
  {snapshot : Snapshot}

/-- **Shown settings are found again.** Whatever properties and files a snapshot comes from, the
properties that are written for its fields resolve to it with any files, unless a path that was
read from a list file holds the separator. -/
theorem resolve_ofShown
    (h : (resolve ⟨properties, registry, [c]⟩ files).outcome = .ok snapshot)
    (hclasspath : properties.value? Property.classpath = none →
      ∀ path ∈ snapshot.classpath, c ∉ path.toText)
    (hincluded : properties.value? Property.includedFiles = none →
      ∀ paths, snapshot.includedFiles = some paths → ∀ path ∈ paths, c ∉ path.toText)
    (otherRegistry : Registry) (otherFiles : FileTree) :
    let again := resolve ⟨.ofShown [c] snapshot.toValue, otherRegistry, [c]⟩ otherFiles
    again.outcome = .ok snapshot ∧
      again.outcome.map Snapshot.toValue = .ok snapshot.toValue := by
  obtain ⟨hversion, -, -, hpaths, hfiles, -⟩ := resolve_eq_ok_iff.mp h
  have hpaths := outcome_classpath_eq_ok_iff.mp hpaths
  have given (key name : Text) (hrow : (key, name) ∈ PropertySet.shownFields) :=
    PropertySet.value?_ofShown [c] snapshot.toValue hrow
  suffices hagain :
      (resolve ⟨.ofShown [c] snapshot.toValue, otherRegistry, [c]⟩ otherFiles).outcome =
        .ok snapshot by
    intro again
    exact ⟨hagain, by rw [hagain]; rfl⟩
  refine resolve_eq_ok_iff.mpr ⟨?_, ?_, ?_, ?_, ?_, ?_, ?_, ?_⟩
  · show readInteger _ (PropertySet.value? _ Property.bytecodeVersion) _ = _
    rw [given Property.bytecodeVersion "bytecode_version".toList (by decide)]
    exact readInteger_ofInt_of_eq_ok (by decide) hversion
  · rw [outcome_inputDir, given Property.inputDir "input_dir".toList (by decide)]
    exact congrArg Except.ok snapshot.inputDir.ofText_toText
  · rw [outcome_outputDir, given Property.outputDir "output_dir".toList (by decide)]
    exact congrArg Except.ok snapshot.outputDir.ofText_toText
  · refine outcome_classpath_eq_ok_iff.mpr (PathList.outcome_resolve_of_joined
      (PathList.not_mem_toText_of_outcome_resolve hpaths hclasspath) ?_)
    exact (given Property.classpath "classpath".toList (by decide)).trans
      (Value.propertyText?_pathValues _ _)
  · have hshown := given Property.includedFiles "included_files".toList (by decide)
    have hfield : snapshot.toValue.field? "included_files".toList =
        some (snapshot.includedFiles.elim .null Snapshot.pathValues) := by
      obtain ⟨_, _, _, _, _, _ | _, _, _⟩ := snapshot <;> rfl
    rw [hfield] at hshown
    cases hincl : snapshot.includedFiles with
    | none =>
      -- a null field leaves both properties out, so that no list is found
      rw [hincl] at hshown
      exact PathList.outcome_resolve_eq_ok_none_iff.mpr
        ⟨hshown, PropertySet.value?_ofShown_of_not_mem _ _ (by decide)⟩
    | some paths =>
      rw [hincl] at hshown hfiles
      have hnot := PathList.not_mem_toText_of_outcome_resolve hfiles
        fun hkey => hincluded hkey paths hincl
      refine PathList.outcome_resolve_of_joined hnot ?_
      exact hshown.trans (Value.propertyText?_pathValues _ _)
  all_goals
    show readFlag (PropertySet.value? _ _) false = _
  · rw [given Property.defaultMethods "default_methods".toList (by decide)]
    exact readFlag_flagWord _ _
  · rw [given Property.javacHacks "javac_hacks".toList (by decide)]
    exact readFlag_flagWord _ _
  · rw [given Property.quiet "quiet".toList (by decide)]
    exact readFlag_flagWord _ _

/-- An odd numeral, odd paths, a list file with odd line breaks, and an inline list with empty
pieces, from which no output directory is asked for. -/
theorem resolve_ofShown_of_odd_texts :
    let properties : PropertySet := .ofList [
      (Property.bytecodeVersion, some "-007".toList), (Property.inputDir, some "//a/./b/".toList),
      (Property.outputDir, none), (Property.classpathFile, some "./list".toList),
      (Property.includedFiles, some "::c//d:.".toList), (Property.quiet, some "TrUe".toList)]
    let files := FileTree.write ∅ ["list".toList] (Utf8.encode "p\r\n\n./q r".toList)
    let snapshot : Snapshot :=
      ⟨-7, false, .ofText "//a/b".toList, .ofText "//a/b".toList,
        [.ofText "p".toList, .ofText "q r".toList],
        some [.ofText "c/d".toList, .ofText ".".toList], false, true⟩
    (resolve ⟨properties, .standard, ":".toList⟩ files).outcome = .ok snapshot ∧
      (∀ path ∈ snapshot.classpath, ':' ∉ path.toText) ∧
      (resolve ⟨.ofShown ":".toList snapshot.toValue, ∅, ":".toList⟩ ∅).outcome = .ok snapshot := by
  intro properties files snapshot
  have hresolve : (resolve ⟨properties, .standard, [':']⟩ files).outcome = .ok snapshot := rfl
  have hpaths : ∀ path ∈ snapshot.classpath, ':' ∉ path.toText := by decide
  have hgiven : properties.value? Property.includedFiles ≠ none := by decide
  exact ⟨hresolve, hpaths,
    (resolve_ofShown hresolve (fun _ => hpaths) (fun h => absurd h hgiven) ∅ ∅).1⟩

end Settings

end PropertySettings
