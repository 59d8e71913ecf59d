import Mathlib
import PropertySettings.Settings.Session

/-!
# What settings are told from

A list file is **shadowed** where its list is also given inline. Settings are told from the declared
properties and from list files, and neither the name nor the content of a shadowed one matters:
property sets and files that agree on the rest give the same answers and leave the same records,
failures with their details included, whatever the registries are
(`Settings.told_from_same_sources`). Two questions alone are about the registry: whether the
properties are complete, and the usage text.
-/

namespace PropertySettings

/-- The key is that of a list file, and the list is given inline. -/
def PropertySet.Shadowed (properties : PropertySet) (key : Text) : Prop :=
  (key = Property.classpathFile ∧ properties.Gives Property.classpath) ∨
    (key = Property.includedFilesFile ∧ properties.Gives Property.includedFiles)

instance (properties : PropertySet) (key : Text) : Decidable (properties.Shadowed key) :=
  inferInstanceAs (Decidable (_ ∨ _))

/-- Properties and files that agree with others, as far as settings are told from them: on each
declared property, and on each file that a list file property names, unless it is shadowed. -/
structure SameSources (properties : PropertySet) (files : FileTree) (others : PropertySet)
    (otherFiles : FileTree) : Prop where
  declared : ∀ key ∈ Registry.standard.keys, ¬ properties.Shadowed key →
    others.value? key = properties.value? key
  listed : ∀ key ∈ [Property.classpathFile, Property.includedFilesFile],
    ¬ properties.Shadowed key → ∀ file, properties.value? key = some file →
      otherFiles.read (.ofText file) = files.read (.ofText file)

/-- The question is about the registry, not about a setting. -/
def Query.AsksRegistry : Query → Prop
  | .complete | .usage _ => True
  | _ => False

theorem FileTree.readText_congr {files otherFiles : FileTree} {path : Path}
    (h : otherFiles.read path = files.read path) :
    otherFiles.readText path = files.readText path := by
  rw [readText, readText, h]

namespace PathList

variable {files otherFiles : FileTree} {properties others : PropertySet} {key fileKey : Text}

/-- The list file and its name are looked at only where the list is not given inline. -/
theorem resolve_congr (separator : Text) (hkey : others.value? key = properties.value? key)
    (hname : properties.value? key = none → others.value? fileKey = properties.value? fileKey)
    (hread : properties.value? key = none → ∀ file, properties.value? fileKey = some file →
      otherFiles.read (.ofText file) = files.read (.ofText file)) :
    resolve otherFiles others key fileKey separator
      = resolve files properties key fileKey separator := by
  unfold resolve
  rw [hkey]
  cases hinline : properties.value? key with
  | some inline => rfl
  | none =>
    rw [hname hinline]
    cases hfile : properties.value? fileKey with
    | none => rfl
    | some file => simp only [read, FileTree.readText_congr (hread hinline file hfile)]

end PathList

namespace SameSources

variable {properties others : PropertySet} {files otherFiles : FileTree}

/-- A declared property that is not that of a list file is never shadowed. -/
theorem value?_eq (h : SameSources properties files others otherFiles) (key : Text)
    (hkey : key ∈ Registry.standard.keys)
    (hlist : key ∉ [Property.classpathFile, Property.includedFilesFile]) :
    others.value? key = properties.value? key := by
  refine h.declared key hkey ?_
  rintro (⟨rfl, -⟩ | ⟨rfl, -⟩) <;> exact hlist (by decide)

/-- A list comes to the same from both. -/
theorem resolve_eq (h : SameSources properties files others otherFiles) (separator : Text)
    {key : Text} (fileKey : Text) (hkey : others.value? key = properties.value? key)
    (hdeclared : fileKey ∈ Registry.standard.keys)
    (hlist : fileKey ∈ [Property.classpathFile, Property.includedFilesFile])
    (hshadowed : properties.Shadowed fileKey → properties.Gives key) :
    PathList.resolve otherFiles others key fileKey separator
      = PathList.resolve files properties key fileKey separator := by
  have hclear : properties.value? key = none → ¬ properties.Shadowed fileKey := by
    intro hnone hgives
    have hsome := hshadowed hgives
    rw [PropertySet.Gives, hnone] at hsome
    exact absurd hsome (by simp)
  exact PathList.resolve_congr separator hkey
    (fun hnone => h.declared fileKey hdeclared (hclear hnone))
    (fun hnone => h.listed fileKey hlist (hclear hnone))

end SameSources

namespace Settings

variable {properties others : PropertySet} {files otherFiles : FileTree}

theorem classpath_eq (h : SameSources properties files others otherFiles)
    (registry otherRegistry : Registry) (separator : Text) :
    classpath ⟨others, otherRegistry, separator⟩ otherFiles
      = classpath ⟨properties, registry, separator⟩ files := by
  have hkey := h.value?_eq Property.classpath (by decide) (by decide)
  have hlist := h.resolve_eq separator Property.classpathFile hkey (by decide) (by decide) ?_
  · simp only [classpath, hlist]
  · rintro (⟨-, hgives⟩ | ⟨hfalse, -⟩)
    · exact hgives
    · exact absurd hfalse (by decide)

theorem includedFiles_eq (h : SameSources properties files others otherFiles)
    (registry otherRegistry : Registry) (separator : Text) :
    includedFiles ⟨others, otherRegistry, separator⟩ otherFiles
      = includedFiles ⟨properties, registry, separator⟩ files := by
  have hkey := h.value?_eq Property.includedFiles (by decide) (by decide)
  refine h.resolve_eq separator Property.includedFilesFile hkey (by decide) (by decide) ?_
  rintro (⟨hfalse, -⟩ | ⟨-, hgives⟩)
  · exact absurd hfalse (by decide)
  · exact hgives

/-- What is told from the declared properties alone is the same. -/
theorem declared_eq (h : SameSources properties files others otherFiles)
    (registry otherRegistry : Registry) (separator : Text) :
    let settings : Settings := ⟨properties, registry, separator⟩
    let otherSettings : Settings := ⟨others, otherRegistry, separator⟩
    otherSettings.bytecodeVersion = settings.bytecodeVersion ∧
      otherSettings.inputDir = settings.inputDir ∧
      otherSettings.outputDir = settings.outputDir ∧
      otherSettings.defaultMethods = settings.defaultMethods ∧
      otherSettings.javacHacks = settings.javacHacks ∧
      otherSettings.quiet = settings.quiet := by
  intro settings otherSettings
  have hinput : otherSettings.inputDir = settings.inputDir := by
    simp only [inputDir, otherSettings, settings,
      h.value?_eq Property.inputDir (by decide) (by decide)]
  have houtput : otherSettings.outputDir = settings.outputDir := by
    have hvalue := h.value?_eq Property.outputDir (by decide) (by decide)
    unfold outputDir
    rw [hinput, show otherSettings.properties.value? Property.outputDir
      = settings.properties.value? Property.outputDir from hvalue]
  have hversion : otherSettings.bytecodeVersion = settings.bytecodeVersion := by
    simp only [bytecodeVersion, otherSettings, settings,
      h.value?_eq Property.bytecodeVersion (by decide) (by decide)]
  have hflag : ∀ key ∈ Registry.standard.keys,
      key ∉ [Property.classpathFile, Property.includedFilesFile] →
        otherSettings.flag key = settings.flag key :=
    fun key hkey hlist => congrArg (readFlag · false) (h.value?_eq key hkey hlist)
  exact ⟨hversion, hinput, houtput, hflag _ (by decide) (by decide),
    hflag _ (by decide) (by decide), hflag _ (by decide) (by decide)⟩

/-- **Equal sources, equal answers.** Properties and files that agree as far as settings are told
from them resolve to the same snapshot or fail in the same way, and leave the same records. So does
each single setting. Neither the registries nor undeclared properties nor shadowed list files are of
any influence. -/
theorem told_from_same_sources (h : SameSources properties files others otherFiles)
    (registry otherRegistry : Registry) (separator : Text) :
    let settings : Settings := ⟨properties, registry, separator⟩
    let otherSettings : Settings := ⟨others, otherRegistry, separator⟩
    otherSettings.resolve otherFiles = settings.resolve files ∧
      ∀ query : Query, ¬ query.AsksRegistry →
        otherSettings.ask otherFiles query = settings.ask files query := by
  intro settings otherSettings
  obtain ⟨hversion, hinput, houtput, hdefault, hjavac, hquiet⟩ :=
    declared_eq h registry otherRegistry separator
  have hclasspath := classpath_eq h registry otherRegistry separator
  have hincluded := includedFiles_eq h registry otherRegistry separator
  have hresolve : otherSettings.resolve otherFiles = settings.resolve files := by
    simp only [resolve, hversion, hinput, houtput, hdefault, hjavac, hquiet, hclasspath, hincluded,
      settings, otherSettings]
  refine ⟨hresolve, fun query hquery => ?_⟩
  cases query with
  | complete => exact absurd trivial hquery
  | usage program => exact absurd trivial hquery
  | resolve => exact congrArg (Answer.snapshot <$> ·) hresolve
  | bytecodeVersion => exact congrArg (Answer.number <$> ·) hversion
  | inputDir => exact congrArg (Answer.path <$> ·) hinput
  | outputDir => exact congrArg (Answer.path <$> ·) houtput
  | classpath => exact congrArg (Answer.paths <$> ·) hclasspath
  | includedFiles => exact congrArg (Answer.selection <$> ·) hincluded
  | defaultMethods => exact congrArg (fun b => pure (Answer.truth b)) hdefault
  | javacHacks => exact congrArg (fun b => pure (Answer.truth b)) hjavac
  | quiet => exact congrArg (fun b => pure (Answer.truth b)) hquiet

/-- An inline class path, empty, beside a list file that is missing or is not UTF-8; an undeclared
property; and one list file that is read. -/
theorem told_from_same_sources_beside_shadowed_file :
    let properties : PropertySet := .ofList [
      (Property.inputDir, some "i".toList), (Property.classpath, some []),
      (Property.classpathFile, some "missing".toList), (Property.includedFiles, none),
      (Property.includedFilesFile, some "f".toList), ("retrolambda.quite".toList, some "true".toList)]
    let others : PropertySet := .ofList [
      (Property.includedFilesFile, some "f".toList), (Property.classpathFile, some "g".toList),
      (Property.classpath, some []), (Property.inputDir, some "i".toList)]
    let files := FileTree.write ∅ ["f".toList] (Utf8.encode "a\n".toList)
    let otherFiles := files.write ["g".toList] [255]
    SameSources properties files others otherFiles ∧
      (resolve ⟨properties, .standard, ":".toList⟩ files).outcome
        = .ok ⟨51, false, .ofText "i".toList, .ofText "i".toList, [], some [.ofText "a".toList],
            false, false⟩ ∧
      resolve ⟨others, ∅, ":".toList⟩ otherFiles
        = resolve ⟨properties, .standard, ":".toList⟩ files := by
  intro properties others files otherFiles
  have hsame : SameSources properties files others otherFiles := by
    refine ⟨by decide, fun key hkey hclear file hfile => ?_⟩
    simp only [List.mem_cons, List.not_mem_nil, or_false] at hkey
    rcases hkey with rfl | rfl
    · exact absurd (by decide) hclear
    · have hname : properties.value? Property.includedFilesFile = some "f".toList := rfl
      obtain rfl := Option.some.inj (hfile.symm.trans hname)
      rfl
  exact ⟨hsame, rfl, (told_from_same_sources hsame .standard ∅ ":".toList).1⟩

end Settings

end PropertySettings
