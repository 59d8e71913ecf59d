import Mathlib
import PropertySettings.Proofs.Assignments
import PropertySettings.Proofs.Decimals
import PropertySettings.Proofs.QuotedTexts
import PropertySettings.Proofs.Runs

/-!
# Malformed values in messages

A value that is not of the expected form is quoted at the end of the message about it, behind the
key. Since a quoted text is visible and can be read back, the message is a line without control
characters if the key is visible, whatever the value is (`ConfigError.isVisible_message`), and the
value can be told from it (`ConfigError.valueIn?_message`).

The command asks for the version first. So a run with complete properties in which the version is
malformed says this in one line and nothing else (`Accepted.run_of_malformed_version`).

Main statement: `malformed_value_told_on_one_line`.
-/

namespace PropertySettings

namespace ConfigError

variable {key : Text}

/-- What stands before the value in a message. -/
def frontFor (key : Text) : Text :=
  "Invalid value for property ".toList ++ key ++ ": ".toList

/-- The value that a message about a key tells. -/
def valueIn? (key message : Text) : Option Text :=
  Text.unquoted? (message.drop (frontFor key).length)

/-- The value can be told from the message. -/
theorem valueIn?_message (key raw : Text) :
    valueIn? key (invalidFormat key raw).message = some raw := by
  have hmessage : (invalidFormat key raw).message = frontFor key ++ Text.quoted raw := rfl
  rw [valueIn?, hmessage, List.drop_left, Text.unquoted?_quoted]

theorem isVisible_message (hkey : Text.IsVisible key) (raw : Text) :
    Text.IsVisible (invalidFormat key raw).message := by
  have hwords : Text.IsVisible "Invalid value for property ".toList ∧ Text.IsVisible ": ".toList :=
    ⟨by decide, by decide⟩
  exact ((hwords.1.append hkey).append hwords.2).append (Text.isVisible_quoted raw)

end ConfigError

/-- A malformed version ends the search for the settings before anything else is asked for. -/
theorem Settings.resolve_of_malformed_version {settings : Settings} {raw : Text} (files : FileTree)
    (hvalue : settings.properties.value? Property.bytecodeVersion = some raw)
    (hraw : ¬ ∃ negative places, Numeral.Spells raw negative places) :
    settings.resolve files
      = ⟨[], .error (.config (.invalidFormat Property.bytecodeVersion raw))⟩ := by
  rw [resolve, bytecodeVersion, hvalue, readInteger_of_not_spells hraw]
  rfl

namespace CommandLine

variable {files : FileTree} {arguments : List Text} {a : Arguments} {level : Level}
  {properties : Assignments Text Text} {raw : Text}

/-- The line about a version that is malformed. -/
def versionLine (raw : Text) : Text :=
  "[CLI] ".toList ++ (ConfigError.invalidFormat Property.bytecodeVersion raw).message

theorem isVisible_versionLine (raw : Text) : Text.IsVisible (versionLine raw) :=
  Text.IsVisible.append (by decide) (ConfigError.isVisible_message (by decide) raw)

theorem plain_resolveRecord (raw : Text) :
    (resolveRecord (.invalidFormat Property.bytecodeVersion raw)).plain = versionLine raw :=
  List.append_nil _

/-- All that a run says about a malformed version is one line, unless even errors are not to be
reported. -/
theorem Accepted.run_of_malformed_version (h : Accepted arguments a level)
    (hcollected : collected files a = .ok properties) (hshow : a.showProperties = false)
    (hmissing : Registry.standard.missing (.ofValues properties) = [])
    (hvalue : properties.get? Property.bytecodeVersion = some raw)
    (hraw : ¬ ∃ negative places, Numeral.Spells raw negative places) :
    run files arguments =
      ⟨.exit (.configError none),
        if level ≤ .error then [(journalStream a, versionLine raw ++ ['\n'])] else []⟩ := by
  have hpresent : (PropertySet.ofValues properties).value? Property.bytecodeVersion = some raw :=
    (PropertySet.value?_ofValues properties _).trans hvalue
  have hresolve : (Settings.ofProperties (.ofValues properties)).resolve files = _ :=
    Settings.resolve_of_malformed_version files hpresent hraw
  have hlevel : ∀ record ∈ [resolveRecord (.invalidFormat Property.bytecodeVersion raw)],
      record.level = .error :=
    List.forall_mem_singleton.mpr rfl
  rw [h.run_of_unresolved hcollected hshow hmissing (congrArg Traced.outcome hresolve), hresolve,
    List.nil_append, Journal.lines_of_level hlevel, List.map_singleton, Journal.line,
    plain_resolveRecord]

/-- **A malformed value is told on one line.** If the key is visible, so is the message about a
value, which is then a line without control characters. Under one key different values have
different messages, since each value is found again in its message. And a run that gets as far as a
malformed version writes one such line, or nothing if errors are not to be reported. -/
theorem malformed_value_told_on_one_line :
    (∀ key raw, Text.IsVisible key →
      let message := (ConfigError.invalidFormat key raw).message
      Text.IsVisible message ∧ Text.IsLine message ∧ ∀ c ∈ message, ¬ Text.IsControl c) ∧
    (∀ key,
      (∀ raw, ConfigError.valueIn? key (ConfigError.invalidFormat key raw).message = some raw) ∧
      Function.Injective fun raw => (ConfigError.invalidFormat key raw).message) ∧
    ∀ files arguments a level properties raw, Accepted arguments a level →
      collected files a = .ok properties → a.showProperties = false →
      Registry.standard.missing (.ofValues properties) = [] →
      properties.get? Property.bytecodeVersion = some raw →
      (¬ ∃ negative places, Numeral.Spells raw negative places) →
      Text.IsVisible (versionLine raw) ∧ Text.IsLine (versionLine raw) ∧
        run files arguments =
          ⟨.exit (.configError none),
            if level ≤ .error then [(journalStream a, versionLine raw ++ ['\n'])] else []⟩ := by
  refine ⟨fun key raw hkey => ?_, fun key => ⟨ConfigError.valueIn?_message key, ?_⟩, ?_⟩
  · have hvisible := ConfigError.isVisible_message hkey raw
    exact ⟨hvisible, hvisible.isLine, hvisible.not_isControl⟩
  · intro raw other hsame
    have hread := congrArg (ConfigError.valueIn? key) hsame
    simpa only [ConfigError.valueIn?_message, Option.some.injEq] using hread
  · intro files arguments a level properties raw h hcollected hshow hmissing hvalue hraw
    have hvisible := isVisible_versionLine raw
    exact ⟨hvisible, hvisible.isLine,
      h.run_of_malformed_version hcollected hshow hmissing hvalue hraw⟩

/-- A value of quotation marks, a backslash, a line break and an escape character, beside one that
is written with backslashes of its own, and a run with a version of two lines. -/
theorem malformed_version_of_two_lines :
    let odd : Text := ['\x27', '\x22', '\\', 'n', '\n', '\x1b', '\u2028', '😀']
    let shown := "Invalid value for property k: \x27\\\x27\x22\\\\n\\n\\x1b\\u2028😀\x27".toList
    let version := "5\n1".toList
    let arguments : List Text :=
      ["-Dretrolambda.inputDir=i".toList, "-Dretrolambda.classpath=l".toList,
        "-Dretrolambda.bytecodeVersion=5\n1".toList]
    (Text.IsVisible "k".toList ∧ ¬ Text.IsVisible odd ∧
      (ConfigError.invalidFormat "k".toList odd).message = shown) ∧
    (Text.IsVisible shown ∧ ConfigError.valueIn? "k".toList shown = some odd) ∧
    (ConfigError.invalidFormat "k".toList ['\n']).message
      ≠ (ConfigError.invalidFormat "k".toList ['\\', 'n']).message ∧
    (¬ ∃ negative places, Numeral.Spells version negative places) ∧
    run ∅ arguments =
      ⟨.exit (.configError none),
        [(.stdout, "[CLI] Invalid value for property retrolambda.bytecodeVersion: ".toList
          ++ "\x275\\n1\x27\n".toList)]⟩ := by
  intro odd shown version arguments
  have hkey : Text.IsVisible "k".toList := by decide
  have hmessage : (ConfigError.invalidFormat "k".toList odd).message = shown := by decide +kernel
  obtain ⟨hvisible, hrecover, hrun⟩ := malformed_value_told_on_one_line
  have hshown := (hvisible "k".toList odd hkey).1
  have hread := (hrecover "k".toList).1 odd
  rw [hmessage] at hshown hread
  have hnot : ¬ ∃ negative places, Numeral.Spells version negative places :=
    Numeral.not_spells_of_ofText? rfl
  refine ⟨⟨hkey, by decide, hmessage⟩, ⟨hshown, hread⟩, ?_, hnot, ?_⟩
  · exact (hrecover "k".toList).2.ne (by decide)
  · let a : Arguments :=
      ⟨["retrolambda.inputDir=i".toList, "retrolambda.classpath=l".toList,
        "retrolambda.bytecodeVersion=5\n1".toList], none, false, false, "INFO".toList, false, []⟩
    have haccepted : Accepted arguments a .info :=
      ⟨by dsimp only [arguments, a]; cbv, rfl, rfl, rfl, by decide, rfl⟩
    have hsaid := hrun ∅ arguments a .info (.ofList
      [(Property.inputDir, "i".toList), (Property.classpath, "l".toList),
        (Property.bytecodeVersion, version)]) version haccepted (by cbv) rfl rfl (by cbv) hnot
    exact hsaid.2.2

end CommandLine

end PropertySettings
