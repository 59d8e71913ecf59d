import PropertySettings.Settings.Basic
import PropertySettings.Workspace

/-!
# Sessions

A **session** asks for settings again and again while properties and files change. Questions leave
the session as it is; an answer depends on nothing but the properties and files at its time.
-/

namespace PropertySettings

/-- What can be asked of settings. -/
inductive Query where
  | complete
  | bytecodeVersion
  | defaultMethods
  | inputDir
  | outputDir
  | classpath
  | includedFiles
  | javacHacks
  | quiet
  | usage (program : Text)
  | resolve

/-- What is answered. -/
inductive Answer where
  | truth (b : Bool)
  | number (n : Int)
  | path (path : Path)
  | paths (paths : List Path)
  /-- Some files, or all of them. -/
  | selection (files : Option (List Path))
  | text (t : Text)
  | snapshot (s : Snapshot)
  /-- A change was made. -/
  | done

namespace Settings

/-- The answer to a question. -/
def ask (settings : Settings) (files : FileTree) : Query → Traced Answer
  | .complete => pure (.truth settings.Complete)
  | .bytecodeVersion => .number <$> settings.bytecodeVersion
  | .defaultMethods => pure (.truth settings.defaultMethods)
  | .inputDir => .path <$> settings.inputDir
  | .outputDir => .path <$> settings.outputDir
  | .classpath => .paths <$> settings.classpath files
  | .includedFiles => .selection <$> settings.includedFiles files
  | .javacHacks => pure (.truth settings.javacHacks)
  | .quiet => pure (.truth settings.quiet)
  | .usage program => pure (.text (settings.usage program))
  | .resolve => .snapshot <$> settings.resolve files

end Settings

/-- Settings and files that change. -/
structure Session where
  settings : Settings
  files : FileTree

namespace Session

/-- What happens in a session. -/
inductive Step where
  | ask (query : Query)
  | setProperty (key : Text) (value : Option Text)
  | unsetProperty (key : Text)
  | writeFile (name : Text) (content : List UInt8)
  | makeDirectory (name : Text)
  | removeFile (name : Text)

/-- The location of a name. -/
def place (session : Session) (name : Text) : Location :=
  session.files.locate (.ofText name)

/-- The session after a step. -/
def after (session : Session) : Step → Session
  | .ask _ => session
  | .setProperty key value =>
    { session with settings.properties := session.settings.properties.assign key value }
  | .unsetProperty key =>
    { session with settings.properties := session.settings.properties.erase key }
  | .writeFile name content => { session with files := session.files.write (session.place name) content }
  | .makeDirectory name =>
    let location := session.place name
    { session with files := (session.files.makeParents location).makeDirectory location }
  | .removeFile name => { session with files := session.files.remove (session.place name) }

/-- What is answered to a step. -/
def reply (session : Session) : Step → Traced Answer
  | .ask query => session.settings.ask session.files query
  | _ => pure .done

/-- What is answered to steps that follow one another. -/
def replies (session : Session) : List Step → List (Traced Answer)
  | [] => []
  | step :: rest => session.reply step :: (session.after step).replies rest

end Session

/-- What a journal that is set up for details writes about records. -/
def detailText (records : List Record) : Text :=
  let setup : Journal.Setup := { Journal.Setup.default with level := "DEBUG".toList }
  (((Workspace.start ∅).setUp setup).1.logAll records).textOn .stdout

end PropertySettings
