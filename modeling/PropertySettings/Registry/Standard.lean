import PropertySettings.Registry.Basic
import PropertySettings.Text.Numeral

/-!
# The standard registry

The ten properties that are understood, with their descriptions.
-/

namespace PropertySettings.Registry

/-- The properties in the order of the usage text. -/
def standard : Registry :=
  ⟨[.optional Property.bytecodeVersion [
      "Major version number for the generated bytecode. For a list, see".toList,
      "offset 7 at http://en.wikipedia.org/wiki/Java_class_file#General_layout".toList,
      "Default value is ".toList ++ Numeral.ofNat Property.defaultBytecodeVersion
        ++ " (i.e. Java 7)".toList],
    .optional Property.defaultMethods [
      "Whether to backport default methods and static methods on interfaces.".toList,
      "LIMITATIONS: All backported interfaces and all classes which implement".toList,
      "them or call their static methods must be backported together,".toList,
      "with one execution of Retrolambda.".toList,
      "Disabled by default. Enable by setting to \"true\"".toList],
    .required Property.inputDir [
      "Input directory from where the original class files are read.".toList],
    .optional Property.outputDir [
      "Output directory into where the generated class files are written.".toList,
      "Defaults to same as ".toList ++ Property.inputDir],
    .required Property.classpath [
      "Classpath containing the original class files and their dependencies.".toList,
      "Uses ; or : as the path separator, see os.pathsep".toList],
    .alternative Property.classpathFile Property.classpath [
      "File listing the classpath entries.".toList,
      "Alternative to ".toList ++ Property.classpath ++ " for avoiding the command line".toList,
      "length limit. The file must list one file per line with UTF-8 encoding.".toList],
    .optional Property.includedFiles [
      "List of files to process, instead of processing all files.".toList,
      "This is useful for a build tool to support incremental compilation.".toList,
      "Uses ; or : as the path separator, see os.pathsep".toList],
    .alternative Property.includedFilesFile Property.includedFiles [
      "File listing the files to process, instead of processing all files.".toList,
      "Alternative to ".toList ++ Property.includedFiles ++ " for avoiding the command line".toList,
      "length limit. The file must list one file per line with UTF-8 encoding.".toList],
    .optional Property.javacHacks [
      "Attempts to fix javac bugs (type-annotation emission for local variables).".toList,
      "Disabled by default. Enable by setting to \"true\"".toList],
    .optional Property.quiet [
      "Reduces the amount of logging.".toList,
      "Disabled by default. Enable by setting to \"true\"".toList]]⟩

end PropertySettings.Registry
