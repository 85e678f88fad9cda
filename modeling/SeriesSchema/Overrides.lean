import SeriesSchema.Settings

/-!
# Overrides

The settings that a command line gives.  Each takes the place of the one that it names, and what is
not given stays as it is.
-/

namespace SeriesSchema

/-- What a command line sets. -/
structure Overrides where
  inputDir : Option String := none
  outputJavaDir : Option String := none
  protoOutDir : Option String := none
  javaPackage : Option String := none
  executable : Option String := none
  /-- compilation is switched off; there is no way to switch it on -/
  disabled : Bool := false
  extractor : Option Extractor := none
  onFailure : Option Policy := none
deriving DecidableEq, Repr, Inhabited

/-- The settings with what was given in place of what was there. -/
def Overrides.apply (o : Overrides) (s : Settings) : Settings :=
  { s with
    inputDir := o.inputDir.getD s.inputDir
    outputJavaDir := o.outputJavaDir.getD s.outputJavaDir
    protoOutDir := o.protoOutDir.getD s.protoOutDir
    javaPackage := o.javaPackage.getD s.javaPackage
    extractor := o.extractor.getD s.extractor
    compiler :=
      { executable := o.executable.getD s.compiler.executable
        enabled := s.compiler.enabled && !o.disabled
        onFailure := o.onFailure.getD s.compiler.onFailure } }

end SeriesSchema
