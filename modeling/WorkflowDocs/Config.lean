import WorkflowDocs.Failure
import WorkflowDocs.RenderOptions

/-!
# Settings

How documents are rendered and which README they go into.
-/

namespace WorkflowDocs

structure ReadmeOptions where
  file : Text := "README.md".toList
  startMarker : Text := "<!--start-->".toList
  endMarker : Text := "<!--end-->".toList
  deriving DecidableEq, Repr

structure Config where
  render : RenderOptions := {}
  readme : ReadmeOptions := {}
  deriving DecidableEq, Repr

namespace Config

/-- The first rule that the settings break. -/
def validate (config : Config) : Except Failure Unit :=
  let refuse (message : Text) : Except Failure Unit := .error (.of .configError message)
  if config.render.tocLevel < 1 || 6 < config.render.tocLevel then
    refuse ("render.toc_level must be between 1 and 6, got ".toList ++
      Text.ofNat config.render.tocLevel)
  else if config.readme.file.isEmpty then refuse "readme.file cannot be empty".toList
  else if config.readme.startMarker.isEmpty || config.readme.endMarker.isEmpty then
    refuse "readme markers cannot be empty".toList
  else if config.readme.startMarker = config.readme.endMarker then
    refuse "readme.start_marker and readme.end_marker must differ".toList
  else .ok ()

end Config

end WorkflowDocs
