import EventPipeline.Store.Engine.Lookup

/-!
# Engines that are settings

Settings can be made of files of the working directory. They are no backend: asked to read, they
look reading up among themselves.
-/

namespace EventPipeline.Engine

/-- The recipe for settings. -/
def settingsRecipe : Recipe where
  optional := ["config_file"]
  make around files options :=
    match Settings.ofFiles around.environment files (options.value "config_file") with
    | .error e => .error (.settings e)
    | .ok settings => .ok (.other (readSettings settings around.environment))

end EventPipeline.Engine
