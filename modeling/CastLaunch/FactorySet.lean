import CastLaunch.Catalog

/-!
The factories of a launch, one for each collaborator that its configuration needs,
and the modules that are always there.
-/

namespace CastLaunch

structure FactorySet where
  engine : Factory
  sink : Factory
  video : Option Factory
  audio : Option Factory
  discovery : Factory
  deriving DecidableEq, Repr

def builtInModules : List Module :=
  let package := fun name => ({ name, isPackage := true, members := [.leaf "__version__" false] } : Module)
  [package "uxlaunch", package "uxlaunch.common", package "uxlaunch.collaborators",
   package "uxlaunch.discovery", package "uxlaunch.server",
   ⟨"uxlaunch.discovery.zeroconf_registrar", false,
     [.leaf "registrar_create" true, .leaf "ZeroconfRegistrar" true, .leaf "FEATURES" false]⟩,
   ⟨"uxlaunch.server.server_logging", false, [.mk "LogSink" true [.leaf "close" true]]⟩,
   ⟨"uxlaunch.common.settings", false, [.mk "settings" false [.leaf "MAX_FPS" false]]⟩]

namespace FactorySet

def builtInSink : Factory := ⟨"uxlaunch.server.server_logging", ["LogSink"]⟩

def isBuiltInRegistrar (f : Factory) : Bool :=
  f.moduleName == "uxlaunch.discovery.zeroconf_registrar" &&
    (f.names == ["registrar_create"] || f.names == ["ZeroconfRegistrar"])

/-- Resolves the paths.  Missing settings are reported before any path is followed; the paths of
renderers that are switched off do not count. -/
def resolve (c : Catalog) (paths : CollaboratorPaths) (config : LaunchConfig) : Except FactoryError FactorySet := do
  if !paths.engine.given then throw (.notConfigured .engine)
  if !paths.discovery.given then throw (.notConfigured .discovery)
  let video ← c.resolveRenderer config.videoEnabled .video paths.video
  let audio ← c.resolveRenderer config.audioEnabled .audio paths.audio
  let engine ← c.resolveValue paths.engine
  let discovery ← c.resolveValue paths.discovery
  return { engine, sink := builtInSink, video, audio, discovery }

end FactorySet

end CastLaunch
