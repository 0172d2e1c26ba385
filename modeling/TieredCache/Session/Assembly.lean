import TieredCache.Session.State

/-!
Assembling the tiers that settings ask for: always a memory tier, a disk tier if there is a cache
directory, and a remote tier behind an admission control if there is a base URL. With a tier behind
the memory tier the front has two tiers; the remote tier comes before the disk tier.
-/

namespace TieredCache

inductive AssemblyError where
  | unopenable (directory : String) (cause : IoError)
  /-- A remote tier cannot work without a runtime. -/
  | noRuntime
  deriving DecidableEq

namespace AssemblyError

def message : AssemblyError → String
  | unopenable directory _ => "failed to open cache directory " ++ directory
  | noRuntime => "the remote cache needs a tokio runtime"

end AssemblyError

/-- Where caches are assembled. -/
structure Site where
  /-- Random bits for the first clean check. -/
  random : Nat
  hasRuntime : Bool := true
  /-- The directory that relative names start from. -/
  directory : FilePath := []

namespace Session

def initialized (file remote : Bool) : Signal :=
  .log ⟨.info, .assembly, "Caches initialized", [("file", .flag file), ("remote", .flag remote)]⟩

/-- The disk tier, if a directory is set. -/
def openDisk (session : Session) (settings : Settings) (site : Site) :
    Except AssemblyError (FileTree × Option DiskStore) :=
  match settings.directory with
  | none => .ok (session.stack.tree, none)
  | some directory =>
      let root : Route := ⟨Text.bytes directory, site.directory⟩
      match DiskStore.openAt session.stack.tree "file" root settings.disk
          (DiskStore.firstClean settings.disk session.now site.random) with
      | .error cause => .error (.unopenable directory cause)
      | .ok (tree, store) => .ok (tree, some store)

def openRemote (settings : Settings) (site : Site) :
    Except AssemblyError (Option (RemoteStore (Receiver Callback))) :=
  match settings.remote with
  | none => .ok none
  | some remote =>
      if site.hasRuntime then
        .ok (some { name := "remote", base := remote.base, timeout := remote.storeTimeout })
      else .error .noRuntime

/-- The front, with the layer behind its second tier if there is one. -/
def assembledFront (settings : Settings) (memory : Nat) : Option Nat → Front
  | some second => .tiered (.ofPolicy settings.policy settings.firstTierLimit) memory second
  | none => .single { name := "http", policy := settings.policy } memory

/-- Adds the tiers that settings ask for to a session, and the front that uses them. -/
def assemble (session : Session) (settings : Settings) (site : Site) :
    Except AssemblyError Session := do
  let (tree, disk) ← session.openDisk settings site
  let remote ← openRemote settings site
  let first := session.stack.layers.length
  let memory : Layer Callback := .memory { name := "memory", capacity := settings.memory.capacity }
  let diskLayers : List (Layer Callback) := disk.toList.map .disk
  let remoteIndex := first + 1 + diskLayers.length
  let remoteLayers : List (Layer Callback) := remote.toList.flatMap fun store =>
    [.remote store, .admission remoteIndex { settings := settings.admission }]
  let diskPlace : Option Nat := if disk.isSome then some (first + 1) else none
  let remotePlace : Option Nat := if remote.isSome then some remoteIndex else none
  let second := (remotePlace.map (· + 1)).or diskPlace
  let opened := disk.toList.map fun store => DiskStore.openedSignal store.name store.root
  return { session with
    stack := { session.stack with
      layers := session.stack.layers ++ memory :: diskLayers ++ remoteLayers
      tree
      signals := initialized disk.isSome remote.isSome :: opened ++ session.stack.signals }
    fronts := session.fronts ++ [assembledFront settings first second]
    tiers := some ⟨first, diskPlace, remotePlace, session.fronts.length⟩ }

end Session

end TieredCache
