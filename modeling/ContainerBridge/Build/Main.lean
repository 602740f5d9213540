import ContainerBridge.Build.Glue

/-! `main` of the build script, up to what it tells cargo to link. `swift-bridge` and `swift build`
are given with the machine the script runs on. -/

namespace ContainerBridge

namespace Build

open FileTree

def notInputs : List String := [".build", "generated"]

/-- Where the staged package has the glue. -/
def generated : List String := ["Sources", package, "generated"]

/-- The machine that builds: cargo's variables and the tools the script runs. -/
structure Machine where
  cargoCfgTargetOs : Option String
  cargoCfgTargetArch : Option String
  arch : String
  -- `OUT_DIR`, as a panic shows it.
  outDir : String
  -- `manifest_dir`, as a panic shows it.
  manifestDir : String
  -- `swift-bridge`, over what is at the directory it writes to. A panic leaves something there.
  writeAllConcatenated : List (String × List UInt8) → Option (Raw String) →
    Except (String × Option (Raw String)) (Tree String (List UInt8))

/-- What a build prints for cargo. Paths are below the crate's directory. -/
inductive Instruction where
  | rerunIfChanged (path : List String)
  | rustcEnv (key value : String)

/-- What of `OUT_DIR` the script keeps between builds. -/
structure OutDir where
  swift : Option (Raw String)
  swiftBridge : Option (Raw String)

/-- What a build comes to, with what it did to the staged package. -/
structure Built where
  instructions : List Instruction
  out : OutDir
  effects : List (Effect String) := []
  panic : Option String := none

/-! ### `pinned_containerization` -/

/-- Each line of `str::lines`, of what is between the newlines. -/
def strLines : List (List Char) → List (List Char)
  | [] => []
  | [last] => if last = [] then [] else [last]
  | line :: rest => (if line.getLast? = some '\r' then line.dropLast else line) :: strLines rest

/-- `str::strip_prefix`. -/
def stripStart (pattern line : List Char) : Option (List Char) :=
  if pattern.isPrefixOf line then some (line.drop pattern.length) else none

/-- `str::strip_suffix`, of a character. -/
def stripEnd (last : Char) (line : List Char) : Option (List Char) :=
  if line.getLast? = some last then some line.dropLast else none

def pin : List Char := "let containerization: Version = \"".toList

def pinnedContainerization (machine : Machine) (source : Raw String) : Except String String :=
  match readToString (entry (some source) ["Package.swift"]) with
  | none => .error "the swift package's manifest should be readable"
  | some manifest =>
    let pinned := (strLines (manifest.toList.splitOn '\n')).findSome? fun line =>
      (stripStart pin line).bind (stripEnd '"')
    match pinned with
    | some version => .ok (String.ofList version)
    | none =>
      let path := machine.manifestDir ++ "/swift/Package.swift"
      .error s!"{path} should pin Containerization with `let containerization: Version = \"…\"`"

/-! ### `main` -/

/-- `mirror` of a destination at `path`, below directories that `create_dir_all` makes. -/
def mirrorAt (skip : List String) (source : Raw String) (destination : Option (Raw String)) :
    List String → Staged String
  | [] => mirror skip source destination
  | name :: path =>
    match createDirAll destination with
    | none => { destination, panic := some "the destination should be creatable" }
    | some created =>
      (created.put name (mirrorAt skip source (created.entries.lookup name) path)).staged

/-- `std::fs::remove_dir_all`, of a directory whose removal may fail. -/
def clear : Option (Raw String) → Option (Raw String)
  | some (.file content) => some (.file content)
  | _ => none

/-- The end of `main`, from the staged package on. `swiftBuild` is `swift build`'s failure. -/
def stagePackage (machine : Machine) (source : Raw String)
    (modules : List (String × List UInt8)) (swiftBuild : Option String) (out : OutDir) :
    OutDir × List (Effect String) × Option String :=
  let staged := mirror notInputs source out.swift
  if staged.panic.isSome then
    (⟨staged.destination, out.swiftBridge⟩, staged.effects, staged.panic)
  else
    match machine.writeAllConcatenated modules (clear out.swiftBridge) with
    | .error (message, left) => (⟨staged.destination, left⟩, staged.effects, some message)
    | .ok glue =>
      match publishBridgeShims (machine.outDir ++ "/swift-bridge") (some glue.raw) with
      | .error message =>
        (⟨staged.destination, some glue.raw⟩, staged.effects, some message)
      | .ok published =>
        let glued := mirrorAt [] published staged.destination generated
        (⟨glued.destination, some published⟩, staged.effects ++ glued.effects,
          glued.panic <|> swiftBuild)

def main (machine : Machine) (manifest : Raw String) (swiftBuild : Option String) (out : OutDir) :
    Built :=
  let script : List Instruction := [.rerunIfChanged ["build.rs"]]
  match entry (some manifest) ["src", "bridge"] with
  | some (.dir listing) =>
    let modules := bridgeModules listing
    let watched := script ++
      modules.map fun module => .rerunIfChanged ["src", "bridge", module.1]
    match entry (some manifest) ["swift"] with
    | none =>
      { instructions := watched, out
        panic := some "the swift package is committed inside this crate" }
    | some source =>
      let watched := watched ++ [.rerunIfChanged ["swift", "Package.swift"]]
      match pinnedContainerization machine source with
      | .error message => { instructions := watched, out, panic := some message }
      | .ok version =>
        let printed := watched ++ [.rustcEnv "CFW_CONTAINERIZATION_VERSION" version]
        if machine.cargoCfgTargetOs ≠ some "macos" then { instructions := printed, out }
        else
          let target := machine.cargoCfgTargetArch.getD ""
          let arch := machine.arch
          if target ≠ "aarch64" ∨ arch ≠ "aarch64" then
            { instructions := printed, out
              panic := some ("containerization-framework builds only on and for Apple silicon " ++
                "(aarch64-apple-darwin), as Containerization runs only there, but this build runs " ++
                s!"on {arch} and targets {target}") }
          else
            let (staged, effects, panic) := stagePackage machine source modules swiftBuild out
            { instructions := printed ++ [.rerunIfChanged ["swift", "Sources", package],
                .rerunIfChanged ["swift", "Package.resolved"]]
              out := staged, effects, panic }
  | _ => { instructions := script, out, panic := some "src/bridge should be readable" }

end Build

end ContainerBridge
