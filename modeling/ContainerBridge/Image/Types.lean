import ContainerBridge.Spec.Swift

/-! The OCI image types in both languages, and the initialisers that read Rust's field by field. -/

namespace ContainerBridge

/-! ### Rust -/

namespace Rust

structure Platform where
  architecture : String
  os : String
  osVersion : Option String
  osFeatures : Option (List String)
  variant : Option String

structure Descriptor where
  mediaType : String
  digest : String
  size : Int64
  urls : Option (List String)
  annotations : Option (BTreeMap String)
  platform : Option Platform
  artifactType : Option String

structure Index where
  schemaVersion : Isize
  mediaType : String
  manifests : List Descriptor
  annotations : Option (BTreeMap String)
  subject : Option Descriptor
  artifactType : Option String

structure Manifest where
  schemaVersion : Isize
  mediaType : Option String
  config : Descriptor
  layers : List Descriptor
  annotations : Option (BTreeMap String)
  subject : Option Descriptor
  artifactType : Option String

structure ImageConfig where
  user : Option String
  env : Option (List String)
  entrypoint : Option (List String)
  cmd : Option (List String)
  workingDir : Option String
  labels : Option (BTreeMap String)
  stopSignal : Option String

structure Rootfs where
  type : String
  diffIds : List String

structure History where
  created : Option String
  createdBy : Option String
  author : Option String
  comment : Option String
  emptyLayer : Option Bool

structure Image where
  created : Option String
  author : Option String
  architecture : String
  os : String
  osVersion : Option String
  osFeatures : Option (List String)
  variant : Option String
  config : Option ImageConfig
  rootfs : Rootfs
  history : Option (List History)

namespace Platform

variable (platform : Platform)

@[simp] def hasOsFeatures : Bool := platform.osFeatures.isSome
@[simp] def osFeaturesLen : Nat := optionalLen List.length platform.osFeatures
@[simp] def osFeaturesAt (index : Nat) : Crossing String := do
  indexed (← present platform.osFeatures) index

end Platform

namespace Descriptor

variable (descriptor : Descriptor)

@[simp] def hasUrls : Bool := descriptor.urls.isSome
@[simp] def urlsLen : Nat := optionalLen List.length descriptor.urls
@[simp] def urlsAt (index : Nat) : Crossing String := do
  indexed (← present descriptor.urls) index
@[simp] def hasAnnotations : Bool := descriptor.annotations.isSome
@[simp] def annotationsLen : Nat := optionalLen Std.ExtTreeMap.size descriptor.annotations
@[simp] def annotationKeyAt : Nat → Crossing String := optionalKeyAt descriptor.annotations
@[simp] def annotationValueAt : Nat → Crossing String := optionalValueAt descriptor.annotations
@[simp] def hasPlatform : Bool := descriptor.platform.isSome
@[simp] def lentPlatform : Crossing Platform := present descriptor.platform

end Descriptor

namespace Index

variable (index : Index)

@[simp] def manifestsLen : Nat := index.manifests.length
@[simp] def manifestsAt : Nat → Crossing Descriptor := indexed index.manifests
@[simp] def hasAnnotations : Bool := index.annotations.isSome
@[simp] def annotationsLen : Nat := optionalLen Std.ExtTreeMap.size index.annotations
@[simp] def annotationKeyAt : Nat → Crossing String := optionalKeyAt index.annotations
@[simp] def annotationValueAt : Nat → Crossing String := optionalValueAt index.annotations
@[simp] def hasSubject : Bool := index.subject.isSome
@[simp] def lentSubject : Crossing Descriptor := present index.subject

end Index

namespace ImageConfig

variable (config : ImageConfig)

@[simp] def hasEnv : Bool := config.env.isSome
@[simp] def envLen : Nat := optionalLen List.length config.env
@[simp] def envAt (index : Nat) : Crossing String := do
  indexed (← present config.env) index
@[simp] def hasEntrypoint : Bool := config.entrypoint.isSome
@[simp] def entrypointLen : Nat := optionalLen List.length config.entrypoint
@[simp] def entrypointAt (index : Nat) : Crossing String := do
  indexed (← present config.entrypoint) index
@[simp] def hasCmd : Bool := config.cmd.isSome
@[simp] def cmdLen : Nat := optionalLen List.length config.cmd
@[simp] def cmdAt (index : Nat) : Crossing String := do
  indexed (← present config.cmd) index
@[simp] def hasLabels : Bool := config.labels.isSome
@[simp] def labelsLen : Nat := optionalLen Std.ExtTreeMap.size config.labels
@[simp] def labelKeyAt : Nat → Crossing String := optionalKeyAt config.labels
@[simp] def labelValueAt : Nat → Crossing String := optionalValueAt config.labels

end ImageConfig

end Rust

/-! ### Swift -/

/-- The form in which Swift's `Platform` keeps an architecture, `aarch64` as `arm64` for example. -/
class Architectures where
  normal : String → String

/-- Two architectures that are known by other names. -/
@[reducible] def Architectures.common : Architectures where
  normal
    | "aarch64" => "arm64"
    | "x86_64" => "amd64"
    | architecture => architecture

variable [Runtime]

namespace Swift

structure Platform where
  architecture : String
  os : String
  osVersion : Option String
  osFeatures : Option (List String)
  variant : Option String

structure Descriptor where
  mediaType : String
  digest : String
  size : Int64
  urls : Option (List String)
  annotations : Option (Dictionary String)
  platform : Option Platform
  artifactType : Option String

structure Index where
  schemaVersion : Isize
  mediaType : String
  manifests : List Descriptor
  annotations : Option (Dictionary String)
  subject : Option Descriptor
  artifactType : Option String

structure Manifest where
  schemaVersion : Isize
  mediaType : Option String
  config : Descriptor
  layers : List Descriptor
  annotations : Option (Dictionary String)
  subject : Option Descriptor
  artifactType : Option String

structure ImageConfig where
  user : Option String
  env : Option (List String)
  entrypoint : Option (List String)
  cmd : Option (List String)
  workingDir : Option String
  labels : Option (Dictionary String)
  stopSignal : Option String

structure Rootfs where
  type : String
  diffIDs : List String

structure History where
  created : Option String
  createdBy : Option String
  author : Option String
  comment : Option String
  emptyLayer : Option Bool

/-- `ContainerizationOCI.Image`. -/
structure Image where
  created : Option String
  author : Option String
  architecture : String
  os : String
  osVersion : Option String
  osFeatures : Option (List String)
  variant : Option String
  config : Option ImageConfig
  rootfs : Rootfs
  history : Option (List History)

def Platform.init [Architectures] (platform : Rust.Platform) : Crossing Platform := do
  return {
    architecture := Architectures.normal platform.architecture
    os := platform.os
    osVersion := platform.osVersion
    osFeatures := ← ifPresent platform.hasOsFeatures do
      strings platform.osFeaturesLen fun index => platform.osFeaturesAt index
    variant := platform.variant }

def Descriptor.init [Architectures] (descriptor : Rust.Descriptor) : Crossing Descriptor := do
  return {
    mediaType := descriptor.mediaType
    digest := descriptor.digest
    size := descriptor.size
    urls := ← ifPresent descriptor.hasUrls do
      strings descriptor.urlsLen fun index => descriptor.urlsAt index
    annotations := ← ifPresent descriptor.hasAnnotations do
      dictionary descriptor.annotationsLen descriptor.annotationKeyAt descriptor.annotationValueAt
    platform := ← ifPresent descriptor.hasPlatform do Platform.init (← descriptor.lentPlatform)
    artifactType := descriptor.artifactType }

def Index.init [Architectures] (index : Rust.Index) : Crossing Index := do
  return {
    schemaVersion := index.schemaVersion
    mediaType := index.mediaType
    manifests := ← list index.manifestsLen fun i => do Descriptor.init (← index.manifestsAt i)
    annotations := ← ifPresent index.hasAnnotations do
      dictionary index.annotationsLen index.annotationKeyAt index.annotationValueAt
    subject := ← ifPresent index.hasSubject do Descriptor.init (← index.lentSubject)
    artifactType := index.artifactType }

def ImageConfig.init (config : Rust.ImageConfig) : Crossing ImageConfig := do
  return {
    user := config.user
    env := ← ifPresent config.hasEnv do
      strings config.envLen fun index => config.envAt index
    entrypoint := ← ifPresent config.hasEntrypoint do
      strings config.entrypointLen fun index => config.entrypointAt index
    cmd := ← ifPresent config.hasCmd do
      strings config.cmdLen fun index => config.cmdAt index
    workingDir := config.workingDir
    labels := ← ifPresent config.hasLabels do
      dictionary config.labelsLen config.labelKeyAt config.labelValueAt
    stopSignal := config.stopSignal }

end Swift

end ContainerBridge
