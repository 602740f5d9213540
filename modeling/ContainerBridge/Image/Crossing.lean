import ContainerBridge.Spec.Reading

/-! How Rust reads the OCI image types back from Swift, field by field: a list, a map, a record or
an optional one of those as an outcome of its own. Descriptors, indexes and image configurations
also cross to Swift, and come back equal but for the form of an architecture. -/

namespace ContainerBridge

open Carry

variable [Runtime]

namespace CzOutcome

/-! ### Swift's getters -/

@[simp] def platformArchitecture (outcome : CzOutcome) : Crossing String := do
  return (← outcome.taken Swift.Platform).architecture
@[simp] def platformOs (outcome : CzOutcome) : Crossing String := do
  return (← outcome.taken Swift.Platform).os
@[simp] def platformOsVersion (outcome : CzOutcome) : Crossing (Option String) := do
  return (← outcome.taken Swift.Platform).osVersion
@[simp] def platformOsFeatures (outcome : CzOutcome) : Crossing CzOutcome := do
  return holding (← outcome.taken Swift.Platform).osFeatures
@[simp] def platformVariant (outcome : CzOutcome) : Crossing (Option String) := do
  return (← outcome.taken Swift.Platform).variant

@[simp] def descriptorMediaType (outcome : CzOutcome) : Crossing String := do
  return (← outcome.taken Swift.Descriptor).mediaType
@[simp] def descriptorDigest (outcome : CzOutcome) : Crossing String := do
  return (← outcome.taken Swift.Descriptor).digest
@[simp] def descriptorSize (outcome : CzOutcome) : Crossing Int64 := do
  return (← outcome.taken Swift.Descriptor).size
@[simp] def descriptorUrls (outcome : CzOutcome) : Crossing CzOutcome := do
  return holding (← outcome.taken Swift.Descriptor).urls
@[simp] def descriptorAnnotations (outcome : CzOutcome) : Crossing CzOutcome := do
  return holding (← outcome.taken Swift.Descriptor).annotations
@[simp] def descriptorPlatform (outcome : CzOutcome) : Crossing CzOutcome := do
  return holding (← outcome.taken Swift.Descriptor).platform
@[simp] def descriptorArtifactType (outcome : CzOutcome) : Crossing (Option String) := do
  return (← outcome.taken Swift.Descriptor).artifactType

@[simp] def indexSchemaVersion (outcome : CzOutcome) : Crossing Isize := do
  return (← outcome.taken Swift.Index).schemaVersion
@[simp] def indexMediaType (outcome : CzOutcome) : Crossing String := do
  return (← outcome.taken Swift.Index).mediaType
@[simp] def indexManifests (outcome : CzOutcome) : Crossing CzOutcome := do
  return holding (some (← outcome.taken Swift.Index).manifests)
@[simp] def indexAnnotations (outcome : CzOutcome) : Crossing CzOutcome := do
  return holding (← outcome.taken Swift.Index).annotations
@[simp] def indexSubject (outcome : CzOutcome) : Crossing CzOutcome := do
  return holding (← outcome.taken Swift.Index).subject
@[simp] def indexArtifactType (outcome : CzOutcome) : Crossing (Option String) := do
  return (← outcome.taken Swift.Index).artifactType

@[simp] def manifestSchemaVersion (outcome : CzOutcome) : Crossing Isize := do
  return (← outcome.taken Swift.Manifest).schemaVersion
@[simp] def manifestMediaType (outcome : CzOutcome) : Crossing (Option String) := do
  return (← outcome.taken Swift.Manifest).mediaType
@[simp] def manifestConfig (outcome : CzOutcome) : Crossing CzOutcome := do
  return holding (some (← outcome.taken Swift.Manifest).config)
@[simp] def manifestLayers (outcome : CzOutcome) : Crossing CzOutcome := do
  return holding (some (← outcome.taken Swift.Manifest).layers)
@[simp] def manifestAnnotations (outcome : CzOutcome) : Crossing CzOutcome := do
  return holding (← outcome.taken Swift.Manifest).annotations
@[simp] def manifestSubject (outcome : CzOutcome) : Crossing CzOutcome := do
  return holding (← outcome.taken Swift.Manifest).subject
@[simp] def manifestArtifactType (outcome : CzOutcome) : Crossing (Option String) := do
  return (← outcome.taken Swift.Manifest).artifactType

@[simp] def imageConfigUser (outcome : CzOutcome) : Crossing (Option String) := do
  return (← outcome.taken Swift.ImageConfig).user
@[simp] def imageConfigEnv (outcome : CzOutcome) : Crossing CzOutcome := do
  return holding (← outcome.taken Swift.ImageConfig).env
@[simp] def imageConfigEntrypoint (outcome : CzOutcome) : Crossing CzOutcome := do
  return holding (← outcome.taken Swift.ImageConfig).entrypoint
@[simp] def imageConfigCmd (outcome : CzOutcome) : Crossing CzOutcome := do
  return holding (← outcome.taken Swift.ImageConfig).cmd
@[simp] def imageConfigWorkingDir (outcome : CzOutcome) : Crossing (Option String) := do
  return (← outcome.taken Swift.ImageConfig).workingDir
@[simp] def imageConfigLabels (outcome : CzOutcome) : Crossing CzOutcome := do
  return holding (← outcome.taken Swift.ImageConfig).labels
@[simp] def imageConfigStopSignal (outcome : CzOutcome) : Crossing (Option String) := do
  return (← outcome.taken Swift.ImageConfig).stopSignal

@[simp] def rootfsType (outcome : CzOutcome) : Crossing String := do
  return (← outcome.taken Swift.Rootfs).type
@[simp] def rootfsDiffIds (outcome : CzOutcome) : Crossing (List String) := do
  return (← outcome.taken Swift.Rootfs).diffIDs

@[simp] def historyCreated (outcome : CzOutcome) : Crossing (Option String) := do
  return (← outcome.taken Swift.History).created
@[simp] def historyCreatedBy (outcome : CzOutcome) : Crossing (Option String) := do
  return (← outcome.taken Swift.History).createdBy
@[simp] def historyAuthor (outcome : CzOutcome) : Crossing (Option String) := do
  return (← outcome.taken Swift.History).author
@[simp] def historyComment (outcome : CzOutcome) : Crossing (Option String) := do
  return (← outcome.taken Swift.History).comment
@[simp] def historyEmptyLayer (outcome : CzOutcome) : Crossing (Option Bool) := do
  return (← outcome.taken Swift.History).emptyLayer

@[simp] def ociImageCreated (outcome : CzOutcome) : Crossing (Option String) := do
  return (← outcome.taken Swift.Image).created
@[simp] def ociImageAuthor (outcome : CzOutcome) : Crossing (Option String) := do
  return (← outcome.taken Swift.Image).author
@[simp] def ociImageArchitecture (outcome : CzOutcome) : Crossing String := do
  return (← outcome.taken Swift.Image).architecture
@[simp] def ociImageOs (outcome : CzOutcome) : Crossing String := do
  return (← outcome.taken Swift.Image).os
@[simp] def ociImageOsVersion (outcome : CzOutcome) : Crossing (Option String) := do
  return (← outcome.taken Swift.Image).osVersion
@[simp] def ociImageOsFeatures (outcome : CzOutcome) : Crossing CzOutcome := do
  return holding (← outcome.taken Swift.Image).osFeatures
@[simp] def ociImageVariant (outcome : CzOutcome) : Crossing (Option String) := do
  return (← outcome.taken Swift.Image).variant
@[simp] def ociImageConfig (outcome : CzOutcome) : Crossing CzOutcome := do
  return holding (← outcome.taken Swift.Image).config
@[simp] def ociImageRootfs (outcome : CzOutcome) : Crossing CzOutcome := do
  return holding (some (← outcome.taken Swift.Image).rootfs)
@[simp] def ociImageHistory (outcome : CzOutcome) : Crossing CzOutcome := do
  return holding (← outcome.taken Swift.Image).history

/-! ### Rust's readers -/

def platform (outcome : CzOutcome) : Crossing Rust.Platform := do
  return {
    architecture := ← outcome.platformArchitecture
    os := ← outcome.platformOs
    osVersion := ← outcome.platformOsVersion
    osFeatures := ← (← outcome.platformOsFeatures).optional strings
    variant := ← outcome.platformVariant }

def descriptor (outcome : CzOutcome) : Crossing Rust.Descriptor := do
  return {
    mediaType := ← outcome.descriptorMediaType
    digest := ← outcome.descriptorDigest
    size := ← outcome.descriptorSize
    urls := ← (← outcome.descriptorUrls).optional strings
    annotations := ← (← outcome.descriptorAnnotations).optional map
    platform := ← (← outcome.descriptorPlatform).optional platform
    artifactType := ← outcome.descriptorArtifactType }

def index (outcome : CzOutcome) : Crossing Rust.Index := do
  return {
    schemaVersion := ← outcome.indexSchemaVersion
    mediaType := ← outcome.indexMediaType
    manifests := ← (← outcome.indexManifests).list descriptor
    annotations := ← (← outcome.indexAnnotations).optional map
    subject := ← (← outcome.indexSubject).optional descriptor
    artifactType := ← outcome.indexArtifactType }

def manifest (outcome : CzOutcome) : Crossing Rust.Manifest := do
  return {
    schemaVersion := ← outcome.manifestSchemaVersion
    mediaType := ← outcome.manifestMediaType
    config := ← (← outcome.manifestConfig).descriptor
    layers := ← (← outcome.manifestLayers).list descriptor
    annotations := ← (← outcome.manifestAnnotations).optional map
    subject := ← (← outcome.manifestSubject).optional descriptor
    artifactType := ← outcome.manifestArtifactType }

def imageConfig (outcome : CzOutcome) : Crossing Rust.ImageConfig := do
  return {
    user := ← outcome.imageConfigUser
    env := ← (← outcome.imageConfigEnv).optional strings
    entrypoint := ← (← outcome.imageConfigEntrypoint).optional strings
    cmd := ← (← outcome.imageConfigCmd).optional strings
    workingDir := ← outcome.imageConfigWorkingDir
    labels := ← (← outcome.imageConfigLabels).optional map
    stopSignal := ← outcome.imageConfigStopSignal }

def rootfs (outcome : CzOutcome) : Crossing Rust.Rootfs := do
  return { type := ← outcome.rootfsType, diffIds := ← outcome.rootfsDiffIds }

def history (outcome : CzOutcome) : Crossing Rust.History := do
  return {
    created := ← outcome.historyCreated
    createdBy := ← outcome.historyCreatedBy
    author := ← outcome.historyAuthor
    comment := ← outcome.historyComment
    emptyLayer := ← outcome.historyEmptyLayer }

def ociImage (outcome : CzOutcome) : Crossing Rust.Image := do
  return {
    created := ← outcome.ociImageCreated
    author := ← outcome.ociImageAuthor
    architecture := ← outcome.ociImageArchitecture
    os := ← outcome.ociImageOs
    osVersion := ← outcome.ociImageOsVersion
    osFeatures := ← (← outcome.ociImageOsFeatures).optional strings
    variant := ← outcome.ociImageVariant
    config := ← (← outcome.ociImageConfig).optional imageConfig
    rootfs := ← (← outcome.ociImageRootfs).rootfs
    history := ← (← outcome.ociImageHistory).optional fun entries => entries.list history }

end CzOutcome

/-! ### Rust to Swift and back -/

namespace Rust

/-- A platform with its architecture in Swift's form. -/
def Platform.normal [Architectures] (platform : Platform) : Platform :=
  { platform with architecture := Architectures.normal platform.architecture }

def Descriptor.normal [Architectures] (descriptor : Descriptor) : Descriptor :=
  { descriptor with platform := descriptor.platform.map Platform.normal }

def Index.normal [Architectures] (index : Index) : Index :=
  { index with
    manifests := index.manifests.map Descriptor.normal
    subject := index.subject.map Descriptor.normal }

/-- No two keys of the descriptor's annotations are canonically equivalent. -/
def Descriptor.KeysDistinct (descriptor : Descriptor) : Prop :=
  ∀ map ∈ descriptor.annotations, ContainerBridge.KeysDistinct map.toList

structure Index.KeysDistinct (index : Index) : Prop where
  manifests : ∀ manifest ∈ index.manifests, manifest.KeysDistinct
  annotations : ∀ map ∈ index.annotations, ContainerBridge.KeysDistinct map.toList
  subject : ∀ subject ∈ index.subject, subject.KeysDistinct

def ImageConfig.KeysDistinct (config : ImageConfig) : Prop :=
  ∀ map ∈ config.labels, ContainerBridge.KeysDistinct map.toList

variable [Architectures]

theorem Platform.crosses (platform : Platform) :
    Crosses Swift.Platform.init CzOutcome.platform platform platform.normal := by
  refine ⟨_, by simp [Swift.Platform.init, strings]; rfl, ?_⟩
  simp [CzOutcome.platform, normal]

theorem Descriptor.crosses (descriptor : Descriptor) (h : descriptor.KeysDistinct) :
    Crosses Swift.Descriptor.init CzOutcome.descriptor descriptor descriptor.normal := by
  obtain ⟨platform, hplatform, hplatform'⟩ := Carries.option_map
    fun platform (_ : platform ∈ descriptor.platform) => platform.crosses
  refine ⟨_, by simp [Swift.Descriptor.init, strings, hplatform]; rfl, ?_⟩
  simp [CzOutcome.descriptor, hplatform', normal, Function.comp_def, collect_uniquing_option h]

theorem Index.crosses (index : Index) (h : index.KeysDistinct) :
    Crosses Swift.Index.init CzOutcome.index index index.normal := by
  obtain ⟨manifests, hmanifests, hmanifests'⟩ := Carries.list_map
    fun manifest hmem => Descriptor.crosses manifest (h.manifests manifest hmem)
  obtain ⟨subject, hsubject, hsubject'⟩ := Carries.option_map
    fun subject hmem => Descriptor.crosses subject (h.subject subject hmem)
  refine ⟨_, by simp [Swift.Index.init, hmanifests, hsubject]; rfl, ?_⟩
  simp [CzOutcome.index, hmanifests', hsubject', normal, Function.comp_def,
    collect_uniquing_option h.annotations]

omit [Architectures] in
theorem ImageConfig.crosses (config : ImageConfig) (h : config.KeysDistinct) :
    Crosses Swift.ImageConfig.init CzOutcome.imageConfig config config := by
  refine ⟨_, by simp [Swift.ImageConfig.init, strings]; rfl, ?_⟩
  simp [CzOutcome.imageConfig, Function.comp_def, collect_uniquing_option h]

end Rust

/-! ### Swift to Rust -/

namespace Rust

/-- The Rust value with the fields of Swift's. -/
def Platform.ofSwift (platform : Swift.Platform) : Platform where
  architecture := platform.architecture
  os := platform.os
  osVersion := platform.osVersion
  osFeatures := platform.osFeatures
  variant := platform.variant

def Descriptor.ofSwift (descriptor : Swift.Descriptor) : Descriptor where
  mediaType := descriptor.mediaType
  digest := descriptor.digest
  size := descriptor.size
  urls := descriptor.urls
  annotations := descriptor.annotations.map fun held => .collect held.entries
  platform := descriptor.platform.map .ofSwift
  artifactType := descriptor.artifactType

def Manifest.ofSwift (manifest : Swift.Manifest) : Manifest where
  schemaVersion := manifest.schemaVersion
  mediaType := manifest.mediaType
  config := .ofSwift manifest.config
  layers := manifest.layers.map .ofSwift
  annotations := manifest.annotations.map fun held => .collect held.entries
  subject := manifest.subject.map .ofSwift
  artifactType := manifest.artifactType

def ImageConfig.ofSwift (config : Swift.ImageConfig) : ImageConfig where
  user := config.user
  env := config.env
  entrypoint := config.entrypoint
  cmd := config.cmd
  workingDir := config.workingDir
  labels := config.labels.map fun held => .collect held.entries
  stopSignal := config.stopSignal

def History.ofSwift (history : Swift.History) : History where
  created := history.created
  createdBy := history.createdBy
  author := history.author
  comment := history.comment
  emptyLayer := history.emptyLayer

def Image.ofSwift (image : Swift.Image) : Image where
  created := image.created
  author := image.author
  architecture := image.architecture
  os := image.os
  osVersion := image.osVersion
  osFeatures := image.osFeatures
  variant := image.variant
  config := image.config.map .ofSwift
  rootfs := { type := image.rootfs.type, diffIds := image.rootfs.diffIDs }
  history := image.history.map (·.map .ofSwift)

@[simp] theorem Platform.read (platform : Swift.Platform) :
    (CzOutcome.holding (some platform)).platform = .ok (ofSwift platform) := by
  simp [CzOutcome.platform, ofSwift]

@[simp] theorem Descriptor.read (descriptor : Swift.Descriptor) :
    (CzOutcome.holding (some descriptor)).descriptor = .ok (ofSwift descriptor) := by
  simp [CzOutcome.descriptor, ofSwift]

theorem Manifest.read (manifest : Swift.Manifest) :
    (CzOutcome.holding (some manifest)).manifest = .ok (ofSwift manifest) := by
  simp [CzOutcome.manifest, ofSwift]

@[simp] theorem ImageConfig.read (config : Swift.ImageConfig) :
    (CzOutcome.holding (some config)).imageConfig = .ok (ofSwift config) := by
  simp [CzOutcome.imageConfig, ofSwift]

@[simp] theorem History.read (history : Swift.History) :
    (CzOutcome.holding (some history)).history = .ok (ofSwift history) := by
  simp [CzOutcome.history, ofSwift]

theorem Image.read (image : Swift.Image) :
    (CzOutcome.holding (some image)).ociImage = .ok (ofSwift image) := by
  simp [CzOutcome.ociImage, CzOutcome.rootfs, ofSwift]

/-- An image type crosses to Swift and back but for the form of an architecture, and Swift's
manifests and images are read field by field, each map with exactly the entries Swift holds. -/
theorem images_cross [Architectures] :
    (∀ descriptor : Descriptor, descriptor.KeysDistinct →
      Crosses Swift.Descriptor.init CzOutcome.descriptor descriptor descriptor.normal) ∧
    (∀ index : Index, index.KeysDistinct →
      Crosses Swift.Index.init CzOutcome.index index index.normal) ∧
    (∀ config : ImageConfig, config.KeysDistinct →
      Crosses Swift.ImageConfig.init CzOutcome.imageConfig config config) ∧
    (∀ manifest : Swift.Manifest,
      (CzOutcome.holding (some manifest)).manifest = .ok (.ofSwift manifest)) ∧
    (∀ image : Swift.Image,
      (CzOutcome.holding (some image)).ociImage = .ok (.ofSwift image)) ∧
    ∀ held : Dictionary String, (BTreeMap.collect held.entries).toList.Perm held.entries :=
  ⟨Descriptor.crosses, Index.crosses, ImageConfig.crosses, Manifest.read, Image.read,
    fun held => collect_toList_perm held.distinct.keys_nodup⟩

/-- An index with a manifest for each of two platforms, and with what is there but empty. -/
def Index.sample : Index where
  schemaVersion := 2
  mediaType := "application/vnd.oci.image.index.v1+json"
  manifests := [
    ⟨"application/vnd.oci.image.manifest.v1+json", "sha256:aa", 527, some [], some ∅,
      some ⟨"aarch64", "linux", none, some [], some "v8"⟩, none⟩,
    ⟨"application/vnd.oci.image.manifest.v1+json", "sha256:bb", 528, none,
      some (.collect [("b", "2"), ("a", "1")]), some ⟨"amd64", "linux", none, none, none⟩, none⟩]
  annotations := none
  subject := some ⟨"application/vnd.oci.empty.v1+json", "sha256:cc", 2, none, none, none, some ""⟩
  artifactType := none

omit [Runtime] in
theorem sample_images_cross :
    let _ := Runtime.ascii
    let _ := Architectures.common
    Crosses Swift.Index.init CzOutcome.index Index.sample Index.sample.normal ∧
      Index.sample.normal.manifests.map (·.platform.map (·.architecture)) =
        [some "arm64", some "amd64"] := by
  let _ := Runtime.ascii
  let _ := Architectures.common
  refine ⟨images_cross.2.1 Index.sample (.mk ?_ ?_ ?_), by decide⟩
  · intro manifest hmem
    simp only [Index.sample, List.mem_cons, List.not_mem_nil, or_false] at hmem
    obtain rfl | rfl := hmem <;> rintro _ ⟨⟩ <;> decide
  · rintro _ ⟨⟩
  · rintro _ ⟨⟩ _ ⟨⟩

end Rust

end ContainerBridge
