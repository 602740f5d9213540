import ContainerBridge.Container.Cases

/-! What the container configurations rest on outside the bridge: the external initialisers and
URLs, the system's `dup`, and Rust's paths. -/

namespace ContainerBridge

/-- The parts of Containerization and Foundation that the bridge calls. An initialiser that can
throw either throws or stores its arguments. -/
class External where
  URL : Type
  /-- `URL(filePath:)`. -/
  fileURL : String → URL
  /-- `path(percentEncoded: false)`. -/
  path : URL → String
  /-- `URL(string:)`. -/
  urlOfString : String → Option URL
  absoluteString : URL → String
  /-- What `CIDRv4(_:prefix:)` throws. -/
  cidrV4Error : UInt32 → UInt8 → Option SwiftError
  /-- What `CIDRv6(_:prefix:)` throws. -/
  cidrV6Error : BitVec 128 → UInt8 → Option SwiftError
  /-- `CapabilityName(rawValue:)`. -/
  capabilityName : String → Except SwiftError CapabilityName
  capabilityName_description : ∀ name, capabilityName name.description = .ok name
  /-- The fields of a container's, a pod's and a pod container's configuration that the bridge does
  not carry, and their defaults. -/
  ContainerFields : Type
  containerFields : ContainerFields
  PodFields : Type
  podFields : PodFields
  PodContainerFields : Type
  podContainerFields : PodContainerFields

/-- What the external code does with absolute paths, URLs that need no escape and blocks whose host
bits are zero. -/
@[reducible] def External.plain : External where
  URL := String
  fileURL := id
  path := id
  urlOfString := some
  absoluteString := id
  cidrV4Error _ length := if length ≤ 32 then none else some (.other "invalid prefix length")
  cidrV6Error _ length := if length ≤ 128 then none else some (.other "invalid prefix length")
  capabilityName text :=
    match CapabilityName.allCases.find? fun case => case.description == text with
    | some case => .ok case
    | none => .error (.other "invalid capability name")
  capabilityName_description name := by rw [CapabilityName.find_description]
  ContainerFields := Unit
  containerFields := ()
  PodFields := Unit
  podFields := ()
  PodContainerFields := Unit
  podContainerFields := ()

/-- The streams whose descriptors the bridge duplicates, each at most once for a configuration. -/
inductive Stream where
  | stdin | stdout | stderr | bootLog
  deriving DecidableEq

/-- The system while Swift makes one configuration: what `dup` returns for a stream's descriptor,
and which object holds the duplicate. -/
class Host where
  dup : Stream → Int32 → Int32
  object : Stream → Nat

/-- A system on which each duplicate is the next descriptor above the caller's. -/
@[reducible] def Host.next : Host where
  dup _ descriptor := if 0 ≤ descriptor then descriptor + 1 else -1
  object
    | .stdin => 0
    | .stdout => 1
    | .stderr => 2
    | .bootLog => 3

/-- Rust's `PathBuf`, which is bytes. -/
structure PathBuf where
  bytes : ByteArray

/-- `PathBuf::from` of a `String`. -/
def PathBuf.from (text : String) : PathBuf := ⟨text.toByteArray⟩

/-- A path Swift reads, or `None` if it isn't UTF-8. -/
def PathBuf.path (path : PathBuf) : Option String := String.fromUTF8? path.bytes

/-- A path as text, with any bytes that aren't UTF-8 replaced. -/
def PathBuf.lossyPath [Runtime] (path : PathBuf) : String := Runtime.lossy path.bytes

theorem PathBuf.from_path {path : PathBuf} {text : String} (h : path.path = some text) :
    PathBuf.from text = path := by
  rw [PathBuf.path, String.fromUTF8?] at h
  split at h
  · cases h
    rfl
  · cases h

@[simp] theorem PathBuf.path_from (text : String) : (PathBuf.from text).path = some text := by
  rw [PathBuf.path, PathBuf.from, String.fromUTF8?, dif_pos]
  rfl

variable [Runtime]

/-- The file URL of a path Rust lends, naming `what` and the path as `lossy` gives it when it isn't
UTF-8. -/
def lentPath [External] (path : Option String) (what lossy : String) : Crossing External.URL :=
  match path with
  | some path => .ok (External.fileURL path)
  | none => .throw (.malformed s!"{what} path" lossy)

/-- A descriptor's handle: an object, the descriptor it holds, and the caller's number for it when
the bridge keeps one. -/
structure FileHandle where
  object : Nat
  fileDescriptor : Int32
  lentDescriptor : Option Int32 := none
  deriving DecidableEq

/-- A duplicate of `descriptor`, closed with the handle. -/
def duplicate [Host] (stream : Stream) (descriptor : Int32) : Crossing FileHandle :=
  let copy := Host.dup stream descriptor
  if 0 ≤ copy then .ok { object := Host.object stream, fileDescriptor := copy }
  else .throw (.malformed "descriptor" (toString descriptor))

/-- A duplicate of a boot log descriptor, which remembers the caller's number. -/
def duplicateBootLog [Host] (descriptor : Int32) : Crossing FileHandle := do
  let handle ← duplicate .bootLog descriptor
  return { handle with lentDescriptor := some descriptor }

/-- The caller's number for a boot log's handle. -/
def lentDescriptor (handle : FileHandle) : Int32 :=
  handle.lentDescriptor.getD handle.fileDescriptor

omit [Runtime] in
theorem lentDescriptor_duplicateBootLog [Host] {descriptor : Int32} {handle : FileHandle}
    (h : duplicateBootLog descriptor = .ok handle) : lentDescriptor handle = descriptor := by
  obtain ⟨copy, _, hcopy⟩ := Carry.bind_eq_ok.mp h
  cases hcopy
  rfl

omit [Runtime] in
theorem fileDescriptor_duplicateBootLog [Host] {descriptor : Int32} {handle : FileHandle}
    (h : duplicateBootLog descriptor = .ok handle) :
    handle.fileDescriptor = Host.dup .bootLog descriptor := by
  obtain ⟨copy, hcopy, hhandle⟩ := Carry.bind_eq_ok.mp h
  cases hhandle
  rw [duplicate] at hcopy
  split at hcopy
  · cases hcopy
    rfl
  · cases hcopy

end ContainerBridge
