import ContainerBridge.Archive.Xattrs
import ContainerBridge.Runtime.Dates
import ContainerBridge.Wrapper

/-! `EXT4.Formatter`, but for the calls that unpack an archive. A file is made from what Rust lends:
a path, dates as seconds, bytes that Swift reads as a stream, and extended attributes as joined
bytes. -/

namespace ContainerBridge

open Carry Platform

variable [Runtime]

/-! ### Arguments -/

/-- `FileTimestamps`. -/
structure Rust.FileTimestamps where
  access : SystemTime
  modification : SystemTime
  creation : SystemTime
  now : SystemTime

structure Swift.FileTimestamps where
  access : Date
  modification : Date
  creation : Date
  now : Date

/-- `CreateOptions`. -/
structure Rust.CreateOptions where
  link : Option PathBuf
  ts : FileTimestamps
  buf : Option ByteVec
  uid : Option UInt32
  gid : Option UInt32
  xattrs : Option (BTreeMap ByteVec)
  recursion : Bool

namespace Swift

/-- The arguments of Swift's `create`, its stream by the bytes it reads. -/
structure CreateArguments (FilePath : Type) where
  path : FilePath
  link : Option FilePath
  mode : UInt16
  ts : FileTimestamps
  buf : Option Rust.ByteVec
  uid : Option UInt32
  gid : Option UInt32
  xattrs : Option (Dictionary IndexedData)
  recursion : Bool

/-- Swift's `EXT4.Formatter`, and what opening and closing an `InputStream` of some bytes does. -/
structure Formatter (World FilePath : Type) where
  filePath : String → FilePath
  openStream : Rust.ByteVec → World → World
  closeStream : Rust.ByteVec → World → World
  link : FilePath → FilePath → Throwing World Unit
  unlink : FilePath → Bool → Throwing World Unit
  create : CreateArguments FilePath → Throwing World Unit
  close : Throwing World Unit

end Swift

/-! ### Attributes -/

namespace Swift

/-- The rounds left to do set the values left, each under its name. -/
theorem Slicing.foldlM_next_set {values : IndexedData} (before : List UInt8)
    (rest : List (String × Rust.ByteVec)) (slicing : Slicing)
    (h : values.bytes = before ++ rest.flatMap (·.2.bytes))
    (hoffset : slicing.offset = values.startIndex + before.length) :
    ∃ final,
      (rest.map fun entry => (entry.1, UInt64.ofNat entry.2.bytes.length)).foldlM
        (next values) slicing = .ok final ∧
      final.map.entries = (rest.map fun entry => (entry.1, IndexedData.init entry.2)).foldl
        (fun held entry => updateValue held entry.1 entry.2) slicing.map.entries := by
  induction rest generalizing before slicing with
  | nil => exact ⟨slicing, rfl, rfl⟩
  | cons entry rest ih =>
    obtain ⟨name, value⟩ := entry
    rw [List.flatMap_cons, ← List.append_assoc] at h
    let after : Slicing := {
      map := set slicing.map name (.init value)
      offset := slicing.offset + value.bytes.length
      slices := slicing.slices ++ [(slicing.offset, slicing.offset + value.bytes.length)] }
    have hafter : after.offset = values.startIndex + (before ++ value.bytes).length := by
      simp only [after, hoffset, List.length_append, Int.natCast_add, Int.add_assoc]
    obtain ⟨final, hfinal, hentries⟩ := ih (before ++ value.bytes) after h hafter
    refine ⟨final, ?_, hentries⟩
    simp only [List.map_cons, List.foldlM_cons, next_eq name h hoffset, ok_bind]
    exact hfinal

end Swift

/-- Swift's dictionary of extended attributes: of names that are equal in Swift the last one's
value is kept. -/
def FormatterCall.attributes (xattrs : BTreeMap Rust.ByteVec) : Dictionary Swift.IndexedData :=
  .uniquing (xattrs.toList.map fun entry => (entry.1, .init entry.2))

/-- The joined attributes reach Swift as that dictionary, whatever their names are. -/
theorem Platform.xattrs_attributes {xattrs : BTreeMap Rust.ByteVec}
    (h : (xattrs.toList.flatMap (·.2.bytes)).length < 2 ^ 63) :
    ∃ sent, Platform.xattrs xattrs = .ok sent ∧
      Swift.dataMap sent.names sent.lengths sent.values =
        .ok (FormatterCall.attributes xattrs) := by
  obtain ⟨sent, hsent⟩ := (Platform.xattrs_eq_ok xattrs).mpr h
  refine ⟨sent, hsent, ?_⟩
  obtain ⟨joined, hjoined, hmade⟩ := bind_eq_ok.mp hsent
  cases hmade
  have hbytes : (Swift.IndexedData.init joined).bytes =
      [] ++ xattrs.toList.flatMap (·.2.bytes) := by
    rw [Rust.ByteVec.collect] at hjoined
    split at hjoined
    · cases hjoined
      simp [List.flatMap_map, Swift.IndexedData.init]
    · cases hjoined
  obtain ⟨final, hfinal, hentries⟩ := Swift.Slicing.foldlM_next_set [] xattrs.toList
    {
      map := { entries := [], distinct := List.nodup_nil }
      offset := (Swift.IndexedData.init joined).startIndex
      slices := [] } hbytes (by simp)
  have hsliced : Swift.sliced (xattrs.toList.map Prod.fst)
      ((xattrs.toList.map Prod.snd).map fun value => .ofNat value.bytes.length) (.init joined) =
      .ok final := by
    simpa [Swift.sliced, List.map_map, List.zip_map', Function.comp_def,
      -Std.ExtTreeMap.map_fst_toList_eq_keys] using hfinal
  rw [Swift.dataMap, hsliced, ok_bind, FormatterCall.attributes, Dictionary.uniquing]
  simp only [hentries, uniqued]
  rfl

section Calls

variable {World FilePath : Type} (formatter : Swift.Formatter World FilePath)

/-! ### Swift -/

namespace Swift.CzExt4Formatter

def link (link target : String) : World → Returned Unit × World :=
  Swift.outcome (formatter.link (formatter.filePath link) (formatter.filePath target))

def unlink (path : String) (directoryWhiteout : Bool) : World → Returned Unit × World :=
  Swift.outcome (formatter.unlink (formatter.filePath path) directoryWhiteout)

/-- `stream?.open()`, and `stream?.close()` whichever way `body` ends. -/
def streaming (stream : Option Rust.ByteVec) (body : Throwing World Unit) :
    Throwing World Unit :=
  ExceptT.mk fun world =>
    let (result, after) := body.run.run (stream.elim world (formatter.openStream · world))
    (result, stream.elim after (formatter.closeStream · after))

def create (path : String) (link : Option String) (mode : UInt16)
    (access modification creation now : F64) (hasBuf : Bool) (buf : Rust.ByteVec)
    (uid gid : Option UInt32) (hasXattrs : Bool) (xattrNames : List String)
    (xattrLengths : List UInt64) (xattrValues : Rust.ByteVec) (recursion : Bool) :
    Crossing (World → Returned Unit × World) := do
  let path := formatter.filePath path
  let link := link.map formatter.filePath
  let ts : FileTimestamps := {
    access := .init access
    modification := .init modification
    creation := .init creation
    now := .init now }
  let stream := if hasBuf then some buf else none
  let xattrs ← ifPresent hasXattrs (dataMap xattrNames xattrLengths xattrValues)
  return Swift.outcome (streaming formatter stream
    (formatter.create { path, link, mode, ts, buf := stream, uid, gid, xattrs, recursion }))

def close : World → Returned Unit × World := Swift.outcome formatter.close

theorem streaming_none (body : Throwing World Unit) : streaming formatter none body = body := rfl

/-- A stream is opened before the call and closed after it, when that returns and when it throws. -/
theorem streaming_some {stream : Rust.ByteVec} {body : Throwing World Unit} {world after : World}
    {result : Except SwiftError Unit}
    (h : body.run.run (formatter.openStream stream world) = (result, after)) :
    (streaming formatter (some stream) body).run.run world =
      (result, formatter.closeStream stream after) := by
  change body (formatter.openStream stream world) = (result, after) at h
  have hruns : (streaming formatter (some stream) body).run.run world =
      ((body (formatter.openStream stream world)).1,
        formatter.closeStream stream (body (formatter.openStream stream world)).2) := rfl
  rw [hruns, h]

end Swift.CzExt4Formatter

/-! ### Rust -/

omit [Runtime] in
theorem Rust.ByteVec.length_nil_lt : ([] : List UInt8).length < 2 ^ 63 := by decide

/-- `Vec::default()`. -/
def Rust.ByteVec.empty : ByteVec := ⟨[], length_nil_lt⟩

/-- The attributes as they are sent: `map(platform::xattrs).unwrap_or_default()`. -/
def Rust.CreateOptions.sent (options : CreateOptions) : Crossing Platform.SentXattrs :=
  match options.xattrs with
  | some xattrs => Platform.xattrs xattrs
  | none => .ok ⟨[], [], .empty⟩

namespace Rust.Formatter

/-- What Rust does with a call that returns nothing. -/
def drop : Returned Unit → Crossing Unit := fun _ => .ok ()

def link (link target : PathBuf) : World → Crossing (Except Rust.Error Unit × World) :=
  checked (path link) fun linkText => checked (path target) fun targetText =>
    called (Swift.CzExt4Formatter.link formatter linkText targetText)
      s!"link {link.lossyPath} to {target.lossyPath}" drop

def unlink (file : PathBuf) (directoryWhiteout : Bool) :
    World → Crossing (Except Rust.Error Unit × World) :=
  checked (path file) fun text =>
    called (Swift.CzExt4Formatter.unlink formatter text directoryWhiteout)
      s!"unlink {file.lossyPath}" drop

def create (file : PathBuf) (mode : UInt16) (options : CreateOptions) (world : World) :
    Crossing (Except Rust.Error Unit × World) := do
  let sent ← options.sent
  checked (path file) (fun text => checked (options.link.mapM path) fun link world => do
    called (← Swift.CzExt4Formatter.create formatter text link mode (seconds options.ts.access)
        (seconds options.ts.modification) (seconds options.ts.creation) (seconds options.ts.now)
        options.buf.isSome (options.buf.getD .empty) options.uid options.gid
        options.xattrs.isSome sent.names sent.lengths sent.values options.recursion)
      s!"create {file.lossyPath}" drop world) world

def close : World → Crossing (Except Rust.Error Unit × World) :=
  called (Swift.CzExt4Formatter.close formatter) "close a filesystem" drop

end Rust.Formatter

/-! ### Runs -/

/-- A call of a formatter. -/
inductive FormatterCall where
  | link (link target : PathBuf)
  | unlink (file : PathBuf) (directoryWhiteout : Bool)
  | create (file : PathBuf) (mode : UInt16) (options : Rust.CreateOptions)
  | close

namespace FormatterCall

def action : FormatterCall → String
  | .link name target => s!"link {name.lossyPath} to {target.lossyPath}"
  | .unlink file _ => s!"unlink {file.lossyPath}"
  | .create file _ _ => s!"create {file.lossyPath}"
  | .close => "close a filesystem"

def perform : FormatterCall → World → Crossing (Except Rust.Error Unit × World)
  | .link name target => Rust.Formatter.link formatter name target
  | .unlink file whiteout => Rust.Formatter.unlink formatter file whiteout
  | .create file mode options => Rust.Formatter.create formatter file mode options
  | .close => Rust.Formatter.close formatter

/-- The dates Swift makes of Rust's times. -/
def dates (ts : Rust.FileTimestamps) : Swift.FileTimestamps where
  access := .init (seconds ts.access)
  modification := .init (seconds ts.modification)
  creation := .init (seconds ts.creation)
  now := .init (seconds ts.now)

/-- Opens the stream, if there is one, and closes it however `body` ends. -/
def opening (stream : Option Rust.ByteVec) (body : Throwing World Unit) : Throwing World Unit :=
  match stream with
  | none => body
  | some stream => do
    modify (formatter.openStream stream)
    try body finally modify (formatter.closeStream stream)

/-- The call of Swift's that it stands for, once its paths are known to be text. -/
def meaning : FormatterCall → Except Rust.Error (Throwing World Unit)
  | .link name target => do
    let name ← path name
    let target ← path target
    return formatter.link (formatter.filePath name) (formatter.filePath target)
  | .unlink file whiteout => do
    let file ← path file
    return formatter.unlink (formatter.filePath file) whiteout
  | .create file mode options => do
    let file ← path file
    let link ← options.link.mapM path
    return opening formatter options.buf (formatter.create {
      path := formatter.filePath file
      link := link.map formatter.filePath
      mode
      ts := dates options.ts
      buf := options.buf
      uid := options.uid
      gid := options.gid
      xattrs := options.xattrs.map attributes
      recursion := options.recursion })
  | .close => return formatter.close

/-- What Swift's call returns and does, with the error as Rust rebuilds it. -/
def result (call : FormatterCall) (world : World) : Except Rust.Error Unit × World :=
  match call.meaning formatter with
  | .error failure => (.error failure, world)
  | .ok body => ((body.run.run world).1.mapError (rebuilt call.action), (body.run.run world).2)

/-- A vector can hold the bytes of all the attributes. -/
def Fits : FormatterCall → Prop
  | .link _ _ => True
  | .unlink _ _ => True
  | .create _ _ options =>
    ∀ xattrs ∈ options.xattrs, (xattrs.toList.flatMap (·.2.bytes)).length < 2 ^ 63
  | .close => True

/-- The wrappers' results of some calls, one after the other. -/
def run : List FormatterCall → World → Crossing (List (Except Rust.Error Unit) × World)
  | [], world => .ok ([], world)
  | call :: calls, world => do
    let (returned, after) ← call.perform formatter world
    let (others, last) ← run calls after
    return (returned :: others, last)

/-- The results of Swift's own calls. -/
def results : List FormatterCall → World → List (Except Rust.Error Unit) × World
  | [], world => ([], world)
  | call :: calls, world =>
    let (returned, after) := call.result formatter world
    let (others, last) := results calls after
    (returned :: others, last)

omit [Runtime] in
theorem streamed (buf : Option Rust.ByteVec) :
    (if buf.isSome = true then some (buf.getD .empty) else none) = buf := by
  cases buf <;> rfl

/-- What is sent of the attributes is what Swift makes them of. -/
theorem sent_eq {options : Rust.CreateOptions}
    (h : ∀ xattrs ∈ options.xattrs, (xattrs.toList.flatMap (·.2.bytes)).length < 2 ^ 63) :
    ∃ sent, Rust.CreateOptions.sent options = .ok sent ∧
      ifPresent options.xattrs.isSome (Swift.dataMap sent.names sent.lengths sent.values) =
        .ok (options.xattrs.map attributes) := by
  unfold Rust.CreateOptions.sent
  cases hxattrs : options.xattrs with
  | none => exact ⟨_, rfl, rfl⟩
  | some xattrs =>
    obtain ⟨sent, hsent, hmade⟩ := Platform.xattrs_attributes (h xattrs hxattrs)
    refine ⟨sent, hsent, ?_⟩
    simp only [Option.isSome_some, ifPresent, hmade]
    rfl

omit [Runtime] in
theorem run_finally (body : Throwing World Unit) (ends : World → World) (world : World) :
    (tryFinally body (modify ends : Throwing World PUnit)).run.run world =
      ((body.run.run world).1, ends (body.run.run world).2) := by
  -- What the block does depends on `body` only through what it does in this world.
  have hruns : (tryFinally body (modify ends : Throwing World PUnit)).run.run world =
      (tryFinally (ExceptT.mk fun _ => body.run.run world : Throwing World Unit)
        (modify ends : Throwing World PUnit)).run.run world := rfl
  rw [hruns]
  cases body.run.run world with
  | mk result after => cases result <;> rfl

/-- The wrapper opens and closes a stream around the call, however that ends. -/
theorem streaming_eq (stream : Option Rust.ByteVec) (body : Throwing World Unit) :
    Swift.CzExt4Formatter.streaming formatter stream body = opening formatter stream body := by
  cases stream with
  | none => exact Swift.CzExt4Formatter.streaming_none formatter body
  | some stream =>
    funext world
    cases h : body.run.run (formatter.openStream stream world) with
    | mk result after =>
      refine (Swift.CzExt4Formatter.streaming_some formatter h).trans ?_
      have hopening : (opening formatter (some stream) body).run.run world =
          (tryFinally body (modify (formatter.closeStream stream) : Throwing World PUnit)).run.run
            (formatter.openStream stream world) := rfl
      exact ((hopening.trans (run_finally body _ _)).trans (by rw [h])).symm

theorem called_drop (body : Throwing World Unit) (action : String) (world : World) :
    called (Swift.outcome body) action Rust.Formatter.drop world =
      .ok ((body.run.run world).1.mapError (rebuilt action), (body.run.run world).2) := by
  calc called (Swift.outcome body) action Rust.Formatter.drop world
      = called (Swift.outcome (body >>= pure)) action Rust.Formatter.drop world := by
        rw [bind_pure]
    _ = _ := called_plain (fun value => value) (fun _ => rfl) (fun _ => rfl) action world

/-- Each wrapper returns what Swift's function returns, and does what it does. -/
theorem perform_eq {call : FormatterCall} (h : call.Fits) (world : World) :
    call.perform formatter world = .ok (call.result formatter world) := by
  cases call with
  | link name target =>
    unfold perform Rust.Formatter.link result meaning
    dsimp only
    cases hname : path name with
    | error failure => rfl
    | ok nameText =>
      cases htarget : path target with
      | error failure => rfl
      | ok targetText => exact called_drop _ _ _
  | unlink file whiteout =>
    unfold perform Rust.Formatter.unlink result meaning
    dsimp only
    cases hfile : path file with
    | error failure => rfl
    | ok text => exact called_drop _ _ _
  | create file mode options =>
    obtain ⟨sent, hsent, hattributes⟩ := sent_eq h
    unfold perform Rust.Formatter.create result meaning
    dsimp only
    rw [hsent, ok_bind]
    cases hfile : path file with
    | error failure => rfl
    | ok text =>
      cases hlink : options.link.mapM path with
      | error failure => rfl
      | ok link =>
        unfold checked Swift.CzExt4Formatter.create
        dsimp only
        rw [hattributes, streamed, ok_bind, pure_eq_ok, ok_bind, streaming_eq]
        exact called_drop _ _ _
  | close => exact called_drop _ _ _

end FormatterCall

/-- Any calls of a formatter, one after the other, return what Swift's own calls return and leave
the system as those do: a path that isn't UTF-8 is refused before Swift is asked, a failure doesn't
keep the later calls from Swift, and every error is the one that Swift threw. -/
theorem formatter_refines (calls : List FormatterCall) (h : ∀ call ∈ calls, call.Fits)
    (world : World) :
    FormatterCall.run formatter calls world = .ok (FormatterCall.results formatter calls world) ∧
      ∀ action thrown, Rebuilt action thrown (rebuilt action thrown) := by
  refine ⟨?_, rebuilt_rebuilt⟩
  induction calls generalizing world with
  | nil => rfl
  | cons call calls ih =>
    have hcall := FormatterCall.perform_eq formatter (h call List.mem_cons_self) world
    have hrest := ih (fun later hlater => h later (List.mem_cons_of_mem call hlater))
      (call.result formatter world).2
    unfold FormatterCall.run
    rw [hcall, ok_bind]
    dsimp only
    rw [hrest]
    rfl

end Calls

/-- A formatter that keeps a log, and knows no file to unlink. -/
def FormatterCall.sampleFormatter : Swift.Formatter (List String) String where
  filePath text := text
  openStream _ log := log ++ ["open"]
  closeStream _ log := log ++ ["close"]
  link name target := fun log => (.ok (), log ++ [s!"link {name} to {target}"])
  unlink _ _ := throw (.fdOps "not found" .notFound)
  create arguments := fun log => (.ok (), log ++ [s!"create {arguments.path}"])
  close := fun log => (.ok (), log ++ ["end"])

def FormatterCall.sampleTime : SystemTime := ⟨0, by decide, by decide⟩

def FormatterCall.sampleOptions : Rust.CreateOptions where
  link := none
  ts := ⟨sampleTime, sampleTime, sampleTime, sampleTime⟩
  buf := some ⟨[7], by decide⟩
  uid := none
  gid := none
  xattrs := some Rust.sampleXattrs
  recursion := false

omit [Runtime] in
theorem sample_formatter_refines :
    let _ := Runtime.ascii
    FormatterCall.run FormatterCall.sampleFormatter
      [.create (.from "a") 0o100644 FormatterCall.sampleOptions, .unlink (.from "b") false,
        .close] [] =
      .ok ([.ok (), .error (.fileDescriptorOps "unlink b" .notFound), .ok ()],
        ["open", "create a", "close", "end"]) := by
  let _ := Runtime.ascii
  have hpath : ∀ text, path (.from text) = .ok text := by
    intro text
    unfold path
    rw [PathBuf.path_from]
  have hlossy : PathBuf.lossyPath (.from "b") = "b" := by
    show (PathBuf.path (.from "b")).getD "\uFFFD" = _
    rw [PathBuf.path_from]
    rfl
  have hfits : FormatterCall.Fits
      (.create (.from "a") 0o100644 FormatterCall.sampleOptions) := by
    intro xattrs hxattrs
    cases hxattrs
    decide
  have hcalls := (formatter_refines FormatterCall.sampleFormatter
    [.create (.from "a") 0o100644 FormatterCall.sampleOptions, .unlink (.from "b") false, .close]
    (List.forall_mem_cons.mpr ⟨hfits, List.forall_mem_cons.mpr ⟨trivial,
      List.forall_mem_singleton.mpr trivial⟩⟩) []).1
  refine hcalls.trans ?_
  simp only [FormatterCall.results, FormatterCall.result, FormatterCall.meaning,
    FormatterCall.action, hpath, hlossy]
  rfl

end ContainerBridge
