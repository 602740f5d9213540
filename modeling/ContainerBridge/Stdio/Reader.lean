import ContainerBridge.Container.Swift

/-! The stream of a descriptor the guest reads. A handler fires while the descriptor is readable,
reads into one buffer, and yields a copy of what it read. -/

namespace ContainerBridge

namespace Swift

def EAGAIN : Int32 := 35

def EINTR : Int32 := 4

/-- The size of a `ReadBuffer`. -/
def ReadBuffer.size : Nat := 64 * 1024

/-- What one `read(2)` into a `ReadBuffer` does, and `errno` after it, which a read that succeeds
leaves as it was. -/
inductive ReadResult where
  | filled (bytes : List UInt8) (errno : Int32) (ne_nil : bytes ≠ [])
    (length_le : bytes.length ≤ ReadBuffer.size)
  | endOfFile (errno : Int32)
  | failed (errno : Int32)

namespace ReadResult

def count : ReadResult → Int
  | filled bytes _ _ _ => bytes.length
  | endOfFile _ => 0
  | failed _ => -1

def errno : ReadResult → Int32
  | filled _ errno _ _ => errno
  | endOfFile errno => errno
  | failed errno => errno

/-- The bytes the read put at the start of the buffer. -/
def bytes : ReadResult → List UInt8
  | filled bytes _ _ _ => bytes
  | endOfFile _ => []
  | failed _ => []

/-- Whether the stream ends here: at end of file, or at an error that is not retried. -/
def ends : ReadResult → Bool
  | filled _ _ _ _ => false
  | endOfFile _ => true
  | failed errno => errno ≠ EAGAIN && errno ≠ EINTR

/-- What a read that fills the buffer yields. -/
def chunk : ReadResult → Option (List UInt8)
  | filled bytes _ _ _ => some bytes
  | endOfFile _ => none
  | failed _ => none

theorem flatten_chunks (results : List ReadResult) :
    (results.filterMap chunk).flatten = results.flatMap bytes := by
  induction results with
  | nil => rfl
  | cons result rest ih => cases result <;> simp [List.filterMap_cons, chunk, bytes, ih]

theorem length_bytes_le (result : ReadResult) : result.bytes.length ≤ ReadBuffer.size := by
  cases result with
  | filled bytes errno ne_nil length_le => exact length_le
  | endOfFile errno => exact Nat.zero_le _
  | failed errno => exact Nat.zero_le _

end ReadResult

namespace FileReader

/-- A stream's memory, by address, and where in it the buffer and the chunks yielded so far are. No
chunk is the buffer. `handler` is whether the descriptor has a readability handler. -/
structure Streaming where
  memory : List (List UInt8)
  buffer : Nat
  yielded : List Nat
  handler : Bool
  finished : Bool
  buffer_lt : buffer < memory.length
  buffer_size : (memory.get ⟨buffer, buffer_lt⟩).length = ReadBuffer.size
  separate : ∀ chunk ∈ yielded, chunk < memory.length ∧ chunk ≠ buffer

/-- A new stream, whose buffer is all zeros. -/
def stream : Streaming where
  memory := [.replicate ReadBuffer.size 0]
  buffer := 0
  yielded := []
  handler := true
  finished := false
  buffer_lt := by simp
  buffer_size := List.length_replicate
  separate := by simp

namespace Streaming

variable (streaming : Streaming)

def bufferBytes : List UInt8 := streaming.memory.get ⟨streaming.buffer, streaming.buffer_lt⟩

/-- `read(2)`, which leaves what it does not fill of the buffer as an earlier read left it. -/
def read (result : ReadResult) : Streaming :=
  { streaming with
    memory := streaming.memory.set streaming.buffer
      (result.bytes ++ streaming.bufferBytes.drop result.bytes.length)
    buffer_lt := by simpa using streaming.buffer_lt
    buffer_size := by
      have hsize : streaming.bufferBytes.length = ReadBuffer.size := streaming.buffer_size
      have hle := result.length_bytes_le
      simp only [List.get_eq_getElem, List.getElem_set_self, List.length_append, List.length_drop]
      omega
    separate := by simpa using streaming.separate }

/-- `yield(Data(buffer.bytes[..<count]))`, a copy at an address of its own. -/
def yield (count : Nat) : Streaming :=
  { streaming with
    memory := streaming.memory ++ [streaming.bufferBytes.take count]
    yielded := streaming.yielded ++ [streaming.memory.length]
    buffer_lt := by
      have := streaming.buffer_lt
      simp only [List.length_append]
      omega
    buffer_size := by
      have hsize := streaming.buffer_size
      simp only [List.get_eq_getElem] at hsize ⊢
      rw [List.getElem_append_left streaming.buffer_lt, hsize]
    separate := by
      have hlt := streaming.buffer_lt
      intro chunk hmem
      simp only [List.length_append, List.length_singleton]
      rcases List.mem_append.mp hmem with hold | hnew
      · have := streaming.separate chunk hold
        omega
      · rw [List.mem_singleton] at hnew
        omega }

/-- The stream's termination, by `finish` or by the consumer, clears the handler. -/
def terminate : Streaming := { streaming with handler := false }

def finish : Streaming := { streaming.terminate with finished := true }

/-- The readability handler, which fires again while the descriptor is still readable. -/
def fire (result : ReadResult) : Streaming :=
  let streaming := streaming.read result
  if result.count < 0 ∧ (result.errno = EAGAIN ∨ result.errno = EINTR) then streaming
  else if 0 < result.count then streaming.yield result.count.toNat
  else streaming.finish

/-- The stream while the reads return `results`, and those it never reads. -/
def run (streaming : Streaming) : List ReadResult → Streaming × List ReadResult
  | [] => (streaming, [])
  | result :: rest =>
    if streaming.handler then run (streaming.fire result) rest else (streaming, result :: rest)

/-- The chunks yielded, as they are in memory now. -/
def chunks : List (List UInt8) := streaming.yielded.map fun chunk => streaming.memory.getD chunk []

/-! ### Memory -/

/-- Every chunk yielded so far is still there, unaltered. -/
structure Keeps (before after : Streaming) : Prop where
  yielded : before.yielded <+: after.yielded
  memory : ∀ chunk ∈ before.yielded, after.memory.getD chunk [] = before.memory.getD chunk []

theorem Keeps.refl : Keeps streaming streaming := ⟨List.prefix_rfl, fun _ _ => rfl⟩

theorem Keeps.trans {first second third : Streaming} (h : Keeps first second)
    (h' : Keeps second third) : Keeps first third where
  yielded := h.yielded.trans h'.yielded
  memory chunk hmem := (h'.memory chunk (h.yielded.subset hmem)).trans (h.memory chunk hmem)

/-- Filling the buffer again alters no chunk. -/
theorem keeps_read (result : ReadResult) : Keeps streaming (streaming.read result) where
  yielded := List.prefix_rfl
  memory chunk hmem := by
    have hne := (streaming.separate chunk hmem).2
    simp only [read, List.getD_eq_getElem?_getD, List.getElem?_set_ne hne.symm]

theorem keeps_yield (count : Nat) : Keeps streaming (streaming.yield count) where
  yielded := List.prefix_append _ _
  memory chunk hmem := by
    have hlt := (streaming.separate chunk hmem).1
    simp only [yield, List.getD_eq_getElem?_getD, List.getElem?_append_left hlt]

theorem keeps_fire (result : ReadResult) : Keeps streaming (streaming.fire result) := by
  have hread := keeps_read streaming result
  simp only [fire]
  split
  · exact hread
  · split
    · exact hread.trans (keeps_yield _ _)
    · exact hread.trans ⟨List.prefix_rfl, fun _ _ => rfl⟩

theorem keeps_run (results : List ReadResult) : Keeps streaming (streaming.run results).1 := by
  induction results generalizing streaming with
  | nil => exact .refl _
  | cons result rest ih =>
    rw [run]
    split
    · exact (keeps_fire streaming result).trans (ih _)
    · exact .refl _

/-- Later reads alter no chunk that earlier ones yielded. -/
theorem keeps_run_append (results later : List ReadResult) :
    Keeps (streaming.run results).1 (streaming.run (results ++ later)).1 := by
  induction results generalizing streaming with
  | nil => exact keeps_run streaming later
  | cons result rest ih =>
    rw [List.cons_append, run, run]
    split
    · exact ih _
    · exact .refl _

/-- Chunks that are kept are the chunks there were. -/
theorem Keeps.chunks {before after : Streaming} (h : Keeps before after)
    (hyielded : after.yielded = before.yielded) : after.chunks = before.chunks := by
  rw [Streaming.chunks, Streaming.chunks, hyielded]
  exact List.map_congr_left h.memory

/-- What is yielded is a copy of the start of the buffer. -/
theorem chunks_yield (count : Nat) :
    (streaming.yield count).chunks = streaming.chunks ++ [streaming.bufferBytes.take count] := by
  have hold : streaming.yielded.map (fun chunk => (streaming.yield count).memory.getD chunk []) =
      streaming.chunks := List.map_congr_left (keeps_yield streaming count).memory
  have hnew : (streaming.yield count).memory.getD streaming.memory.length [] =
      streaming.bufferBytes.take count := by
    simp [yield, List.getD_eq_getElem?_getD]
  rw [chunks, show (streaming.yield count).yielded = streaming.yielded ++ [streaming.memory.length]
    from rfl, List.map_append, hold, List.map_singleton, hnew]

/-- The buffer starts with what was read, whatever an earlier read left behind it. -/
theorem bufferBytes_read (result : ReadResult) :
    (streaming.read result).bufferBytes =
      result.bytes ++ streaming.bufferBytes.drop result.bytes.length := by
  simp [bufferBytes, read]

/-! ### Firing -/

/-- The read that ends the stream clears the handler and yields nothing. -/
theorem fire_of_ends {result : ReadResult} (h : result.ends) :
    (streaming.fire result).chunks = streaming.chunks ∧
      (streaming.fire result).handler = false ∧ (streaming.fire result).finished = true := by
  have hfinish : streaming.fire result = (streaming.read result).finish := by
    cases result with
    | filled bytes errno ne_nil length_le => simp [ReadResult.ends] at h
    | endOfFile errno => simp [fire, ReadResult.count]
    | failed errno =>
      have hretry : ¬(errno = EAGAIN ∨ errno = EINTR) := by
        simpa [ReadResult.ends, not_or] using h
      simp [fire, ReadResult.count, ReadResult.errno, hretry]
  rw [hfinish]
  exact ⟨(keeps_read streaming result).chunks rfl, rfl, rfl⟩

/-- Any other read yields what it read, and nothing if it is retried. -/
theorem fire_of_not_ends {result : ReadResult} (h : result.ends = false) :
    (streaming.fire result).chunks = streaming.chunks ++ result.chunk.toList ∧
      (streaming.fire result).handler = streaming.handler ∧
      (streaming.fire result).finished = streaming.finished := by
  have hread := (keeps_read streaming result).chunks rfl
  cases result with
  | filled bytes errno ne_nil length_le =>
    have hpos : 0 < bytes.length := List.length_pos_iff.mpr ne_nil
    have hyield : streaming.fire (.filled bytes errno ne_nil length_le) =
        (streaming.read (.filled bytes errno ne_nil length_le)).yield bytes.length := by
      have hcount : ¬(bytes.length : Int) < 0 := by omega
      simp [fire, ReadResult.count, hcount, hpos]
    rw [hyield, chunks_yield, bufferBytes_read, hread]
    exact ⟨by simp [ReadResult.bytes, ReadResult.chunk], rfl, rfl⟩
  | endOfFile errno => simp [ReadResult.ends] at h
  | failed errno =>
    have hretry : errno = EAGAIN ∨ errno = EINTR := by
      by_contra hneither
      simp [ReadResult.ends, not_or.mp hneither] at h
    have hfire : streaming.fire (.failed errno) = streaming.read (.failed errno) := by
      simp [fire, ReadResult.count, ReadResult.errno, hretry]
    rw [hfire, hread]
    exact ⟨by simp [ReadResult.chunk], rfl, rfl⟩

/-- Without a handler, nothing is read. -/
theorem run_of_no_handler (h : streaming.handler = false) (results : List ReadResult) :
    streaming.run results = (streaming, results) := by
  cases results with
  | nil => rfl
  | cons result rest => rw [run, if_neg (by simp [h])]

/-- A stream with a handler yields what is read up to the first read that ends it, and reads nothing
after that. -/
theorem run_eq (hhandler : streaming.handler = true) (hfinished : streaming.finished = false)
    (results : List ReadResult) :
    (streaming.run results).1.chunks =
        streaming.chunks ++ (results.takeWhile (!·.ends)).filterMap ReadResult.chunk ∧
      (streaming.run results).1.finished = results.any (·.ends) ∧
      (streaming.run results).1.handler = !results.any (·.ends) ∧
      (streaming.run results).2 = (results.dropWhile (!·.ends)).tail := by
  induction results generalizing streaming with
  | nil => simp [run, hhandler, hfinished]
  | cons result rest ih =>
    rw [run, if_pos hhandler]
    cases hends : result.ends with
    | true =>
      obtain ⟨hchunks, hcleared, hdone⟩ := fire_of_ends streaming hends
      rw [run_of_no_handler _ hcleared]
      simp [hends, hchunks, hcleared, hdone]
    | false =>
      obtain ⟨hchunks, hkept, hsame⟩ := fire_of_not_ends streaming hends
      obtain ⟨hrest, hany, hset, hunread⟩ :=
        ih _ (hkept.trans hhandler) (hsame.trans hfinished)
      refine ⟨?_, by simpa [hends] using hany, by simpa [hends] using hset,
        by simpa [hends] using hunread⟩
      rw [hrest, hchunks]
      cases hchunk : result.chunk <;> simp [hends, hchunk]

end Streaming

/-- Whatever the reads return, the stream yields the bytes of each that fills the buffer, in order,
up to the read that ends it; there it finishes, and reads no more. No later read alters a chunk. -/
theorem stream_delivers (results : List ReadResult) :
    (stream.run results).1.chunks = (results.takeWhile (!·.ends)).filterMap ReadResult.chunk ∧
      (stream.run results).1.chunks.flatten = (results.takeWhile (!·.ends)).flatMap (·.bytes) ∧
      ((stream.run results).1.finished = true ↔ ∃ result ∈ results, result.ends) ∧
      (stream.run results).2 = (results.dropWhile (!·.ends)).tail ∧
      ∀ later, Streaming.Keeps (stream.run results).1 (stream.run (results ++ later)).1 := by
  obtain ⟨hchunks, hfinished, -, hunread⟩ := Streaming.run_eq stream rfl rfl results
  refine ⟨hchunks, ?_, by simp [hfinished], hunread,
    Streaming.keeps_run_append stream results⟩
  rw [hchunks]
  exact ReadResult.flatten_chunks _

end FileReader

end Swift

end ContainerBridge
