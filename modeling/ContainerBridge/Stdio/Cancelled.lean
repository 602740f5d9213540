import ContainerBridge.Library.Run
import ContainerBridge.Stdio.Reader

/-! A `FileReader`'s stream that its consumer may cancel at any time, also between a read and what
the handler does with it. -/

namespace ContainerBridge

namespace Swift

namespace FileReader

/-- A stream with what is in flight, and every read so far, in order. -/
structure Relay where
  streaming : Streaming
  /-- The handler fires and has not read yet. -/
  entered : Bool
  /-- What the handler that fires has read. -/
  firing : Option ReadResult
  /-- `onTermination` has run for the consumer. -/
  cancelled : Bool
  /-- The continuation takes nothing any more. -/
  terminated : Bool
  reads : List ReadResult

def Relay.stream : Relay where
  streaming := FileReader.stream
  entered := false
  firing := none
  cancelled := false
  terminated := false
  reads := []

namespace Relay

variable (relay : Relay)

def chunks : List (List UInt8) := relay.streaming.chunks

/-- `continuation.yield`, which a terminated continuation ignores. -/
def yield (count : Nat) : Relay :=
  if relay.terminated then relay else { relay with streaming := relay.streaming.yield count }

/-- `read(2)`, which a firing starts with. -/
def read (result : ReadResult) : Relay :=
  { relay with
    streaming := relay.streaming.read result
    entered := false
    firing := some result
    reads := relay.reads ++ [result] }

/-- The rest of a firing. -/
def handle (result : ReadResult) : Relay :=
  let relay := { relay with firing := none }
  if result.count < 0 ∧ (result.errno = EAGAIN ∨ result.errno = EINTR) then relay
  else if 0 < result.count then relay.yield result.count.toNat
  else { relay with streaming := relay.streaming.finish, terminated := true }

/-- The handler fires on one queue, once the firing before is over. The consumer is on another. -/
inductive Step : Relay → Relay → Prop
  | fires {relay : Relay} (hhandler : relay.streaming.handler = true)
      (hwaits : relay.entered = false) (hidle : relay.firing = none) :
      Step relay { relay with entered := true }
  | reads {relay : Relay} (result : ReadResult) (hentered : relay.entered = true) :
      Step relay (relay.read result)
  | handles {relay : Relay} {result : ReadResult} (hfiring : relay.firing = some result) :
      Step relay (relay.handle result)
  | cancels {relay : Relay} (hopen : relay.terminated = false) :
      Step relay { relay with streaming := relay.streaming.terminate, cancelled := true }
  -- The stream calls `onTermination` before it closes the continuation.
  | terminates {relay : Relay} (hcancelled : relay.cancelled = true) :
      Step relay { relay with terminated := true }

def Reachable : Prop := Relation.ReflTransGen Step Relay.stream relay

/-! ### A firing -/

/-- What the handler does with a read. -/
theorem handle_cases (result : ReadResult) :
    (result.ends ∧ relay.handle result =
      { relay with
        firing := none, streaming := relay.streaming.finish, terminated := true }) ∨
    (result.chunk = none ∧ result.ends = false ∧
      relay.handle result = { relay with firing := none }) ∨
    (result.chunk = some result.bytes ∧ result.ends = false ∧
      relay.handle result = { relay with firing := none }.yield result.bytes.length) := by
  cases result with
  | filled bytes errno ne_nil length_le =>
    have hpos : 0 < bytes.length := List.length_pos_iff.mpr ne_nil
    have hcount : ¬(bytes.length : Int) < 0 := by omega
    right
    right
    refine ⟨rfl, rfl, ?_⟩
    simp [handle, ReadResult.count, ReadResult.bytes, hcount, hpos]
  | endOfFile errno =>
    left
    refine ⟨rfl, ?_⟩
    simp [handle, ReadResult.count]
  | failed errno =>
    by_cases hretry : errno = EAGAIN ∨ errno = EINTR
    · right
      left
      refine ⟨rfl, ?_, ?_⟩
      · rcases hretry with h | h <;> simp [ReadResult.ends, h]
      · simp [handle, ReadResult.count, ReadResult.errno, hretry]
    · left
      refine ⟨?_, ?_⟩
      · simpa [ReadResult.ends, not_or] using hretry
      · simp [handle, ReadResult.count, ReadResult.errno, hretry]

/-! ### Every run -/

/-- What every reachable stream keeps. `lost` is what was read and not yielded, once the firing that
read it is over. -/
structure Inv (relay : Relay) : Prop where
  reads : ∃ handled lost, relay.reads = handled ++ relay.firing.toList ∧
    handled.filterMap ReadResult.chunk = relay.chunks ++ lost ∧ lost.length ≤ 1 ∧
    (lost ≠ [] → relay.cancelled = true ∧ relay.firing = none ∧ relay.entered = false)
  entered : relay.entered = true → relay.firing = none
  buffer : ∀ result, relay.firing = some result →
    relay.streaming.bufferBytes.take result.bytes.length = result.bytes
  cancelled : relay.cancelled = true → relay.streaming.handler = false
  terminated : relay.terminated = true →
    relay.streaming.handler = false ∧
      (relay.cancelled = false → relay.firing = none ∧ relay.entered = false)

theorem inv_stream : Inv Relay.stream where
  reads := ⟨[], [], rfl, rfl, by simp, by simp⟩
  entered := nofun
  buffer := nofun
  cancelled := nofun
  terminated := nofun

theorem inv_fires {relay : Relay} (h : Inv relay) (hhandler : relay.streaming.handler = true)
    (hidle : relay.firing = none) : Inv { relay with entered := true } := by
  obtain ⟨handled, lost, hreads, hchunks, hlength, hlost⟩ := h.reads
  refine ⟨⟨handled, lost, hreads, hchunks, hlength, fun hne => ?_⟩, fun _ => hidle, h.buffer,
    h.cancelled, fun hterminated => ?_⟩
  · have hcleared := h.cancelled (hlost hne).1
    rw [hhandler] at hcleared
    cases hcleared
  · have hcleared := (h.terminated hterminated).1
    rw [hhandler] at hcleared
    cases hcleared

theorem inv_read {relay : Relay} (h : Inv relay) (result : ReadResult)
    (hentered : relay.entered = true) : Inv (relay.read result) := by
  obtain ⟨handled, lost, hreads, hchunks, hlength, hlost⟩ := h.reads
  have hidle : relay.firing = none := h.entered hentered
  have hkept : (relay.read result).chunks = relay.chunks :=
    (Streaming.keeps_read relay.streaming result).chunks rfl
  have hnone : lost = [] := by
    by_contra hne
    rw [(hlost hne).2.2] at hentered
    cases hentered
  subst hnone
  rw [hidle, Option.toList_none, List.append_nil] at hreads
  refine ⟨⟨handled, [], ?_, ?_, by simp, by simp⟩, nofun, ?_, h.cancelled, ?_⟩
  · show relay.reads ++ [result] = handled ++ [result]
    rw [hreads]
  · rw [hkept, hchunks]
  · rintro _ ⟨⟩
    show (relay.streaming.read result).bufferBytes.take result.bytes.length = result.bytes
    rw [Streaming.bufferBytes_read, List.take_left]
  · intro hterminated
    obtain ⟨hcleared, hopen⟩ := h.terminated hterminated
    refine ⟨hcleared, fun hcancelled => ?_⟩
    rw [(hopen hcancelled).2] at hentered
    cases hentered

theorem inv_handle {relay : Relay} (h : Inv relay) {result : ReadResult}
    (hfiring : relay.firing = some result) : Inv (relay.handle result) := by
  obtain ⟨handled, lost, hreads, hchunks, hlength, hlost⟩ := h.reads
  have hnone : lost = [] := by
    by_contra hne
    rw [(hlost hne).2.1] at hfiring
    cases hfiring
  subst hnone
  have hwaits : relay.entered = false := by
    by_contra hentered
    rw [h.entered (by simpa using hentered)] at hfiring
    cases hfiring
  rw [hfiring, Option.toList_some] at hreads
  rw [List.append_nil] at hchunks
  have hall : (handled ++ [result]).filterMap ReadResult.chunk =
      relay.chunks ++ result.chunk.toList := by
    rw [List.filterMap_append, hchunks]
    cases hchunk : result.chunk <;> simp [hchunk]
  rcases handle_cases relay result with ⟨hends, heq⟩ | ⟨hchunk, -, heq⟩ | ⟨hchunk, -, heq⟩
  · have hchunk : result.chunk = none := by
      cases result with
      | filled bytes errno ne_nil length_le => cases hends
      | endOfFile errno | failed errno => rfl
    rw [hchunk, Option.toList_none, List.append_nil] at hall
    rw [heq]
    refine ⟨⟨handled ++ [result], [], ?_, ?_, by simp, by simp⟩, fun _ => rfl, nofun,
      fun _ => rfl, fun _ => ⟨rfl, fun _ => ⟨rfl, hwaits⟩⟩⟩
    · simpa using hreads
    · rw [List.append_nil]
      exact hall
  · rw [hchunk, Option.toList_none, List.append_nil] at hall
    rw [heq]
    refine ⟨⟨handled ++ [result], [], ?_, ?_, by simp, by simp⟩, fun _ => rfl, nofun,
      h.cancelled, fun hterminated => ⟨(h.terminated hterminated).1, fun _ => ⟨rfl, hwaits⟩⟩⟩
    · simpa using hreads
    · rw [List.append_nil]
      exact hall
  · rw [hchunk, Option.toList_some] at hall
    rw [heq]
    unfold yield
    dsimp only
    split
    · next hterminated =>
      -- The consumer cancelled while the handler read.
      have hcancelled : relay.cancelled = true := by
        by_contra hopen
        have hidle := (h.terminated hterminated).2 (by simpa using hopen)
        rw [hidle.1] at hfiring
        cases hfiring
      refine ⟨⟨handled ++ [result], [result.bytes], ?_, hall, by simp,
        fun _ => ⟨hcancelled, rfl, hwaits⟩⟩, fun _ => rfl, nofun, h.cancelled,
        fun _ => ⟨(h.terminated hterminated).1, fun _ => ⟨rfl, hwaits⟩⟩⟩
      simpa using hreads
    · next hopen =>
      refine ⟨⟨handled ++ [result], [], ?_, ?_, by simp, by simp⟩, fun _ => rfl, nofun,
        h.cancelled, fun hterminated => absurd hterminated hopen⟩
      · simpa using hreads
      · show _ = (relay.streaming.yield result.bytes.length).chunks ++ []
        rw [List.append_nil, Streaming.chunks_yield, h.buffer result hfiring]
        exact hall

theorem inv_step {relay later : Relay} (h : Inv relay) (hstep : Step relay later) : Inv later := by
  cases hstep with
  | fires hhandler hwaits hidle => exact inv_fires h hhandler hidle
  | reads result hentered => exact inv_read h result hentered
  | handles hfiring => exact inv_handle h hfiring
  | cancels hopen =>
    obtain ⟨handled, lost, hreads, hchunks, hlength, hlost⟩ := h.reads
    refine ⟨⟨handled, lost, hreads, hchunks, hlength, fun hne => ⟨rfl, (hlost hne).2⟩⟩,
      h.entered, h.buffer, fun _ => rfl, fun hterminated => ?_⟩
    rw [show relay.terminated = true from hterminated] at hopen
    cases hopen
  | terminates hcancelled =>
    refine ⟨h.reads, h.entered, h.buffer, h.cancelled,
      fun _ => ⟨h.cancelled hcancelled, fun hopen => ?_⟩⟩
    rw [show relay.cancelled = false from hopen] at hcancelled
    cases hcancelled

theorem Reachable.inv {relay : Relay} (h : relay.Reachable) : Inv relay :=
  Run.preserves inv_stream (fun _ _ _ hstep hinv => inv_step hinv hstep) h

/-- Only a firing that is entered can still read. -/
def pending : Nat := if relay.entered then 1 else 0

/-- `after` has read what `before` has, and no more than an entered firing could. -/
def Reads (before after : Relay) : Prop :=
  ∃ rest, after.reads = before.reads ++ rest ∧ rest.length + after.pending ≤ before.pending

theorem Reads.refl (relay : Relay) : Reads relay relay :=
  ⟨[], by rw [List.append_nil], by simp⟩

theorem Reads.trans {before between after : Relay} (h₁ : Reads before between)
    (h₂ : Reads between after) : Reads before after := by
  obtain ⟨first, hfirst, hle₁⟩ := h₁
  obtain ⟨second, hsecond, hle₂⟩ := h₂
  refine ⟨first ++ second, ?_, ?_⟩
  · rw [hsecond, hfirst, List.append_assoc]
  · rw [List.length_append]
    omega

/-- What a step keeps: the chunks yielded so far, and once the handler is cleared, all that is read
but for an entered firing's read. -/
theorem Step.keeps {relay later : Relay} (hstep : Step relay later) :
    Streaming.Keeps relay.streaming later.streaming ∧
      (relay.streaming.handler = false →
        later.streaming.handler = false ∧ Reads relay later) := by
  cases hstep with
  | fires hhandler hwaits hidle =>
    refine ⟨.refl _, fun hcleared => ?_⟩
    rw [hcleared] at hhandler
    cases hhandler
  | reads result hentered =>
    refine ⟨Streaming.keeps_read _ result, fun hcleared => ⟨hcleared, [result], rfl, ?_⟩⟩
    simp [pending, read, hentered]
  | @handles result hfiring =>
    rcases handle_cases relay result with ⟨-, heq⟩ | ⟨-, -, heq⟩ | ⟨-, -, heq⟩
    · rw [heq]
      exact ⟨⟨List.prefix_rfl, fun _ _ => rfl⟩, fun _ => ⟨rfl, Reads.refl relay⟩⟩
    · rw [heq]
      exact ⟨.refl _, fun hcleared => ⟨hcleared, Reads.refl relay⟩⟩
    · rw [heq]
      unfold yield
      dsimp only
      split
      · exact ⟨.refl _, fun hcleared => ⟨hcleared, Reads.refl relay⟩⟩
      · exact ⟨Streaming.keeps_yield _ _, fun hcleared => ⟨hcleared, Reads.refl relay⟩⟩
  | cancels hopen => exact ⟨⟨List.prefix_rfl, fun _ _ => rfl⟩, fun _ => ⟨rfl, Reads.refl relay⟩⟩
  | terminates hcancelled => exact ⟨.refl _, fun hcleared => ⟨hcleared, Reads.refl relay⟩⟩

theorem keeps_run {relay later : Relay} (hrun : Relation.ReflTransGen Step relay later) :
    Streaming.Keeps relay.streaming later.streaming ∧
      (relay.streaming.handler = false →
        later.streaming.handler = false ∧ Reads relay later) := by
  refine Run.preserves ⟨.refl _, fun hcleared => ⟨hcleared, .refl relay⟩⟩ ?_ hrun
  rintro before after - hstep ⟨hkeeps, hcleared⟩
  obtain ⟨hnext, hstill⟩ := hstep.keeps
  refine ⟨hkeeps.trans hnext, fun h => ?_⟩
  obtain ⟨hbefore, hreads⟩ := hcleared h
  obtain ⟨hafter, hrest⟩ := hstill hbefore
  exact ⟨hafter, hreads.trans hrest⟩

end Relay

/-- However the consumer's cancelling falls between the handler's steps: what is yielded is what is
read, in order, but for at most one read, which is lost only if the consumer cancels; no chunk is
altered afterwards; and once the consumer has cancelled or the stream has ended, only a firing that
had begun before can still read, and reads once. -/
theorem cancelling_loses_one {relay : Relay} (h : relay.Reachable) :
    (∃ lost, relay.reads.filterMap ReadResult.chunk = relay.chunks ++ lost ∧ lost.length ≤ 1 ∧
      (lost ≠ [] → relay.firing ≠ none ∨ relay.cancelled = true)) ∧
    ∀ later, Relation.ReflTransGen Relay.Step relay later →
      Streaming.Keeps relay.streaming later.streaming ∧
      (relay.cancelled = true ∨ relay.terminated = true →
        ∃ rest, later.reads = relay.reads ++ rest ∧ rest.length ≤ 1 ∧
          (rest ≠ [] → relay.entered = true)) := by
  have hinv := h.inv
  constructor
  · obtain ⟨handled, lost, hreads, hchunks, hlength, hlost⟩ := hinv.reads
    cases hfiring : relay.firing with
    | none =>
      rw [hfiring, Option.toList_none, List.append_nil] at hreads
      refine ⟨lost, by rw [hreads, hchunks], hlength, fun hne => .inr (hlost hne).1⟩
    | some result =>
      have hnone : lost = [] := by
        by_contra hne
        rw [(hlost hne).2.1] at hfiring
        cases hfiring
      subst hnone
      rw [hfiring, Option.toList_some] at hreads
      refine ⟨result.chunk.toList, ?_, ?_, fun _ => .inl (by simp)⟩
      · rw [hreads, List.filterMap_append, hchunks, List.append_nil]
        cases hchunk : result.chunk <;> simp [hchunk]
      · cases result.chunk <;> simp
  · intro later hrun
    obtain ⟨hkeeps, hcleared⟩ := Relay.keeps_run hrun
    refine ⟨hkeeps, fun hover => ?_⟩
    have hhandler : relay.streaming.handler = false := by
      rcases hover with hcancelled | hterminated
      · exact hinv.cancelled hcancelled
      · exact (hinv.terminated hterminated).1
    obtain ⟨-, rest, hrest, hle⟩ := hcleared hhandler
    have hlength : rest.length ≤ relay.pending := by omega
    unfold Relay.pending at hlength
    by_cases hentered : relay.entered = true
    · rw [if_pos hentered] at hlength
      exact ⟨rest, hrest, hlength, fun _ => hentered⟩
    · rw [if_neg hentered] at hlength
      have hnone : rest = [] := List.length_eq_zero_iff.mp (by omega)
      exact ⟨rest, hrest, by omega, fun hne => absurd hnone hne⟩

/-- A consumer that cancels while the handler has read a byte. -/
def Relay.sample : Relay :=
  let reading := { Relay.stream with entered := true }.read (.filled [1] 0 (by decide) (by decide))
  let cancelled := { reading with streaming := reading.streaming.terminate, cancelled := true }
  { cancelled with terminated := true }.handle (.filled [1] 0 (by decide) (by decide))

theorem Relay.sample_reachable : Relay.sample.Reachable := by
  unfold Reachable sample
  have hfires : Relation.ReflTransGen Step Relay.stream _ := .single (.fires rfl rfl rfl)
  have hreads := hfires.tail (.reads (.filled [1] 0 (by decide) (by decide)) rfl)
  have hcancels := hreads.tail (.cancels rfl)
  have hterminates := hcancels.tail (.terminates rfl)
  exact hterminates.tail (.handles rfl)

theorem sample_cancelling_loses_one : ∃ lost, Relay.sample.reads.filterMap ReadResult.chunk =
    Relay.sample.chunks ++ lost ∧ lost.length ≤ 1 ∧
      (lost ≠ [] → Relay.sample.firing ≠ none ∨ Relay.sample.cancelled = true) :=
  (cancelling_loses_one Relay.sample_reachable).1

end FileReader

end Swift

end ContainerBridge
