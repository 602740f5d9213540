import ContainerBridge.Runtime.Bytes
import ContainerBridge.Wrapper

/-! An archive read as it streams: the iterator gives one entry after the other, each with a reader
of its data. Swift's readers all read from the archive's current entry, whichever entry they came
with, so what a consumer reads depends on when it reads and not on the reader it kept. -/

namespace ContainerBridge

open Carry

variable {State Entry Reader : Type}

/-! ### Swift -/

/-- A count that a read returned, and the memory it was given as it left it. -/
structure Swift.Filled (State : Type) where
  count : Int
  buffer : List UInt8
  state : State

/-- Swift's `ArchiveReader` behind a streaming iterator. `read` is given the memory it may write
to, as it was. -/
structure Swift.StreamedArchive (State Entry Reader : Type) where
  next : State → Option (Entry × Reader) × State
  read : Reader → List UInt8 → State → Swift.Filled State
  /-- Whether the buffer of an empty array has a `baseAddress`. -/
  emptyBase : Bool

/-- A Rust `usize` as Swift's `Int`, which can't hold one above `Int.max`. -/
def Swift.Conversions.int (value : Nat) (what : String) : Except SwiftError Nat :=
  if value < 2 ^ 63 then .ok value else .error (.bridge (.tooLarge what value))

/-- What a streaming iterator returned: an entry with its reader, or `Absent`. -/
structure HeldEntry (Entry Reader : Type) where
  value : Option (Entry × Reader)

namespace HeldEntry

variable (outcome : HeldEntry Entry Reader)

def isSome : Bool := outcome.value.isSome

def writeEntry : Crossing Entry := Prod.fst <$> CzOutcome.cast outcome.value

def archiveEntryReader : Crossing Reader := Prod.snd <$> CzOutcome.cast outcome.value

end HeldEntry

section Calls

variable [Runtime] (archive : Swift.StreamedArchive State Entry Reader)

def Swift.CzStreamingIterator.next (state : State) : HeldEntry Entry Reader × State :=
  let (part, state) := archive.next state
  (⟨part⟩, state)

namespace Swift.CzArchiveEntryReader

/-- The read into the buffer, which isn't made where it has no base address. -/
def filled (reader : Reader) (buffer : List UInt8) (state : State) : Filled State :=
  if buffer = [] ∧ archive.emptyBase = false then ⟨0, buffer, state⟩
  else archive.read reader buffer state

/-- The bytes read, or a failure for Swift's `-1`. -/
def read (reader : Reader) (maxLength : Nat) (state : State) :
    Crossing (Returned (List UInt8) × State) :=
  match Conversions.int maxLength "maximum length" with
  | .error error => .ok (.init (.error error), state)
  | .ok length =>
    let made := filled archive reader (List.replicate length 0) state
    if made.count < 0 then .ok (.init (.error (.bridge .readFailed)), made.state)
    else if made.count.toNat ≤ made.buffer.length then
      .ok (.init (.ok (made.buffer.take made.count.toNat)), made.state)
    else .error (.trap "Array index is out of range")

end Swift.CzArchiveEntryReader

/-! ### Rust -/

/-- A held `[UInt8]`. -/
def Returned.bytes (returned : Returned (List UInt8)) : Crossing (List UInt8) := returned.taken

/-- `io::Error::other`. -/
inductive Rust.IoError where
  | other (message : String)

def Rust.StreamingIterator.next (state : State) : Crossing (Option (Entry × Reader) × State) := do
  let (outcome, state) := Swift.CzStreamingIterator.next archive state
  if outcome.isSome then
    return (some (← outcome.writeEntry, ← outcome.archiveEntryReader), state)
  return (none, state)

/-- `io::Read::read`: what it returns, and the caller's buffer after it. -/
def Rust.ArchiveEntryReader.read (reader : Reader) (buf : ByteVec) (state : State) :
    Crossing ((Except IoError Nat × List UInt8) × State) := do
  let (read, state) ← Swift.CzArchiveEntryReader.read archive reader buf.bytes.length state
  match read.outcome.failure with
  | some message => return ((.error (.other message), buf.bytes), state)
  | none =>
    let bytes ← read.bytes
    if bytes.length ≤ buf.bytes.length then
      return ((.ok bytes.length, bytes ++ buf.bytes.drop bytes.length), state)
    .error (.panic s!"range end index {bytes.length} out of range")

/-! ### A consumer -/

/-- A call that a consumer makes, with any reader that it kept. -/
inductive StreamCall (Reader : Type) where
  | next
  | read (reader : Reader) (buf : Rust.ByteVec)

/-- A call with what it returned. -/
inductive StreamStep (Entry Reader : Type) where
  | next (taken : Option (Entry × Reader))
  | read (reader : Reader) (buf : Rust.ByteVec) (result : Except Rust.IoError Nat)
    (after : List UInt8)

def StreamStep.call : StreamStep Entry Reader → StreamCall Reader
  | next _ => .next
  | read reader buf _ _ => .read reader buf

def StreamCall.perform (state : State) : StreamCall Reader →
    Crossing (StreamStep Entry Reader × State)
  | next => do
    let (taken, state) ← Rust.StreamingIterator.next archive state
    return (.next taken, state)
  | read reader buf => do
    let ((result, after), state) ← Rust.ArchiveEntryReader.read archive reader buf state
    return (.read reader buf result after, state)

/-- The steps of a consumer that makes these calls. -/
def streamed : List (StreamCall Reader) → State →
    Crossing (List (StreamStep Entry Reader) × State)
  | [], state => .ok ([], state)
  | call :: calls, state => do
    let (step, state) ← call.perform archive state
    let (steps, state) ← streamed calls state
    return (step :: steps, state)

end Calls

/-! ### What a consumer sees -/

/-- The archive goes through its entries in order. `left` is what can still be read of the current
entry's data and `rest` are the entries to come. A read fails, or fills its buffer from the front
with what is left, and with none of it only at the end or for want of room. -/
structure Swift.StreamedArchive.Streams (archive : Swift.StreamedArchive State Entry Reader)
    (left : State → List UInt8) (rest : State → List (Entry × List UInt8)) : Prop where
  next_nil : ∀ state, rest state = [] →
    (archive.next state).1 = none ∧ left (archive.next state).2 = [] ∧
      rest (archive.next state).2 = []
  next_cons : ∀ state entry data more, rest state = (entry, data) :: more →
    (∃ reader, (archive.next state).1 = some (entry, reader)) ∧
      left (archive.next state).2 = data ∧ rest (archive.next state).2 = more
  read_rest : ∀ reader buffer state, rest (archive.read reader buffer state).state = rest state
  read_fails : ∀ reader buffer state, (archive.read reader buffer state).count < 0 →
    left (archive.read reader buffer state).state = left state
  read_fills : ∀ reader buffer state (count : Nat),
    (archive.read reader buffer state).count = count →
      count ≤ buffer.length ∧ count ≤ (left state).length ∧
        (count = 0 → buffer = [] ∨ left state = []) ∧
        (archive.read reader buffer state).buffer =
          (left state).take count ++ buffer.drop count ∧
        left (archive.read reader buffer state).state = (left state).drop count

/-- The steps follow an archive with this left of its current entry and these entries to come. -/
inductive Follows : List UInt8 → List (Entry × List UInt8) → List (StreamStep Entry Reader) →
    Prop
  | nil (left : List UInt8) (rest : List (Entry × List UInt8)) : Follows left rest []
  | finished (left : List UInt8) {steps : List (StreamStep Entry Reader)} :
    Follows [] [] steps → Follows left [] (.next none :: steps)
  | entry (left : List UInt8) (entry : Entry) (reader : Reader) {data : List UInt8}
      {rest : List (Entry × List UInt8)} {steps : List (StreamStep Entry Reader)} :
    Follows data rest steps →
      Follows left ((entry, data) :: rest) (.next (some (entry, reader)) :: steps)
  | failed (reader : Reader) (buf : Rust.ByteVec) (error : Rust.IoError) {left : List UInt8}
      {rest : List (Entry × List UInt8)} {steps : List (StreamStep Entry Reader)} :
    Follows left rest steps → Follows left rest (.read reader buf (.error error) buf.bytes :: steps)
  | read (reader : Reader) (buf : Rust.ByteVec) (count : Nat) {left : List UInt8}
      {rest : List (Entry × List UInt8)} {steps : List (StreamStep Entry Reader)} :
    count ≤ buf.bytes.length → count ≤ left.length → (count = 0 → buf.bytes = [] ∨ left = []) →
    Follows (left.drop count) rest steps →
      Follows left rest
        (.read reader buf (.ok count) (left.take count ++ buf.bytes.drop count) :: steps)

section Calls

variable [Runtime] {archive : Swift.StreamedArchive State Entry Reader}
  {left : State → List UInt8} {rest : State → List (Entry × List UInt8)}

namespace Swift.CzArchiveEntryReader

omit [Runtime] in
theorem filled_rest (h : archive.Streams left rest) (reader : Reader) (buffer : List UInt8)
    (state : State) : rest (filled archive reader buffer state).state = rest state := by
  unfold filled
  split
  · rfl
  · exact h.read_rest reader buffer state

omit [Runtime] in
theorem filled_fails (h : archive.Streams left rest) (reader : Reader) (buffer : List UInt8)
    (state : State) (hcount : (filled archive reader buffer state).count < 0) :
    left (filled archive reader buffer state).state = left state := by
  unfold filled at hcount ⊢
  split at hcount
  · cases hcount
  · rename_i hbase
    rw [if_neg hbase]
    exact h.read_fails reader buffer state hcount

omit [Runtime] in
/-- A read that isn't made returns what one into no memory may return. -/
theorem filled_fills (h : archive.Streams left rest) (reader : Reader) (buffer : List UInt8)
    (state : State) (count : Nat) (hcount : (filled archive reader buffer state).count = count) :
    count ≤ buffer.length ∧ count ≤ (left state).length ∧
      (count = 0 → buffer = [] ∨ left state = []) ∧
      (filled archive reader buffer state).buffer =
        (left state).take count ++ buffer.drop count ∧
      left (filled archive reader buffer state).state = (left state).drop count := by
  unfold filled at hcount ⊢
  split at hcount
  · rename_i hempty
    have hzero : count = 0 := by
      have hcast : (0 : Int) = count := hcount
      omega
    subst hzero
    rw [if_pos hempty]
    exact ⟨Nat.zero_le _, Nat.zero_le _, fun _ => .inl hempty.1, by simp, by simp⟩
  · rename_i hbase
    rw [if_neg hbase]
    exact h.read_fills reader buffer state count hcount

/-- The read of as much as a slice holds, once its length is known to fit. -/
theorem read_eq (reader : Reader) (buf : Rust.ByteVec) (state : State) {made : Filled State}
    (hmade : filled archive reader (List.replicate buf.bytes.length 0) state = made) :
    read archive reader buf.bytes.length state =
      if made.count < 0 then .ok (.init (.error (.bridge .readFailed)), made.state)
      else if made.count.toNat ≤ made.buffer.length then
        .ok (.init (.ok (made.buffer.take made.count.toNat)), made.state)
      else .error (.trap "Array index is out of range") := by
  have hlength : Conversions.int buf.bytes.length "maximum length" = .ok buf.bytes.length :=
    if_pos buf.length_lt
  unfold read
  rw [hlength]
  dsimp only
  rw [hmade]

end Swift.CzArchiveEntryReader

/-- What a read with a reader does to the caller's slice. -/
theorem Rust.ArchiveEntryReader.read_returns (h : archive.Streams left rest) (reader : Reader)
    (buf : ByteVec) (state : State) :
    ∃ after, rest after = rest state ∧
      ((left after = left state ∧ ∃ error,
          read archive reader buf state = .ok ((.error error, buf.bytes), after)) ∨
        ∃ count, count ≤ buf.bytes.length ∧ count ≤ (left state).length ∧
          (count = 0 → buf.bytes = [] ∨ left state = []) ∧
          left after = (left state).drop count ∧
          read archive reader buf state =
            .ok ((.ok count, (left state).take count ++ buf.bytes.drop count), after)) := by
  let zeroed := List.replicate buf.bytes.length (0 : UInt8)
  obtain ⟨made, hmade⟩ :
      ∃ made, Swift.CzArchiveEntryReader.filled archive reader zeroed state = made := ⟨_, rfl⟩
  have hread := Swift.CzArchiveEntryReader.read_eq reader buf state hmade
  have hrest := Swift.CzArchiveEntryReader.filled_rest h reader zeroed state
  rw [hmade] at hrest
  refine ⟨made.state, hrest, ?_⟩
  by_cases hnegative : made.count < 0
  · have hleft := Swift.CzArchiveEntryReader.filled_fails h reader zeroed state
      (by rwa [hmade])
    rw [hmade] at hleft
    rw [if_pos hnegative] at hread
    refine .inl ⟨hleft, .other (BridgeError.description .readFailed), ?_⟩
    unfold read
    rw [hread]
    rfl
  · obtain ⟨count, hcount⟩ : ∃ count : Nat, made.count = count :=
      ⟨made.count.toNat, by omega⟩
    obtain ⟨hroom, havailable, hzero, hbuffer, hleft⟩ :=
      Swift.CzArchiveEntryReader.filled_fills h reader zeroed state count (by rwa [hmade])
    rw [hmade] at hbuffer hleft
    have hsize : zeroed.length = buf.bytes.length := List.length_replicate
    have htaken : ((left state).take count).length = count := by
      rw [List.length_take]
      omega
    have hfits : count ≤ made.buffer.length := by
      rw [hbuffer, List.length_append, htaken]
      exact Nat.le_add_right _ _
    have hfront : made.buffer.take count = (left state).take count := by
      rw [hbuffer]
      exact List.take_left' htaken
    rw [if_neg hnegative, hcount, Int.toNat_natCast, if_pos hfits, hfront] at hread
    refine .inr ⟨count, by omega, havailable, ?_, hleft, ?_⟩
    · intro hnone
      refine (hzero hnone).imp (fun hempty => ?_) id
      rw [← List.length_eq_zero_iff, ← hsize, hempty]
      rfl
    · have hslice : ((left state).take count).length ≤ buf.bytes.length := by omega
      unfold read
      rw [hread, ok_bind]
      refine (if_pos hslice).trans ?_
      rw [htaken]
      rfl

omit [Runtime] in
theorem Rust.StreamingIterator.next_eq (archive : Swift.StreamedArchive State Entry Reader)
    (state : State) : next archive state = .ok (archive.next state) := by
  unfold next Swift.CzStreamingIterator.next
  rcases hpart : archive.next state with ⟨part, after⟩
  cases part <;> rfl

/-- One call returns, and the steps that follow it follow what it leaves. -/
theorem StreamCall.perform_follows (h : archive.Streams left rest) (call : StreamCall Reader)
    (state : State) :
    ∃ step after, call.perform archive state = .ok (step, after) ∧ step.call = call ∧
      ∀ steps, Follows (left after) (rest after) steps →
        Follows (left state) (rest state) (step :: steps) := by
  cases call with
  | next =>
    refine ⟨.next (archive.next state).1, (archive.next state).2, ?_, rfl, ?_⟩
    · simp only [perform, Rust.StreamingIterator.next_eq, ok_bind, pure_eq_ok]
    · intro steps hsteps
      cases hrest : rest state with
      | nil =>
        obtain ⟨hnone, hleft, hstill⟩ := h.next_nil state hrest
        rw [hleft, hstill] at hsteps
        rw [hnone]
        exact .finished _ hsteps
      | cons entry more =>
        obtain ⟨entry, data⟩ := entry
        obtain ⟨⟨reader, hsome⟩, hleft, hmore⟩ := h.next_cons state entry data more hrest
        rw [hleft, hmore] at hsteps
        rw [hsome]
        exact .entry _ entry reader hsteps
  | read reader buf =>
    obtain ⟨after, hrest, hread⟩ := Rust.ArchiveEntryReader.read_returns h reader buf state
    rcases hread with ⟨hleft, error, hfails⟩ | ⟨count, hroom, havailable, hzero, hleft, hfills⟩
    · refine ⟨.read reader buf (.error error) buf.bytes, after, ?_, rfl, ?_⟩
      · simp only [perform, hfails, ok_bind, pure_eq_ok]
      · intro steps hsteps
        rw [hleft, hrest] at hsteps
        exact .failed reader buf error hsteps
    · refine ⟨.read reader buf (.ok count) ((left state).take count ++ buf.bytes.drop count),
        after, ?_, rfl, ?_⟩
      · simp only [perform, hfills, ok_bind, pure_eq_ok]
      · intro steps hsteps
        rw [hleft, hrest] at hsteps
        exact .read reader buf count hroom havailable hzero hsteps

/-- A consumer's calls all return, and what they return follows the archive. -/
theorem streamed_follows (h : archive.Streams left rest) (calls : List (StreamCall Reader))
    (state : State) :
    ∃ steps final, streamed archive calls state = .ok (steps, final) ∧
      steps.map StreamStep.call = calls ∧ Follows (left state) (rest state) steps := by
  induction calls generalizing state with
  | nil => exact ⟨[], state, rfl, rfl, .nil _ _⟩
  | cons call calls ih =>
    obtain ⟨step, after, hperform, hcall, hfollows⟩ := call.perform_follows h state
    obtain ⟨steps, final, hstreamed, hcalls, hsteps⟩ := ih after
    refine ⟨step :: steps, final, ?_, ?_, hfollows steps hsteps⟩
    · unfold streamed
      rw [hperform, Carry.ok_bind]
      dsimp only
      rw [hstreamed]
      rfl
    · rw [List.map_cons, hcall, hcalls]

end Calls

/-! ### What is read of each entry -/

/-- What a consumer read of an entry, and whether a read with room found the end of it. -/
structure Seen where
  bytes : List UInt8
  ended : Bool

/-- The bytes are the first of the entry's data, and all of it once the end was found. -/
structure Seen.Of (seen : Seen) (data : List UInt8) : Prop where
  first : seen.bytes <+: data
  whole : seen.ended → seen.bytes = data

/-- What the steps read before they take an entry, and of each entry they take. -/
def seen : List (StreamStep Entry Reader) → Seen × List (Entry × Seen)
  | [] => (⟨[], false⟩, [])
  | .next none :: steps => ({ (seen steps).1 with ended := false }, (seen steps).2)
  | .next (some (entry, _)) :: steps =>
    (⟨[], false⟩, (entry, (seen steps).1) :: (seen steps).2)
  | .read _ _ (.error _) _ :: steps => seen steps
  | .read _ buf (.ok count) after :: steps =>
    ({ bytes := after.take count ++ (seen steps).1.bytes
       ended := (seen steps).1.ended || (count == 0 && !buf.bytes.isEmpty) }, (seen steps).2)

theorem Follows.seen_of {left : List UInt8} {rest : List (Entry × List UInt8)}
    {steps : List (StreamStep Entry Reader)} (h : Follows left rest steps) :
    (seen steps).1.Of left ∧
      List.Forall₂ (fun taken entry => taken.1 = entry.1 ∧ taken.2.Of entry.2)
        (seen steps).2 (rest.take (seen steps).2.length) := by
  induction h with
  | nil left rest =>
    exact ⟨⟨List.nil_prefix, fun hended => by cases hended⟩, .nil⟩
  | @finished left steps hsteps ih =>
    -- Nothing is left to read after the end, whatever the consumer still tries.
    obtain ⟨hfirst, hlater⟩ := ih
    have hnothing : (seen steps).1.bytes = [] := List.prefix_nil.mp hfirst.first
    refine ⟨⟨?_, fun hended => by cases hended⟩, hlater⟩
    show (seen steps).1.bytes <+: left
    rw [hnothing]
    exact List.nil_prefix
  | entry left entry reader hsteps ih =>
    exact ⟨⟨List.nil_prefix, fun hended => by cases hended⟩, .cons ⟨rfl, ih.1⟩ ih.2⟩
  | failed reader buf error hsteps ih => exact ih
  | @read reader buf count left rest steps hroom havailable hzero hsteps ih =>
    obtain ⟨hof, hlater⟩ := ih
    have hfront : (left.take count ++ buf.bytes.drop count).take count = left.take count := by
      refine List.take_left' ?_
      rw [List.length_take]
      omega
    refine ⟨⟨?_, ?_⟩, hlater⟩
    · show (left.take count ++ buf.bytes.drop count).take count ++ (seen steps).1.bytes <+: left
      rw [hfront]
      conv_rhs => rw [← List.take_append_drop count left]
      exact (List.prefix_append_right_inj _).mpr hof.first
    · intro hended
      show (left.take count ++ buf.bytes.drop count).take count ++ (seen steps).1.bytes = left
      rw [hfront]
      rcases Bool.or_eq_true _ _ ▸ hended with hlast | hhere
      · rw [hof.whole hlast, List.take_append_drop]
      · rw [Bool.and_eq_true, beq_iff_eq] at hhere
        obtain ⟨rfl, hnonempty⟩ := hhere
        have hend : left = [] := by
          rcases hzero rfl with hempty | hend
          · rw [hempty] at hnonempty
            cases hnonempty
          · exact hend
        subst hend
        simpa using hof.first

section Calls

variable [Runtime] {archive : Swift.StreamedArchive State Entry Reader}
  {left : State → List UInt8} {rest : State → List (Entry × List UInt8)}

/-- However a consumer mixes calls of the iterator with reads through readers it kept, old or new,
into buffers of any size, each call returns. The entries are the archive's, in order. What is read
between two of them, through whichever readers, is the first of the data of the entry taken last,
without a gap and without a byte twice, and all of it once a read with room returned nothing. -/
theorem streaming_reads_entries (h : archive.Streams left rest) (calls : List (StreamCall Reader))
    (state : State) :
    ∃ steps final, streamed archive calls state = .ok (steps, final) ∧
      steps.map StreamStep.call = calls ∧ Follows (left state) (rest state) steps ∧
      (seen steps).1.Of (left state) ∧
      List.Forall₂ (fun taken entry => taken.1 = entry.1 ∧ taken.2.Of entry.2)
        (seen steps).2 ((rest state).take (seen steps).2.length) := by
  obtain ⟨steps, final, hstreamed, hcalls, hfollows⟩ := streamed_follows h calls state
  obtain ⟨hfirst, hlater⟩ := hfollows.seen_of
  exact ⟨steps, final, hstreamed, hcalls, hfollows, hfirst, hlater⟩

end Calls

/-- An archive held in memory, whose readers are known by the entry they came with. -/
def sampleArchive :
    Swift.StreamedArchive (List UInt8 × List (String × List UInt8)) String String where
  next
    | (_, []) => (none, ([], []))
    | (_, (entry, data) :: more) => (some (entry, entry), (data, more))
  read _ buffer state := {
    count := (state.1.take buffer.length).length
    buffer := state.1.take buffer.length ++ buffer.drop state.1.length
    state := (state.1.drop buffer.length, state.2) }
  emptyBase := false

theorem sampleArchive_streams : sampleArchive.Streams Prod.fst Prod.snd where
  next_nil := by
    rintro ⟨left, rest⟩ rfl
    exact ⟨rfl, rfl, rfl⟩
  next_cons := by
    rintro ⟨left, rest⟩ entry data more rfl
    exact ⟨⟨entry, rfl⟩, rfl, rfl⟩
  read_rest _ _ _ := rfl
  read_fails _ _ _ hcount := absurd hcount (Int.not_lt.mpr (Int.natCast_nonneg _))
  read_fills _ buffer state count hcount := by
    have hlength : (state.1.take buffer.length).length = count := Int.ofNat.inj hcount
    rw [List.length_take] at hlength
    refine ⟨by omega, by omega, ?_, ?_, ?_⟩
    · intro hzero
      rw [← List.length_eq_zero_iff, ← List.length_eq_zero_iff]
      omega
    · show state.1.take buffer.length ++ buffer.drop state.1.length = _
      rcases Nat.le_total buffer.length state.1.length with hle | hle
      · have hcount : count = buffer.length := by omega
        rw [hcount, List.drop_of_length_le hle, List.drop_length]
      · have hcount : count = state.1.length := by omega
        rw [hcount, List.take_of_length_le hle, List.take_length]
    · show state.1.drop buffer.length = state.1.drop count
      rcases Nat.le_total buffer.length state.1.length with hle | hle
      · have hcount : count = buffer.length := by omega
        rw [hcount]
      · rw [List.drop_of_length_le hle, List.drop_of_length_le (by omega)]

/-- A reader kept from the first entry reads the second. -/
def sampleCalls : List (StreamCall String) :=
  [.next, .read "a" ⟨[9], by decide⟩, .next, .read "a" ⟨[9, 9], by decide⟩,
    .read "b" ⟨[9], by decide⟩, .next]

theorem sample_streaming_reads_entries :
    let _ := Runtime.ascii
    ∃ steps final, streamed sampleArchive sampleCalls ([], [("a", [1, 2]), ("b", [3])]) =
        .ok (steps, final) ∧ steps.length = 6 ∧ Follows [] [("a", [1, 2]), ("b", [3])] steps := by
  let _ := Runtime.ascii
  obtain ⟨steps, final, hstreamed, hcalls, hfollows, -⟩ := streaming_reads_entries
    sampleArchive_streams sampleCalls ([], [("a", [1, 2]), ("b", [3])])
  have hlength : steps.length = 6 := by
    rw [← List.length_map, hcalls]
    rfl
  exact ⟨steps, final, hstreamed, hlength, hfollows⟩

end ContainerBridge
