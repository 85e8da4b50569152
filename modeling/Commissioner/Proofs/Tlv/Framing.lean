import Commissioner.Proofs.Tlv.Stream
import Commissioner.Tlv.Framing

/-!
# Framing a stream that comes in chunks

A framing decodes a buffer by reading its front again and again until no
complete record is left there. A record that is too long is an outcome of its
own, and decoding goes on behind it (`Framing.decode`).

The outcomes are those of the records of the buffer, each judged by its own
length (`decode_eq_parse`). So they do not depend on how the octets were cut into
chunks on their way into the buffer (`feed_eq_decode`), and records that were
written under the limit come back as they were.
-/

set_option autoImplicit false

namespace Commissioner.Framing

/-! ## The front of a buffer -/

/-- Nothing is found exactly where no complete record stands. -/
theorem next_eq_incomplete {framing : Framing} {buffer : Octets} :
    framing.next buffer = .incomplete ↔ Tlv.split? buffer = none := by
  unfold next
  constructor
  · intro found
    split at found
    next nothing => exact nothing
    next => split at found <;> cases found
  · intro nothing
    rw [nothing]

/-- A record that is found fits, and is taken off the buffer. -/
theorem next_eq_record {framing : Framing} {buffer rest : Octets} {record : Tlv} :
    framing.next buffer = .record record rest ↔
      Tlv.split? buffer = some (record, rest) ∧ record.value.length ≤ framing.limit := by
  unfold next
  constructor
  · intro found
    split at found
    next => cases found
    next taken =>
      split at found
      next fits =>
        cases found
        exact ⟨taken, fits⟩
      next => cases found
  · rintro ⟨taken, fits⟩
    simp only [taken, fits, if_true]

/-- A record that is refused is too long, and is taken off the buffer as well. -/
theorem next_eq_tooLarge {framing : Framing} {buffer rest : Octets} {size : Nat} :
    framing.next buffer = .tooLarge size rest ↔
      ∃ record, Tlv.split? buffer = some (record, rest) ∧ record.value.length = size ∧
        framing.limit < size := by
  unfold next
  constructor
  · intro found
    split at found
    next => cases found
    next big _ taken =>
      split at found
      next => cases found
      next tooLong =>
        cases found
        exact ⟨big, taken, rfl, Nat.lt_of_not_le tooLong⟩
  · rintro ⟨big, taken, rfl, tooLong⟩
    have refused : ¬big.value.length ≤ framing.limit := Nat.not_le_of_lt tooLong
    simp only [taken, refused, if_false]

/-- Nothing is drained while no record is complete. -/
theorem drain_of_incomplete {framing : Framing} {buffer : Octets}
    (found : framing.next buffer = .incomplete) : framing.drain buffer = ⟨[], none, buffer⟩ := by
  rw [drain]
  split
  next => rfl
  next same => cases found.symm.trans same
  next same => cases found.symm.trans same

theorem drain_of_tooLarge {framing : Framing} {buffer rest : Octets} {size : Nat}
    (found : framing.next buffer = .tooLarge size rest) :
    framing.drain buffer = ⟨[], some size, rest⟩ := by
  rw [drain]
  split
  next same => cases found.symm.trans same
  next same =>
    cases found.symm.trans same
    rfl
  next same => cases found.symm.trans same

/-- **Draining a buffer takes its records**, in order: all of them when none is too
long, and else those up to the first that is, which is refused. -/
theorem takes_drain (framing : Framing) (buffer : Octets) :
    ∃ refused, Tlv.Takes ((framing.drain buffer).records ++ refused) buffer
        (framing.drain buffer).rest ∧
      ((framing.drain buffer).refused = none →
        refused = [] ∧ framing.next (framing.drain buffer).rest = .incomplete) := by
  fun_induction framing.drain buffer with
  | case1 buffer found => exact ⟨[], .nil buffer, fun _ => ⟨rfl, found⟩⟩
  | case2 buffer size rest found =>
      obtain ⟨big, taken, -⟩ := next_eq_tooLarge.mp found
      exact ⟨[big], .single taken, nofun⟩
  | case3 buffer record rest found behind ih =>
      obtain ⟨refused, takes, clean⟩ := ih
      exact ⟨refused, .cons (next_eq_record.mp found).1 takes, clean⟩

/-- **Each record that is drained takes at least two octets**, the one that is refused included. -/
theorem length_drain (framing : Framing) (buffer : Octets) :
    2 * ((framing.drain buffer).records.length + (framing.drain buffer).refused.toList.length) +
      (framing.drain buffer).rest.length ≤ buffer.length := by
  fun_induction framing.drain buffer with
  | case1 => exact Nat.le_of_eq (Nat.zero_add _)
  | case2 buffer size rest found =>
      obtain ⟨big, taken, -⟩ := next_eq_tooLarge.mp found
      have shorter := Tlv.length_of_split? taken
      simp only [List.length_nil, Option.toList_some, List.length_singleton]
      omega
  | case3 buffer record rest found behind ih =>
      have shorter := length_of_next_record found
      have further : 2 * (behind.records.length + behind.refused.toList.length) +
        behind.rest.length ≤ rest.length := ih
      simp only [List.length_cons]
      omega

/-- Draining a buffer takes all its records when none is too long. -/
theorem drain_eq_parse {framing : Framing} {buffer : Octets}
    (fit : ∀ record ∈ (Tlv.parse buffer).records, record.value.length ≤ framing.limit) :
    framing.drain buffer = ⟨(Tlv.parse buffer).records, none, (Tlv.parse buffer).rest⟩ := by
  fun_induction framing.drain buffer with
  | case1 buffer found => rw [Tlv.parse_of_none (next_eq_incomplete.mp found)]
  | case2 buffer size rest found =>
      -- The records of the buffer begin with this one, which does not fit.
      obtain ⟨big, taken, rfl, tooLong⟩ := next_eq_tooLarge.mp found
      rw [Tlv.parse_of_some taken] at fit
      have small := fit big List.mem_cons_self
      omega
  | case3 buffer record rest found behind ih =>
      rw [Tlv.parse_of_some (next_eq_record.mp found).1] at fit ⊢
      rw [show behind = _ from ih fun other member => fit other (List.mem_cons_of_mem _ member)]

/-- Draining a buffer stops at the first record that is too long. -/
theorem refused_drain {framing : Framing} {buffer : Octets} {record : Tlv}
    {front behind : List Tlv} (records : (Tlv.parse buffer).records = front ++ record :: behind)
    (fit : ∀ earlier ∈ front, earlier.value.length ≤ framing.limit)
    (tooLong : framing.limit < record.value.length) :
    (framing.drain buffer).refused = some record.value.length := by
  fun_induction framing.drain buffer generalizing front with
  | case1 buffer found =>
      rw [Tlv.parse_of_none (next_eq_incomplete.mp found)] at records
      simp at records
  | case2 buffer size rest found =>
      obtain ⟨big, taken, rfl, exceeds⟩ := next_eq_tooLarge.mp found
      rw [Tlv.parse_of_some taken] at records
      cases front with
      | nil =>
          cases records
          rfl
      | cons first front =>
          obtain ⟨rfl, -⟩ := List.cons.inj records
          have small := fit big List.mem_cons_self
          omega
  | @case3 buffer first rest found left ih =>
      obtain ⟨taken, fits⟩ := next_eq_record.mp found
      rw [Tlv.parse_of_some taken] at records
      cases front with
      | nil =>
          cases records
          omega
      | cons same front =>
          obtain ⟨rfl, others⟩ := List.cons.inj records
          exact ih others fun earlier member => fit earlier (List.mem_cons_of_mem _ member)

/-! ## Decoding a buffer -/

/-- What decoding a buffer brings. -/
structure Decoded where
  /-- The records and the refusals, in order. -/
  outcomes : List (Except TlvError Tlv)
  rest : Octets

/-- Reads the front of a buffer until no complete record is left there, going on
behind records that are too long. -/
def decode (framing : Framing) (buffer : Octets) : Decoded :=
  match _found : framing.next buffer with
  | .incomplete => ⟨[], buffer⟩
  | .record record rest =>
      let behind := framing.decode rest
      ⟨.ok record :: behind.outcomes, behind.rest⟩
  | .tooLarge size rest =>
      let behind := framing.decode rest
      ⟨.error (framing.refusal size) :: behind.outcomes, behind.rest⟩
termination_by buffer.length
decreasing_by
  · have shorter := length_of_next_record _found
    omega
  · obtain ⟨_, taken, -⟩ := next_eq_tooLarge.mp _found
    have shorter := Tlv.length_of_split? taken
    omega

/-- What a framing makes of a complete record. -/
def judge (framing : Framing) (record : Tlv) : Except TlvError Tlv :=
  if record.value.length ≤ framing.limit then .ok record
  else .error (framing.refusal record.value.length)

theorem decode_of_incomplete {framing : Framing} {buffer : Octets}
    (found : framing.next buffer = .incomplete) : framing.decode buffer = ⟨[], buffer⟩ := by
  rw [decode]
  split
  next => rfl
  next same => cases found.symm.trans same
  next same => cases found.symm.trans same

/-- A complete record is judged, whether it is let through or not. -/
theorem decode_of_split? {framing : Framing} {buffer rest : Octets} {record : Tlv}
    (taken : Tlv.split? buffer = some (record, rest)) :
    framing.decode buffer =
      ⟨framing.judge record :: (framing.decode rest).outcomes, (framing.decode rest).rest⟩ := by
  rw [decode]
  split
  next found => cases (next_eq_incomplete.mp found).symm.trans taken
  next found =>
    obtain ⟨front, fits⟩ := next_eq_record.mp found
    cases front.symm.trans taken
    rw [judge, if_pos fits]
  next found =>
    obtain ⟨big, refused, rfl, tooLong⟩ := next_eq_tooLarge.mp found
    cases refused.symm.trans taken
    rw [judge, if_neg (Nat.not_le_of_lt tooLong)]

/-- **Decoding judges the records of a buffer one by one**, and leaves what stands
behind them. -/
theorem decode_eq_parse (framing : Framing) (buffer : Octets) :
    framing.decode buffer =
      ⟨(Tlv.parse buffer).records.map framing.judge, (Tlv.parse buffer).rest⟩ := by
  induction buffer using Tlv.parse.induct with
  | case1 buffer nothing =>
      rw [Tlv.parse_of_none nothing, decode_of_incomplete (next_eq_incomplete.mpr nothing)]
      rfl
  | case2 buffer record rest taken ih =>
      rw [Tlv.parse_of_some taken, decode_of_split? taken, ih, List.map_cons]

/-- What is left after decoding starts with no complete record. -/
theorem next_rest (framing : Framing) (buffer : Octets) :
    framing.next (framing.decode buffer).rest = .incomplete := by
  rw [decode_eq_parse]
  simp only [next, Tlv.split?_rest]

/-! ## Chunks -/

/-- Adds chunks to a buffer one by one, and decodes it after each. -/
def feed (framing : Framing) (buffer : Octets) : List Octets → Decoded
  | [] => ⟨[], buffer⟩
  | chunk :: chunks =>
      let now := framing.decode (buffer ++ chunk)
      let later := framing.feed now.rest chunks
      ⟨now.outcomes ++ later.outcomes, later.rest⟩

/-- Chunks bring what they bring together, when the buffer held no complete record
before. -/
theorem feed_eq_decode (framing : Framing) {buffer : Octets}
    (nothing : Tlv.split? buffer = none) (chunks : List Octets) :
    framing.feed buffer chunks = framing.decode (buffer ++ chunks.flatten) := by
  -- What is left behind a chunk is the buffer of the chunks that follow.
  induction chunks generalizing buffer with
  | nil =>
      rw [List.flatten_nil, List.append_nil, decode_eq_parse, Tlv.parse_of_none nothing]
      rfl
  | cons chunk chunks ih =>
      have left : (framing.decode (buffer ++ chunk)).rest = (Tlv.parse (buffer ++ chunk)).rest := by
        rw [decode_eq_parse]
      have behind := ih (Tlv.split?_rest (buffer ++ chunk))
      simp only [feed]
      rw [left, behind, List.flatten_cons, ← List.append_assoc]
      simp only [decode_eq_parse]
      rw [Tlv.parse_append (buffer ++ chunk), List.map_append]

/-- Records under the limit are written as they are without one. -/
theorem mapM_encode {framing : Framing} {records : List Tlv}
    (fit : ∀ record ∈ records, record.value.length ≤ framing.limit) :
    records.mapM framing.encode = records.mapM Tlv.encode := by
  induction records with
  | nil => rfl
  | cons record records ih =>
      have here : framing.encode record = record.encode :=
        if_pos (fit record List.mem_cons_self)
      rw [List.mapM_cons, List.mapM_cons, here,
        ih fun other member => fit other (List.mem_cons_of_mem record member)]

/-- Records that a limit lets through can be written. -/
theorem exists_mapM_encode {limit : Nat} {records : List Tlv}
    (fit : ∀ record ∈ records, record.value.length ≤ (ofLimit limit).limit) :
    ∃ wires, records.mapM Tlv.encode = .ok wires := by
  induction records with
  | nil => exact ⟨[], rfl⟩
  | cons record records ih =>
      have small : record.value.length ≤ maxValueLength :=
        Nat.le_trans (fit record List.mem_cons_self) (Nat.min_le_right ..)
      obtain ⟨wires, behind⟩ := ih fun other member => fit other (List.mem_cons_of_mem record member)
      refine ⟨(record.header ++ record.value) :: wires, ?_⟩
      rw [List.mapM_cons, behind, Tlv.encode, if_pos small]
      rfl

theorem map_judge {framing : Framing} {records : List Tlv}
    (fit : ∀ record ∈ records, record.value.length ≤ framing.limit) :
    records.map framing.judge = records.map .ok :=
  List.map_congr_left fun record member => if_pos (fit record member)

/-- **However a stream is cut into chunks, decoding after each chunk brings the same
outcomes and leaves the same octets as decoding the whole.** What is left is the
end of the stream and starts with no complete record. Records that the limit lets
through can be written, and whatever chunks their octets come in, exactly these
records come back and nothing is left. -/
theorem feed_chunks (limit : Nat) (chunks : List Octets) :
    (ofLimit limit).feed [] chunks = (ofLimit limit).decode chunks.flatten ∧
      ((ofLimit limit).feed [] chunks).rest <:+ chunks.flatten ∧
      (ofLimit limit).next ((ofLimit limit).feed [] chunks).rest = .incomplete ∧
      ∀ records : List Tlv,
        (∀ record ∈ records, record.value.length ≤ (ofLimit limit).limit) →
          ∃ wires, records.mapM (ofLimit limit).encode = .ok wires ∧
            (chunks.flatten = wires.flatten →
              (ofLimit limit).feed [] chunks = ⟨records.map .ok, []⟩) := by
  have whole : (ofLimit limit).feed [] chunks = (ofLimit limit).decode chunks.flatten :=
    feed_eq_decode (ofLimit limit) rfl chunks
  refine ⟨whole, ?_, ?_, fun records fit => ?_⟩
  · rw [whole, decode_eq_parse]
    exact Tlv.rest_isSuffix _
  · rw [whole]
    exact next_rest _ _
  · obtain ⟨wires, written⟩ := exists_mapM_encode fit
    refine ⟨wires, (mapM_encode fit).trans written, fun cut => ?_⟩
    rw [whole, cut, decode_eq_parse, Tlv.parse_flatten written, map_judge fit]

set_option maxRecDepth 8000 in
/-- A record in the long form and an empty one, cut inside the mark of the long form,
the length, the value and the second tag. -/
theorem feed_chunks_of_two :
    (ofLimit 300).feed [] [[0x20, 0xFF], [], [0], 255 :: List.replicate 200 7,
        List.replicate 55 7 ++ [1], [0]] =
      ⟨[.ok ⟨0x20, List.replicate 255 7⟩, .ok ⟨0x01, []⟩], []⟩ := by
  have fit : ∀ record ∈ [(⟨0x20, List.replicate 255 7⟩ : Tlv), ⟨0x01, []⟩],
      record.value.length ≤ (ofLimit 300).limit := by
    simp [ofLimit, maxValueLength]
  obtain ⟨wires, written, back⟩ :=
    (feed_chunks 300 [[0x20, 0xFF], [], [0], 255 :: List.replicate 200 7,
      List.replicate 55 7 ++ [1], [0]]).2.2.2 _ fit
  cases written
  exact back rfl

end Commissioner.Framing
