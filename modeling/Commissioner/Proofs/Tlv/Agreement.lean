import Commissioner.Proofs.Tlv.Canonical

/-!
# Strict and incremental reading agree

The two readings of a record share the header and nothing else. The strict one accepts
octets just when the incremental one takes a record off them and leaves nothing, and
where the octets are more or less than one record, the numbers in its error say what the
incremental reading does with them: octets left over are those it leaves, and a header or
a value that is cut off is one that it waits for. Exactly the missing octets turn a value
that is cut off into a record (`Tlv.readings_agree`).

Both readings are also given by positions, as they look at octets one by one and cut
octets off at places computed from what they saw. No position lies outside the octets
(`ofOctets?_eq`, `takeFirst?_eq`).
-/

set_option autoImplicit false

namespace Commissioner

namespace Header

/-! ## The size of a header -/

/-- The number of octets that the header at the front of a buffer takes, or will take. -/
def size (octets : Octets) : Nat :=
  if octets[1]? = some longMark then 4 else 2

theorem size_le (octets : Octets) : size octets ≤ 4 := by
  unfold size
  split <;> omega

/-- A header is incomplete just when the octets end inside it. -/
theorem read_eq_incomplete {octets : Octets} {needed : Nat} :
    read octets = .incomplete needed ↔ needed = size octets ∧ octets.length < size octets := by
  match octets with
  | [] => simp [read, size, eq_comm]
  | [_] => simp [read, size, eq_comm]
  | [_, second] => by_cases long : second = longMark <;> simp [read, size, long, eq_comm]
  | [_, second, _] => by_cases long : second = longMark <;> simp [read, size, long, eq_comm]
  | _ :: second :: _ :: _ :: _ => by_cases long : second = longMark <;> simp [read, size, long]

/-- A complete header begins with the tag, and the body stands behind it. -/
theorem body_of_read {octets body : Octets} {tag : UInt8} {declared : Nat}
    (complete : read octets = .complete tag declared body) :
    octets[0]? = some tag ∧ body = octets.drop (size octets) ∧
      octets.length = size octets + body.length := by
  unfold read at complete
  split at complete
  next first second rest =>
    by_cases long : second = longMark
    · simp only [long, if_true] at complete
      split at complete
      next high low behind =>
        cases complete
        simp [size, long]
        omega
      next => cases complete
    · simp only [long, if_false] at complete
      cases complete
      simp [size, long]
      omega
  next => cases complete

end Header

/-! ## Reading by positions -/

/-- The octets from a position on, or none when it lies behind their end. -/
def Octets.from? (octets : Octets) (position : Nat) : Option Octets :=
  if position ≤ octets.length then some (octets.drop position) else none

theorem Octets.from?_eq {octets : Octets} {position : Nat} (inside : position ≤ octets.length) :
    octets.from? position = some (octets.drop position) :=
  if_pos inside

namespace Header

/-- How far a header reaches. -/
inductive Extent where
  /-- It takes so many octets, and tells a value of so many behind them. -/
  | complete (taken declared : Nat)
  /-- It needs so many octets and has fewer. -/
  | incomplete (needed : Nat)

/-- Measures the header at the front of a buffer, looking at single positions. It comes to
nothing if one of them lies outside. -/
def measure? (octets : Octets) : Option Extent :=
  if octets.length < 2 then some (.incomplete 2)
  else do
    let length ← octets[1]?
    if length ≠ longMark then return .complete 2 length.toNat
    if octets.length < 4 then return .incomplete 4
    let high ← octets[2]?
    let low ← octets[3]?
    return .complete 4 (Octets.word high low)

/-- How far the header reaches that is read. -/
def extent (octets : Octets) : Extent :=
  match read octets with
  | .complete _ declared _ => .complete (size octets) declared
  | .incomplete needed => .incomplete needed

/-- **The header is measured inside the octets.** -/
theorem measure?_eq (octets : Octets) : measure? octets = some (extent octets) := by
  match octets with
  | [] => rfl
  | [_] => rfl
  | [_, second] =>
      by_cases long : second = longMark <;> simp [measure?, extent, read, size, long]
  | [_, second, _] =>
      by_cases long : second = longMark <;> simp [measure?, extent, read, size, long]
  | _ :: second :: _ :: _ :: rest =>
      have two : ¬ rest.length + 1 + 1 + 1 + 1 < 2 := by omega
      have four : ¬ rest.length + 1 + 1 + 1 + 1 < 4 := by omega
      by_cases long : second = longMark <;> simp [measure?, extent, read, size, long, two, four]

end Header

namespace Tlv

/-- Takes the first record off a buffer and tells what the buffer holds then, which is what
it held before when no record is complete. -/
def takeFirst (buffer : Octets) : Option Tlv × Octets :=
  match split? buffer with
  | some (record, rest) => (some record, rest)
  | none => (none, buffer)

/-- The strict reading by positions. -/
def ofOctets? (octets : Octets) : Option (Except TlvError Tlv) := do
  match ← Header.measure? octets with
  | .incomplete needed => return .error (.malformed (.shortHeader needed octets.length))
  | .complete taken declared =>
      let body ← octets.from? taken
      if body.length < declared then
        return .error (.malformed (.lengthOverrun declared body.length))
      if declared < body.length then
        return .error (.malformed (.trailing (body.length - declared)))
      let tag ← octets[0]?
      return .ok ⟨tag, body⟩

/-- The incremental reading by positions. -/
def takeFirst? (buffer : Octets) : Option (Option Tlv × Octets) := do
  match ← Header.measure? buffer with
  | .incomplete _ => return (none, buffer)
  | .complete taken declared =>
      if buffer.length < taken + declared then return (none, buffer)
      let tag ← buffer[0]?
      let body ← buffer.from? taken
      let rest ← body.from? declared
      return (some ⟨tag, body.take declared⟩, rest)

/-- **Strict reading never looks outside the octets.** -/
theorem ofOctets?_eq (octets : Octets) : ofOctets? octets = some (ofOctets octets) := by
  simp only [ofOctets?, ofOctets, Header.measure?_eq, Header.extent]
  cases front : Header.read octets with
  | incomplete needed => rfl
  | complete tag declared body =>
      obtain ⟨first, rfl, length⟩ := Header.body_of_read front
      have inside : Header.size octets ≤ octets.length := by omega
      simp only [Option.bind_eq_bind, Option.bind_some, Octets.from?_eq inside, first]
      split
      · rfl
      · split <;> rfl

/-- **Incremental reading never looks outside the buffer.** -/
theorem takeFirst?_eq (buffer : Octets) : takeFirst? buffer = some (takeFirst buffer) := by
  simp only [takeFirst?, takeFirst, split?, Header.measure?_eq, Header.extent]
  cases front : Header.read buffer with
  | incomplete needed => rfl
  | complete tag declared body =>
      obtain ⟨first, rfl, length⟩ := Header.body_of_read front
      have inside : Header.size buffer ≤ buffer.length := by omega
      simp only [Option.bind_eq_bind, Option.bind_some, Octets.from?_eq inside, first]
      by_cases missing : (buffer.drop (Header.size buffer)).length < declared
      · rw [if_pos (by omega), if_pos missing]
        rfl
      · rw [if_neg (by omega), if_neg missing]
        simp [Octets.from?_eq (Nat.le_of_not_lt missing)]

/-! ## Agreement -/

/-- What the two readings of the same octets come to, by how the octets compare with the
record that begins there. -/
inductive Outcome (octets : Octets) : Except TlvError Tlv → Option Tlv × Octets → Prop where
  /-- The octets end inside the header. -/
  | short (few : octets.length < Header.size octets) :
      Outcome octets
        (.error (.malformed (.shortHeader (Header.size octets) octets.length))) (none, octets)
  /-- They end inside the value. -/
  | overrun {tag : UInt8} {declared : Nat} {body : Octets}
      (front : Header.read octets = .complete tag declared body) (few : body.length < declared) :
      Outcome octets (.error (.malformed (.lengthOverrun declared body.length))) (none, octets)
  /-- They end with the record. -/
  | whole {tag : UInt8} {body : Octets}
      (front : Header.read octets = .complete tag body.length body) :
      Outcome octets (.ok ⟨tag, body⟩) (some ⟨tag, body⟩, [])
  /-- They go on behind it. -/
  | trailing {tag : UInt8} {declared : Nat} {body : Octets}
      (front : Header.read octets = .complete tag declared body) (many : declared < body.length) :
      Outcome octets (.error (.malformed (.trailing (body.length - declared))))
        (some ⟨tag, body.take declared⟩, body.drop declared)

theorem outcome (octets : Octets) : Outcome octets (ofOctets octets) (takeFirst octets) := by
  unfold ofOctets takeFirst split?
  cases front : Header.read octets with
  | incomplete needed =>
      obtain ⟨rfl, few⟩ := Header.read_eq_incomplete.mp front
      exact .short few
  | complete tag declared body =>
      simp only
      rcases Nat.lt_trichotomy body.length declared with few | rfl | many
      · simp only [if_pos few]
        exact .overrun front few
      · simp only [Nat.lt_irrefl, if_false, List.take_length, List.drop_length]
        exact .whole front
      · simp only [if_neg (Nat.lt_asymm many), if_pos many]
        exact .trailing front many

/-- How the two readings of the same octets go together. -/
structure Agreement (octets : Octets) : Prop where
  /-- They are one record just when a record can be taken off them and nothing is left. -/
  whole (record : Tlv) : ofOctets octets = .ok record ↔ takeFirst octets = (some record, [])
  /-- Octets are left behind the record just when that many are left in the buffer. -/
  trailing (count : Nat) : ofOctets octets = .error (.malformed (.trailing count)) ↔
    0 < count ∧ ∃ record rest, takeFirst octets = (some record, rest) ∧ rest.length = count
  /-- The header or the value is cut off just when nothing is taken and the buffer stays. -/
  unfinished :
    ((∃ needed available,
        ofOctets octets = .error (.malformed (.shortHeader needed available))) ∨
      ∃ declared available,
        ofOctets octets = .error (.malformed (.lengthOverrun declared available))) ↔
      takeFirst octets = (none, octets)
  /-- The numbers of a header that is cut off: what it takes, and what there is. -/
  short (needed available : Nat) :
    ofOctets octets = .error (.malformed (.shortHeader needed available)) ↔
      needed = Header.size octets ∧ available = octets.length ∧ available < needed
  /-- The numbers of a value that is cut off: what the header tells, and what there is
  behind the header. -/
  overrun (declared available : Nat) :
    ofOctets octets = .error (.malformed (.lengthOverrun declared available)) ↔
      ∃ taken, Header.measure? octets = some (.complete taken declared) ∧
        octets.length = taken + available ∧ available < declared
  /-- A value that is cut off becomes a record with the octets that are missing, and with no
  more and no fewer. -/
  completed (declared available : Nat)
    (cut : ofOctets octets = .error (.malformed (.lengthOverrun declared available))) :
    ∃ tag, octets[0]? = some tag ∧ ∀ more : Octets,
      more.length = declared - available ↔
        ofOctets (octets ++ more) = .ok ⟨tag, octets.drop (Header.size octets) ++ more⟩ ∧
        takeFirst (octets ++ more) =
          (some ⟨tag, octets.drop (Header.size octets) ++ more⟩, [])
  /-- There is no other way to fail. -/
  malformed (error : TlvError) (failed : ofOctets octets = .error error) :
    ∃ reason, error = .malformed reason
  /-- Neither reading looks outside the octets. -/
  inside : ofOctets? octets = some (ofOctets octets) ∧
    takeFirst? octets = some (takeFirst octets)

theorem ofOctets_eq_ok_iff (octets : Octets) (record : Tlv) :
    ofOctets octets = .ok record ↔ takeFirst octets = (some record, []) := by
  have came := outcome octets
  generalize ofOctets octets = strict at *
  generalize takeFirst octets = taken at *
  cases came with
  | short few => simp
  | overrun front few => simp
  | whole front => simp
  | @trailing tag declared body front many =>
      have left : body.drop declared ≠ [] := by
        simpa using many
      simp [left]

theorem ofOctets_eq_trailing_iff (octets : Octets) (count : Nat) :
    ofOctets octets = .error (.malformed (.trailing count)) ↔
      0 < count ∧ ∃ record rest, takeFirst octets = (some record, rest) ∧ rest.length = count := by
  have came := outcome octets
  generalize ofOctets octets = strict at *
  generalize takeFirst octets = taken at *
  cases came with
  | short few => simp
  | overrun front few => simp
  | whole front => simp; omega
  | @trailing tag declared body front many =>
      simp only [Except.error.injEq, TlvError.malformed.injEq, Malformed.trailing.injEq]
      constructor
      · intro same
        exact ⟨by omega, _, _, rfl, by rw [List.length_drop, same]⟩
      · rintro ⟨-, record, rest, taken, rfl⟩
        cases taken
        rw [List.length_drop]

theorem ofOctets_unfinished_iff (octets : Octets) :
    ((∃ needed available,
        ofOctets octets = .error (.malformed (.shortHeader needed available))) ∨
      ∃ declared available,
        ofOctets octets = .error (.malformed (.lengthOverrun declared available))) ↔
      takeFirst octets = (none, octets) := by
  have came := outcome octets
  generalize ofOctets octets = strict at *
  generalize takeFirst octets = taken at *
  cases came with
  | short few => simp
  | overrun front few => simp
  | whole front => simp
  | trailing front many => simp

theorem ofOctets_eq_short_iff (octets : Octets) (needed available : Nat) :
    ofOctets octets = .error (.malformed (.shortHeader needed available)) ↔
      needed = Header.size octets ∧ available = octets.length ∧ available < needed := by
  have came := outcome octets
  generalize ofOctets octets = strict at *
  generalize takeFirst octets = taken at *
  cases came with
  | short few =>
      simp only [Except.error.injEq, TlvError.malformed.injEq, Malformed.shortHeader.injEq]
      omega
  | overrun front few =>
      obtain ⟨-, -, length⟩ := Header.body_of_read front
      simp only [Except.error.injEq, TlvError.malformed.injEq, reduceCtorEq, false_iff]
      omega
  | whole front =>
      obtain ⟨-, -, length⟩ := Header.body_of_read front
      simp only [reduceCtorEq, false_iff]
      omega
  | trailing front many =>
      obtain ⟨-, -, length⟩ := Header.body_of_read front
      simp only [Except.error.injEq, TlvError.malformed.injEq, reduceCtorEq, false_iff]
      omega

theorem ofOctets_eq_overrun_iff (octets : Octets) (declared available : Nat) :
    ofOctets octets = .error (.malformed (.lengthOverrun declared available)) ↔
      ∃ taken, Header.measure? octets = some (.complete taken declared) ∧
        octets.length = taken + available ∧ available < declared := by
  unfold ofOctets
  rw [Header.measure?_eq, Header.extent]
  cases front : Header.read octets with
  | incomplete needed => simp
  | complete tag told body =>
      obtain ⟨-, -, length⟩ := Header.body_of_read front
      simp only [Option.some.injEq, Header.Extent.complete.injEq]
      constructor
      · intro cut
        split at cut
        next few =>
          cases cut
          exact ⟨_, ⟨rfl, rfl⟩, length, few⟩
        next => split at cut <;> cases cut
      · rintro ⟨taken, ⟨rfl, rfl⟩, exact, few⟩
        obtain rfl : available = body.length := by omega
        rw [if_pos few]

/-- **Exactly the missing octets complete a value that is cut off.** -/
theorem complete_of_overrun {octets : Octets} {declared available : Nat}
    (cut : ofOctets octets = .error (.malformed (.lengthOverrun declared available))) :
    ∃ tag, octets[0]? = some tag ∧ ∀ more : Octets,
      more.length = declared - available ↔
        ofOctets (octets ++ more) = .ok ⟨tag, octets.drop (Header.size octets) ++ more⟩ ∧
        takeFirst (octets ++ more) =
          (some ⟨tag, octets.drop (Header.size octets) ++ more⟩, []) := by
  have came := outcome octets
  rw [cut] at came
  generalize takeFirst octets = taken at came
  cases came with
  | @overrun tag _ body front few =>
      obtain ⟨first, rest, -⟩ := Header.body_of_read front
      obtain ⟨spelling, spelled, stable⟩ := Header.exists_spelling front
      refine ⟨tag, first, fun more => ?_⟩
      have longer : Header.read (octets ++ more) = .complete tag declared (body ++ more) := by
        rw [spelled, List.append_assoc]
        exact stable (body ++ more)
      rw [← ofOctets_eq_ok_iff, and_self, ofOctets_eq_ok, longer, ← rest]
      simp only [Header.complete.injEq, true_and, and_true, List.length_append]
      omega

/-- **Strict and incremental reading agree**, on all octets. -/
theorem readings_agree (octets : Octets) : Agreement octets where
  whole := ofOctets_eq_ok_iff octets
  trailing := ofOctets_eq_trailing_iff octets
  unfinished := ofOctets_unfinished_iff octets
  short := ofOctets_eq_short_iff octets
  overrun := ofOctets_eq_overrun_iff octets
  completed _ _ cut := complete_of_overrun cut
  malformed error failed := by
    have came := outcome octets
    rw [failed] at came
    generalize takeFirst octets = taken at came
    cases came with
    | short => exact ⟨_, rfl⟩
    | overrun => exact ⟨_, rfl⟩
    | trailing => exact ⟨_, rfl⟩
  inside := ⟨ofOctets?_eq octets, takeFirst?_eq octets⟩

example : ofOctets [0x20, 3, 7] = .error (.malformed (.lengthOverrun 3 1)) ∧
    takeFirst [0x20, 3, 7] = (none, [0x20, 3, 7]) ∧
    takeFirst [0x20, 3, 7, 8, 9] = (some ⟨0x20, [7, 8, 9]⟩, []) :=
  ⟨rfl, rfl, rfl⟩

end Tlv

end Commissioner
