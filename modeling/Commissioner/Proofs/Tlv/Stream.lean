import Commissioner.Tlv.Wire

/-!
# The records of a stream

A run of octets is read as a stream by taking records off its front until none
is complete. What comes of it is the records in order and the octets behind
them (`Tlv.parse`).

Whatever has been decided about the front of a stream stays decided when octets
are added behind it (`split?_append`). So a stream can be read in two goes: first
the records of its front, and then those of the octets left there with the rest
of the stream behind them (`parse_append`). The records of a stream are therefore
the first records of every longer stream (`records_isPrefix`).

Taking some of the records and not all of them is the relation `Tlv.Takes`. It
loses nothing: the records taken and the records still to come are the records
of the stream (`Takes.parse_eq`).
-/

set_option autoImplicit false

namespace Commissioner

namespace Header

/-- A header is a few octets in front of the body, and those octets are a header
whatever stands behind them. -/
theorem exists_spelling {octets body : Octets} {tag : UInt8} {declared : Nat}
    (complete : read octets = .complete tag declared body) :
    ∃ spelling, octets = spelling ++ body ∧
      ∀ other, read (spelling ++ other) = .complete tag declared other := by
  match octets with
  | [] => cases complete
  | [_] => cases complete
  | first :: second :: rest =>
      by_cases long : second = longMark
      · -- The mark of the long form has two octets of length behind it.
        subst long
        match rest with
        | [] => cases complete
        | [_] => cases complete
        | high :: low :: behind =>
            cases complete
            exact ⟨[tag, longMark, high, low], rfl, fun _ => rfl⟩
      · simp only [read, long, if_false, Header.complete.injEq] at complete
        obtain ⟨rfl, rfl, rfl⟩ := complete
        refine ⟨[first, second], rfl, fun other => ?_⟩
        simp only [List.cons_append, List.nil_append, read, long, if_false]

/-- Neither form of a header tells a length beyond the longest value. -/
theorem declared_le {octets body : Octets} {tag : UInt8} {declared : Nat}
    (complete : read octets = .complete tag declared body) : declared ≤ maxValueLength := by
  unfold read at complete
  unfold maxValueLength
  split at complete
  next first second rest =>
    split at complete
    · split at complete
      next high low behind =>
        cases complete
        have small := Octets.word_lt high low
        omega
      next => cases complete
    · cases complete
      have small := second.toNat_lt
      omega
  next => cases complete

end Header

namespace Tlv

/-! ## One record -/

/-- The record at the front of a buffer takes certain octets there, and these
octets are that record whatever stands behind them. -/
theorem exists_spelling_of_split? {buffer rest : Octets} {record : Tlv}
    (taken : split? buffer = some (record, rest)) :
    ∃ spelling, buffer = spelling ++ rest ∧
      ∀ other, split? (spelling ++ other) = some (record, other) := by
  unfold split? at taken
  split at taken
  next => cases taken
  next tag declared body complete =>
    split at taken
    next => cases taken
    next enough =>
      cases taken
      obtain ⟨spelling, rfl, stable⟩ := Header.exists_spelling complete
      have long : (body.take declared).length = declared := by
        rw [List.length_take]
        omega
      refine ⟨spelling ++ body.take declared, ?_, fun other => ?_⟩
      · rw [List.append_assoc, List.take_append_drop]
      · rw [List.append_assoc]
        simp only [split?, stable, List.length_append, long]
        rw [if_neg (by omega), List.take_left' long, List.drop_left' long]

/-- **What is at the front of a buffer stays there when octets are added.** -/
theorem split?_append {buffer rest : Octets} {record : Tlv}
    (taken : split? buffer = some (record, rest)) (more : Octets) :
    split? (buffer ++ more) = some (record, rest ++ more) := by
  obtain ⟨spelling, rfl, stable⟩ := exists_spelling_of_split? taken
  rw [List.append_assoc]
  exact stable (rest ++ more)

/-- A header below 255 and one from 255 on are both read back. -/
theorem read_header {record : Tlv} (fits : record.value.length ≤ maxValueLength)
    (body : Octets) :
    Header.read (record.header ++ body) = .complete record.tag record.value.length body := by
  unfold maxValueLength at fits
  unfold header
  split
  next short =>
    have plain : UInt8.ofNat record.value.length ≠ longMark := by
      intro same
      have spelled := congrArg UInt8.toNat same
      rw [UInt8.toNat_ofNat', Nat.mod_eq_of_lt (by omega)] at spelled
      have mark : longMark.toNat = 255 := rfl
      omega
    simp only [List.cons_append, List.nil_append, Header.read, plain, if_false,
      UInt8.toNat_ofNat']
    rw [Nat.mod_eq_of_lt (by omega)]
  next =>
    simp only [Octets.ofWord, List.cons_append, List.nil_append, Header.read, if_true]
    rw [Octets.word_ofWord (by omega)]

/-- A record that was written is read back, whatever stands behind it. -/
theorem split?_encode {record : Tlv} {wire : Octets} (written : record.encode = .ok wire)
    (rest : Octets) : split? (wire ++ rest) = some (record, rest) := by
  unfold encode at written
  split at written
  next fits =>
    cases written
    rw [List.append_assoc]
    simp only [split?, read_header fits, List.length_append]
    rw [if_neg (by omega), List.take_left' rfl, List.drop_left' rfl]
  next => cases written

/-- No record holds a value longer than its header can tell. -/
theorem length_value_le {buffer rest : Octets} {record : Tlv}
    (taken : split? buffer = some (record, rest)) : record.value.length ≤ maxValueLength := by
  unfold split? at taken
  split at taken
  next => cases taken
  next tag declared body complete =>
    split at taken
    next => cases taken
    next =>
      cases taken
      have told := Header.declared_le complete
      exact Nat.le_trans (List.length_take_le ..) told

/-! ## All records -/

/-- What a stream holds. -/
structure Parsed where
  /-- The complete records, in order. -/
  records : List Tlv
  /-- The octets behind them, which are no complete record. -/
  rest : Octets
  deriving DecidableEq

/-- Takes records off a stream until none is complete. -/
def parse (stream : Octets) : Parsed :=
  match _taken : split? stream with
  | none => ⟨[], stream⟩
  | some (record, rest) =>
      let behind := parse rest
      ⟨record :: behind.records, behind.rest⟩
termination_by stream.length
decreasing_by
  have shorter := length_of_split? _taken
  omega

theorem parse_of_none {stream : Octets} (nothing : split? stream = none) :
    parse stream = ⟨[], stream⟩ := by
  rw [parse]
  split
  next => rfl
  next taken => cases nothing.symm.trans taken

theorem parse_of_some {stream rest : Octets} {record : Tlv}
    (taken : split? stream = some (record, rest)) :
    parse stream = ⟨record :: (parse rest).records, (parse rest).rest⟩ := by
  rw [parse]
  split
  next nothing => cases taken.symm.trans nothing
  next same =>
    cases taken.symm.trans same
    rfl

theorem records_parse_ne_nil {stream : Octets} (complete : split? stream ≠ none) :
    (parse stream).records ≠ [] := by
  obtain ⟨⟨record, rest⟩, taken⟩ := Option.ne_none_iff_exists'.mp complete
  rw [parse_of_some taken]
  exact List.cons_ne_nil _ _

@[simp] theorem parse_nil : parse [] = ⟨[], []⟩ :=
  parse_of_none rfl

/-- What is left of a stream starts with no complete record. -/
theorem split?_rest (stream : Octets) : split? (parse stream).rest = none := by
  induction stream using parse.induct with
  | case1 stream nothing =>
      rw [parse_of_none nothing]
      exact nothing
  | case2 stream record rest taken ih =>
      rw [parse_of_some taken]
      exact ih

/-- The first record of a stream is at its front, and the others are behind it. -/
theorem exists_split?_of_records {stream : Octets} {record : Tlv} {records : List Tlv}
    (whole : (parse stream).records = record :: records) :
    ∃ rest, split? stream = some (record, rest) ∧ (parse rest).records = records := by
  cases taken : split? stream with
  | none =>
      rw [parse_of_none taken] at whole
      cases whole
  | some front =>
      obtain ⟨first, rest⟩ := front
      rw [parse_of_some taken] at whole
      cases whole
      exact ⟨rest, rfl, rfl⟩

/-- No record of a stream holds a value longer than its header can tell. -/
theorem length_value_le_of_mem {stream : Octets} {record : Tlv}
    (member : record ∈ (parse stream).records) : record.value.length ≤ maxValueLength := by
  induction stream using parse.induct with
  | case1 stream nothing =>
      rw [parse_of_none nothing] at member
      cases member
  | case2 stream first rest taken ih =>
      rw [parse_of_some taken] at member
      rcases List.mem_cons.mp member with rfl | behind
      · exact length_value_le taken
      · exact ih behind

/-! ## Taking some of the records -/

/-- Records are taken off the front of a buffer, one after another. -/
inductive Takes : List Tlv → Octets → Octets → Prop where
  | nil (buffer : Octets) : Takes [] buffer buffer
  | cons {record : Tlv} {records : List Tlv} {buffer behind rest : Octets}
      (taken : split? buffer = some (record, behind)) (further : Takes records behind rest) :
      Takes (record :: records) buffer rest

namespace Takes

theorem single {record : Tlv} {buffer rest : Octets}
    (taken : split? buffer = some (record, rest)) : Takes [record] buffer rest :=
  .cons taken (.nil rest)

theorem eq_of_nil {buffer rest : Octets} (takes : Takes [] buffer rest) : rest = buffer := by
  cases takes
  rfl

theorem trans {first second : List Tlv} {buffer middle rest : Octets}
    (earlier : Takes first buffer middle) (later : Takes second middle rest) :
    Takes (first ++ second) buffer rest := by
  induction earlier with
  | nil => exact later
  | cons taken _ ih => exact .cons taken (ih later)

/-- Octets added behind a buffer change nothing about what is taken off it. -/
theorem append {records : List Tlv} {buffer rest : Octets} (takes : Takes records buffer rest)
    (more : Octets) : Takes records (buffer ++ more) (rest ++ more) := by
  induction takes with
  | nil => exact .nil _
  | cons taken _ ih => exact .cons (split?_append taken more) ih

/-- Octets are taken off the front. -/
theorem exists_spelling {records : List Tlv} {buffer rest : Octets}
    (takes : Takes records buffer rest) : ∃ spelling, buffer = spelling ++ rest := by
  induction takes with
  | nil buffer => exact ⟨[], rfl⟩
  | cons taken _ ih =>
      obtain ⟨front, rfl, -⟩ := exists_spelling_of_split? taken
      obtain ⟨spelling, rfl⟩ := ih
      exact ⟨front ++ spelling, (List.append_assoc ..).symm⟩

/-- **Taking records loses none**: those taken and those to come are the records of
the buffer, and the same octets are left in the end. -/
theorem parse_eq {records : List Tlv} {buffer rest : Octets} (takes : Takes records buffer rest) :
    parse buffer = ⟨records ++ (parse rest).records, (parse rest).rest⟩ := by
  induction takes with
  | nil => rfl
  | cons taken _ ih =>
      rw [parse_of_some taken, ih]
      rfl

end Takes

/-- All records of a stream can be taken off it. -/
theorem takes_parse (stream : Octets) : Takes (parse stream).records stream (parse stream).rest := by
  induction stream using parse.induct with
  | case1 stream nothing =>
      rw [parse_of_none nothing]
      exact .nil stream
  | case2 stream record rest taken ih =>
      rw [parse_of_some taken]
      exact .cons taken ih

/-! ## Reading a stream in two goes -/

/-- **A stream can be read in two goes**: what is left of its front is read again with
the rest of the stream behind it. -/
theorem parse_append (stream more : Octets) :
    parse (stream ++ more) =
      ⟨(parse stream).records ++ (parse ((parse stream).rest ++ more)).records,
        (parse ((parse stream).rest ++ more)).rest⟩ :=
  ((takes_parse stream).append more).parse_eq

/-- Behind its first record a stream goes on as what is left there does. -/
theorem parse_append_of_split? {stream rest : Octets} {record : Tlv}
    (taken : split? stream = some (record, rest)) (more : Octets) :
    parse (stream ++ more) =
      ⟨record :: (parse (rest ++ more)).records, (parse (rest ++ more)).rest⟩ :=
  parse_of_some (split?_append taken more)

/-- What is the first record of the front of a stream is that of the stream. -/
theorem split?_unique {front more rest behind : Octets} {record first : Tlv}
    (taken : split? front = some (record, rest))
    (whole : split? (front ++ more) = some (first, behind)) :
    first = record ∧ behind = rest ++ more := by
  rw [split?_append taken more] at whole
  cases whole
  exact ⟨rfl, rfl⟩

/-- The records of a stream are the first records of every longer stream. -/
theorem records_isPrefix {stream whole : Octets} (front : stream <+: whole) :
    (parse stream).records <+: (parse whole).records := by
  obtain ⟨more, rfl⟩ := front
  rw [parse_append]
  exact List.prefix_append _ _

/-- What is left of a stream is its end. -/
theorem rest_isSuffix (stream : Octets) : (parse stream).rest <:+ stream := by
  obtain ⟨spelling, whole⟩ := (takes_parse stream).exists_spelling
  exact ⟨spelling, whole.symm⟩

/-- Records that are written one behind another are the records of what was written,
and nothing is left. -/
theorem parse_flatten {records : List Tlv} {wires : List Octets}
    (written : records.mapM encode = .ok wires) : parse wires.flatten = ⟨records, []⟩ := by
  induction records generalizing wires with
  | nil =>
      cases written
      exact parse_nil
  | cons record records ih =>
      rw [List.mapM_cons] at written
      cases here : record.encode with
      | error _ => rw [here] at written; cases written
      | ok wire =>
          rw [here] at written
          cases behind : records.mapM encode with
          | error _ => rw [behind] at written; cases written
          | ok rest =>
              rw [behind] at written
              cases written
              rw [List.flatten_cons, parse_of_some (split?_encode here _), ih behind]

end Tlv

end Commissioner
