import Commissioner.Proofs.Wifi.Marks

/-!
# What a batch of answers comes to

A batch of networks ends at the first record marked as a success or a failure, and a batch of
states at the first record with any mark. The networks gathered are those that the records in
front of that one tell, each with its first six fields; the state gathered is the last one told
in front of it. The mark itself is all that the rest of the records adds: what stands behind it
makes no difference (`batches_gathered`).
-/

set_option autoImplicit false

namespace Commissioner

/-! ## Records in front of a mark -/

namespace Reply

/-- Whether an answer is a mark. -/
def isMark : Reply → Bool
  | .notSupported | .failed | .ok => true
  | .data => false

variable (ends : Reply → Bool)

/-- The records in front of the first one whose mark ends a batch. -/
def before (records : List Tlv) : List Tlv :=
  records.takeWhile fun record => !ends (ofRecord record)

/-- The first mark that ends a batch. -/
def firstMark? (records : List Tlv) : Option Reply :=
  (records.map ofRecord).find? ends

variable {ends} {record : Tlv}

theorem before_of_ends (marked : ends (ofRecord record) = true) (records : List Tlv) :
    before ends (record :: records) = [] :=
  List.takeWhile_cons_of_neg (by rw [marked]; exact Bool.false_ne_true)

theorem before_of_goesOn (unmarked : ends (ofRecord record) = false) (records : List Tlv) :
    before ends (record :: records) = record :: before ends records :=
  List.takeWhile_cons_of_pos (by rw [unmarked]; rfl)

theorem firstMark?_of_ends (marked : ends (ofRecord record) = true) (records : List Tlv) :
    firstMark? ends (record :: records) = some (ofRecord record) :=
  List.find?_cons_of_pos marked

theorem firstMark?_of_goesOn (unmarked : ends (ofRecord record) = false) (records : List Tlv) :
    firstMark? ends (record :: records) = firstMark? ends records :=
  List.find?_cons_of_neg (by rw [unmarked]; exact Bool.false_ne_true)

end Reply

/-! ## Parts of a record -/

/-- The parts of the text of a record between bars. -/
def Tlv.parts (record : Tlv) : List String :=
  (record.text.toList.splitOn '|').map String.ofList

theorem barFields_eq_parts (record : Tlv) : barFields record.text = record.parts := by
  rw [barFields, Fields.ofText, Fields.split_eq_splitOn]
  rfl

/-- The state that parts tell: the first one trimmed, and the next two as they stand. -/
def Station.ofParts (parts : List String) : Station :=
  ⟨Text.trim (parts.getD 0 ""), parts[1]?, parts[2]?⟩

/-- Parts tell a state when the first one holds something besides blanks. -/
def Station.Told (parts : List String) : Prop :=
  Text.trim (parts.getD 0 "") ≠ ""

instance (parts : List String) : Decidable (Station.Told parts) :=
  inferInstanceAs (Decidable (_ ≠ _))

theorem Station.read_eq_parts (record : Tlv) :
    Station.read record.text =
      if Station.Told record.parts then .ok (Station.ofParts record.parts) else .error ⟨1, 0⟩ := by
  rw [Station.read, barFields_eq_parts]
  by_cases told : Station.Told record.parts
  · rw [if_pos told, if_neg (mt String.isEmpty_iff.mp told), Station.ofParts]
  · rw [if_neg told, if_pos (String.isEmpty_iff.mpr (not_not.mp told))]

theorem Network.read_eq_parts (record : Tlv) :
    (Network.read record.text).map Network.fields =
      if 6 ≤ record.parts.length then .ok (record.parts.take 6)
      else .error ⟨6, record.parts.length⟩ := by
  rw [Network.map_fields_read, barFields_eq_parts]

/-! ## Networks -/

namespace NetworkBatch

open Reply (before firstMark? endsBatch)

variable {record : Tlv}

theorem gather_of_ends (marked : endsBatch (Reply.ofRecord record) = true) (behind : List Tlv) :
    gather (record :: behind) = ⟨[], Reply.ofRecord record = .failed⟩ := by
  rw [gather]
  cases mark : Reply.ofRecord record with
  | notSupported => rw [mark] at marked; cases marked
  | failed => rfl
  | ok => rfl
  | data => rw [mark] at marked; cases marked

/-- A record that does not end the batch tells a network or nothing. -/
theorem gather_of_goesOn (unmarked : endsBatch (Reply.ofRecord record) = false)
    (behind : List Tlv) :
    gather (record :: behind) =
      ⟨(Network.read record.text).toOption.toList ++ (gather behind).networks,
        (gather behind).failed⟩ := by
  rw [gather]
  cases mark : Reply.ofRecord record with
  | failed => rw [mark] at unmarked; cases unmarked
  | ok => rw [mark] at unmarked; cases unmarked
  | notSupported => cases Network.read record.text <;> rfl
  | data => cases Network.read record.text <;> rfl

/-- How the networks of a batch follow from the records that it is gathered from. -/
structure Sums (records : List Tlv) (batch : NetworkBatch) : Prop where
  /-- The networks are the first six parts of each record in front of the end that has so many,
  in the order of the records. -/
  networks : batch.networks.map Network.fields =
    (((before endsBatch records).map Tlv.parts).filter fun parts => 6 ≤ parts.length).map
      fun parts => parts.take 6
  /-- The batch has failed just when the mark that ends it is that of a failure. -/
  failed : batch.failed = true ↔ firstMark? endsBatch records = some .failed
  /-- Records behind the mark that ends the batch make no difference. -/
  settled : ∀ front mark behind, records = front ++ mark :: behind →
    endsBatch (Reply.ofRecord mark) = true → batch = gather (front ++ [mark])

theorem fields_told (records : List Tlv) :
    (records.filterMap fun record => (Network.read record.text).toOption).map Network.fields =
      ((records.map Tlv.parts).filter fun parts => 6 ≤ parts.length).map
        fun parts => parts.take 6 := by
  induction records with
  | nil => rfl
  | cons record records ih =>
      have read := Network.read_eq_parts record
      rw [List.map_cons]
      by_cases enough : 6 ≤ record.parts.length
      · rw [if_pos enough] at read
        rw [List.filter_cons, if_pos (decide_eq_true enough), List.map_cons, ← ih]
        cases told : Network.read record.text with
        | error => rw [told] at read; cases read
        | ok network =>
            rw [told] at read
            rw [List.filterMap_cons_some (by rw [told]; rfl), List.map_cons, Except.ok.inj read]
      · rw [if_neg enough] at read
        rw [List.filter_cons, if_neg (mt of_decide_eq_true enough), ← ih]
        cases told : Network.read record.text with
        | error => rw [List.filterMap_cons_none (by rw [told]; rfl)]
        | ok => rw [told] at read; cases read

theorem failed_gather (records : List Tlv) :
    (gather records).failed = true ↔ firstMark? endsBatch records = some .failed := by
  induction records with
  | nil => exact ⟨nofun, nofun⟩
  | cons record records ih =>
      cases ended : endsBatch (Reply.ofRecord record) with
      | true =>
          rw [gather_of_ends ended, Reply.firstMark?_of_ends ended, Option.some.injEq]
          exact decide_eq_true_iff
      | false => rw [gather_of_goesOn ended, Reply.firstMark?_of_goesOn ended, ih]

theorem gather_append_of_ends {mark : Tlv} (ended : endsBatch (Reply.ofRecord mark) = true)
    (front behind : List Tlv) : gather (front ++ mark :: behind) = gather (front ++ [mark]) := by
  induction front with
  | nil => rw [List.nil_append, List.nil_append, gather_of_ends ended, gather_of_ends ended]
  | cons record front ih =>
      rw [List.cons_append, List.cons_append]
      cases earlier : endsBatch (Reply.ofRecord record) with
      | true => rw [gather_of_ends earlier, gather_of_ends earlier]
      | false => rw [gather_of_goesOn earlier, gather_of_goesOn earlier, ih]

/-- What a batch of networks comes to. -/
theorem sums_gather (records : List Tlv) : Sums records (gather records) where
  networks := by
    rw [networks_gather, Network.told]
    exact fields_told (before endsBatch records)
  failed := failed_gather records
  settled front mark behind cut ended := by rw [cut, gather_append_of_ends ended front behind]

end NetworkBatch

/-! ## States -/

namespace StationBatch

open Reply (before firstMark? isMark)

variable {record : Tlv} (sofar : Option Station)

theorem gatherFrom_of_isMark (marked : isMark (Reply.ofRecord record) = true)
    (behind : List Tlv) :
    gatherFrom sofar (record :: behind) = ⟨sofar, some (Reply.ofRecord record)⟩ := by
  rw [gatherFrom]
  cases mark : Reply.ofRecord record with
  | notSupported => rfl
  | failed => rfl
  | ok => rfl
  | data => rw [mark] at marked; cases marked

theorem gatherFrom_of_data (unmarked : isMark (Reply.ofRecord record) = false)
    (behind : List Tlv) :
    gatherFrom sofar (record :: behind) =
      gatherFrom (if Station.Told record.parts then some (Station.ofParts record.parts) else sofar)
        behind := by
  have data : Reply.ofRecord record = .data := by
    cases mark : Reply.ofRecord record with
    | data => rfl
    | notSupported => rw [mark] at unmarked; cases unmarked
    | failed => rw [mark] at unmarked; cases unmarked
    | ok => rw [mark] at unmarked; cases unmarked
  rw [gatherFrom, data]
  simp only [Station.read_eq_parts]
  by_cases told : Station.Told record.parts
  · simp only [if_pos told]
  · simp only [if_neg told]

/-- How the state of a batch follows from the records that it is gathered from. -/
structure Sums (records : List Tlv) (batch : StationBatch) : Prop where
  /-- The state is the last one told in front of the first mark. -/
  station : batch.station =
    (((before isMark records).map Tlv.parts).filter fun parts => Station.Told parts).getLast?.map
      Station.ofParts
  /-- The mark that ends the batch is the first one there is. -/
  terminator : batch.terminator = firstMark? isMark records
  /-- Records behind the first mark make no difference. -/
  settled : ∀ front mark behind, records = front ++ mark :: behind →
    isMark (Reply.ofRecord mark) = true → batch = gather (front ++ [mark])

theorem gatherFrom_eq (records : List Tlv) :
    gatherFrom sofar records =
      ⟨((((before isMark records).map Tlv.parts).filter
          fun parts => Station.Told parts).getLast?.map Station.ofParts).or sofar,
        firstMark? isMark records⟩ := by
  induction records generalizing sofar with
  | nil => rfl
  | cons record records ih =>
      cases marked : isMark (Reply.ofRecord record) with
      | true =>
          rw [gatherFrom_of_isMark sofar marked, Reply.before_of_ends marked,
            Reply.firstMark?_of_ends marked]
          rfl
      | false =>
          rw [gatherFrom_of_data sofar marked, Reply.before_of_goesOn marked,
            Reply.firstMark?_of_goesOn marked, ih, List.map_cons]
          by_cases told : Station.Told record.parts
          · rw [if_pos told, List.filter_cons, if_pos (decide_eq_true told), List.getLast?_cons]
            cases List.getLast? _ <;> rfl
          · rw [if_neg told, List.filter_cons, if_neg (mt of_decide_eq_true told)]

theorem gatherFrom_append_of_isMark {mark : Tlv} (marked : isMark (Reply.ofRecord mark) = true)
    (front behind : List Tlv) :
    gatherFrom sofar (front ++ mark :: behind) = gatherFrom sofar (front ++ [mark]) := by
  induction front generalizing sofar with
  | nil =>
      rw [List.nil_append, List.nil_append, gatherFrom_of_isMark sofar marked,
        gatherFrom_of_isMark sofar marked]
  | cons record front ih =>
      rw [List.cons_append, List.cons_append]
      cases earlier : isMark (Reply.ofRecord record) with
      | true => rw [gatherFrom_of_isMark sofar earlier, gatherFrom_of_isMark sofar earlier]
      | false => rw [gatherFrom_of_data sofar earlier, gatherFrom_of_data sofar earlier, ih]

/-- What a batch of states comes to. -/
theorem sums_gather (records : List Tlv) : Sums records (gather records) where
  station := by rw [gather, gatherFrom_eq, Option.or_none]
  terminator := by rw [gather, gatherFrom_eq]
  settled front mark behind cut marked := by
    rw [cut, gather, gather, gatherFrom_append_of_isMark none marked]

end StationBatch

/-- **Batches end at the first mark that ends them**, and keep what the records in front of it
tell: the networks all of them and in order, the states the last of them. -/
theorem batches_gathered (records : List Tlv) :
    NetworkBatch.Sums records (NetworkBatch.gather records) ∧
      StationBatch.Sums records (StationBatch.gather records) :=
  ⟨NetworkBatch.sums_gather records, StationBatch.sums_gather records⟩

/-- A record that says that something is not supported ends one batch and tells a network in
the other. -/
example :
    let records := ["COMPLETED|home|-40", "RESP_NOT_SUPP|b|6|g|-50|w", "SCANNING", "RESP_OK"].map
      Work.application
    (NetworkBatch.gather records).networks = [⟨"RESP_NOT_SUPP", "b", "6", "g", "-50", "w"⟩] ∧
      StationBatch.gather records =
        ⟨some ⟨"COMPLETED", some "home", some "-40"⟩, some .notSupported⟩ := by
  decide +kernel

end Commissioner
