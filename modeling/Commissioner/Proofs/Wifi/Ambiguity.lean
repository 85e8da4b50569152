import Commissioner.Proofs.Text.Fields
import Commissioner.Proofs.Wifi.Consent

/-!
# What the request to store a network tells

A border router tells networks in fields between bars, and is asked to store one in words
between blanks: the name, the password and the security. Bars cannot stand in a field, but
blanks can, and nothing marks those that belong to a field. So what the request tells depends on
how many blanks there are in the name and in the security. Requests of one text tell the same
just when these are equally many, and a network with a blank in its name or security always has
another one beside it whose request, with another password, is the same text
(`Network.addRequest_tells`).
-/

set_option autoImplicit false

namespace Commissioner

namespace Network

/-! ## The text of a network -/

def fields (network : Network) : List String :=
  [network.id, network.ssid, network.channel, network.band, network.rssi, network.security]

/-- The fields of a network between bars. -/
def spelling (network : Network) : String :=
  String.ofList (['|'].intercalate (network.fields.map String.toList))

/-- No field holds a bar. -/
def Clean (network : Network) : Prop :=
  ∀ field ∈ network.fields, '|' ∉ field.toList

theorem clean_of_read {text : String} {network : Network} (told : read text = .ok network) :
    network.Clean := by
  have clean : ∀ field ∈ barFields text, '|' ∉ field.toList := by
    intro field member
    obtain ⟨run, cut, rfl⟩ := List.mem_map.mp member
    rw [String.toList_ofList]
    exact Fields.not_mem_of_mem_split cut
  unfold read at told
  split at told
  next id ssid channel band rssi security more cut =>
    cases told
    intro field member
    refine clean field ?_
    rw [cut]
    exact List.mem_append_left more member
  next => cases told

/-- A network without bars in its fields is read from its spelling. -/
theorem read_spelling {network : Network} (clean : network.Clean) :
    read network.spelling = .ok network := by
  have cut : barFields network.spelling = network.fields := by
    have runs : ∀ run ∈ network.fields.map String.toList, '|' ∉ run := by
      intro run member
      obtain ⟨field, inside, rfl⟩ := List.mem_map.mp member
      exact clean field inside
    rw [barFields, Fields.ofText, Fields.split_eq_splitOn, spelling, String.toList_ofList,
      List.splitOn_intercalate '|' runs (List.cons_ne_nil _ _), List.map_map]
    exact List.map_id'' (fun field => String.ofList_toList) _
  rw [read, cut]
  rfl

/-! ## The text of the request -/

/-- How many blanks a text holds. -/
def spaces (text : String) : Nat :=
  text.toList.count ' '

theorem toList_addRequest (network : Network) (password : String) :
    (network.addRequest password).toList =
      "wifi_add ".toList ++ (network.ssid.toList ++
        ' ' :: (password.toList ++ ' ' :: network.security.toList)) := by
  simp only [addRequest, String.toList_append, List.append_assoc]
  rfl

/-- Requests of one text tell the same when they have equally many blanks in their names and in
their securities. -/
theorem credentials_eq {network other : Network} {password second : String}
    (same : network.addRequest password = other.addRequest second)
    (names : spaces network.ssid = spaces other.ssid)
    (securities : spaces network.security = spaces other.security) :
    network.ssid = other.ssid ∧ password = second ∧ network.security = other.security := by
  have runs := congrArg String.toList same
  rw [toList_addRequest, toList_addRequest, List.append_cancel_left_eq] at runs
  obtain ⟨name, rest⟩ := Fields.cut_unique runs names
  -- The blanks in the passwords are those that are left.
  have passwords : password.toList.count ' ' = second.toList.count ' ' := by
    have blanks := congrArg (List.count ' ') rest
    rw [List.count_append, List.count_append, List.count_cons_self, List.count_cons_self] at blanks
    unfold spaces at securities
    omega
  obtain ⟨secret, security⟩ := Fields.cut_unique rest passwords
  exact ⟨String.toList_inj.mp name, String.toList_inj.mp secret, String.toList_inj.mp security⟩

theorem joined_ne_empty (front behind : String) : front ++ " " ++ behind ≠ "" := by
  intro empty
  have nothing := congrArg String.toList empty
  simp only [String.toList_append, List.append_assoc] at nothing
  exact absurd nothing (List.append_ne_nil_of_right_ne_nil _ (List.cons_ne_nil _ _))

/-- A blank in a name may as well end it, and what stands behind it begin the password. -/
theorem exists_other_of_ssid {network : Network} (clean : network.Clean) (password : String)
    (blank : ' ' ∈ network.ssid.toList) :
    ∃ other second, Clean other ∧ second ≠ "" ∧
      other.addRequest second = network.addRequest password ∧ other.ssid ≠ network.ssid := by
  obtain ⟨front, behind, cut⟩ := List.append_of_mem blank
  refine ⟨{ network with ssid := String.ofList front },
    String.ofList behind ++ " " ++ password, ?_, ?_, ?_, ?_⟩
  · simp only [Clean, fields, List.forall_mem_cons, String.toList_ofList, cut] at clean ⊢
    obtain ⟨id, name, others⟩ := clean
    exact ⟨id, fun bar => name (List.mem_append_left _ bar), others⟩
  · exact joined_ne_empty _ _
  · refine String.toList_inj.mp ?_
    simp only [toList_addRequest, cut, String.toList_ofList, String.toList_append,
      List.append_assoc, List.cons_append]
    rfl
  · intro same
    have lengths := congrArg List.length (congrArg String.toList same)
    simp only [String.toList_ofList, cut, List.length_append, List.length_cons] at lengths
    omega

/-- And a blank in the security may begin it, and what stands before it end the password. -/
theorem exists_other_of_security {network : Network} (clean : network.Clean) (password : String)
    (blank : ' ' ∈ network.security.toList) :
    ∃ other second, Clean other ∧ second ≠ "" ∧
      other.addRequest second = network.addRequest password ∧
      other.security ≠ network.security := by
  obtain ⟨front, behind, cut⟩ := List.append_of_mem blank
  refine ⟨{ network with security := String.ofList behind },
    password ++ " " ++ String.ofList front, ?_, ?_, ?_, ?_⟩
  · simp only [Clean, fields, List.forall_mem_cons, String.toList_ofList, cut] at clean ⊢
    obtain ⟨id, name, channel, band, rssi, security, none⟩ := clean
    refine ⟨id, name, channel, band, rssi, fun bar => security ?_, none⟩
    exact List.mem_append_right _ (List.mem_cons_of_mem _ bar)
  · exact joined_ne_empty _ _
  · refine String.toList_inj.mp ?_
    simp only [toList_addRequest, cut, String.toList_ofList, String.toList_append,
      List.append_assoc]
    rfl
  · intro same
    have lengths := congrArg List.length (congrArg String.toList same)
    simp only [String.toList_ofList, cut, List.length_append, List.length_cons] at lengths
    omega

/-- **What a request tells.** Of two requests of one text, the name, the password and the
security are the same just when there are equally many blanks in the names and in the
securities. A network that was read with a blank in its name or its security can always be
confused: another network that can be read and another password give the same text. -/
theorem addRequest_tells :
    (∀ (network other : Network) (password second : String),
      network.addRequest password = other.addRequest second →
      ((network.ssid = other.ssid ∧ password = second ∧ network.security = other.security) ↔
        spaces network.ssid = spaces other.ssid ∧
          spaces network.security = spaces other.security)) ∧
    ∀ (text password : String) (network : Network), read text = .ok network →
      (' ' ∈ network.ssid.toList ∨ ' ' ∈ network.security.toList) →
      ∃ (told second : String) (other : Network), read told = .ok other ∧
        Work.password? second = some second ∧
        other.addRequest second = network.addRequest password ∧
        (other.ssid ≠ network.ssid ∨ other.security ≠ network.security) := by
  constructor
  · intro network other password second same
    constructor
    · rintro ⟨name, -, security⟩
      rw [name, security]
      exact ⟨rfl, rfl⟩
    · rintro ⟨names, securities⟩
      exact credentials_eq same names securities
  · intro text password network told blank
    have clean := clean_of_read told
    have accepted : ∀ {second}, second ≠ "" → Work.password? second = some second := by
      intro second full
      have some : second.isEmpty = false := by simpa using full
      simp only [Work.password?, some, Bool.false_eq_true, if_false]
    rcases blank with name | security
    · obtain ⟨other, second, still, full, same, differs⟩ :=
        exists_other_of_ssid clean password name
      exact ⟨_, second, other, read_spelling still, accepted full, same, .inl differs⟩
    · obtain ⟨other, second, still, full, same, differs⟩ :=
        exists_other_of_security clean password security
      exact ⟨_, second, other, read_spelling still, accepted full, same, .inr differs⟩

/-- A network with a blank in its name, confused with another one. -/
theorem addRequest_tells_blank :
    ∃ (told second : String) (other : Network), read told = .ok other ∧
      Work.password? second = some second ∧ other.addRequest second = "wifi_add a b c w" ∧
      (other.ssid ≠ "a b" ∨ other.security ≠ "w") :=
  addRequest_tells.2 "1|a b|6|g|4|w" "c" ⟨"1", "a b", "6", "g", "4", "w"⟩ (by decide +kernel)
    (.inl (by decide +kernel))

/-- Two networks and passwords whose requests are one text. -/
theorem addRequest_of_two :
    ∃ network other : Network,
      read "1|a b|6|g|4|w" = .ok network ∧ read "1|a|6|g|4|w" = .ok other ∧
      Work.password? "c" = some "c" ∧ Work.password? "b c" = some "b c" ∧
      network.addRequest "c" = "wifi_add a b c w" ∧ other.addRequest "b c" = "wifi_add a b c w" ∧
      network.ssid ≠ other.ssid ∧ "c" ≠ "b c" := by
  refine ⟨⟨"1", "a b", "6", "g", "4", "w"⟩, ⟨"1", "a", "6", "g", "4", "w"⟩, ?_⟩
  decide +kernel

end Network

end Commissioner
