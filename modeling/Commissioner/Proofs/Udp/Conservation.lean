import Mathlib.Data.List.Basic
import Commissioner.Udp.Relay

/-!
# What goes through the relay

The relay is a pipe for octets in both directions. While it is at work, what was sent, what it
has in hand to send and what waits in the outbound pipe is what the client wrote; and what the
client has read, what waits in the inbound pipe and what the relay has in hand to pass on is what
the datagrams held that it took (`Relay.Sound`). Every step keeps this (`Relay.Sound.step`), and
so does every run, whichever of the steps that can happen come next.

When the relay ends it loses what it has in hand, and nothing else: the client still reads all
that was put into the inbound pipe, and then comes to the end of its stream
(`Relay.Ended`, `Relay.run_conserves`).
-/

set_option autoImplicit false

namespace Commissioner

namespace Relay

variable {maxWrite capacity : Nat} {relay middle after : Relay}

/-! ## Runs -/

theorem run?_cons (step : Step) (steps : List Step) :
    relay.run? (step :: steps) = (relay.step? step).bind fun middle => middle.run? steps := by
  simp only [run?]
  cases relay.step? step <;> rfl

/-- What every step keeps, every run keeps. -/
theorem run?_induction {kept : Relay → Prop}
    (keeps : ∀ {relay after step}, kept relay → relay.step? step = some after → kept after)
    {steps : List Step} (holds : kept relay) (ran : relay.run? steps = some after) :
    kept after := by
  induction steps generalizing relay with
  | nil =>
      cases ran
      exact holds
  | cons step steps ih =>
      rw [run?_cons] at ran
      obtain ⟨middle, stepped, further⟩ := Option.bind_eq_some_iff.mp ran
      exact ih (keeps holds stepped) further

/-! ## Steps of a relay at work -/

/-- What goes through a relay is accounted for, and the pipes hold no more than they can. -/
structure Sound (maxWrite capacity : Nat) (relay : Relay) : Prop where
  widest : relay.maxWrite = max maxWrite 1
  bound : relay.capacity = capacity
  /-- While it is at work nothing that the client wrote is lost. -/
  outward : relay.ended = false →
    relay.sent.flatten ++ relay.sending ++ relay.outbound = relay.accepted
  /-- Nor is anything that the device sent. -/
  inward : relay.ended = false →
    relay.read ++ relay.inbound ++ relay.held = relay.taken.flatten
  /-- In any case what comes out at an end is the front of what was put in. -/
  sentFront : relay.sent.flatten <+: relay.accepted
  readFront : relay.read ++ relay.inbound <+: relay.taken.flatten
  narrow : relay.sending.length ≤ max maxWrite 1
  datagrams : ∀ datagram ∈ relay.sent, 1 ≤ datagram.length ∧ datagram.length ≤ max maxWrite 1
  outboundFits : relay.outbound.length ≤ capacity
  inboundFits : relay.inbound.length ≤ capacity

theorem sound_start (maxWrite capacity : Nat) :
    (start maxWrite capacity).Sound maxWrite capacity where
  widest := rfl
  bound := rfl
  outward _ := rfl
  inward _ := rfl
  sentFront := List.nil_prefix
  readFront := List.nil_prefix
  narrow := Nat.zero_le _
  datagrams := nofun
  outboundFits := Nat.zero_le _
  inboundFits := Nat.zero_le _

/-- Octets put into a pipe that has room for them fit. -/
theorem length_append_take_room (octets pipe : Octets) (fits : pipe.length ≤ relay.capacity) :
    (pipe ++ octets.take (relay.room pipe)).length ≤ relay.capacity := by
  simp only [List.length_append, List.length_take, room]
  omega

theorem isWaiting_iff :
    relay.isWaiting = true ↔ relay.ended = false ∧ relay.sending = [] ∧ relay.held = [] := by
  simp [isWaiting, and_assoc]

namespace Sound

theorem write {octets : Octets} (sound : relay.Sound maxWrite capacity)
    (written : relay.write? octets = some after) : after.Sound maxWrite capacity := by
  unfold write? at written
  split at written
  next => cases written
  next possible =>
    cases written
    have working : relay.ended = false := by
      simp only [not_or, Bool.not_eq_true] at possible
      exact possible.2.2.1
    have fits := length_append_take_room octets relay.outbound
      (sound.bound.symm ▸ sound.outboundFits)
    refine { sound with outward := fun _ => ?_, sentFront := ?_, outboundFits := ?_ }
    · simp only [← sound.outward working, List.append_assoc]
    · exact sound.sentFront.trans (List.prefix_append _ _)
    · exact sound.bound ▸ fits

theorem read {size : Nat} (sound : relay.Sound maxWrite capacity)
    (taken : relay.read? size = some after) : after.Sound maxWrite capacity := by
  unfold read? at taken
  split at taken
  next => cases taken
  next =>
    cases taken
    have moved : relay.read ++ relay.inbound.take size ++ relay.inbound.drop size =
        relay.read ++ relay.inbound := by
      rw [List.append_assoc, List.take_append_drop]
    refine { sound with inward := fun working => ?_, readFront := ?_, inboundFits := ?_ }
    · simp only [moved]
      exact sound.inward working
    · simp only [moved]
      exact sound.readFront
    · have fits := sound.inboundFits
      simp only [List.length_drop]
      omega

theorem fetch (sound : relay.Sound maxWrite capacity)
    (fetched : relay.fetch? = some after) : after.Sound maxWrite capacity := by
  unfold fetch? at fetched
  split at fetched
  next possible =>
    cases fetched
    obtain ⟨working, idle, -⟩ := isWaiting_iff.mp possible.1
    refine { sound with outward := fun _ => ?_, narrow := ?_, outboundFits := ?_ }
    · rw [← sound.outward working, idle, List.append_nil, List.append_assoc, List.take_append_drop]
    · simp only [List.length_take, sound.widest]
      omega
    · have fits := sound.outboundFits
      simp only [List.length_drop]
      omega
  next => cases fetched

theorem send (sound : relay.Sound maxWrite capacity)
    (sent : relay.send? = some after) : after.Sound maxWrite capacity := by
  unfold send? at sent
  split at sent
  next => cases sent
  next possible =>
    cases sent
    simp only [not_or, Bool.not_eq_true] at possible
    obtain ⟨working, -, full⟩ := possible
    have outward := sound.outward working
    refine { sound with
      outward := fun _ => ?_, sentFront := ?_, narrow := Nat.zero_le _, datagrams := ?_ }
    · rw [← outward]
      simp
    · rw [← outward]
      simp
    · intro datagram member
      rcases List.mem_append.mp member with earlier | last
      · exact sound.datagrams datagram earlier
      · rw [List.mem_singleton.mp last]
        exact ⟨List.length_pos_iff.mpr full, sound.narrow⟩

theorem take (sound : relay.Sound maxWrite capacity)
    (taken : relay.take? = some after) : after.Sound maxWrite capacity := by
  unfold take? at taken
  split at taken
  next => cases taken
  next datagram rest _ =>
    split at taken
    next waiting =>
      cases taken
      obtain ⟨working, -, empty⟩ := isWaiting_iff.mp waiting
      have inward := sound.inward working
      rw [empty, List.append_nil] at inward
      refine { sound with inward := fun _ => ?_, readFront := ?_ }
      · simp [inward]
      · simp only [inward, List.flatten_append]
        exact List.prefix_append _ _
    next => cases taken

theorem pass (sound : relay.Sound maxWrite capacity)
    (passed : relay.pass? = some after) : after.Sound maxWrite capacity := by
  unfold pass? at passed
  split at passed
  next => cases passed
  next possible =>
    cases passed
    have working : relay.ended = false := by
      simp only [not_or, Bool.not_eq_true] at possible
      exact possible.1
    have inward := sound.inward working
    have fits := length_append_take_room relay.held relay.inbound
      (sound.bound.symm ▸ sound.inboundFits)
    refine { sound with inward := fun _ => ?_, readFront := ?_, inboundFits := sound.bound ▸ fits }
    · rw [← inward]
      simp
    · refine ⟨relay.held.drop (relay.room relay.inbound), ?_⟩
      rw [← inward]
      simp

theorem finish (sound : relay.Sound maxWrite capacity)
    (finished : relay.finish? = some after) : after.Sound maxWrite capacity := by
  unfold finish? at finished
  split at finished
  next => cases finished
  next =>
    cases finished
    exact { sound with outward := nofun, inward := nofun, narrow := Nat.zero_le _ }

/-- **Every step keeps account** of what goes through the relay. -/
theorem step {step : Step} (sound : relay.Sound maxWrite capacity)
    (stepped : relay.step? step = some after) : after.Sound maxWrite capacity := by
  cases step with
  | write octets => exact sound.write stepped
  | read size => exact sound.read stepped
  | fetch => exact sound.fetch stepped
  | send => exact sound.send stepped
  | take => exact sound.take stepped
  | pass => exact sound.pass stepped
  | finish => exact sound.finish stepped
  | shut | close | leave =>
      cases stepped
      exact { sound with }
  | arrive datagram =>
      simp only [step?] at stepped
      split at stepped
      next => cases stepped
      next =>
        cases stepped
        exact { sound with }

end Sound

/-! ## Steps of a relay that has ended -/

/-- What was put into the inbound pipe of a relay that has ended was read, or still lies there. -/
structure Ended (put : Octets) (relay : Relay) : Prop where
  ended : relay.ended = true
  inbound : relay.read ++ relay.inbound = put

namespace Ended

variable {put : Octets}

theorem read {size : Nat} (ends : relay.Ended put) (taken : relay.read? size = some after) :
    after.Ended put := by
  unfold read? at taken
  split at taken
  next => cases taken
  next =>
    cases taken
    refine ⟨ends.ended, ?_⟩
    simp only [← ends.inbound, List.append_assoc, List.take_append_drop]

/-- Nothing is put into the pipe any more, and nothing in it is lost. -/
theorem step {step : Step} (ends : relay.Ended put) (stepped : relay.step? step = some after) :
    after.Ended put := by
  have idle : relay.isWaiting = false := by simp [isWaiting, ends.ended]
  cases step with
  | read size => exact ends.read stepped
  | shut | close | leave =>
      cases stepped
      exact ⟨ends.ended, ends.inbound⟩
  | arrive datagram =>
      simp only [step?] at stepped
      split at stepped
      next => cases stepped
      next =>
        cases stepped
        exact ⟨ends.ended, ends.inbound⟩
  | take =>
      simp only [step?, take?, idle] at stepped
      split at stepped <;> cases stepped
  | write | fetch | send | pass | finish =>
      simp [step?, write?, fetch?, send?, pass?, finish?, ends.ended, idle] at stepped

/-- The client is at the end of its stream exactly when it has read everything. -/
theorem isDrained_iff (ends : relay.Ended put) : relay.isDrained = true ↔ relay.read = put := by
  rw [← ends.inbound]
  simp [isDrained, ends.ended]

/-- A client that goes on reading comes to the end of its stream. -/
theorem exists_drained {size : Nat} (ends : relay.Ended put) (held : relay.closed = false)
    (asked : 0 < size) :
    ∃ count after, relay.run? (List.replicate count (.read size)) = some after ∧
      after.isDrained = true := by
  -- Each read leaves less in the pipe.
  induction left : relay.inbound.length using Nat.strongRecOn generalizing relay with
  | ind _ ih =>
    by_cases empty : relay.inbound = []
    · refine ⟨0, relay, rfl, ?_⟩
      simp [isDrained, ends.ended, empty]
    · have taken : relay.read? size = some { relay with
          inbound := relay.inbound.drop size
          read := relay.read ++ relay.inbound.take size } := by
        simp [read?, held, empty]
        omega
      have shorter : (relay.inbound.drop size).length < relay.inbound.length := by
        have full := List.length_pos_iff.mpr empty
        simp only [List.length_drop]
        omega
      obtain ⟨count, after, ran, drained⟩ := ih _ (left ▸ shorter) (ends.read taken) held rfl
      refine ⟨count + 1, after, ?_, drained⟩
      rw [List.replicate_succ, run?_cons, step?, taken]
      exact ran

end Ended

/-! ## Progress -/

/-- Something is on its way from the client to the device, or back. -/
def Busy (relay : Relay) : Prop :=
  relay.outbound ≠ [] ∨ relay.sending ≠ [] ∨ relay.arriving ≠ [] ∨ relay.held ≠ []

/-- A relay at work does not get stuck: it can go on, or the client can read. -/
theorem exists_step_of_busy (roomy : 0 < relay.capacity) (working : relay.ended = false)
    (held : relay.closed = false) (there : relay.gone = false) (busy : relay.Busy) :
    ∃ step ∈ [Step.fetch, .send, .take, .pass, .read 1], ∃ after, relay.step? step = some after := by
  by_cases sends : relay.sending = []
  case neg =>
    refine ⟨.send, by simp, ?_⟩
    simp [step?, send?, working, there, sends]
  by_cases passes : relay.held = []
  case neg =>
    -- What is to be passed on fits, unless the client has something to read.
    by_cases empty : relay.inbound = []
    · refine ⟨.pass, by simp, ?_⟩
      simp [step?, pass?, working, held, passes, room, empty]
      omega
    · refine ⟨.read 1, by simp, ?_⟩
      simp [step?, read?, held, empty]
  have waiting : relay.isWaiting = true := isWaiting_iff.mpr ⟨working, sends, passes⟩
  rcases busy with written | fetched | arrived | taken
  · refine ⟨.fetch, by simp, ?_⟩
    simp [step?, fetch?, waiting, written]
  · exact absurd sends fetched
  · refine ⟨.take, by simp, ?_⟩
    obtain ⟨datagram, rest, arriving⟩ := List.exists_cons_of_ne_nil arrived
    simp [step?, take?, arriving, waiting]
  · exact absurd passes taken

/-! ## Runs of the relay -/

/-- **The relay is a faithful pipe**, for any sizes of its datagrams and pipes, whatever the
client and the device do and in whatever order the relay takes from them. While it is at work
nothing is lost, doubled or moved, in either direction, and with pipes that hold anything at all
it does not get stuck. Once it has ended the client reads all that was put into its pipe, and only
then comes to the end of its stream. -/
theorem run_conserves {steps : List Step} (ran : (start maxWrite capacity).run? steps = some relay) :
    (relay.ended = false →
      relay.sent.flatten ++ relay.sending ++ relay.outbound = relay.accepted ∧
      relay.read ++ relay.inbound ++ relay.held = relay.taken.flatten) ∧
    (relay.sent.flatten <+: relay.accepted ∧
      relay.read ++ relay.inbound <+: relay.taken.flatten) ∧
    (∀ datagram ∈ relay.sent, 1 ≤ datagram.length ∧ datagram.length ≤ max maxWrite 1) ∧
    (relay.outbound.length ≤ capacity ∧ relay.inbound.length ≤ capacity) ∧
    (0 < capacity → relay.ended = false → relay.closed = false → relay.gone = false →
      relay.Busy → ∃ step ∈ [Step.fetch, .send, .take, .pass, .read 1],
        ∃ after, relay.step? step = some after) ∧
    (relay.ended = true →
      (∀ more after, relay.run? more = some after →
        after.read ++ after.inbound = relay.read ++ relay.inbound ∧
        (after.isDrained = true ↔ after.read = relay.read ++ relay.inbound)) ∧
      ∀ size, relay.closed = false → 0 < size →
        ∃ count after, relay.run? (List.replicate count (.read size)) = some after ∧
          after.isDrained = true ∧ after.read = relay.read ++ relay.inbound) := by
  have sound : relay.Sound maxWrite capacity :=
    run?_induction Sound.step (sound_start maxWrite capacity) ran
  refine ⟨fun working => ⟨sound.outward working, sound.inward working⟩,
    ⟨sound.sentFront, sound.readFront⟩, sound.datagrams,
    ⟨sound.outboundFits, sound.inboundFits⟩, ?_, fun ended => ?_⟩
  · intro roomy working held there busy
    exact exists_step_of_busy (sound.bound.symm ▸ roomy) working held there busy
  · have ends : relay.Ended (relay.read ++ relay.inbound) := ⟨ended, rfl⟩
    have stays : ∀ more after, relay.run? more = some after →
        after.Ended (relay.read ++ relay.inbound) :=
      fun _ _ further => run?_induction Ended.step ends further
    refine ⟨fun more after further => ?_, fun size held asked => ?_⟩
    · have still := stays more after further
      exact ⟨still.inbound, still.isDrained_iff⟩
    · obtain ⟨count, after, further, drained⟩ := ends.exists_drained held asked
      exact ⟨count, after, further, drained, (stays _ after further).isDrained_iff.mp drained⟩

/-- Datagrams of two octets and pipes of three. The client writes five octets, of which three
fit, and has read two of the device's four when the device is gone. -/
def narrowRun : List Step :=
  [.write [1, 2, 3, 4, 5], .arrive [], .arrive [6, 7, 8, 9], .fetch, .send, .take, .take, .pass,
    .read 2, .pass, .fetch, .leave, .finish]

/-- Two octets come out at the device, and the third is lost. The client still reads the rest. -/
theorem run_conserves_narrow :
    ∃ relay, (start 2 3).run? narrowRun = some relay ∧ relay.sent = [[1, 2]] ∧
      relay.accepted = [1, 2, 3] ∧ relay.sent.flatten <+: relay.accepted ∧
      ∃ count after, relay.run? (List.replicate count (.read 1)) = some after ∧
        after.isDrained = true ∧ after.read = [6, 7, 8, 9] := by
  have ran : (start 2 3).run? narrowRun = some
      { start 2 3 with
        inbound := [8, 9], gone := true, ended := true, accepted := [1, 2, 3]
        sent := [[1, 2]], taken := [[], [6, 7, 8, 9]], read := [6, 7] } := by
    decide +kernel
  obtain ⟨-, ⟨fronts, -⟩, -, -, -, drains⟩ := run_conserves ran
  exact ⟨_, ran, rfl, rfl, fronts, (drains rfl).2 1 rfl Nat.one_pos⟩

end Relay

end Commissioner
