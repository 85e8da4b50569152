import Commissioner.Proofs.Timeline
import Commissioner.Proofs.Console.Prompt
import Commissioner.Proofs.Text.Decimal
import Commissioner.Proofs.Text.Lowercase

/-!
# Prompts take the first decisive answer

A prompt is shown for one answer after the other, and each line that it does not accept is
followed by the same line of advice. The first other answer ends it (`Question.Ends`): a line
accepted for a value, an interrupt or the end of the input, which call it off with one line, or
input that cannot be read. Behind the inputs there are, the input is at its end, so there always
is such an answer, and no input behind it is taken. What a prompt makes of the user's inputs is
`Question.Asked`; all prompts do nothing else (`prompts_take_first_decisive`).
-/

set_option autoImplicit false

namespace Commissioner

/-- The time that inputs take together, if all of them are ever given. -/
def Input.time? : List Input → Option Nat
  | [] => some 0
  | input :: rest => input.delay.bind fun delay => (time? rest).map (delay + ·)

theorem Input.time?_cons_eq_some_iff {input : Input} {rest : List Input} {time : Nat} :
    time? (input :: rest) = some time ↔
      ∃ delay later, input.delay = some delay ∧ time? rest = some later ∧ delay + later = time := by
  simp only [time?, Option.bind_eq_some_iff, Option.map_eq_some_iff, ← exists_and_left]

namespace Terminal

variable {α : Type}

/-! ## Questions -/

/-- What a prompt asks. -/
structure Question (α : Type) where
  /-- The lines printed before the prompt is first shown. -/
  heading : List String
  prompt : String
  /-- The line printed for each line that is not accepted. -/
  retry : String
  /-- A line is accepted for a value. -/
  accepts : String → α → Prop

/-- The answer to the prompt that is shown after `count` others. Behind the inputs the input is at
its end. -/
def answerAt (inputs : List Input) (count : Nat) : Answer :=
  (inputs[count]?.map Input.answer).getD .finished

namespace Question

/-- An answer ends a prompt, with what comes of the prompt and the lines printed then. -/
inductive Ends (question : Question α) :
    Answer → Except Fault (Prompted α) → List String → Prop where
  | line {text : String} {value : α} (accepted : question.accepts text value) :
      Ends question (.line text) (.ok (.value value)) []
  | interrupted : Ends question .interrupted (.ok .cancelled) [interruptedLine]
  | finished : Ends question .finished (.ok .cancelled) [interruptedLine]
  | fault {fault : Fault} : Ends question (.fault fault) (.error fault) []

/-- An answer is a line that is accepted for nothing. -/
def Idle (question : Question α) (answer : Answer) : Prop :=
  ∃ text, answer = .line text ∧ ∀ value, ¬ question.accepts text value

/-- What is shown for so many lines that are not accepted. -/
def retries (question : Question α) (count : Nat) : List Event :=
  (List.replicate count [.prompted question.prompt, .printed question.retry]).flatten

/-- What is shown for the answer that ends a prompt, and for those in front of it. -/
def shown (question : Question α) (count : Nat) (lines : List String) : List Event :=
  question.retries count ++ .prompted question.prompt :: lines.map .printed

/-- An act asks a question and takes so many answers that are not accepted and one that ends it. -/
structure Asked (question : Question α) (act : Act Terminal (Except Fault (Prompted α)))
    (limit : Nat) (inputs : List Input) (timeline : Timeline) (count : Nat)
    (outcome : Except Fault (Prompted α)) (lines : List String) : Prop where
  idle : ∀ before < count, question.Idle (answerAt inputs before)
  ends : question.Ends (answerAt inputs count) outcome lines
  /-- When all of them are given in time, the outcome is that of the last one, and the inputs
  behind it are left. -/
  inTime : ∀ time, Input.time? (inputs.take (count + 1)) = some time →
    timeline.now + time ≤ max timeline.now limit →
      act limit ⟨inputs, timeline⟩ = (some outcome, ⟨inputs.drop (count + 1),
        ⟨timeline.now + time,
          timeline.log ++ question.heading.map .printed ++ question.shown count lines⟩⟩)
  /-- When one of them is not, the act is dropped. -/
  late : (∀ time, Input.time? (inputs.take (count + 1)) = some time →
    max timeline.now limit < timeline.now + time) → (act limit ⟨inputs, timeline⟩).1 = none

/-- An act asks a question, whatever the user does. -/
def AskedBy (question : Question α) (act : Act Terminal (Except Fault (Prompted α))) : Prop :=
  ∀ limit inputs timeline, ∃ count outcome lines,
    question.Asked act limit inputs timeline count outcome lines

variable {question : Question α}

theorem shown_succ (count : Nat) (lines : List String) :
    question.shown (count + 1) lines =
      .prompted question.prompt :: .printed question.retry :: question.shown count lines := by
  simp [shown, retries, List.replicate_succ]

/-- Some answer ends a prompt, since the input has an end. -/
theorem exists_ends (question : Question α) (inputs : List Input) :
    ∃ count outcome lines, (∀ before < count, question.Idle (answerAt inputs before)) ∧
      question.Ends (answerAt inputs count) outcome lines := by
  induction inputs with
  | nil => exact ⟨0, _, _, fun _ before => absurd before (Nat.not_lt_zero _), .finished⟩
  | cons input rest ih =>
      obtain ⟨delay, answer⟩ := input
      have atOnce : ∀ {outcome lines}, question.Ends answer outcome lines →
          ∃ count outcome lines,
            (∀ before < count, question.Idle (answerAt (⟨delay, answer⟩ :: rest) before)) ∧
              question.Ends (answerAt (⟨delay, answer⟩ :: rest) count) outcome lines :=
        fun ends => ⟨0, _, _, fun _ before => absurd before (Nat.not_lt_zero _), ends⟩
      cases answer with
      | interrupted => exact atOnce .interrupted
      | finished => exact atOnce .finished
      | fault fault => exact atOnce .fault
      | line text =>
          by_cases decisive : ∃ value, question.accepts text value
          · obtain ⟨value, accepted⟩ := decisive
            exact atOnce (.line accepted)
          · obtain ⟨count, outcome, lines, idle, ends⟩ := ih
            refine ⟨count + 1, outcome, lines, fun before within => ?_, ends⟩
            cases before with
            | zero => exact ⟨text, rfl, not_exists.mp decisive⟩
            | succ before => exact idle before (Nat.lt_of_succ_lt_succ within)

end Question

/-! ## One answer -/

section Asking

variable {question : Question α} {decisive : String → Option α} {limit : Nat}
  {rest : List Input} {timeline : Timeline} {delay : Nat}

/-- An input that comes in time is waited for. -/
theorem wait_of_given (timeline : Timeline)
    (within : timeline.now + delay ≤ max timeline.now limit) :
    timeline.wait (some (timeline.now + delay)) none limit =
      (.ready, ⟨timeline.now + delay, timeline.log⟩) := by
  have there : timeline.now + delay ≤ timeline.horizon none limit := within
  rw [Timeline.wait_of_le_horizon there, Timeline.advance,
    Nat.max_eq_right (Nat.le_add_right _ _)]

/-- The wait for an input that does not come in time is dropped. -/
theorem wait_of_late (timeline : Timeline) {delay : Option Nat}
    (late : ∀ time, delay = some time → max timeline.now limit < timeline.now + time) :
    timeline.wait (delay.map (timeline.now + ·)) none limit =
      (.dropped, timeline.advance limit) := by
  refine Timeline.wait_of_dropped (fun due coming => ?_) (by simp)
  obtain ⟨time, given, rfl⟩ := Option.map_eq_some_iff.mp coming
  exact late time given

theorem askAmong_of_idle {prompt retry text : String} (idle : decisive text = none)
    (within : timeline.now + delay ≤ max timeline.now limit) :
    askAmong prompt retry decisive limit (⟨some delay, .line text⟩ :: rest) timeline =
      askAmong prompt retry decisive limit rest
        ⟨timeline.now + delay, timeline.log ++ [.prompted prompt, .printed retry]⟩ := by
  have waited := wait_of_given (timeline.note (.prompted prompt)) within
  simp only [askAmong, Option.map_some, waited, idle]
  simp [Timeline.note]

/-- The answer that ends a prompt is taken, and none behind it. -/
theorem askAmong_of_ends {answer : Answer} {outcome : Except Fault (Prompted α)}
    {lines : List String}
    (decides : ∀ text value, decisive text = some value ↔ question.accepts text value)
    (ends : question.Ends answer outcome lines)
    (within : timeline.now + delay ≤ max timeline.now limit) :
    askAmong question.prompt question.retry decisive limit (⟨some delay, answer⟩ :: rest)
        timeline =
      (some outcome, ⟨rest, ⟨timeline.now + delay, timeline.log ++ question.shown 0 lines⟩⟩) := by
  have waited := wait_of_given (timeline.note (.prompted question.prompt)) within
  simp only [askAmong, Option.map_some, waited]
  cases ends with
  | line accepted =>
      simp only [(decides _ _).mpr accepted]
      rfl
  | interrupted => simp [Timeline.note, Question.shown, Question.retries]
  | finished => simp [Timeline.note, Question.shown, Question.retries]
  | fault => rfl

theorem askAmong_of_late {delay : Option Nat} {answer : Answer} {prompt retry : String}
    (late : ∀ time, delay = some time → max timeline.now limit < timeline.now + time) :
    (askAmong prompt retry decisive limit (⟨delay, answer⟩ :: rest) timeline).1 = none := by
  have dropped := wait_of_late (timeline.note (.prompted prompt)) late
  simp only [askAmong, dropped]

/-! ## All answers -/

section Deciding

variable {inputs : List Input} {count time : Nat} {outcome : Except Fault (Prompted α)}
  {lines : List String}
  (decides : ∀ text value, decisive text = some value ↔ question.accepts text value)
include decides

theorem eq_none_of_idle {text : String} (idle : ∀ value, ¬ question.accepts text value) :
    decisive text = none := by
  rw [Option.eq_none_iff_forall_ne_some]
  intro value found
  exact idle value ((decides text value).mp found)

theorem askAmong_inTime (idle : ∀ before < count, question.Idle (answerAt inputs before))
    (ends : question.Ends (answerAt inputs count) outcome lines)
    (taken : Input.time? (inputs.take (count + 1)) = some time)
    (within : timeline.now + time ≤ max timeline.now limit) :
    askAmong question.prompt question.retry decisive limit inputs timeline =
      (some outcome, ⟨inputs.drop (count + 1),
        ⟨timeline.now + time, timeline.log ++ question.shown count lines⟩⟩) := by
  induction count generalizing inputs timeline time with
  | zero =>
      cases inputs with
      | nil =>
          cases taken
          have closing : question.Ends .finished outcome lines := ends
          cases closing
          simp [askAmong, Timeline.note, Question.shown, Question.retries]
      | cons input rest =>
          obtain ⟨delay, answer⟩ := input
          obtain ⟨delay, _, rfl, last, rfl⟩ := Input.time?_cons_eq_some_iff.mp taken
          cases last
          exact askAmong_of_ends decides ends within
  | succ count ih =>
      obtain ⟨text, same, unheeded⟩ := idle 0 (Nat.succ_pos count)
      cases inputs with
      | nil => cases same
      | cons input rest =>
          obtain ⟨delay, answer⟩ := input
          cases same
          obtain ⟨delay, later, rfl, behind, rfl⟩ := Input.time?_cons_eq_some_iff.mp taken
          have first : timeline.now + delay ≤ max timeline.now limit := by omega
          rw [askAmong_of_idle (eq_none_of_idle decides unheeded) first,
            ih (fun before lower => idle (before + 1) (Nat.succ_lt_succ lower)) ends behind
              (by simp only; omega)]
          simp [Question.shown_succ, Nat.add_assoc]

theorem askAmong_late (idle : ∀ before < count, question.Idle (answerAt inputs before))
    (late : ∀ time, Input.time? (inputs.take (count + 1)) = some time →
      max timeline.now limit < timeline.now + time) :
    (askAmong question.prompt question.retry decisive limit inputs timeline).1 = none := by
  induction count generalizing inputs timeline with
  | zero =>
      cases inputs with
      | nil =>
          have passed := late 0 rfl
          omega
      | cons input rest =>
          refine askAmong_of_late fun time given => late time ?_
          exact Input.time?_cons_eq_some_iff.mpr ⟨time, 0, given, rfl, rfl⟩
  | succ count ih =>
      obtain ⟨text, same, unheeded⟩ := idle 0 (Nat.succ_pos count)
      cases inputs with
      | nil => cases same
      | cons input rest =>
          obtain ⟨delay, answer⟩ := input
          cases same
          by_cases first : ∃ time, delay = some time ∧
            timeline.now + time ≤ max timeline.now limit
          · obtain ⟨time, rfl, within⟩ := first
            rw [askAmong_of_idle (eq_none_of_idle decides unheeded) within]
            refine ih (fun before lower => idle (before + 1) (Nat.succ_lt_succ lower))
              fun later behind => ?_
            have whole := late _ (Input.time?_cons_eq_some_iff.mpr ⟨time, later, rfl, behind, rfl⟩)
            simp only
            omega
          · refine askAmong_of_late fun time given => ?_
            by_contra within
            exact first ⟨time, given, Nat.not_lt.mp within⟩

/-- Asking until a line is decisive asks a question that accepts the decisive lines. -/
theorem Question.askedBy_ask (plain : question.heading = []) :
    question.AskedBy (ask question.prompt question.retry decisive) := by
  intro limit inputs timeline
  obtain ⟨count, outcome, lines, idle, ends⟩ := question.exists_ends inputs
  refine ⟨count, outcome, lines, idle, ends, fun time taken within => ?_, ?late⟩
  case late => exact askAmong_late decides idle
  rw [plain, List.map_nil, List.append_nil]
  exact askAmong_inTime decides idle ends taken within

end Deciding

end Asking

/-! ## The prompts -/

/-- The lines that list devices under the numbers from `number` on. -/
def numbered (number : Nat) (peers : List Peer) : List String :=
  (peers.zipIdx number).map fun listed => toString listed.2 ++ ": " ++ listed.1.text

namespace Question

/-- Whether to go on, in either case and with blanks around it (`accepts_confirm_iff`). -/
def confirm : Question Bool where
  heading := []
  prompt := "Do you want to continue? [Y]es/[n]o\n> "
  retry := "Try again."
  accepts line agrees :=
    Text.lowercase (Text.trim line) ∈ if agrees then ["y", "yes"] else ["n", "no"]

/-- A number from 1 to `greatest`, with blanks around it. -/
def index (greatest : Nat) : Question Nat where
  heading := []
  prompt := "> "
  retry := "Enter a number between 1 and " ++ toString greatest ++ "."
  accepts line number :=
    Decimal.Spells (Text.trim line) number ∧ number ≤ Decimal.wordBound ∧
      1 ≤ number ∧ number ≤ greatest

/-- A password, taken as it stands. -/
def password (network : String) : Question String where
  heading := []
  prompt := "Password for \"" ++ network ++ "\"\n> "
  retry := "The password is too short. Try again."
  accepts line entered := line ≠ "" ∧ entered = line

/-- One of the devices that are listed, by the number it is listed with. -/
def peer (peers : List Peer) : Question Peer where
  heading := "Found devices:" :: numbered 1 peers ++ ["Select device number"]
  prompt := (index peers.length).prompt
  retry := (index peers.length).retry
  accepts line peer :=
    ∃ number, (index peers.length).accepts line number ∧ (peer, number) ∈ peers.zipIdx 1

end Question

theorem yesOrNo?_eq_some_iff {line : String} {agrees : Bool} :
    yesOrNo? line = some agrees ↔ Question.confirm.accepts line agrees := by
  unfold yesOrNo? Question.confirm
  simp only
  generalize Text.lowercase (Text.trim line) = said
  split
  next yes => rcases yes with rfl | rfl <;> cases agrees <;> simp
  next notYes =>
    split
    next no => rcases no with rfl | rfl <;> cases agrees <;> simp
    next notNo => cases agrees <;> simp_all

/-- **The decisive lines are `y` and `yes`, `n` and `no`**, in either case and with blanks around
them, and no other line is. -/
theorem accepts_confirm_iff {line : String} {agrees : Bool} :
    Question.confirm.accepts line agrees ↔
      ∃ word ∈ (if agrees then ["y", "yes"] else ["n", "no"]),
        List.Forall₂ Text.EitherCase word.toList (Text.trim line).toList := by
  have plain : ∀ word ∈ (if agrees then ["y", "yes"] else ["n", "no"]),
      word.toList.all Text.plainLetters.contains = true := by
    cases agrees <;> decide
  constructor
  · intro member
    exact ⟨_, member, (Text.lowercase_eq_iff (plain _ member)).mp rfl⟩
  · rintro ⟨word, member, either⟩
    have lowered := (Text.lowercase_eq_iff (plain word member)).mpr either
    rw [← lowered] at member
    exact member

theorem askedBy_confirm : Question.confirm.AskedBy confirm :=
  Question.askedBy_ask (fun _ _ => yesOrNo?_eq_some_iff) rfl

theorem askedBy_selectIndex (greatest : Nat) :
    (Question.index greatest).AskedBy (selectIndex greatest) := by
  refine Question.askedBy_ask (fun line number => ?_) rfl
  rw [index?_eq_some_iff, Decimal.read?_eq_some_iff, and_assoc]
  rfl

theorem askedBy_password (network : String) :
    (Question.password network).AskedBy (password network) := by
  refine Question.askedBy_ask (fun line entered => ?_) rfl
  simp only [Question.password, String.isEmpty_iff, Option.ite_none_left_eq_some,
    Option.some.injEq, ne_eq, eq_comm (a := entered)]

/-! ## Devices by their numbers -/

/-- What is picked from devices when a number is selected. -/
def picked (peers : List Peer) : Except Fault (Prompted Nat) → Except Fault (Prompted Peer)
  | .error fault => .error fault
  | .ok .cancelled => .ok .cancelled
  | .ok (.value number) => .ok ((peers[number - 1]?.map .value).getD .cancelled)

theorem printPeers_apply (number : Nat) (peers : List Peer) (limit : Nat) (terminal : Terminal) :
    printPeers number peers limit terminal =
      (some (), ⟨terminal.inputs, terminal.timeline.now,
        terminal.timeline.log ++ (numbered number peers).map .printed⟩) := by
  induction peers generalizing number terminal with
  | nil => simp [printPeers, numbered, Act.pure_apply]
  | cons peer rest ih =>
      rw [printPeers, Act.bind_apply]
      simp only [print, Act.change, ih]
      simp [numbered, Timeline.note]

section Devices

variable {peers : List Peer}

/-- The devices are listed, and the number selected picks one of them. -/
theorem selectPeer_eq (full : peers ≠ []) (limit : Nat) (inputs : List Input)
    (timeline : Timeline) :
    selectPeer peers limit ⟨inputs, timeline⟩ =
      ((selectIndex peers.length limit ⟨inputs, timeline.now,
        timeline.log ++ (Question.peer peers).heading.map .printed⟩).map
          (Option.map (picked peers)) id) := by
  have filled : ¬ peers.isEmpty = true := by rwa [List.isEmpty_iff]
  rw [selectPeer, if_neg filled]
  simp only [Act.bind_apply, print, Act.change, printPeers_apply, Timeline.note]
  simp only [Question.peer, List.map_cons, List.map_append, List.cons_append, List.append_assoc,
    List.nil_append, List.map_nil]
  rcases selectIndex peers.length limit _ with ⟨_ | fault | _ | number, after⟩
  case none => rfl
  case some.error => rfl
  case some.ok.cancelled => rfl
  case some.ok.value number =>
    simp only [Prod.map, Option.map_some, picked]
    cases peers[number - 1]? with
    | none => rfl
    | some peer => rfl

/-- A number that is accepted is that of a device. -/
theorem Question.Ends.picks {answer : Answer} {outcome : Except Fault (Prompted Nat)}
    {lines : List String} (ends : (Question.index peers.length).Ends answer outcome lines) :
    (Question.peer peers).Ends answer (picked peers outcome) lines := by
  cases ends with
  | @line text number accepted =>
      have ⟨_, _, low, high⟩ := accepted
      have within : number - 1 < peers.length := by omega
      have there := List.getElem?_eq_getElem within
      rw [picked, there]
      exact .line ⟨number, accepted, List.mk_mem_zipIdx_iff_le_and_getElem?_sub.mpr ⟨low, there⟩⟩
  | interrupted => exact .interrupted
  | finished => exact .finished
  | fault => exact .fault

theorem askedBy_selectPeer (full : peers ≠ []) :
    (Question.peer peers).AskedBy (selectPeer peers) := by
  intro limit inputs timeline
  obtain ⟨count, outcome, lines, asked⟩ := askedBy_selectIndex peers.length limit inputs
    ⟨timeline.now, timeline.log ++ (Question.peer peers).heading.map .printed⟩
  refine ⟨count, picked peers outcome, lines, ?idle, asked.ends.picks, ?inTime, ?late⟩
  case idle =>
    intro before lower
    obtain ⟨text, same, unheeded⟩ := asked.idle before lower
    exact ⟨text, same, fun peer ⟨number, accepted, _⟩ => unheeded number accepted⟩
  case inTime =>
    intro time taken within
    rw [selectPeer_eq full, asked.inTime time taken within]
    have same : (Question.index peers.length).shown = (Question.peer peers).shown := rfl
    have plain : (Question.index peers.length).heading = [] := rfl
    rw [same, plain, List.map_nil, List.append_nil]
    rfl
  case late =>
    intro late
    rw [selectPeer_eq full, Prod.map_fst, asked.late late, Option.map_none]

end Devices

/-! ## All prompts -/

/-- **Prompts take the first decisive answer** and nothing behind it. A device is picked by the
number that is printed with it, and when there is none nothing is asked. -/
theorem prompts_take_first_decisive :
    Question.confirm.AskedBy confirm ∧
      (∀ greatest, (Question.index greatest).AskedBy (selectIndex greatest)) ∧
      (∀ network, (Question.password network).AskedBy (password network)) ∧
      (∀ first rest, (Question.peer (first :: rest)).AskedBy (selectPeer (first :: rest))) ∧
      ∀ limit inputs timeline, selectPeer [] limit ⟨inputs, timeline⟩ =
        (some (.ok .cancelled), ⟨inputs, timeline.note (.printed "No devices found.")⟩) := by
  refine ⟨askedBy_confirm, askedBy_selectIndex, askedBy_password, fun first rest => ?_, ?_⟩
  · exact askedBy_selectPeer (List.cons_ne_nil first rest)
  · intro limit inputs timeline
    rfl

/-- A number that is not offered is asked for again, and what is entered behind one that is
accepted is left. -/
example : selectIndex 3 0 ⟨["4", " +03 ", "1"].map fun text => ⟨some 0, .line text⟩, .start⟩ =
    (some (.ok (.value 3)), ⟨[⟨some 0, .line "1"⟩], 0,
      [.prompted "> ", .printed "Enter a number between 1 and 3.", .prompted "> "]⟩) := by
  rfl

end Terminal

end Commissioner
