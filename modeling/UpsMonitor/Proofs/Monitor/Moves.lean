import Mathlib.Logic.Relation
import UpsMonitor.Proofs.Monitor.Control

/-!
# Moves

Every operation is taken apart into the moves that it consists of, so that what holds of all moves
holds of every run. Main statements:

* `perform_moves`: an operation is nothing but moves;
* `run_invariant`: what every move keeps is kept by every run.
-/

namespace UpsMonitor

open Relation (ReflTransGen)

namespace Monitor

variable {σ : Type}

/-- What a monitor asks its unit for once that is identified, in the dialect that was negotiated. -/
inductive Requests (m : Monitor σ) : Command → Reply → Prop
  | nominal (gpser : m.dialect.family = .gpser) :
      Requests m (GpserCommand.readNominal.encode m.dialect.mode) .nominal
  | status (gpser : m.dialect.family = .gpser) :
      Requests m (GpserCommand.readStatus.encode m.dialect.mode)
        (.status m.dialect.layout.statusLength)
  | extended (gpser : m.dialect.family = .gpser) :
      Requests m (GpserCommand.readExtended.encode m.dialect.mode) .extended
  | statusCodes (gpser : m.dialect.family = .gpser) :
      Requests m (GpserCommand.readStatusCodes.encode m.dialect.mode) .statusCodes
  | telemetry (sentry : m.dialect.family = .sentry) :
      Requests m (SentryCommand.request m.dialect.extension).encode
        (.telemetry m.dialect.extension)

theorem Requests.answers {m : Monitor σ} {command : Command} {kind : Reply}
    (requests : m.Requests command kind) : kind.Answers command := by
  cases requests with
  | nominal => exact .nominal _
  | status => exact .status ..
  | extended => exact .extended _
  | statusCodes => exact .statusCodes _
  | telemetry => exact .telemetry _

/-- A frame of an instant command, in the dialect that was negotiated. -/
def Sends (m : Monitor σ) (command : Command) : Prop :=
  ∃ instant : InstantCommand,
    command ∈ instant.frames m.dialect.family m.dialect.mode m.settings.delays

variable [Device σ]

/-- The parts of which operations consist. -/
inductive Move (m : Monitor σ) : Monitor σ → Prop
  | relinked (link : Link σ) (identified : Bool) : Move m { m with link, identified }
  | askedGpser : Move m m.identifyGpser.2
  | askedSentry : Move m m.identifySentry.2
  | asked {command : Command} {kind : Reply} (requests : m.Requests command kind) :
      Move m (m.ask command kind).2
  | sent {command : Command} (sends : m.Sends command) : Move m (m.carryOut command).2
  | published (failures : FailureCounter) (notices : List Notice) :
      Move m (post { m with failures } notices)

/-- Any number of moves. -/
abbrev Moves (m after : Monitor σ) : Prop := ReflTransGen Move m after

theorem Moves.posted {m after : Monitor σ} (moves : m.Moves after) (notices : List Notice) :
    m.Moves (after.post notices) :=
  moves.tail (.published after.failures notices)

/-- The moves of a part of an operation, told by what it came to. -/
theorem Moves.ends {α : Type} {m after : Monitor σ} {outcome : α} {got : α × Monitor σ}
    (moves : m.Moves got.2) (ended : got = (outcome, after)) : m.Moves after := by
  rw [ended] at moves
  exact moves

theorem ask_moves {m : Monitor σ} {command : Command} {kind : Reply}
    (requests : m.Requests command kind) : m.Moves (m.ask command kind).2 :=
  .single (.asked requests)

/-! ## Establishing -/

theorem identify_moves (m : Monitor σ) : m.Moves m.identify.2 := by
  fun_cases identify m with
  | case1 => exact .single .askedGpser
  | case2 => exact .single .askedSentry

theorem detect_moves (m : Monitor σ) : m.Moves m.detect.2 := by
  have first : m.Moves m.identifySentry.2 := .single .askedSentry
  have second (ready : Monitor σ) : ready.Moves ready.identifyGpser.2 := .single .askedGpser
  fun_cases detect m with
  | case1 => exact second m
  | case2 => exact first
  | case3 _ _ after ended | case4 _ _ after ended => exact first.ends ended
  | case5 _ _ ready _ refused _ after ended | case6 _ _ ready _ refused _ after ended
  | case7 _ _ ready _ refused _ after _ ended =>
    exact (first.ends refused).trans ((second ready).ends ended)

theorem openFirst_moves (m : Monitor σ) : m.Moves m.openFirst.2 := by
  fun_cases openFirst m with
  | case1 | case2 => exact .single (.relinked _ m.identified)

theorem readNominal_moves (m : Monitor σ) : m.Moves m.readNominal.2 := by
  fun_cases readNominal m with
  | case1 gpser => exact ask_moves (.nominal gpser)
  | case2 sentry => exact ask_moves (.telemetry sentry)

theorem publishNominal_moves (m : Monitor σ) : m.Moves m.publishNominal.2 := by
  have first := m.readNominal_moves
  fun_cases publishNominal m with
  | case1 _ after read => exact (first.ends read).posted _
  | case2 _ after read | case3 _ after _ read => exact first.ends read

theorem readStatusCodes_moves (m : Monitor σ) : m.Moves m.readStatusCodes.2 := by
  fun_cases readStatusCodes m with
  | case1 => exact .refl
  | case2 gpser _ after asked | case3 gpser after asked | case4 gpser _ after _ asked =>
    exact (ask_moves (.statusCodes gpser)).ends asked

theorem tryStatusCodes_moves (m : Monitor σ) : m.Moves m.tryStatusCodes.2 := by
  have first := m.readStatusCodes_moves
  fun_cases tryStatusCodes m with
  | case1 _ after read | case2 _ after _ read => exact first.ends read

theorem establish_moves (m : Monitor σ) : m.Moves m.establish.2 := by
  have opening := m.openFirst_moves
  fun_cases establish m with
  | case1 fault ready refused => exact opening.ends refused
  | case2 _ ready opened fault after refused =>
    exact (opening.ends opened).trans (ready.detect_moves.ends refused)
  | case3 _ ready opened _ known found named fault after refused =>
    have identified : m.Moves known := (opening.ends opened).trans (ready.detect_moves.ends found)
    exact (identified.posted _).trans (named.publishNominal_moves.ends refused)
  | case4 _ ready opened _ known found named _ rated read fault after refused =>
    have identified : m.Moves known := (opening.ends opened).trans (ready.detect_moves.ends found)
    have asked := (identified.posted _).trans (named.publishNominal_moves.ends read)
    exact asked.trans (rated.tryStatusCodes_moves.ends refused)
  | case5 _ ready opened _ known found named _ rated read _ after tried =>
    have identified : m.Moves known := (opening.ends opened).trans (ready.detect_moves.ends found)
    have asked := (identified.posted _).trans (named.publishNominal_moves.ends read)
    have tried : m.Moves after := asked.trans (rated.tryStatusCodes_moves.ends tried)
    exact tried.posted _

/-! ## Polling -/

theorem ensureIdentified_moves (m : Monitor σ) : m.Moves m.ensureIdentified.2 := by
  fun_cases ensureIdentified m with
  | case1 | case2 => exact .single (.relinked _ _)
  | case3 _ link opened reopened taken news ready untrusted =>
    have relinked : m.Moves ready := .single (.relinked _ _)
    exact relinked.trans ready.identify_moves

theorem readExtended_moves {m : Monitor σ} (gpser : m.dialect.family = .gpser) :
    m.Moves m.readExtended.2 := by
  fun_cases readExtended m with
  | case1 _ after asked | case2 _ after asked | case3 _ after _ asked =>
    exact (ask_moves (.extended gpser)).ends asked

theorem readStatus_moves (m : Monitor σ) : m.Moves m.readStatus.2 := by
  fun_cases readStatus m with
  | case1 gpser fault after asked => exact (ask_moves (.status gpser)).ends asked
  | case2 gpser frame after asked =>
    have same : after.dialect = m.dialect := by
      have kept := m.ask_dialect (GpserCommand.readStatus.encode m.dialect.mode)
        (.status m.dialect.layout.statusLength)
      rw [asked] at kept
      exact kept
    have gpser' : after.dialect.family = .gpser := by rw [same, gpser]
    exact ((ask_moves (.status gpser)).ends asked).trans (readExtended_moves gpser')
  | case3 sentry fault after asked | case4 sentry frame after asked =>
    exact (ask_moves (.telemetry sentry)).ends asked

theorem refresh_moves (m : Monitor σ) : m.Moves m.refresh.2 := by
  have first := m.ensureIdentified_moves
  fun_cases refresh m with
  | case1 fault after refused => exact first.ends refused
  | case2 _ ready identified => exact (first.ends identified).trans ready.readStatus_moves

theorem poll_moves (m : Monitor σ) : m.Moves m.poll.2 := by
  have first := m.refresh_moves
  obtain ⟨extended, -, polled⟩ | ⟨detail, -, polled⟩ | ⟨fault, -, -, polled⟩ := m.poll_cases
  · rw [polled]
    exact first.tail (.published _ _)
  · rw [polled]
    exact first
  · rw [polled, missed]
    split
    · exact first.tail (.published _ _)
    · exact first.tail (.published m.refresh.2.failures.recordFailure.2 [])

/-! ## Commands to the unit -/

theorem sendFrames_moves (commands : List Command) (m : Monitor σ)
    (sends : ∀ command ∈ commands, m.Sends command) : m.Moves (sendFrames commands m).2 := by
  have sent {command : Command} {m after : Monitor σ} {outcome : Except Fault CommandStatus}
      (sends : m.Sends command) (sent : m.sendFrame command = (outcome, after)) :
      m.Move after ∧ ∀ command, m.Sends command → after.Sends command := by
    obtain ⟨status, ends, -⟩ := m.sendFrame_judged command
    obtain ⟨-, rfl⟩ := Prod.mk.inj (ends.symm.trans sent)
    exact ⟨.sent sends, fun _ other => other⟩
  fun_induction sendFrames commands m with
  | case1 m => exact .refl
  | case2 command rest m after handled ih =>
    obtain ⟨first, others⟩ := List.forall_mem_cons.mp sends
    obtain ⟨move, kept⟩ := sent first handled
    exact .head move (ih fun command member => kept command (others command member))
  | case3 command rest m outcome after _ ended =>
    obtain ⟨move, -⟩ := sent (sends command (List.mem_cons_self ..)) ended
    exact .single move

theorem run_moves (m : Monitor σ) (command : InstantCommand) : m.Moves (m.run command).2 := by
  fun_cases run m command with
  | case1 => exact sendFrames_moves _ m fun _ member => ⟨command, member⟩
  | case2 => exact .refl

theorem instant_moves (m : Monitor σ) (name : String) : m.Moves (m.instant name).2 := by
  fun_cases instant m name with
  | case1 command => exact m.run_moves command
  | case2 => exact .refl

theorem runAll_moves (commands : List InstantCommand) (m : Monitor σ) :
    m.Moves (runAll commands m).2 := by
  fun_induction runAll commands m with
  | case1 m => exact .refl
  | case2 command rest m after ran ih => exact ((m.run_moves command).ends ran).trans ih
  | case3 command rest m _ after _ ran | case4 command rest m _ after ran =>
    exact (m.run_moves command).ends ran

theorem shutdownWithin_moves (attempts : Nat) (m : Monitor σ) :
    m.Moves (shutdownWithin attempts m).2 := by
  fun_induction shutdownWithin attempts m with
  | case1 m => exact .refl
  | case2 attempts m after ran | case4 attempts m _ after ran =>
    exact (runAll_moves shutdownSequence m).ends ran
  | case3 attempts m after ran ih => exact ((runAll_moves shutdownSequence m).ends ran).trans ih

/-! ## Runs -/

/-- **An operation is nothing but moves.** -/
theorem perform_moves (operation : Operation) (m : Monitor σ) :
    m.Moves (operation.perform m) := by
  cases operation with
  | establish => exact m.establish_moves
  | poll => exact m.poll_moves
  | readStatusCodes => exact m.readStatusCodes_moves
  | instant name => exact m.instant_moves name
  | shutdown => exact shutdownWithin_moves _ m

theorem Moves.invariant {invariant : Monitor σ → Prop}
    (kept : ∀ m after, Move m after → invariant m → invariant after) {m after : Monitor σ}
    (moves : m.Moves after) (start : invariant m) : invariant after := by
  induction moves with
  | refl => exact start
  | tail _ move ih => exact kept _ _ move ih

/-- **What every move keeps is kept by every run.** What happens to the device is a move, too. -/
theorem run_invariant {invariant : Monitor σ → Prop}
    (kept : ∀ m after, Move m after → invariant m → invariant after) {first m : Monitor σ}
    {steps : List (Step σ)} (start : invariant first) (run : Run first steps m) : invariant m := by
  induction run with
  | start => exact start
  | @step steps m run operation ih => exact (m.perform_moves operation).invariant kept ih
  | @meddled steps m run device ih => exact kept m _ (.relinked _ m.identified) ih

end Monitor

end UpsMonitor
