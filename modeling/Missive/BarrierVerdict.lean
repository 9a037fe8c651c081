import Mathlib.Data.List.Forall2
import Missive.Barrier
import Missive.TaskIsolation

/-! The verdict of a barrier. A settled member is never polled again, so what a barrier has
counted for or against its quorum stays counted. -/
namespace Missive.BarrierVerdict

open Missive.Core Schema Effects Repository Protocol Artifacts Collectives Barrier
open TaskIsolation (blankWorld plainParameters echoRecord)

variable (codec : Codec) {operation : BarrierOperation} {round : PollRound}

-- What polls keep of a member: who it is, and its status once it is settled.
structure Kept (before after : BarrierMemberState) : Prop where
  member : after.member = before.member
  status : before.settled = true → after.status = before.status

theorem Kept.refl (member : BarrierMemberState) : Kept member member := ⟨rfl, fun _ => rfl⟩

theorem settled_of_status {before after : BarrierMemberState} (same : after.status = before.status) :
    after.settled = before.settled := by
  simp only [BarrierMemberState.settled, same]

theorem Kept.trans {first second third : BarrierMemberState} (left : Kept first second)
    (right : Kept second third) : Kept first third := by
  refine ⟨right.member.trans left.member, fun settled => ?_⟩
  have same := left.status settled
  exact (right.status ((settled_of_status same).trans settled)).trans same

theorem member_requested (member : BarrierMemberState) (world : World) :
    (requestRemoteMember codec operation round member world).1.member = member.member := by
  unfold requestRemoteMember
  split
  · rfl
  · split <;> rfl

theorem member_remote (member : BarrierMemberState) (world : World) :
    (refreshRemoteMember codec operation round member world).1.member = member.member := by
  unfold refreshRemoteMember
  split
  · rename_i record known
    by_cases settles : (member.applyRecord record operation.targets).settled = true
    · simp only [settles, if_true]
      rfl
    · simp only [settles, Bool.false_eq_true, if_false]
      exact member_requested codec _ world
  · exact member_requested codec member world

theorem member_local (store : Store) (member : BarrierMemberState) :
    (refreshLocalMember operation store member).member = member.member := by
  unfold refreshLocalMember
  split <;> rfl

theorem kept_refreshed (member : BarrierMemberState) (world : World) :
    Kept member (refreshBarrierMember codec operation round member world).1 := by
  unfold refreshBarrierMember
  by_cases settled : member.settled = true
  · have counted : { member with attempts := min (member.attempts + 1) (2 ^ 64 - 1) }.settled =
        true := settled
    simp only [counted, if_true]
    exact ⟨rfl, fun _ => rfl⟩
  · have counted : { member with attempts := min (member.attempts + 1) (2 ^ 64 - 1) }.settled ≠
        true := settled
    simp only [counted, Bool.false_eq_true, if_false]
    refine ⟨?_, fun known => absurd known settled⟩
    split
    · exact member_local _ _
    · exact member_remote codec _ _

theorem kept_members (members : List BarrierMemberState) (world : World) :
    List.Forall₂ Kept members (refreshMembers codec operation round members world).1 := by
  induction members generalizing world with
  | nil => exact .nil
  | cons member rest ih => exact .cons (kept_refreshed codec member _) (ih _)

theorem forall₂_trans {first second third : List BarrierMemberState}
    (left : List.Forall₂ Kept first second) (right : List.Forall₂ Kept second third) :
    List.Forall₂ Kept first third := by
  induction left generalizing third with
  | nil =>
      cases right
      exact .nil
  | cons head tail ih =>
      cases right with
      | cons next rest => exact .cons (head.trans next) (ih rest)

/-- Over any number of rounds, every member keeps its status from the moment it is settled. -/
theorem kept_rounds (rounds : List PollRound) (poll : BarrierPoll) :
    List.Forall₂ Kept poll.members (pollRounds codec operation rounds poll).members := by
  induction rounds generalizing poll with
  | nil => exact List.forall₂_same.mpr fun member _ => Kept.refl member
  | cons round rest ih =>
      exact forall₂_trans (kept_members codec poll.members poll.world)
        (ih (pollRound codec operation round poll))

/-! Counting. -/

theorem one_class (status : MemberBarrierStatus) :
    (if status.isSuccess = true then 1 else 0) + (if status.isFailure = true then 1 else 0) +
      (if status.isCancellation = true then 1 else 0) +
      (if status.isPending = true then 1 else 0) = 1 := by
  cases status <;> rfl

theorem counts_partition (members : List BarrierMemberState) :
    reachedCount members + failureCount members + cancellationCount members +
      pendingCount members = members.length := by
  induction members with
  | nil => rfl
  | cons member rest ih =>
      have here := one_class member.status
      simp only [reachedCount, failureCount, cancellationCount, pendingCount, List.countP_cons,
        List.length_cons] at *
      omega

-- The members that may still count for the quorum.
def qualifiedCount (members : List BarrierMemberState) : Nat :=
  members.countP fun member => !member.status.isDisqualified

theorem qualified_add_disqualified (members : List BarrierMemberState) :
    qualifiedCount members + disqualifiedCount members = members.length := by
  rw [Nat.add_comm]
  have split := List.length_eq_countP_add_countP (fun member : BarrierMemberState =>
    member.status.isDisqualified) (l := members)
  simpa [qualifiedCount, disqualifiedCount] using split.symm

theorem unreached_of_disqualified {status : MemberBarrierStatus}
    (out : status.isDisqualified = true) : status.isSuccess = false := by
  cases status <;> first | rfl | contradiction

-- A member that is disqualified never counts for the quorum afterwards.
theorem reached_bounded {before after : List BarrierMemberState}
    (kept : List.Forall₂ Kept before after) :
    reachedCount after ≤ qualifiedCount before := by
  induction kept with
  | nil => exact le_rfl
  | @cons first last rest others head tail ih =>
      simp only [reachedCount, qualifiedCount, List.countP_cons] at *
      by_cases out : first.status.isDisqualified = true
      · have same := head.status (by simp [BarrierMemberState.settled, out])
        have unreached : last.status.isSuccess = false := by
          rw [same]
          exact unreached_of_disqualified out
        simp only [out, unreached, Bool.not_true, Bool.false_eq_true, if_false]
        exact ih
      · have eligible := Bool.eq_false_iff.mpr out
        simp only [eligible, Bool.not_false, if_true]
        split <;> omega

/-! The end of a run. -/

theorem pollRounds_append (earlier later : List PollRound) (poll : BarrierPoll) :
    pollRounds codec operation (earlier ++ later) poll =
      pollRounds codec operation later (pollRounds codec operation earlier poll) :=
  List.foldl_append

-- The first round whose verdict is not to continue ends the barrier.
theorem ended_at {rounds : List PollRound} {start last : BarrierPoll} {decision : BarrierDecision}
    (ended : pollBarrier codec operation rounds start = some (decision, last)) :
    ∃ earlier round later, rounds = earlier ++ round :: later ∧
      last = pollRounds codec operation (earlier ++ [round]) start ∧
      evaluateBarrier operation round.elapsed last.members = decision := by
  induction rounds generalizing start with
  | nil => contradiction
  | cons round rest ih =>
      simp only [pollBarrier] at ended
      split at ended
      · cases ended
        exact ⟨[], round, rest, rfl, rfl, rfl⟩
      · obtain ⟨earlier, deciding, later, split, reached, decides⟩ := ih ended
        exact ⟨round :: earlier, deciding, later, by rw [split, List.cons_append], reached, decides⟩

theorem decides_succeeded {elapsed : Nat} {members : List BarrierMemberState} :
    evaluateBarrier operation elapsed members = .succeeded ↔
      operation.required ≤ reachedCount members := by
  unfold evaluateBarrier
  split
  · simp_all
  · rename_i short
    simp only [short, iff_false]
    split
    · simp
    · split
      · simp
      · split
        · split <;> simp
        · split <;> simp

theorem decides_unattainable {elapsed : Nat} {members : List BarrierMemberState}
    (continues : operation.failurePolicy = .continue)
    (lost : evaluateBarrier operation elapsed members = .failed ∨
      evaluateBarrier operation elapsed members = .cancelled) :
    qualifiedCount members < operation.required := by
  have total := qualified_add_disqualified members
  suffices few : members.length - disqualifiedCount members < operation.required by omega
  by_contra enough
  unfold evaluateBarrier at lost
  simp only [continues, reduceCtorEq, false_and, if_false, enough] at lost
  split at lost
  · simp at lost
  · split at lost <;> simp at lost

-- A barrier that is still polling has not reached its quorum in any of its rounds.
theorem unreached_while_polling {rounds : List PollRound} {start : BarrierPoll}
    (polling : pollBarrier codec operation rounds start = none) (polled : rounds ≠ []) :
    reachedCount (pollRounds codec operation rounds start).members < operation.required := by
  induction rounds generalizing start with
  | nil => contradiction
  | cons round rest ih =>
      simp only [pollBarrier] at polling
      split at polling
      · contradiction
      · rename_i decision
        have undecided := not_not.mp decision
        cases rest with
        | nil =>
            have short := decides_succeeded.not.mp (by rw [undecided]; simp :
              evaluateBarrier operation round.elapsed
                (pollRound codec operation round start).members ≠ .succeeded)
            exact Nat.not_le.mp short
        | cons second rest => exact ih polling (by simp)

/-- A barrier ends with success exactly when its quorum is satisfied in the deciding round, and
polls on only while it is not. Under the policy to continue it fails or is cancelled only when
too few members are left for the quorum, in all rounds to come. Members keep the status in
which they are settled, and the counts of the output add up. -/
theorem barrier_verdict (operation : BarrierOperation) (rounds : List PollRound)
    (start last : BarrierPoll) (decision : BarrierDecision)
    (ended : pollBarrier codec operation rounds start = some (decision, last)) :
    (decision = .succeeded ↔ operation.required ≤ reachedCount last.members) ∧
      (∀ earlier later, rounds = earlier ++ later → earlier ≠ [] →
        pollBarrier codec operation earlier start = none →
        reachedCount (pollRounds codec operation earlier start).members < operation.required) ∧
      (operation.failurePolicy = .continue → decision = .failed ∨ decision = .cancelled →
        qualifiedCount last.members < operation.required ∧
        ∀ further, reachedCount (pollRounds codec operation further last).members <
          operation.required) ∧
      (∀ earlier later, List.Forall₂ Kept (pollRounds codec operation earlier start).members
        (pollRounds codec operation (earlier ++ later) start).members) ∧
      let output := finalizeBarrierOutput operation decision last
      output.reachedCount + output.failureCount + output.cancellationCount +
        output.pendingCount = output.memberCount := by
  obtain ⟨earlier, round, later, split, reached, decides⟩ := ended_at codec ended
  refine ⟨decides ▸ decides_succeeded, fun _ _ _ polled polling =>
    unreached_while_polling codec polling polled, fun continues lost => ?_, fun first second => ?_,
    counts_partition last.members⟩
  · have few := decides_unattainable continues (decides.symm ▸ lost)
    refine ⟨few, fun further => ?_⟩
    exact (reached_bounded (kept_rounds codec further last)).trans_lt few
  · rw [pollRounds_append]
    exact kept_rounds codec second _

-- A barrier of one member that polls local rows only.
def teamOperation : BarrierOperation where
  operationId := "barrier/1"
  group := teamGroup
  members := [echoMember]
  contextId := sharedContext
  targets := .fromArgs []
  required := 1
  timeout := 30000
  interval := 1000
  failurePolicy := .continue
  isLocal := true
  fromBcast := true
  historyLength := none
  serviceParameters := plainParameters
  positive := Nat.one_pos
  attainable := le_rfl

def seedCompleted : Action Unit := do
  let _ ← upsertAgent (.new echoAgent "http://127.0.0.1")
  let _ ← upsertContext (.new sharedContext)
  let _ ← upsertTask { TaskUpsert.new firstTask echoAgent .completed with
    contextId := some sharedContext }

def unanswered (agent : AgentRecord) (_ : TaskId) :
    Action (ResolvedAgent agent × JobWorkers.NegotiatedInterface × RemoteTask) :=
  Effect.raise (MissiveError.protocol "unreachable")

-- The task is missing in the first round and completed in the second.
def earlyRound : PollRound := ⟨fun _ world => world, unanswered, 0⟩

def lateRound : PollRound := ⟨fun _ world => (seedCompleted world).2, unanswered, 1000⟩

def teamStart : BarrierPoll := ⟨[.new echoMember (some firstTask)], 0, blankWorld⟩

theorem team_ended :
    pollBarrier plainCodec teamOperation [earlyRound, lateRound] teamStart =
      some (.succeeded, pollRounds plainCodec teamOperation [earlyRound, lateRound] teamStart) := by
  rfl

theorem team_reached_late :
    teamOperation.required ≤
        reachedCount (pollRounds plainCodec teamOperation [earlyRound, lateRound] teamStart).members ∧
      reachedCount (pollRounds plainCodec teamOperation [earlyRound] teamStart).members <
        teamOperation.required := by
  have verdict := barrier_verdict plainCodec teamOperation [earlyRound, lateRound] teamStart _ _
    team_ended
  exact ⟨verdict.1.mp rfl, verdict.2.1 [earlyRound] [lateRound] rfl (List.cons_ne_nil _ _) rfl⟩

end Missive.BarrierVerdict
