import Mathlib.Data.Int.ModEq
import Mathlib.Data.List.Nodup
import Missive.RoutePlans

/-! The round-robin policy when each plan starts from the cursor the one before it reported. -/
namespace Missive.RoundRobin

open Missive.Core RoutePlans

variable {display : UInt64 → String} {input : RoutePlanInput}

def planRounds (display : UInt64 → String) (input : RoutePlanInput) :
    Nat → Except MissiveError (List RoutePlan)
  | 0 => .ok []
  | count + 1 => do
      let made ← explainRoute display input
      let next := made.nextRoundRobinCursor.getD input.roundRobinCursor
      let later ← planRounds display { input with roundRobinCursor := next } count
      .ok (made :: later)

-- The plan selects the candidate under an index.
def selects (index : Nat) (made : RoutePlan) : Bool :=
  (made.decisions[index]?.map RouteDecision.selected) = some true

def EachOnce (input : RoutePlanInput) (plans : List RoutePlan) : Prop :=
  ∀ index < input.candidates.length, (plans.filter (selects index)).length = 1

/-! The cursors. -/

def from_ (input : RoutePlanInput) (cursor : UInt64) : RoutePlanInput :=
  { input with roundRobinCursor := cursor }

-- The cursor after some rounds, which stays at the greatest value once it is there.
def cursorAfter (cursor rounds : Nat) : Nat := min (cursor + rounds) (2 ^ 64 - 1)

theorem nextCursor_toNat (cursor : UInt64) : (nextCursor cursor).toNat = cursorAfter cursor.toNat 1 := by
  have bounded : cursorAfter cursor.toNat 1 < 2 ^ 64 := by
    unfold cursorAfter
    omega
  exact UInt64.toNat_ofNat_of_lt' bounded

theorem cursorAfter_step (cursor rounds : Nat) :
    cursorAfter (cursorAfter cursor 1) rounds = cursorAfter cursor (rounds + 1) := by
  unfold cursorAfter
  omega

theorem cursorAfter_start (cursor : UInt64) : cursorAfter cursor.toNat 0 = cursor.toNat := by
  have bounded := cursor.toNat_lt
  unfold cursorAfter
  omega

/-- Planning always succeeds, and each round starts from the next cursor. -/
theorem planRounds_cursors (policy : input.policy = .roundRobin)
    (passed : input.validate display = .ok ()) (count : Nat) :
    planRounds display input count = .ok ((List.range count).map fun round =>
      explainRoundRobin (from_ input (.ofNat (cursorAfter input.roundRobinCursor.toNat round)))) := by
  induction count generalizing input with
  | zero => rfl
  | succ count ih =>
      have explained : explainRoute display input = .ok (explainRoundRobin input) := by
        rw [explainRoute, passed, policy]
        rfl
      have later := @ih (from_ input (nextCursor input.roundRobinCursor)) policy passed
      have first : from_ input (.ofNat (cursorAfter input.roundRobinCursor.toNat 0)) = input := by
        rw [cursorAfter_start, UInt64.ofNat_toNat]
        rfl
      rw [List.range_succ_eq_map, List.map_cons, List.map_map, first, planRounds, explained]
      change (planRounds display (from_ input (nextCursor input.roundRobinCursor)) count >>=
        fun later => .ok (explainRoundRobin input :: later)) = _
      rw [later]
      change Except.ok (_ :: _) = _
      congr 2
      apply List.map_congr_left
      intro round _
      change explainRoundRobin (from_ input (.ofNat (cursorAfter (nextCursor _).toNat round))) = _
      rw [nextCursor_toNat, cursorAfter_step]
      rfl

theorem selects_round {index : Nat} (inside : index < input.candidates.length) (cursor : UInt64) :
    selects index (explainRoundRobin (from_ input cursor)) =
      decide (cursor.toNat % input.candidates.length = index) := by
  have found : input.candidates.zipIdx[index]? = some (input.candidates[index], index) := by
    simp [inside]
  have shown : (explainRoundRobin (from_ input cursor)).decisions[index]?.map RouteDecision.selected =
      some (decide (index = cursor.toNat % input.candidates.length)) := by
    change ((input.candidates.zipIdx.map _)[index]?).map _ = _
    rw [List.getElem?_map, found]
    rfl
  simp only [selects, shown, Option.some.injEq, decide_eq_true_eq]
  exact decide_eq_decide.mpr eq_comm

/-! Counting the rounds that select an index. -/

def roundsAt (cursor count index : Nat) : List Nat :=
  (List.range count).filter fun round => cursorAfter cursor round % count = index

theorem rounds_once {cursor count index : Nat} (room : cursor + count ≤ 2 ^ 64)
    (inside : index < count) : (roundsAt cursor count index).length = 1 := by
  have meets : ∀ round < count,
      (cursorAfter cursor round % count = index ↔
        round = (index + (count - cursor % count)) % count) := by
    intro round early
    have plain : cursorAfter cursor round = cursor + round := by
      unfold cursorAfter
      omega
    have below := Nat.mod_lt cursor (Nat.lt_of_le_of_lt (Nat.zero_le _) inside)
    rw [plain]
    constructor
    · rintro rfl
      have shifted : (cursor + round) % count + (count - cursor % count) ≡ round [MOD count] := by
        have same : (cursor + round) % count + (count - cursor % count) ≡
            cursor + round + (count - cursor % count) [MOD count] :=
          (Nat.mod_modEq _ _).add_right _
        have cycle : cursor + (count - cursor % count) ≡ 0 [MOD count] := by
          have parts := (Nat.mod_modEq cursor count).symm.add_right (count - cursor % count)
          rw [Nat.add_sub_cancel' below.le] at parts
          exact parts.trans (by simp [Nat.ModEq])
        have moved : cursor + round + (count - cursor % count) ≡ 0 + round [MOD count] := by
          rw [Nat.add_right_comm]
          exact cycle.add_right round
        rw [Nat.zero_add] at moved
        exact same.trans moved
      exact (Nat.mod_eq_of_lt early).symm.trans shifted.symm
    · rintro rfl
      have parts : cursor + (index + (count - cursor % count)) % count ≡
          cursor % count + (index + (count - cursor % count)) [MOD count] :=
        (Nat.mod_modEq cursor count).symm.add (Nat.mod_modEq _ _)
      have whole : cursor % count + (index + (count - cursor % count)) = index + count := by omega
      rw [whole] at parts
      have back : (index + count) % count = index := by
        rw [Nat.add_mod_right, Nat.mod_eq_of_lt inside]
      exact Eq.trans parts back
  have positive := Nat.lt_of_le_of_lt (Nat.zero_le _) inside
  have picked := Nat.mod_lt (index + (count - cursor % count)) positive
  have same : roundsAt cursor count index = (List.range count).filter
      (· == (index + (count - cursor % count)) % count) := by
    apply List.filter_congr
    intro round member
    rw [Bool.eq_iff_iff, decide_eq_true_eq, beq_iff_eq]
    exact meets round (List.mem_range.mp member)
  rw [same, List.filter_beq, List.length_replicate]
  exact List.count_eq_one_of_mem List.nodup_range (List.mem_range.mpr picked)

/-- Past the end of the range the cursor stays, and the last two rounds select one candidate. -/
theorem rounds_twice {cursor count : Nat} (several : 2 ≤ count) (full : 2 ^ 64 < cursor + count) :
    2 ≤ (roundsAt cursor count ((2 ^ 64 - 1) % count)).length := by
  obtain ⟨rest, rfl⟩ : ∃ rest, count = rest + 2 := ⟨count - 2, by omega⟩
  have stuck : ∀ round ∈ [rest, rest + 1], cursorAfter cursor round = 2 ^ 64 - 1 := by
    intro round member
    simp only [List.mem_cons, List.not_mem_nil, or_false] at member
    unfold cursorAfter
    omega
  have ends : List.range (rest + 2) = List.range rest ++ [rest, rest + 1] := by
    rw [List.range_succ, List.range_succ, List.append_assoc]
    rfl
  have kept : [rest, rest + 1].filter (fun round => cursorAfter cursor round % (rest + 2) =
      (2 ^ 64 - 1) % (rest + 2)) = [rest, rest + 1] := by
    apply List.filter_eq_self.mpr
    intro round member
    rw [stuck round member]
    exact decide_eq_true rfl
  rw [roundsAt, ends, List.filter_append, kept, List.length_append]
  exact Nat.le_add_left _ _

/-- Planning as often as there are candidates selects each once, unless the cursor reaches the end
of its range on the way. -/
theorem round_robin_fair_iff (policy : input.policy = .roundRobin)
    (passed : input.validate display = .ok ()) :
    ∃ plans, planRounds display input input.candidates.length = .ok plans ∧
      (EachOnce input plans ↔ input.candidates.length = 1 ∨
        input.roundRobinCursor.toNat + input.candidates.length ≤ 2 ^ 64) := by
  refine ⟨_, planRounds_cursors policy passed _, ?_⟩
  have counted : ∀ index < input.candidates.length,
      (((List.range input.candidates.length).map fun round => explainRoundRobin (from_ input
        (.ofNat (cursorAfter input.roundRobinCursor.toNat round)))).filter (selects index)).length =
      (roundsAt input.roundRobinCursor.toNat input.candidates.length index).length := by
    intro index inside
    rw [List.filter_map, List.length_map, roundsAt]
    congr 1
    apply List.filter_congr
    intro round _
    have bounded : cursorAfter input.roundRobinCursor.toNat round < 2 ^ 64 := by
      unfold cursorAfter
      omega
    rw [Function.comp_apply, selects_round inside, UInt64.toNat_ofNat_of_lt' bounded]
  constructor
  · intro once
    by_contra short
    rw [not_or] at short
    have filled : input.candidates.length ≠ 0 := by
      intro empty
      rw [RoutePlanInput.validate, List.length_eq_zero_iff.mp empty] at passed
      contradiction
    have inside := Nat.mod_lt (2 ^ 64 - 1) (Nat.pos_of_ne_zero filled)
    have twice : 2 ≤ (roundsAt input.roundRobinCursor.toNat input.candidates.length _).length :=
      rounds_twice (by omega) (by omega)
    have single := (counted _ inside).symm.trans (once _ inside)
    omega
  · intro room index inside
    rw [counted index inside]
    rcases room with single | room
    · rw [single] at inside ⊢
      have zero : index = 0 := by omega
      rw [zero]
      simp [roundsAt, Nat.mod_one]
    · exact rounds_once room inside

section LastCursor

def pair (cursor : UInt64) : RoutePlanInput :=
  from_ (plainInput .roundRobin [plainCandidate alpha, plainCandidate beta]) cursor

theorem pair_fair : ∃ plans, planRounds (fun _ => "") (pair 5) (pair 5).candidates.length = .ok plans ∧
    (EachOnce (pair 5) plans ↔ (pair 5).candidates.length = 1 ∨
      (pair 5).roundRobinCursor.toNat + (pair 5).candidates.length ≤ 2 ^ 64) :=
  round_robin_fair_iff rfl rfl

/-- At the greatest cursor two rounds select the second of two candidates twice. -/
theorem last_cursor_unfair : ∃ plans,
    planRounds (fun _ => "") (pair (.ofNat (2 ^ 64 - 1))) 2 = .ok plans ∧
    ¬EachOnce (pair (.ofNat (2 ^ 64 - 1))) plans := by
  refine ⟨_, rfl, ?_⟩
  intro once
  exact absurd (once 1 (by decide)) (by decide)

end LastCursor

end Missive.RoundRobin
