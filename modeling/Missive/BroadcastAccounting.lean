import Mathlib.Algebra.GroupWithZero.Nat
import Missive.BroadcastTurns
import Missive.OrderedLists

/-! What a broadcast accounts for: the members that its summary lists, and the answers that are
stored when it ends. -/
namespace Missive.BroadcastAccounting

open JsonValue KeyedTable Missive.Core Schema Effects Repository Protocol BackgroundJobs
open TaskPersistence TaskFrames Frames Totality SendPersistence Collectives Broadcast BroadcastTurns
open BroadcastJournal (silentVisit teamRequest teamWorld)
open JobWorkers (NegotiatedInterface)

variable {codec : Codec} {operation : BcastOperation} {outside : Outside} {visit : MemberVisit}
  {reserved : List String} {budget : Nat} {world after : World} {member : GroupMemberRecord}

/-! Whole runs. The exchanges of a run are those that it comes to persist, in that order; a run
that fails to persist one comes to no others. -/

/-- The view of the member in one slot, where some slots have an accepted answer. -/
structure Listed (exchanges : List Exchange) (slot : GroupMemberRecord × Nat) (view : BcastMemberView) :
    Prop where
  agent : view.agent = slot.1.agentAlias.text
  rank : view.rank = slot.1.rankName.text
  accepted : view.status = .succeeded ↔ ∃ exchange ∈ exchanges, exchange.index = slot.2

structure RunEnd (operation : BcastOperation) (reserved : List String) (budget : Nat)
    (exchanges : List Exchange) (slots : List (GroupMemberRecord × Nat)) (before : World)
    (views : List BcastMemberView) (after : World) : Prop where
  stage : Stage operation reserved budget after
  grows : Grows before after
  listed : List.Forall₂ (Listed exchanges) slots views
  recorded : ∀ exchange ∈ exchanges, exchange.recorded after.store

theorem turn_listed {index : Nat} {prepared : Except BcastMemberView PlannedMember}
    {later : List Exchange} {view : BcastMemberView} {store : Store}
    (turn : Turn member (exchangeOf visit index prepared world) view store)
    (apart : ∀ exchange ∈ later, exchange.index ≠ index) :
    Listed ((exchangeOf visit index prepared world).toList ++ later) (member, index) view := by
  refine ⟨turn.agent, turn.rank, turn.accepted.trans ?_⟩
  constructor
  · intro present
    obtain ⟨exchange, shown⟩ := Option.isSome_iff_exists.mp present
    exact ⟨exchange, List.mem_append_left _ (Option.mem_toList.mpr shown), exchangeOf_index shown⟩
  · rintro ⟨exchange, among, own⟩
    rcases List.mem_append.mp among with here | there
    · exact Option.isSome_of_mem (Option.mem_toList.mp here)
    · exact absurd own (apart exchange there)

-- Exchanges of other slots change nothing.
theorem listed_also {first later : List Exchange} {slot : GroupMemberRecord × Nat}
    {view : BcastMemberView} (apart : ∀ exchange ∈ first, exchange.index ≠ slot.2)
    (listed : Listed later slot view) : Listed (first ++ later) slot view := by
  refine ⟨listed.agent, listed.rank, listed.accepted.trans ?_⟩
  constructor
  · rintro ⟨exchange, among, own⟩
    exact ⟨exchange, List.mem_append_right _ among, own⟩
  · rintro ⟨exchange, among, own⟩
    rcases List.mem_append.mp among with here | there
    · exact absurd own (apart exchange here)
    · exact ⟨exchange, there, own⟩

-- Nothing follows a turn that fails.
def afterTurn (ran : Except MissiveError BcastMemberView × World) (rest : World → List Exchange) :
    List Exchange :=
  match ran with
  | (.error _, _) => []
  | (.ok _, after) => rest after

theorem afterTurn_mem {ran : Except MissiveError BcastMemberView × World}
    {rest : World → List Exchange} {exchange : Exchange} (among : exchange ∈ afterTurn ran rest) :
    ∃ after, exchange ∈ rest after := by
  unfold afterTurn at among
  split at among
  · cases among
  · exact ⟨_, among⟩

def sequentialExchanges (codec : Codec) (operation : BcastOperation) (outside : Outside) :
    Nat → List GroupMemberRecord → World → List Exchange
  | _, [], _ => []
  | index, member :: rest, world =>
      match prepareMember operation (outside.visit index) member world with
      | (.error _, _) => []
      | (.ok prepared, middle) =>
          (exchangeOf (outside.visit index) index prepared middle).toList ++
            afterTurn (sendMember codec operation (outside.visit index) member world)
              (sequentialExchanges codec operation outside (index + 1) rest)

theorem sequentialExchanges_index {members : List GroupMemberRecord} {index : Nat}
    {exchange : Exchange}
    (among : exchange ∈ sequentialExchanges codec operation outside index members world) :
    index ≤ exchange.index := by
  induction members generalizing index world with
  | nil => cases among
  | cons member rest ih =>
      unfold sequentialExchanges at among
      split at among
      · cases among
      · rcases List.mem_append.mp among with here | there
        · exact (exchangeOf_index (Option.mem_toList.mp here)).ge
        · obtain ⟨after, later⟩ := afterTurn_mem there
          exact Nat.le_of_succ_le (ih later)

theorem sequentialExchanges_answered {members : List GroupMemberRecord} {index : Nat}
    {exchange : Exchange}
    (among : exchange ∈ sequentialExchanges codec operation outside index members world) :
    exchange.Answered outside := by
  induction members generalizing index world with
  | nil => cases among
  | cons member rest ih =>
      unfold sequentialExchanges at among
      split at among
      · cases among
      · rcases List.mem_append.mp among with here | there
        · exact exchangeOf_answered (Option.mem_toList.mp here)
        · obtain ⟨after, later⟩ := afterTurn_mem there
          exact ih later

def exchangeDraws (exchanges : List Exchange) : Nat := (exchanges.map Exchange.draws).sum

theorem listed_after {first later : List Exchange} {slots : List (GroupMemberRecord × Nat)}
    {views : List BcastMemberView} {index : Nat} (here : ∀ exchange ∈ first, exchange.index = index)
    (apart : ∀ slot ∈ slots, slot.2 ≠ index) (listed : List.Forall₂ (Listed later) slots views) :
    List.Forall₂ (Listed (first ++ later)) slots views := by
  have both := (List.forall₂_and_left slots views).mpr ⟨apart, listed⟩
  apply both.imp
  rintro slot view ⟨other, shown⟩
  apply listed_also _ shown
  intro exchange among same
  exact other (same.symm.trans (here exchange among))

/-- A turn, and the rest of the run that it leads to. -/
theorem RunEnd.cons {index less : Nat} {prepared : Except BcastMemberView PlannedMember}
    {later : List Exchange} {slots : List (GroupMemberRecord × Nat)} {view : BcastMemberView}
    {views : List BcastMemberView} {before middle : World} {kept : List String}
    (first : Grows before world)
    (turn : TurnEnd operation kept less member (exchangeOf visit index prepared world) world view
      middle)
    (rest : RunEnd operation reserved budget later slots middle views after)
    (apart : ∀ exchange ∈ later, exchange.index ≠ index) (slotsApart : ∀ slot ∈ slots, slot.2 ≠ index) :
    RunEnd operation reserved budget ((exchangeOf visit index prepared world).toList ++ later)
      ((member, index) :: slots) before (view :: views) after := by
  refine ⟨rest.stage, first.trans (turn.grows.trans rest.grows), ?_, ?_⟩
  · apply List.Forall₂.cons (turn_listed turn.turn apart)
    apply listed_after _ slotsApart rest.listed
    intro exchange among
    exact exchangeOf_index (Option.mem_toList.mp among)
  · intro exchange among
    rcases List.mem_append.mp among with here | there
    · exact recorded_grows rest.grows (turn.turn.recorded exchange (Option.mem_toList.mp here))
    · exact rest.recorded exchange there

theorem exchangeDraws_then (exchange : Option Exchange) (later : List Exchange) :
    exchangeDraws (exchange.toList ++ later) + 2 = drawsOf exchange + exchangeDraws later := by
  cases exchange with
  | none =>
      simp only [exchangeDraws, drawsOf, Option.toList_none, List.nil_append, Option.elim_none]
      omega
  | some exchange =>
      simp only [exchangeDraws, drawsOf, Option.toList_some, List.cons_append, List.nil_append,
        List.map_cons, List.sum_cons, Option.elim_some]
      omega

-- A turn and what follows it ask what they ask one after the other.
theorem decides_then {Result : Type} {turn : Option Exchange} {sent : Action BcastMemberView}
    {next : BcastMemberView → Action Result} {rest : World → List Exchange}
    {meets : BcastMemberView → World → Prop} {final : Result → World → Prop}
    (decides : Effect.Decides sent world (Asks turn) meets)
    (goesOn : ∀ view middle, sent world = (.ok view, middle) → meets view middle →
      Effect.Decides (next view) middle (∀ exchange ∈ rest middle, exchange.recordable) final) :
    Effect.Decides (sent >>= next) world
      (∀ exchange ∈ turn.toList ++ afterTurn (sent world) rest, exchange.recordable) final := by
  rw [List.forall_mem_append, ← asks_toList]
  rcases decides with ⟨asked, view, middle, ran, met⟩ | ⟨refused, error, last, failed⟩
  · rw [ran]
    apply Effect.decides_congr (and_iff_right asked)
    exact Effect.succeeds_decides_bind ⟨view, middle, ran, goesOn view middle ran met⟩
  · exact Or.inr ⟨fun all => refused all.1, error, last, Effect.bind_error _ _ _ _ _ failed⟩

theorem sequential_continues (continues : operation.failurePolicy = .continue) (index : Nat)
    (rest : List GroupMemberRecord) :
    runBcastSequential codec operation outside index (member :: rest) =
      sendMember codec operation (outside.visit index) member >>= fun view =>
        runBcastSequential codec operation outside (index + 1) rest >>= fun views =>
          pure (view :: views) := by
  simp only [runBcastSequential, continues, reduceCtorEq, and_false, if_false]

/-- A sequential run that continues ends just where each answer it accepts can be recorded. -/
theorem decides_sequential (continues : operation.failurePolicy = .continue)
    {members : List GroupMemberRecord} {index : Nat} (inside : members ⊆ operation.members)
    (sound : ∀ exchange ∈ sequentialExchanges codec operation outside index members world,
      exchange.Sound codec)
    (stage : Stage operation reserved (budget + (5 * members.length +
      exchangeDraws (sequentialExchanges codec operation outside index members world))) world) :
    Effect.Decides (runBcastSequential codec operation outside index members) world
      (∀ exchange ∈ sequentialExchanges codec operation outside index members world,
        exchange.recordable)
      (RunEnd operation reserved budget
        (sequentialExchanges codec operation outside index members world) (members.zipIdx index)
        world) := by
  induction members generalizing index world with
  | nil =>
      refine Or.inl ⟨fun _ among => absurd among List.not_mem_nil, [], world, rfl, ?_⟩
      exact ⟨stage.mono (fun _ => id) (Nat.le_add_right budget _), grows_refl world, .nil,
        fun _ among => absurd among List.not_mem_nil⟩
  | cons member rest ih =>
      obtain ⟨named, others⟩ := List.cons_subset.mp inside
      have enough : budget + (5 * (rest.length + 1) +
          exchangeDraws (sequentialExchanges codec operation outside index (member :: rest) world)) =
          budget + (5 * rest.length +
            exchangeDraws (sequentialExchanges codec operation outside index (member :: rest) world) +
            2) + 3 := by
        omega
      obtain ⟨prepared, middle, readied, quiet, made⟩ :=
        succeeds_prepareMember (outside.visit index) member (stage.cast enough)
      have shape : sequentialExchanges codec operation outside index (member :: rest) world =
          (exchangeOf (outside.visit index) index prepared middle).toList ++
            afterTurn (sendMember codec operation (outside.visit index) member world)
              (sequentialExchanges codec operation outside (index + 1) rest) := by
        simp only [sequentialExchanges, readied]
      rw [shape] at sound quiet ⊢
      rw [Nat.add_assoc (5 * rest.length), exchangeDraws_then] at quiet
      rw [sequential_continues continues]
      have sounds := List.forall_mem_append.mp sound
      have turns : Effect.Decides (sendMember codec operation (outside.visit index) member) world
          (Asks (exchangeOf (outside.visit index) index prepared middle))
          (TurnEnd operation (requestIds prepared ++ reserved) (budget + (5 * rest.length +
            exchangeDraws (afterTurn (sendMember codec operation (outside.visit index) member world)
              (sequentialExchanges codec operation outside (index + 1) rest)))) member
            (exchangeOf (outside.visit index) index prepared middle) middle) := by
        refine Effect.succeeds_decides_bind ⟨prepared, middle, readied, ?_⟩
        apply decides_finishMember named made (fun _ => List.mem_append_left reserved)
          (fun other shown => sounds.1 other (Option.mem_toList.mpr shown))
        apply quiet.stage.cast
        omega
      apply decides_then turns
      · intro view last ran turn
        rw [ran] at sounds turn ⊢
        have continued := ih others sounds.2 (turn.stage.mono (fun _ => List.mem_append_right _) le_rfl)
        apply Effect.decides_succeeds_bind
        apply Effect.decides_mono continued
        intro views after ended
        apply Effect.succeeds_pure
        apply RunEnd.cons (grows_of_same quiet.messages) turn ended
        · intro other among same
          have above := sequentialExchanges_index among
          omega
        · intro slot among same
          have above := List.le_snd_of_mem_zipIdx among
          omega

/-! A concurrent run. All its messages are planned before the first answer is persisted. -/

def joinedExchanges (codec : Codec) (operation : BcastOperation) (outside : Outside) :
    List (Nat × PlannedMember) → World → List Exchange
  | [], _ => []
  | (index, plan) :: rest, world =>
      (exchangeOf (outside.visit index) index (.ok plan) world).toList ++
        afterTurn (finishMember codec operation (outside.visit index) (.ok plan) world)
          (joinedExchanges codec operation outside rest)

def plannedSlot (item : Nat × PlannedMember) : GroupMemberRecord × Nat := (item.2.member, item.1)

theorem joinedExchanges_index {planned : List (Nat × PlannedMember)} {exchange : Exchange}
    (among : exchange ∈ joinedExchanges codec operation outside planned world) :
    exchange.index ∈ planned.map Prod.fst := by
  induction planned generalizing world with
  | nil => cases among
  | cons item rest ih =>
      rcases List.mem_append.mp among with here | there
      · rw [exchangeOf_index (Option.mem_toList.mp here)]
        exact List.mem_cons_self
      · obtain ⟨after, later⟩ := afterTurn_mem there
        exact List.mem_cons_of_mem _ (ih later)

theorem joinedExchanges_answered {planned : List (Nat × PlannedMember)} {exchange : Exchange}
    (among : exchange ∈ joinedExchanges codec operation outside planned world) :
    exchange.Answered outside := by
  induction planned generalizing world with
  | nil => cases among
  | cons item rest ih =>
      rcases List.mem_append.mp among with here | there
      · exact exchangeOf_answered (Option.mem_toList.mp here)
      · obtain ⟨after, later⟩ := afterTurn_mem there
        exact ih later

/-- A plan that can be sent: its member's, under an id that is reserved. -/
structure Sendable (operation : BcastOperation) (reserved : List String)
    (item : Nat × PlannedMember) : Prop where
  inside : item.2.member ∈ operation.members
  planned : Planned item.2.member item.2
  known : item.2.prepared.requestMessageId.text ∈ reserved

-- The views under the numbers of the plans.
structure JoinEnd (operation : BcastOperation) (reserved : List String) (budget : Nat)
    (exchanges : List Exchange) (planned : List (Nat × PlannedMember)) (before : World)
    (joined : List (Nat × BcastMemberView)) (after : World) : Prop where
  run : RunEnd operation reserved budget exchanges (planned.map plannedSlot) before
    (joined.map Prod.snd) after
  indices : joined.map Prod.fst = planned.map Prod.fst

theorem decides_joinWorkers {planned : List (Nat × PlannedMember)}
    (distinct : (planned.map Prod.fst).Nodup)
    (sendable : ∀ item ∈ planned, Sendable operation reserved item)
    (sound : ∀ exchange ∈ joinedExchanges codec operation outside planned world, exchange.Sound codec)
    (stage : Stage operation reserved (budget + (2 * planned.length +
      exchangeDraws (joinedExchanges codec operation outside planned world))) world) :
    Effect.Decides (joinWorkers codec operation outside planned) world
      (∀ exchange ∈ joinedExchanges codec operation outside planned world, exchange.recordable)
      (JoinEnd operation reserved budget (joinedExchanges codec operation outside planned world)
        planned world) := by
  induction planned generalizing world with
  | nil =>
      refine Or.inl ⟨fun _ among => absurd among List.not_mem_nil, [], world, rfl, ?_, rfl⟩
      exact ⟨stage.mono (fun _ => id) (Nat.le_add_right budget _), grows_refl world, .nil,
        fun _ among => absurd among List.not_mem_nil⟩
  | cons item rest ih =>
      obtain ⟨index, plan⟩ := item
      obtain ⟨apart, distinct⟩ := List.nodup_cons.mp distinct
      obtain ⟨inside, planned, known⟩ := sendable (index, plan) List.mem_cons_self
      rw [joinedExchanges] at sound stage ⊢
      have sounds := List.forall_mem_append.mp sound
      have turns : Effect.Decides (finishMember codec operation (outside.visit index) (.ok plan)) world
          (Asks (exchangeOf (outside.visit index) index (.ok plan) world))
          (TurnEnd operation reserved (budget + (2 * rest.length +
            exchangeDraws (afterTurn (finishMember codec operation (outside.visit index) (.ok plan) world)
              (joinedExchanges codec operation outside rest)))) plan.member
            (exchangeOf (outside.visit index) index (.ok plan) world) world) := by
        apply decides_finishMember inside (show Prepared plan.member (.ok plan) from planned)
        · intro text shown
          cases List.mem_singleton.mp shown
          exact known
        · exact fun other shown => sounds.1 other (Option.mem_toList.mpr shown)
        · apply stage.cast
          have draws := exchangeDraws_then (exchangeOf (outside.visit index) index (.ok plan) world)
            (afterTurn (finishMember codec operation (outside.visit index) (.ok plan) world)
              (joinedExchanges codec operation outside rest))
          rw [List.length_cons]
          omega
      apply decides_then turns
      intro view last ran turn
      rw [ran] at sounds turn ⊢
      have continued := ih distinct (fun other among => sendable other (List.mem_cons_of_mem _ among))
        sounds.2 turn.stage
      apply Effect.decides_succeeds_bind
      apply Effect.decides_mono continued
      rintro joined after ⟨ended, indices⟩
      refine Effect.succeeds_pure ⟨?_, congrArg (index :: ·) indices⟩
      apply RunEnd.cons (grows_refl world) turn ended
      · intro other among same
        exact apart (same ▸ joinedExchanges_index among)
      · intro slot among same
        obtain ⟨other, listed, rfl⟩ := List.mem_map.mp among
        have present : other.1 ∈ rest.map Prod.fst := List.mem_map_of_mem listed
        change other.1 = index at same
        exact apart (same ▸ present)

/-! Planning the members. -/

def plannedIds (planning : Broadcast.Planning) : List String :=
  planning.planned.map fun item => item.2.prepared.requestMessageId.text

/-- What the planning of the members in some slots leaves. -/
structure PlanEnd (operation : BcastOperation) (reserved : List String) (budget : Nat)
    (slots : List (GroupMemberRecord × Nat)) (before : World) (planning : Broadcast.Planning)
    (after : World) : Prop where
  quiet : Quiet operation (plannedIds planning ++ reserved) (budget + 2 * planning.planned.length)
    before after
  indices : (planning.early.map Prod.fst ++ planning.planned.map Prod.fst).Perm (slots.map Prod.snd)
  planned : ∀ item ∈ planning.planned, plannedSlot item ∈ slots ∧ Planned item.2.member item.2
  early : ∀ item ∈ planning.early, ∃ member, (member, item.1) ∈ slots ∧
    Prepared member (.error item.2)

theorem succeeds_finishEarly {early : BcastMemberView} (inside : member ∈ operation.members)
    (made : Prepared member (.error early)) (stage : Stage operation reserved (budget + 2) world) :
    Effect.Succeeds (finishMember codec operation visit (.error early)) world fun view after =>
      view = early ∧ Quiet operation reserved budget world after := by
  obtain ⟨agent, rank, unsuccessful, untasked⟩ := made
  have unlinked : early.taskId = (none : Option TaskId).map Id.text := untasked
  have appended := succeeds_memberEvent stage agent (stage.agents member inside) unlinked rfl
  have appends : Effect.Succeeds (appendBcastMemberEvent operation early >>= fun _ => pure early) world
      fun view after => view = early ∧ Quiet operation reserved budget world after := by
    apply Effect.succeeds_bind
    apply Effect.succeeds_mono appended
    rintro _ after ⟨staged, messages⟩
    exact Effect.succeeds_pure ⟨rfl, staged, messages⟩
  exact appends

section Planned

variable {slots : List (GroupMemberRecord × Nat)} {index : Nat} {planning : Broadcast.Planning}
  {middle : World}

theorem PlanEnd.plan {plan : PlannedMember}
    (rest : PlanEnd operation (plan.prepared.requestMessageId.text :: reserved) (budget + 2) slots
      middle planning after)
    (messages : middle.store.messages = world.store.messages) (planned : Planned member plan) :
    PlanEnd operation reserved budget ((member, index) :: slots) world
      { planning with planned := (index, plan) :: planning.planned } after := by
  refine ⟨⟨rest.quiet.stage.mono ?_ ?_, rest.quiet.messages.trans messages⟩, ?_, ?_, ?_⟩
  · intro text among
    rcases List.mem_cons.mp among with rfl | among
    · exact List.mem_append_right _ List.mem_cons_self
    · rcases List.mem_append.mp among with own | old
      · exact List.mem_append_left _ own
      · exact List.mem_append_right _ (List.mem_cons_of_mem _ old)
  · rw [List.length_cons]
    omega
  · exact List.perm_middle.trans (rest.indices.cons index)
  · intro item among
    rcases List.mem_cons.mp among with rfl | later
    · have slot : plannedSlot (index, plan) = (member, index) :=
        congrArg (fun member => (member, index)) planned.owner
      exact ⟨slot ▸ List.mem_cons_self, planned.owner.symm ▸ planned⟩
    · obtain ⟨there, made⟩ := rest.planned item later
      exact ⟨List.mem_cons_of_mem _ there, made⟩
  · intro item among
    obtain ⟨other, there, made⟩ := rest.early item among
    exact ⟨other, List.mem_cons_of_mem _ there, made⟩

theorem PlanEnd.refuse {early : BcastMemberView}
    (rest : PlanEnd operation reserved budget slots middle planning after)
    (messages : middle.store.messages = world.store.messages)
    (made : Prepared member (.error early)) :
    PlanEnd operation reserved budget ((member, index) :: slots) world
      { planning with early := (index, early) :: planning.early } after := by
  refine ⟨⟨rest.quiet.stage, rest.quiet.messages.trans messages⟩, rest.indices.cons index, ?_, ?_⟩
  · intro item among
    obtain ⟨there, planned⟩ := rest.planned item among
    exact ⟨List.mem_cons_of_mem _ there, planned⟩
  · intro item among
    rcases List.mem_cons.mp among with rfl | later
    · exact ⟨member, List.mem_cons_self, made⟩
    · obtain ⟨other, there, refused⟩ := rest.early item later
      exact ⟨other, List.mem_cons_of_mem _ there, refused⟩

end Planned

theorem succeeds_planMembers {members : List GroupMemberRecord} {index : Nat}
    (inside : members ⊆ operation.members)
    (stage : Stage operation reserved (budget + 5 * members.length) world) :
    Effect.Succeeds (planMembers codec operation outside index members) world
      (PlanEnd operation reserved budget (members.zipIdx index) world) := by
  induction members generalizing index world reserved budget with
  | nil =>
      exact Effect.succeeds_pure ⟨⟨stage, rfl⟩, .refl [], fun _ among => absurd among List.not_mem_nil,
        fun _ among => absurd among List.not_mem_nil⟩
  | cons member rest ih =>
      obtain ⟨named, others⟩ := List.cons_subset.mp inside
      have enough : budget + 5 * (rest.length + 1) = budget + 2 + 5 * rest.length + 3 := by omega
      apply Effect.succeeds_bind
      apply Effect.succeeds_mono
        (succeeds_prepareMember (outside.visit index) member (stage.cast enough))
      rintro prepared middle ⟨quiet, made⟩
      cases prepared with
      | ok plan =>
          apply Effect.succeeds_bind
          apply Effect.succeeds_mono (ih others quiet.stage)
          rintro planning after ended
          exact Effect.succeeds_pure (ended.plan quiet.messages made)
      | error early =>
          apply Effect.succeeds_bind
          have staged : Stage operation reserved (budget + 5 * rest.length + 2) middle :=
            quiet.stage.cast (Nat.add_right_comm budget 2 _)
          apply Effect.succeeds_mono (succeeds_finishEarly named made staged)
          rintro view last ⟨rfl, finished⟩
          apply Effect.succeeds_bind
          apply Effect.succeeds_mono (ih others finished.stage)
          rintro planning after ended
          exact Effect.succeeds_pure (ended.refuse (finished.messages.trans quiet.messages) made)

/-! The views are sorted by the numbers of their members. -/

theorem zipIdx_increasing (members : List GroupMemberRecord) :
    ((members.zipIdx 0).map Prod.snd).Pairwise (· < ·) := by
  rw [List.zipIdx_map_snd]
  exact List.pairwise_lt_range'

theorem slot_unique {slots : List (GroupMemberRecord × Nat)}
    (increasing : (slots.map Prod.snd).Pairwise (· < ·)) {slot other : GroupMemberRecord × Nat}
    (inside : slot ∈ slots) (among : other ∈ slots) (same : slot.2 = other.2) : slot = other :=
  List.inj_on_of_nodup_map (increasing.imp Nat.ne_of_lt) inside among same

def concurrentExchanges (codec : Codec) (operation : BcastOperation) (outside : Outside)
    (world : World) : List Exchange :=
  match planMembers codec operation outside 0 operation.members world with
  | (.error _, _) => []
  | (.ok planning, middle) => joinedExchanges codec operation outside planning.planned middle

/-- The views of the members that were planned and of the others, sorted. -/
theorem runEnd_sorted {slots : List (GroupMemberRecord × Nat)} {planning : Broadcast.Planning}
    {middle : World} {joined : List (Nat × BcastMemberView)} {less : Nat}
    (increasing : (slots.map Prod.snd).Pairwise (· < ·))
    (plans : PlanEnd operation reserved less slots world planning middle)
    (joins : JoinEnd operation (plannedIds planning ++ reserved) budget
      (joinedExchanges codec operation outside planning.planned middle) planning.planned middle joined
      after) :
    RunEnd operation reserved budget
      (joinedExchanges codec operation outside planning.planned middle) slots world
      (((planning.early ++ joined).mergeSort fun first last => first.1 ≤ last.1).map Prod.snd)
      after := by
  have distinct : (planning.early.map Prod.fst ++ planning.planned.map Prod.fst).Nodup :=
    plans.indices.nodup_iff.mpr (increasing.imp Nat.ne_of_lt)
  have numbered : ((planning.early ++ joined).map Prod.fst).Perm (slots.map Prod.snd) := by
    rw [List.map_append, joins.indices]
    exact plans.indices
  refine ⟨joins.run.stage.mono (fun _ => List.mem_append_right _) le_rfl,
    (grows_of_same plans.quiet.messages).trans joins.run.grows, ?_, joins.run.recorded⟩
  apply OrderedLists.forall₂_of_indices (OrderedLists.sortByKey_indices increasing numbered)
  intro entry among slot inside same
  rcases List.mem_append.mp ((OrderedLists.mem_sortByKey Prod.fst _).mp among) with early | sent
  · obtain ⟨member, there, agent, rank, unsuccessful, _⟩ := plans.early entry early
    cases slot_unique increasing inside there same
    refine ⟨agent, rank, iff_of_false unsuccessful ?_⟩
    rintro ⟨exchange, listed, numbered⟩
    have planned := joinedExchanges_index listed
    rw [numbered] at planned
    exact (List.nodup_append.mp distinct).2.2 _ (List.mem_map_of_mem early) _ planned rfl
  · have indices : joined.map Prod.fst = (planning.planned.map plannedSlot).map Prod.snd := by
      rw [List.map_map]
      exact joins.indices
    obtain ⟨other, listed, again, shown⟩ := OrderedLists.entry_slot indices joins.run.listed sent
    obtain ⟨item, planned, rfl⟩ := List.mem_map.mp listed
    cases slot_unique increasing inside (plans.planned item planned).1 (same.trans again.symm)
    exact shown

/-- A concurrent run ends just where each answer it accepts can be recorded. -/
theorem decides_concurrent
    (sound : ∀ exchange ∈ concurrentExchanges codec operation outside world, exchange.Sound codec)
    (stage : Stage operation reserved (budget + (5 * operation.members.length +
      exchangeDraws (concurrentExchanges codec operation outside world))) world) :
    Effect.Decides (runBcastConcurrent codec operation outside) world
      (∀ exchange ∈ concurrentExchanges codec operation outside world, exchange.recordable)
      (RunEnd operation reserved budget (concurrentExchanges codec operation outside world)
        (operation.members.zipIdx 0) world) := by
  have enough : budget + (5 * operation.members.length +
      exchangeDraws (concurrentExchanges codec operation outside world)) =
      budget + exchangeDraws (concurrentExchanges codec operation outside world) +
        5 * operation.members.length := by
    omega
  have succeeds : Effect.Succeeds (planMembers codec operation outside 0 operation.members) world _ :=
    succeeds_planMembers (List.Subset.refl _) (stage.cast enough)
  obtain ⟨planning, middle, planned, plans⟩ := succeeds
  have shape : concurrentExchanges codec operation outside world =
      joinedExchanges codec operation outside planning.planned middle := by
    simp only [concurrentExchanges, planned]
  rw [shape] at sound plans ⊢
  have increasing := zipIdx_increasing operation.members
  have distinct : (planning.planned.map Prod.fst).Nodup :=
    (plans.indices.nodup_iff.mpr (increasing.imp Nat.ne_of_lt)).of_append_right
  refine Effect.succeeds_decides_bind ⟨planning, middle, planned, ?_⟩
  apply Effect.decides_succeeds_bind
  apply Effect.decides_mono (decides_joinWorkers distinct ?sendable sound ?stage)
  · intro joined last joins
    exact Effect.succeeds_pure (runEnd_sorted increasing plans joins)
  case sendable =>
    intro item among
    obtain ⟨there, made⟩ := plans.planned item among
    refine ⟨?_, made, List.mem_append_left _ (List.mem_map_of_mem among)⟩
    exact (List.mem_zipIdx' there).2 ▸ List.getElem_mem _
  case stage =>
    apply plans.quiet.stage.cast
    omega

/-! Both modes. -/

def memberExchanges (codec : Codec) (operation : BcastOperation) (outside : Outside) (world : World) :
    List Exchange :=
  match operation.execution with
  | .sequential => sequentialExchanges codec operation outside 0 operation.members world
  | .concurrent => concurrentExchanges codec operation outside world

-- A broadcast that comes to every member, unless it fails.
def Thorough (request : BcastRequest) : Prop :=
  request.execution = .concurrent ∨ request.failurePolicy = .continue

theorem decides_runMembers (thorough : Thorough operation.toBcastRequest)
    (sound : ∀ exchange ∈ memberExchanges codec operation outside world, exchange.Sound codec)
    (stage : Stage operation reserved (budget + (5 * operation.members.length +
      exchangeDraws (memberExchanges codec operation outside world))) world) :
    Effect.Decides (runMembers codec operation outside) world
      (∀ exchange ∈ memberExchanges codec operation outside world, exchange.recordable)
      (RunEnd operation reserved budget (memberExchanges codec operation outside world)
        (operation.members.zipIdx 0) world) := by
  unfold runMembers
  unfold memberExchanges at sound stage ⊢
  cases mode : operation.execution with
  | sequential =>
      have continues : operation.failurePolicy = .continue := by
        rcases thorough with concurrent | continues
        · cases mode.symm.trans concurrent
        · exact continues
      simp only [mode] at sound stage ⊢
      exact decides_sequential continues (List.Subset.refl _) sound stage
  | concurrent =>
      simp only [mode] at sound stage ⊢
      exact decides_concurrent sound stage

/-! The beginning and the end of the command. -/

-- What the store holds of the group that a broadcast is for.
structure Enrolled (request : BcastRequest) (group : GroupRecord) (store : Store) : Prop where
  found : store.groups.find? request.groupName = some group
  members : listGroupMembers store group.groupName ≠ []
  agents : ∀ member ∈ listGroupMembers store group.groupName,
    store.hasAgent (some member.agentAlias) = true

structure Started (request : BcastRequest) (group : GroupRecord) (budget : Nat) (before : World)
    (operation : BcastOperation) (after : World) : Prop where
  stage : Stage operation [] budget after
  request : operation.toBcastRequest = request
  members : operation.members = listGroupMembers before.store group.groupName

theorem succeeds_ensureBcastContext (contextId : ContextId) (group : GroupRecord)
    (ready : Ready reserved (budget + 1) world) :
    Effect.Succeeds (ensureBcastContext contextId group) world fun _ after =>
      (Advanced reserved budget world after ∧ after.store.hasContext (some contextId) = true) ∧
        after.store.groups = world.store.groups := by
  apply succeeds_kept Store.groups
  · apply keeps_bind (keeps_readStore _)
    intro known
    cases known with
    | some row => exact keeps_pure false
    | none =>
        apply keeps_bind (keeps_lift _)
        intro collective
        apply keeps_bind (keeps_lift _)
        intro metadata
        exact keeps_bind (keeps_upsertContext (fun _ _ => rfl) _) fun _ => keeps_pure true
  · cases known : world.store.contexts.find? contextId with
    | some row =>
        refine succeeds_read known (Effect.succeeds_pure ⟨⟨ready.mono (by omega), .refl _⟩, ?_⟩)
        simp [Store.hasContext, known]
    | none =>
        apply succeeds_read known
        obtain ⟨collective, first⟩ := insert_returns .new "missive.collective" (.string "bcast")
          (by decide)
        obtain ⟨metadata, second⟩ := insert_returns collective "missive.group"
          (.string group.groupName.text) (by decide)
        apply Effect.succeeds_lift_bind first
        apply Effect.succeeds_lift_bind second
        apply Effect.succeeds_bind
        apply Effect.succeeds_mono (succeeds_upsertContext ready rfl rfl)
        intro _ after met
        exact Effect.succeeds_pure met

theorem groups_kept_start : Keeps Store.groups (appendBcastStartEvent operation) := by
  apply keeps_bind (keeps_newCliEvent _ _)
  intro event
  apply keeps_bind
  · exact keeps_bind (keeps_lift _) fun _ => keeps_appendEvent groups_ignore_reports.events _
  · exact fun _ => keeps_pure ()

-- What is left of the loading when the group has members.
theorem loadBcastGroup_run {request : BcastRequest} {group : GroupRecord}
    (enrolled : Enrolled request group world.store) :
    loadBcastGroup request world = (ensureBcastContext request.contextId group >>= fun created =>
      pure { request with
        group, members := listGroupMembers world.store group.groupName, contextCreated := created })
      world := by
  have members : (listGroupMembers world.store group.groupName).isEmpty = false := by
    rw [List.isEmpty_eq_false_iff]
    exact enrolled.members
  have found : getGroup request.groupName world = (.ok (some group), world) := by
    rw [← enrolled.found]
    rfl
  unfold loadBcastGroup
  rw [Effect.bind_ok _ _ _ _ _ found]
  show (if (listGroupMembers world.store group.groupName).isEmpty then _ else _ : Action _) world = _
  rw [members]
  rfl

theorem succeeds_loadBcastGroup {request : BcastRequest} {group : GroupRecord}
    (version : opaqueReason request.serviceParameters.protocolVersion = none)
    (enrolled : Enrolled request group world.store) (ready : Ready [] (budget + 1) world) :
    Effect.Succeeds (loadBcastGroup request) world (Started request group budget world) := by
  unfold Effect.Succeeds
  rw [loadBcastGroup_run enrolled]
  apply Effect.succeeds_bind
  apply Effect.succeeds_mono (succeeds_ensureBcastContext request.contextId group ready)
  rintro created after ⟨⟨advanced, context⟩, groups⟩
  refine Effect.succeeds_pure ⟨⟨advanced.ready, version, ?_, context, ?_⟩, rfl, rfl⟩
  · have keyed : group.groupName = request.groupName :=
      world.store.groups.find?_key enrolled.found
    show (after.store.groups.find? group.groupName).isSome = true
    rw [groups, keyed, enrolled.found]
    rfl
  · exact fun member inside => advanced.extends_.hasAgent (enrolled.agents member inside)

theorem succeeds_startBcast {request : BcastRequest} {group : GroupRecord}
    (version : opaqueReason request.serviceParameters.protocolVersion = none)
    (enrolled : Enrolled request group world.store) (ready : Ready [] (budget + 3) world) :
    Effect.Succeeds (startBcast request) world (Started request group budget world) := by
  apply Effect.succeeds_bind
  apply Effect.succeeds_mono (succeeds_loadBcastGroup version enrolled ready)
  rintro operation middle ⟨stage, requested, members⟩
  have appends : Effect.Succeeds (appendBcastStartEvent operation) middle fun _ after =>
      Advanced [] budget middle after :=
    succeeds_appendCliEvent (by decide) (by decide) stage.version stage.ready
      (fun _ => rfl) (fun _ => rfl) (fun _ => rfl)
      (fun _ _ => ⟨rfl, stage.context, rfl, stage.group, rfl⟩) fun _ _ => rfl
  apply Effect.succeeds_bind
  apply Effect.succeeds_mono (succeeds_kept Store.groups groups_kept_start appends)
  rintro _ after ⟨advanced, groups⟩
  exact Effect.succeeds_pure ⟨stage.advance advanced groups, requested, members⟩

theorem succeeds_completedEvent {output : BcastOutput} (group : output.group = operation.group.groupName)
    (context : output.contextId = operation.contextId)
    (stage : Stage operation reserved (budget + 2) world) :
    Effect.Succeeds (appendBcastCompletedEvent output) world fun _ after => Grows world after := by
  have shape (eventType text : String) : Id.new .eventId s!"evt/{eventType}/{text}" =
      Id.new .eventId ("evt/" ++ eventType ++ "/" ++ text) := rfl
  have short : (!"missive.bcast.completed".isEmpty &&
      "missive.bcast.completed".utf8ByteSize ≤ 128) = true := by decide
  have messages : Keeps Store.messages (appendBcastCompletedEvent output) := by
    apply keeps_bind (keeps_newCliEvent _ _)
    intro event
    exact keeps_bind (keeps_appendEvent (fun _ _ _ => rfl) _) fun _ => keeps_pure ()
  have appends : Effect.Succeeds (appendBcastCompletedEvent output) world fun _ _ => True := by
    apply Effect.succeeds_bind
    apply Effect.succeeds_bind
    apply Effect.succeeds_mono (succeeds_eventId (by decide) (shape "missive.bcast.completed") stage.ready)
    rintro id middle ⟨⟨text, drawn, ends⟩, same⟩
    apply Effect.succeeds_pure
    apply Effect.succeeds_bind
    have decides := decides_appendEvent
      { EventInsert.new id "cli" "missive.bcast.completed"
          (JsonRedaction.outputRedactJson (completedPayload output)) with
        groupName := some output.group
        contextId := some output.contextId } drawn ends
      (event_checked cliSource_short short)
      ⟨rfl, context ▸ same ▸ stage.context, rfl, group ▸ same ▸ stage.group, rfl⟩
    apply Effect.succeeds_mono (decides.returns_iff.mpr rfl)
    intro row last _
    exact Effect.succeeds_pure trivial
  apply Effect.succeeds_mono (succeeds_kept Store.messages messages appends)
  rintro _ after ⟨_, same⟩
  exact grows_of_same same

/-! The revision changes no member, and no success. -/

structure Restated (view revised : BcastMemberView) : Prop where
  agent : revised.agent = view.agent
  rank : revised.rank = view.rank
  succeeded : revised.status = .succeeded ↔ view.status = .succeeded

theorem restated_refl (view : BcastMemberView) : Restated view view := ⟨rfl, rfl, .rfl⟩

theorem markFailure_restated (views : List BcastMemberView) :
    List.Forall₂ Restated views (markFailure views) := by
  induction views with
  | nil => exact .nil
  | cons view rest ih =>
      unfold markFailure
      split
      · rename_i failed
        refine .cons ⟨rfl, rfl, ?_⟩ (List.forall₂_same.mpr fun view _ => restated_refl view)
        simp [failed]
      · exact .cons (restated_refl view) ih

theorem reviseStatuses_restated (deadline : Option Nat) (finished : Nat) (views : List BcastMemberView) :
    List.Forall₂ Restated views (reviseStatuses deadline finished views) := by
  unfold reviseStatuses
  split
  · have marked := markFailure_restated views.reverse
    rw [← List.forall₂_reverse_iff, List.reverse_reverse] at marked
    exact marked
  · exact List.forall₂_same.mpr fun view _ => restated_refl view

theorem listed_restated {exchanges : List Exchange} {slots : List (GroupMemberRecord × Nat)}
    {views revised : List BcastMemberView} (listed : List.Forall₂ (Listed exchanges) slots views)
    (restated : List.Forall₂ Restated views revised) :
    List.Forall₂ (Listed exchanges) slots revised := by
  induction listed generalizing revised with
  | nil =>
      cases restated
      exact .nil
  | cons here _ ih =>
      cases restated with
      | cons again others =>
          exact .cons ⟨again.agent.trans here.agent, again.rank.trans here.rank,
            again.succeeded.trans here.accepted⟩ (ih others)

/-! The whole command. -/

/-- The exchanges of the command, as far as it comes. -/
def bcastExchanges (codec : Codec) (request : BcastRequest) (outside : Outside) (world : World) :
    List Exchange :=
  match startBcast request world with
  | (.error _, _) => []
  | (.ok operation, middle) => memberExchanges codec operation outside middle

/-- The summary lists each member once, by rank, marked succeeded where its answer was accepted,
and each accepted answer is stored. -/
structure Accounted (exchanges : List Exchange) (members : List GroupMemberRecord)
    (output : BcastOutput) (after : World) : Prop where
  listed : List.Forall₂ (Listed exchanges) (members.zipIdx 0) output.members
  recorded : ∀ exchange ∈ exchanges, exchange.recorded after.store

theorem decides_executeBcast {request : BcastRequest} {group : GroupRecord}
    (thorough : Thorough request)
    (version : opaqueReason request.serviceParameters.protocolVersion = none)
    (enrolled : Enrolled request group world.store)
    (sound : ∀ exchange ∈ bcastExchanges codec request outside world, exchange.Sound codec)
    (ready : Ready [] (5 * (listGroupMembers world.store group.groupName).length +
      exchangeDraws (bcastExchanges codec request outside world) + 5) world) :
    Effect.Decides (executeBcast codec request outside) world
      (∀ exchange ∈ bcastExchanges codec request outside world, exchange.recordable)
      (Accounted (bcastExchanges codec request outside world)
        (listGroupMembers world.store group.groupName)) := by
  have enough : 2 + (5 * (listGroupMembers world.store group.groupName).length +
      exchangeDraws (bcastExchanges codec request outside world)) + 3 ≤
      5 * (listGroupMembers world.store group.groupName).length +
      exchangeDraws (bcastExchanges codec request outside world) + 5 := by
    omega
  obtain ⟨operation, middle, started, stage, requested, members⟩ :=
    succeeds_startBcast version enrolled (ready.mono enough)
  have shape : bcastExchanges codec request outside world =
      memberExchanges codec operation outside middle := by
    simp only [bcastExchanges, started]
  rw [← members, shape] at stage
  rw [← members, shape] 
  rw [shape] at sound
  rw [← requested] at thorough
  apply Effect.decides_succeeds_bind
  apply Effect.succeeds_decides_bind
  refine ⟨operation, middle, started, ?_⟩
  apply Effect.decides_succeeds_bind
  apply Effect.decides_mono (decides_runMembers thorough sound stage)
  intro views last ended
  apply Effect.succeeds_pure
  apply Effect.succeeds_bind
  have staged : Stage operation _ (0 + 2) last := ended.stage
  apply Effect.succeeds_mono (succeeds_completedEvent rfl rfl staged)
  intro _ after grows
  apply Effect.succeeds_pure
  refine ⟨listed_restated ended.listed (reviseStatuses_restated _ _ _), ?_⟩
  intro exchange among
  exact recorded_grows grows (ended.recorded exchange among)

theorem bcastExchanges_answered {request : BcastRequest} {exchange : Exchange}
    (among : exchange ∈ bcastExchanges codec request outside world) : exchange.Answered outside := by
  unfold bcastExchanges memberExchanges concurrentExchanges at among
  split at among
  · cases among
  · split at among
    · exact sequentialExchanges_answered among
    · split at among
      · cases among
      · exact joinedExchanges_answered among

def plainInterface : NegotiatedInterface where
  binding := "http_json"
  protocolBinding := "HTTP+JSON"
  url := "http://127.0.0.1"
  tenant := none
  protocolVersion := "1.0"
  source := .agentCard

def acceptingTeam (outcome : SendMessageOutcome) : Outside where
  visit _ :=
    { silentVisit with
      fetchCard := fun _ => .ok ⟨plainInterface, .null, none, none⟩
      send := fun _ => .ok outcome }
  finished := 0
  elapsed := 0

def taskAnswer : SendMessageOutcome :=
  ⟨"http://127.0.0.1/message:send", 200,
    .task (TaskIsolation.plainTask Artifacts.firstTask .completed), .null⟩

theorem taskAnswer_valid : ValidAnswer taskAnswer.response := by
  constructor
  · intro text same
    cases same
    exact Artifacts.firstTask.valid
  · intro text same
    cases same
    exact Artifacts.sharedContext.valid
  · intro text same
    cases same
  · intro artifact member
    cases member

theorem taskAnswer_encodes {request : Message}
    (encodes : (plainCodec.messageToValue request).isSome = true) :
    EncodesExchange plainCodec request taskAnswer.response := by
  refine ⟨encodes, ?_, ?_, ?_⟩
  · intro message same
    cases same
  · intro task same
    cases same
    decide
  · intro artifact member
    cases member

theorem nextRank_valid : IdKind.rankName.reason "rank-1" = none := by decide

def rivalMember : GroupMemberRecord :=
  ⟨teamGroup.groupName, TaskIsolation.rivalAgent, ⟨"rank-1", nextRank_valid⟩, [], 1, .new, ⟨0⟩⟩

def pairWorld : World :=
  let world := (upsertAgent (.new TaskIsolation.rivalAgent "http://127.0.0.1") teamWorld).2
  world.withStore { world.store with groupMembers := world.store.groupMembers.put rivalMember }

theorem pairWorld_members :
    listGroupMembers pairWorld.store teamGroup.groupName = [echoMember, rivalMember] := by
  apply List.mergeSort_of_pairwise
  decide

end Missive.BroadcastAccounting
