import Mathlib.Algebra.Group.Int.Defs
import Missive.RecordUpserts

/-! `evaluate_session_reset`: when a gateway session is to rotate to a fresh context. -/
namespace Missive.SessionResets

open RustText Missive.Core Schema RecordUpserts

-- What the rules read of a session, with its times as they are read back.
structure GatewaySession where
  resetMode : GatewaySessionResetMode
  dailyResetHour : UInt8
  idleTimeoutSeconds : Option UInt64
  lastActiveAt : MissiveTimestamp
  lastResetAt : Option MissiveTimestamp

def readSession (row : GatewaySessionRecord) : GatewaySession where
  resetMode := row.resetMode
  dailyResetHour := row.dailyResetHour
  idleTimeoutSeconds := row.idleTimeoutSeconds
  lastActiveAt := row.lastActiveAt.parse
  lastResetAt := row.lastResetAt.map SecondTime.parse

inductive GatewaySessionResetReason where
  | daily
  | idle
  deriving DecidableEq

structure GatewaySessionResetEvaluation where
  now : MissiveTimestamp
  shouldReset : Bool
  reasons : List GatewaySessionResetReason

def secondsPerDay : Int := 86400
def secondsPerHour : Int := 3600

-- `saturating_add` and `saturating_sub` of `i64`.
def saturated (value : Int) : Int := max (-2 ^ 63) (min value (2 ^ 63 - 1))

def idleResetDue (session : GatewaySession) (now : MissiveTimestamp) : Except MissiveError Bool :=
  match session.idleTimeoutSeconds with
  | none => .error (.validation
      "gateway session idle reset mode requires idle_timeout_seconds")
  | some timeoutSeconds =>
      if timeoutSeconds = 0 then .error (.validation
        "gateway session idle_timeout_seconds must be greater than zero")
      else if timeoutSeconds.toNat < 2 ^ 63 then
        .ok (saturated (session.lastActiveAt.unixTimestamp + timeoutSeconds.toNat) <
          now.unixTimestamp)
      else .error (.validation "gateway session idle_timeout_seconds is too large")

def dailyReferenceTimestamp (session : GatewaySession) : MissiveTimestamp :=
  match session.lastResetAt with
  | some lastReset => ⟨max lastReset.nanos session.lastActiveAt.nanos⟩
  | none => session.lastActiveAt

def boundarySeconds (nowSeconds : Int) (resetHour : UInt8) : Int :=
  let dayStart := nowSeconds / secondsPerDay * secondsPerDay
  let candidate := saturated (dayStart + resetHour.toNat * secondsPerHour)
  if nowSeconds < candidate then saturated (candidate - secondsPerDay) else candidate

def dailyResetBoundary (now : MissiveTimestamp) (resetHour : UInt8) :
    Except MissiveError MissiveTimestamp :=
  if 23 < resetHour.toNat then .error (.validation
    s!"gateway session daily_reset_hour must be between 0 and 23, got {resetHour.toNat}")
  else MissiveTimestamp.fromUnixTimestamp (boundarySeconds now.unixTimestamp resetHour)

def dailyResetDue (session : GatewaySession) (now : MissiveTimestamp) : Except MissiveError Bool := do
  let boundary ← dailyResetBoundary now session.dailyResetHour
  .ok ((dailyReferenceTimestamp session).nanos < boundary.nanos)

def pushWhen (due : Bool) (reason : GatewaySessionResetReason) : List GatewaySessionResetReason :=
  if due then [reason] else []

def resetReasons (session : GatewaySession) (now : MissiveTimestamp) :
    Except MissiveError (List GatewaySessionResetReason) :=
  match session.resetMode with
  | .none => .ok []
  | .daily => do
      let daily ← dailyResetDue session now
      .ok (pushWhen daily .daily)
  | .idle => do
      let idle ← idleResetDue session now
      .ok (pushWhen idle .idle)
  | .both => do
      let idle ← idleResetDue session now
      let daily ← dailyResetDue session now
      .ok (pushWhen idle .idle ++ pushWhen daily .daily)

def evaluateSessionReset (session : GatewaySession) (now : MissiveTimestamp) :
    Except MissiveError GatewaySessionResetEvaluation := do
  let reasons ← resetReasons session now
  .ok { now := now, shouldReset := !reasons.isEmpty, reasons := reasons }

/-! What is promised of the decision, in nanoseconds. -/

def perSecond : Int := 1000000000

-- An instant whose time of day is the full hour.
def AtHour (hour : UInt8) (instant : MissiveTimestamp) : Prop :=
  instant.nanos % (secondsPerDay * perSecond) = hour.toNat * (secondsPerHour * perSecond)

def Passed (session : GatewaySession) (now : MissiveTimestamp) : Prop :=
  ∃ instant, AtHour session.dailyResetHour instant ∧
    (dailyReferenceTimestamp session).nanos < instant.nanos ∧ instant.nanos ≤ now.nanos

def Expired (session : GatewaySession) (now : MissiveTimestamp) : Prop :=
  ∃ timeout ∈ session.idleTimeoutSeconds,
    session.lastActiveAt.nanos + timeout.toNat * perSecond < now.unixTimestamp * perSecond

def includesDaily (mode : GatewaySessionResetMode) : Bool := mode = .daily || mode = .both
def includesIdle (mode : GatewaySessionResetMode) : Bool := mode = .idle || mode = .both

-- A session as the store takes it.
structure Stored (session : GatewaySession) : Prop where
  checked : validateGatewaySessionResetPolicy session.resetMode session.dailyResetHour
    session.idleTimeoutSeconds = .ok ()
  fits : ∀ timeout ∈ session.idleTimeoutSeconds, timeout.toNat < 2 ^ 63

-- A representable time, at least a day after the earliest one.
structure OnClock (now : MissiveTimestamp) : Prop where
  early : -8334601228800 + secondsPerDay ≤ now.unixTimestamp
  late : now.unixTimestamp ≤ 8210266876799

/-! The parts of the decision. -/

section Parts

variable {session : GatewaySession} {now : MissiveTimestamp}

theorem saturated_small {value : Int} (low : -2 ^ 63 ≤ value) (high : value ≤ 2 ^ 63 - 1) :
    saturated value = value := by
  rw [saturated, min_eq_left high, max_eq_right low]

theorem boundarySeconds_spec {hour : UInt8} {seconds : Int} (inDay : hour.toNat ≤ 23)
    (early : -8334601228800 + secondsPerDay ≤ seconds) (late : seconds ≤ 8210266876799) :
    boundarySeconds seconds hour % secondsPerDay = hour.toNat * secondsPerHour ∧
      boundarySeconds seconds hour ≤ seconds ∧
      seconds < boundarySeconds seconds hour + secondsPerDay := by
  have day : secondsPerDay = 86400 := rfl
  have hours : secondsPerHour = 3600 := rfl
  have candidate : saturated (seconds / secondsPerDay * secondsPerDay +
      hour.toNat * secondsPerHour) = seconds / 86400 * 86400 + hour.toNat * 3600 := by
    rw [day, hours]
    apply saturated_small
    · omega
    · omega
  rw [boundarySeconds, candidate, hours, day]
  by_cases ahead : seconds < seconds / 86400 * 86400 + hour.toNat * 3600
  · rw [if_pos ahead, saturated_small (by omega) (by omega)]
    omega
  · rw [if_neg ahead]
    omega

theorem stored_hour (stored : Stored session) : session.dailyResetHour.toNat ≤ 23 := by
  by_contra outside
  have checked := stored.checked
  rw [validateGatewaySessionResetPolicy, if_pos (by omega)] at checked
  contradiction

theorem stored_timeout (stored : Stored session) (idle : includesIdle session.resetMode = true) :
    ∃ timeout, session.idleTimeoutSeconds = some timeout ∧ timeout ≠ 0 := by
  have checked := stored.checked
  have inDay := stored_hour stored
  rw [validateGatewaySessionResetPolicy, if_neg (by omega)] at checked
  cases mode : session.resetMode with
  | none => simp [includesIdle, mode] at idle
  | daily => simp [includesIdle, mode] at idle
  | idle =>
      cases held : session.idleTimeoutSeconds with
      | none => simp [validateIdleTimeout, mode, held] at checked
      | some timeout =>
          refine ⟨timeout, rfl, ?_⟩
          intro zero
          simp [validateIdleTimeout, mode, held, zero] at checked
  | both =>
      cases held : session.idleTimeoutSeconds with
      | none => simp [validateIdleTimeout, mode, held] at checked
      | some timeout =>
          refine ⟨timeout, rfl, ?_⟩
          intro zero
          simp [validateIdleTimeout, mode, held, zero] at checked

/-- The boundary is the last full hour of its kind up to now, so some such instant has passed since
the reference exactly when the boundary has. -/
theorem dailyResetDue_spec (inDay : session.dailyResetHour.toNat ≤ 23) (clock : OnClock now) :
    ∃ due, dailyResetDue session now = .ok due ∧ (due = true ↔ Passed session now) := by
  obtain ⟨sharp, reached, recent⟩ := boundarySeconds_spec inDay clock.early clock.late
  have early := clock.early
  have late := clock.late
  have day : secondsPerDay = 86400 := rfl
  have hours : secondsPerHour = 3600 := rfl
  have second : perSecond = 1000000000 := rfl
  rw [day, hours] at sharp
  have boundary : dailyResetBoundary now session.dailyResetHour =
      .ok ⟨boundarySeconds now.unixTimestamp session.dailyResetHour * 1000000000⟩ := by
    rw [dailyResetBoundary, if_neg (by omega), MissiveTimestamp.fromUnixTimestamp,
      if_pos (by omega)]
  refine ⟨_, by rw [dailyResetDue, boundary]; rfl, ?_⟩
  rw [decide_eq_true_eq]
  have whole : now.unixTimestamp = now.nanos / 1000000000 := rfl
  constructor
  · intro before
    refine ⟨_, ?_, before, ?_⟩
    · rw [AtHour, day, hours, second]
      dsimp only
      omega
    · dsimp only
      omega
  · rintro ⟨instant, atHour, after, upTo⟩
    -- No later instant of the kind is up to now: it would be a day after the boundary.
    have last : instant.nanos ≤
        boundarySeconds now.unixTimestamp session.dailyResetHour * 1000000000 := by
      rw [AtHour, day, hours, second] at atHour
      omega
    exact lt_of_lt_of_le after last

theorem idleResetDue_spec {timeout : UInt64} (set_ : session.idleTimeoutSeconds = some timeout)
    (positive : timeout ≠ 0) (fits : timeout.toNat < 2 ^ 63) (clock : OnClock now) :
    ∃ due, idleResetDue session now = .ok due ∧ (due = true ↔ Expired session now) := by
  have late := clock.late
  have early := clock.early
  have day : secondsPerDay = 86400 := rfl
  have second : perSecond = 1000000000 := rfl
  have active : session.lastActiveAt.unixTimestamp = session.lastActiveAt.nanos / 1000000000 := rfl
  refine ⟨_, by rw [idleResetDue, set_]; simp only [if_neg positive, if_pos fits]; rfl, ?_⟩
  rw [decide_eq_true_eq, Expired, set_, saturated, active]
  constructor
  · intro expired
    refine ⟨timeout, rfl, ?_⟩
    rw [second]
    omega
  · rintro ⟨other, held, expired⟩
    cases held
    rw [second] at expired
    omega

end Parts

/-! The decision. -/

-- What the checks of the store leave, which any part of the policy keeps.
structure Sound (session : GatewaySession) : Prop where
  hour : session.dailyResetHour.toNat ≤ 23
  timeout : includesIdle session.resetMode = true →
    ∃ timeout, session.idleTimeoutSeconds = some timeout ∧ timeout ≠ 0 ∧ timeout.toNat < 2 ^ 63

section Decisions

variable {session : GatewaySession} {now : MissiveTimestamp}

theorem stored_sound (stored : Stored session) : Sound session where
  hour := stored_hour stored
  timeout := by
    intro idle
    obtain ⟨timeout, held, positive⟩ := stored_timeout stored idle
    exact ⟨timeout, held, positive, stored.fits timeout held⟩

theorem mem_pushWhen {due : Bool} {reason pushed : GatewaySessionResetReason} :
    reason ∈ pushWhen due pushed ↔ due = true ∧ reason = pushed := by
  cases due with
  | false => simp [pushWhen]
  | true => simp [pushWhen]

theorem resetReasons_spec (sound : Sound session) (clock : OnClock now) :
    ∃ reasons, resetReasons session now = .ok reasons ∧
      (.daily ∈ reasons ↔ includesDaily session.resetMode = true ∧ Passed session now) ∧
      (.idle ∈ reasons ↔ includesIdle session.resetMode = true ∧ Expired session now) := by
  obtain ⟨daily, dailyRead, passed⟩ := dailyResetDue_spec sound.hour clock
  have idleDue : includesIdle session.resetMode = true →
      ∃ due, idleResetDue session now = .ok due ∧ (due = true ↔ Expired session now) := by
    intro idle
    obtain ⟨timeout, held, positive, fits⟩ := sound.timeout idle
    exact idleResetDue_spec held positive fits clock
  cases mode : session.resetMode with
  | none => exact ⟨[], by rw [resetReasons, mode], by simp [includesDaily], by simp [includesIdle]⟩
  | daily =>
      refine ⟨pushWhen daily .daily, by rw [resetReasons, mode, dailyRead]; rfl, ?_, ?_⟩
      · simp [mem_pushWhen, includesDaily, passed]
      · simp [mem_pushWhen, includesIdle]
  | idle =>
      obtain ⟨idle, idleRead, expired⟩ := idleDue (by rw [mode]; rfl)
      refine ⟨pushWhen idle .idle, by rw [resetReasons, mode, idleRead]; rfl, ?_, ?_⟩
      · simp [mem_pushWhen, includesDaily]
      · simp [mem_pushWhen, includesIdle, expired]
  | both =>
      obtain ⟨idle, idleRead, expired⟩ := idleDue (by rw [mode]; rfl)
      refine ⟨pushWhen idle .idle ++ pushWhen daily .daily,
        by rw [resetReasons, mode, idleRead, dailyRead]; rfl, ?_, ?_⟩
      · simp [mem_pushWhen, includesDaily, passed]
      · simp [mem_pushWhen, includesIdle, expired]

-- What is reported, and that anything is when a reset is asked for.
structure Decides (session : GatewaySession) (now : MissiveTimestamp)
    (made : GatewaySessionResetEvaluation) : Prop where
  clock : made.now = now
  daily : .daily ∈ made.reasons ↔ includesDaily session.resetMode = true ∧ Passed session now
  idle : .idle ∈ made.reasons ↔ includesIdle session.resetMode = true ∧ Expired session now
  reset : made.shouldReset = true ↔ .daily ∈ made.reasons ∨ .idle ∈ made.reasons

theorem evaluate_decides (sound : Sound session) (clock : OnClock now) :
    ∃ made, evaluateSessionReset session now = .ok made ∧ Decides session now made := by
  obtain ⟨reasons, read, daily, idle⟩ := resetReasons_spec sound clock
  refine ⟨_, by rw [evaluateSessionReset, read]; rfl, ⟨rfl, daily, idle, ?_⟩⟩
  cases reasons with
  | nil => simp
  | cons reason rest =>
      cases reason with
      | daily => simp
      | idle => simp

theorem passed_later {later : MissiveTimestamp} (after : now.nanos ≤ later.nanos)
    (passed : Passed session now) : Passed session later := by
  obtain ⟨instant, atHour, since, reached⟩ := passed
  exact ⟨instant, atHour, since, le_trans reached after⟩

theorem expired_later {later : MissiveTimestamp} (after : now.nanos ≤ later.nanos)
    (expired : Expired session now) : Expired session later := by
  obtain ⟨timeout, held, beyond⟩ := expired
  have seconds : now.unixTimestamp ≤ later.unixTimestamp := Int.ediv_le_ediv (by decide) after
  exact ⟨timeout, held, lt_of_lt_of_le beyond (Int.mul_le_mul_of_nonneg_right seconds (by decide))⟩

/-- The decision is exact, it stays once it is made, and both rules together ask for a reset when
one of them does. -/
theorem reset_decision_exact (stored : Stored session) (clock : OnClock now) :
    ∃ made, evaluateSessionReset session now = .ok made ∧ Decides session now made ∧
      (∀ later, OnClock later → now.nanos ≤ later.nanos →
        ∃ next, evaluateSessionReset session later = .ok next ∧
          made.reasons ⊆ next.reasons ∧ (made.shouldReset = true → next.shouldReset = true)) ∧
      (session.resetMode = .both → ∃ idle daily,
        evaluateSessionReset { session with resetMode := .idle } now = .ok idle ∧
        evaluateSessionReset { session with resetMode := .daily } now = .ok daily ∧
        (made.shouldReset = true ↔ idle.shouldReset = true ∨ daily.shouldReset = true)) := by
  have sound := stored_sound stored
  obtain ⟨made, read, decides⟩ := evaluate_decides sound clock
  refine ⟨made, read, decides, ?_, ?_⟩
  · intro later laterClock after
    obtain ⟨next, nextRead, nextDecides⟩ := evaluate_decides sound laterClock
    have kept : made.reasons ⊆ next.reasons := by
      intro reason member
      cases reason with
      | daily =>
          have due := decides.daily.mp member
          exact nextDecides.daily.mpr ⟨due.1, passed_later after due.2⟩
      | idle =>
          have due := decides.idle.mp member
          exact nextDecides.idle.mpr ⟨due.1, expired_later after due.2⟩
    refine ⟨next, nextRead, kept, ?_⟩
    intro asked
    exact nextDecides.reset.mpr ((decides.reset.mp asked).imp (fun due => kept due) fun due => kept due)
  · intro mode
    have timeout := sound.timeout (by rw [mode]; rfl)
    obtain ⟨idle, idleRead, idleDecides⟩ :=
      @evaluate_decides { session with resetMode := .idle } now ⟨sound.hour, fun _ => timeout⟩ clock
    obtain ⟨daily, dailyRead, dailyDecides⟩ :=
      @evaluate_decides { session with resetMode := .daily } now
        ⟨sound.hour, fun _ => timeout⟩ clock
    refine ⟨idle, daily, idleRead, dailyRead, ?_⟩
    rw [decides.reset, idleDecides.reset, dailyDecides.reset, decides.daily, decides.idle,
      idleDecides.daily, idleDecides.idle, dailyDecides.daily, dailyDecides.idle, mode]
    simp only [includesDaily, includesIdle]
    simp [Passed, Expired, dailyReferenceTimestamp, or_comm]

end Decisions

section Nightly

-- Before the epoch, with a reference that is not a whole second.
def nightly : GatewaySession where
  resetMode := .both
  dailyResetHour := 4
  idleTimeoutSeconds := some 60
  lastActiveAt := ⟨-90000500000000⟩
  lastResetAt := none

theorem nightly_reset : ∃ made, evaluateSessionReset nightly ⟨-1⟩ = .ok made ∧
    Decides nightly ⟨-1⟩ made ∧ made.reasons = [.idle, .daily] := by
  have stored : Stored nightly := ⟨rfl, by intro timeout held; cases held; decide⟩
  have clock : OnClock ⟨-1⟩ := ⟨by decide, by decide⟩
  obtain ⟨made, read, decides, _⟩ := reset_decision_exact stored clock
  refine ⟨made, read, decides, ?_⟩
  cases read
  decide

end Nightly

/-! A reset that is recorded. -/

section Recorded

variable {session : GatewaySession} {now recorded later : MissiveTimestamp}

-- A time as it is written: as it was, or in whole seconds as a row holds it.
def RecordedAs (now recorded : MissiveTimestamp) : Prop :=
  recorded = now ∨ recorded = now.toRfc3339.parse

-- No instant of the daily kind comes between.
def BeforeNextBoundary (session : GatewaySession) (now later : MissiveTimestamp) : Prop :=
  ∀ instant, AtHour session.dailyResetHour instant → now.nanos < instant.nanos →
    later.nanos < instant.nanos

def WithinTimeout (session : GatewaySession) (now later : MissiveTimestamp) : Prop :=
  ∀ timeout ∈ session.idleTimeoutSeconds, later.nanos ≤ now.nanos + timeout.toNat * perSecond

theorem recorded_bounds (written : RecordedAs now recorded) :
    recorded.nanos ≤ now.nanos ∧ recorded.unixTimestamp = now.unixTimestamp := by
  rcases written with rfl | rfl
  · exact ⟨le_refl _, rfl⟩
  · simp only [MissiveTimestamp.toRfc3339, SecondTime.parse, MissiveTimestamp.unixTimestamp]
    omega

theorem recorded_not_passed (written : RecordedAs now recorded)
    (before : BeforeNextBoundary session now later)
    (settled : recorded.nanos ≤ (dailyReferenceTimestamp session).nanos) :
    ¬Passed session later := by
  rintro ⟨instant, atHour, since, reached⟩
  have upTo : instant.nanos ≤ now.nanos := by
    by_contra ahead
    exact absurd (before instant atHour (by omega)) (by omega)
  -- The instant is a whole second, so it is not after the second that was recorded.
  have bounds := recorded_bounds written
  rw [AtHour, secondsPerDay, secondsPerHour, perSecond] at atHour
  rw [MissiveTimestamp.unixTimestamp, MissiveTimestamp.unixTimestamp] at bounds
  omega

/-- A recorded reset settles the daily rule. The idle rule looks at the activity alone, and is settled
when that is recorded with it. -/
theorem recorded_reset_settles (stored : Stored session) (written : RecordedAs now recorded)
    (clock : OnClock later) (before : BeforeNextBoundary session now later)
    (within : WithinTimeout session now later) :
    (∃ next, evaluateSessionReset { session with lastResetAt := some recorded } later = .ok next ∧
      (next.shouldReset = true ↔
        includesIdle session.resetMode = true ∧ Expired session later)) ∧
    ∃ next, evaluateSessionReset
        { session with lastResetAt := some recorded, lastActiveAt := recorded } later = .ok next ∧
      next.shouldReset = false := by
  have sound := stored_sound stored
  constructor
  · obtain ⟨next, read, decides⟩ :=
      @evaluate_decides { session with lastResetAt := some recorded } later
        ⟨sound.hour, sound.timeout⟩ clock
    have daily : ¬Passed { session with lastResetAt := some recorded } later :=
      recorded_not_passed written before (le_max_left _ _)
    refine ⟨next, read, ?_⟩
    rw [decides.reset, decides.daily, decides.idle]
    simp only [daily, and_false, false_or]
    exact Iff.rfl
  · obtain ⟨next, read, decides⟩ :=
      @evaluate_decides { session with lastResetAt := some recorded, lastActiveAt := recorded }
        later ⟨sound.hour, sound.timeout⟩ clock
    have daily : ¬Passed
        { session with lastResetAt := some recorded, lastActiveAt := recorded } later :=
      recorded_not_passed written before (le_max_left _ _)
    have idle : ¬Expired
        { session with lastResetAt := some recorded, lastActiveAt := recorded } later := by
      rintro ⟨timeout, held, beyond⟩
      have bounds := recorded_bounds written
      have limit := within timeout held
      rw [MissiveTimestamp.unixTimestamp, MissiveTimestamp.unixTimestamp] at bounds
      rw [MissiveTimestamp.unixTimestamp] at beyond
      rw [perSecond] at beyond limit
      dsimp only at beyond
      omega
    refine ⟨next, read, ?_⟩
    rw [Bool.eq_false_iff]
    intro asked
    rcases decides.reset.mp asked with due | due
    · exact daily (decides.daily.mp due).2
    · exact idle (decides.idle.mp due).2

end Recorded

section Idling

def idling : GatewaySession where
  resetMode := .idle
  dailyResetHour := 0
  idleTimeoutSeconds := some 60
  lastActiveAt := ⟨0⟩
  lastResetAt := none

theorem idling_settles : ∃ next, evaluateSessionReset
    { idling with lastResetAt := some ⟨61000000000⟩, lastActiveAt := ⟨61000000000⟩ }
      ⟨61000000000⟩ = .ok next ∧ next.shouldReset = false := by
  have stored : Stored idling := ⟨rfl, by intro timeout held; cases held; decide⟩
  have clock : OnClock ⟨61000000000⟩ := ⟨by decide, by decide⟩
  have written : RecordedAs ⟨61000000000⟩ ⟨61000000000⟩ := .inl rfl
  have before : BeforeNextBoundary idling ⟨61000000000⟩ ⟨61000000000⟩ := fun _ _ ahead => ahead
  have within : WithinTimeout idling ⟨61000000000⟩ ⟨61000000000⟩ := by
    intro timeout held
    cases held
    decide
  exact (recorded_reset_settles stored written clock before within).2

/-- The idle rule asks again at once. -/
theorem idling_resets_again : Stored idling ∧ OnClock ⟨61000000000⟩ ∧
    (∃ made, evaluateSessionReset idling ⟨61000000000⟩ = .ok made ∧ made.shouldReset = true) ∧
    ∃ next, evaluateSessionReset { idling with lastResetAt := some ⟨61000000000⟩ }
      ⟨61000000000⟩ = .ok next ∧ next.shouldReset = true := by
  refine ⟨⟨rfl, ?_⟩, ⟨by decide, by decide⟩, ⟨_, rfl, rfl⟩, ⟨_, rfl, rfl⟩⟩
  intro timeout held
  cases held
  decide

end Idling

end Missive.SessionResets
