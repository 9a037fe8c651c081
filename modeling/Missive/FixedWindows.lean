import Mathlib.Algebra.Order.Ring.Nat
import Mathlib.Data.List.Basic
import Mathlib.Tactic.Linarith

/-! A limiter of fixed windows. A window starts with the first request that comes after the last
one has run its length, and grants as many requests as the limit says. -/
namespace Missive.FixedWindows

structure Window where
  startedAt : Nat
  count : Nat

-- The clock is read when the request comes, and once more where a window starts.
structure Arrival where
  now : Nat
  restart : Nat

-- The window of the last request, and when each request was granted.
structure Ledger where
  window : Window
  grants : List Nat

section Limiter

variable (length limit : Nat)

def Window.renewed (window : Window) (arrival : Arrival) : Window :=
  if length ≤ arrival.now - window.startedAt then ⟨arrival.restart, 0⟩ else window

-- A request counts at the last reading made for it.
def Window.time (window : Window) (arrival : Arrival) : Nat :=
  if length ≤ arrival.now - window.startedAt then arrival.restart else arrival.now

def Window.acquire (window : Window) (arrival : Arrival) : Bool × Window :=
  let current := window.renewed length arrival
  if limit ≤ current.count then (false, current)
  else (true, { current with count := current.count + 1 })

def Ledger.next (ledger : Ledger) (arrival : Arrival) : Ledger :=
  let acquired := ledger.window.acquire length limit arrival
  ⟨acquired.2, if acquired.1 then ledger.grants ++ [ledger.window.time length arrival]
    else ledger.grants⟩

def Ledger.run (ledger : Ledger) (arrivals : List Arrival) : Ledger :=
  arrivals.foldl (Ledger.next length limit) ledger

end Limiter

def InOrder : Nat → List Arrival → Prop
  | _, [] => True
  | last, arrival :: rest =>
      last ≤ arrival.now ∧ arrival.now ≤ arrival.restart ∧ InOrder arrival.restart rest

/-- The last reading of the clock. -/
def lastReading (last : Nat) (arrivals : List Arrival) : Nat :=
  arrivals.foldl (fun _ arrival => arrival.restart) last

theorem inOrder_append (last : Nat) (arrivals : List Arrival) (arrival : Arrival) :
    InOrder last (arrivals ++ [arrival]) ↔ InOrder last arrivals ∧
      lastReading last arrivals ≤ arrival.now ∧ arrival.now ≤ arrival.restart := by
  induction arrivals generalizing last with
  | nil => simp [InOrder, lastReading]
  | cons first rest ih => simp [InOrder, ih, lastReading, and_assoc]

def grantedWithin (first last : Nat) (grants : List Nat) : Nat :=
  (grants.filter fun time => first ≤ time && time ≤ last).length

theorem grantedWithin_append (first last : Nat) (grants : List Nat) (time : Nat) :
    grantedWithin first last (grants ++ [time]) =
      grantedWithin first last grants + if first ≤ time ∧ time ≤ last then 1 else 0 := by
  by_cases inside : first ≤ time ∧ time ≤ last <;> simp [grantedWithin, inside]

/-! What a run keeps. -/

variable {length limit : Nat}

/-- The bound on the requests granted in an interval: those of the windows that start in it, one
window before it, and the open window where it starts in or before the interval. -/
def allowance (length limit : Nat) (window : Window) (first span : Nat) : Nat :=
  if first + span < window.startedAt then limit * (span / length + 2)
  else if window.startedAt < first then window.count
  else limit * ((window.startedAt - first) / length + 1) + window.count

structure Kept (length limit last : Nat) (ledger : Ledger) : Prop where
  started : ledger.window.startedAt ≤ last
  granted : ∀ time ∈ ledger.grants, time ≤ last
  counted : ledger.window.count ≤ limit
  open_ : ledger.window.count ≤ grantedWithin ledger.window.startedAt last ledger.grants
  bounded : ∀ first span, grantedWithin first (first + span) ledger.grants ≤
    allowance length limit ledger.window first span

theorem allowance_le (window : Window) (counted : window.count ≤ limit) (first span : Nat) :
    allowance length limit window first span ≤ limit * (span / length + 2) := by
  rw [allowance]
  split_ifs with before after
  · exact le_rfl
  · calc window.count ≤ limit * 1 := by omega
      _ ≤ limit * (span / length + 2) := Nat.mul_le_mul_left _ (Nat.le_add_left 1 _)
  · have inside : (window.startedAt - first) / length ≤ span / length :=
      Nat.div_le_div_right (by omega)
    calc limit * ((window.startedAt - first) / length + 1) + window.count
        ≤ limit * ((window.startedAt - first) / length + 1) + limit := by omega
      _ = limit * ((window.startedAt - first) / length + 2) := by rw [← Nat.mul_succ]
      _ ≤ limit * (span / length + 2) := Nat.mul_le_mul_left _ (by omega)

theorem grantedWithin_none (first last bound : Nat) (grants : List Nat)
    (granted : ∀ time ∈ grants, time ≤ bound) (apart : bound < first) :
    grantedWithin first last grants = 0 := by
  rw [grantedWithin, List.length_eq_zero_iff, List.filter_eq_nil_iff]
  intro time member
  have early := granted time member
  simp
  omega

theorem grantedWithin_le (first last first' last' : Nat) (grants : List Nat)
    (lower : first' ≤ first) (upper : last ≤ last') :
    grantedWithin first last grants ≤ grantedWithin first' last' grants := by
  rw [grantedWithin, grantedWithin, ← List.countP_eq_length_filter,
    ← List.countP_eq_length_filter]
  refine List.countP_mono_left fun time _ inside => ?_
  simp only [Bool.and_eq_true, decide_eq_true_eq] at inside ⊢
  omega

theorem Kept.later {last next : Nat} {ledger : Ledger} (kept : Kept length limit last ledger)
    (ordered : last ≤ next) : Kept length limit next ledger where
  started := kept.started.trans ordered
  granted time member := (kept.granted time member).trans ordered
  counted := kept.counted
  open_ := kept.open_.trans (grantedWithin_le _ _ _ _ _ le_rfl ordered)
  bounded := kept.bounded

theorem Kept.start (created : Nat) : Kept length limit created ⟨⟨created, 0⟩, []⟩ where
  started := le_rfl
  granted := by simp
  counted := Nat.zero_le _
  open_ := Nat.zero_le _
  bounded _ _ := Nat.zero_le _

/-- A window that starts anew leaves every window before it at most the limit. -/
theorem Kept.anew {last restart : Nat} {ledger : Ledger} (positive : 0 < length)
    (kept : Kept length limit last ledger) (ordered : last ≤ restart)
    (aged : ledger.window.startedAt + length ≤ restart) :
    Kept length limit restart { ledger with window := ⟨restart, 0⟩ } where
  started := le_rfl
  granted time member := (kept.granted time member).trans ordered
  counted := Nat.zero_le _
  open_ := Nat.zero_le _
  bounded first span := by
    have bound := kept.bounded first span
    rw [allowance]
    split_ifs with before after
    · exact bound.trans (allowance_le ledger.window kept.counted first span)
    · exact (grantedWithin_none first _ last ledger.grants kept.granted
        (ordered.trans_lt after)).le
    · refine bound.trans ?_
      dsimp only at before after ⊢
      rw [allowance, if_neg (by omega)]
      have counted := kept.counted
      split_ifs with earlier
      · calc ledger.window.count ≤ limit * 1 := by omega
          _ ≤ limit * ((restart - first) / length + 1) :=
            Nat.mul_le_mul_left _ (Nat.le_add_left 1 _)
      · have apart : (ledger.window.startedAt - first) / length + 1 ≤ (restart - first) / length := by
          rw [← Nat.add_div_right _ positive]
          exact Nat.div_le_div_right (by omega)
        calc limit * ((ledger.window.startedAt - first) / length + 1) + ledger.window.count
            ≤ limit * ((ledger.window.startedAt - first) / length + 1) + limit := by omega
          _ = limit * ((ledger.window.startedAt - first) / length + 1 + 1) := by
            rw [← Nat.mul_succ]
          _ ≤ limit * ((restart - first) / length + 1) :=
            Nat.mul_le_mul_left _ (Nat.succ_le_succ apart)

/-- A grant counts once in the open window and once in every interval that holds it. -/
theorem Kept.grant {time : Nat} {ledger : Ledger} (kept : Kept length limit time ledger)
    (room : ledger.window.count < limit) :
    Kept length limit time
      ⟨{ ledger.window with count := ledger.window.count + 1 }, ledger.grants ++ [time]⟩ where
  started := kept.started
  granted other member := by
    rcases List.mem_append.mp member with earlier | same
    · exact kept.granted other earlier
    · exact (List.mem_singleton.mp same).le
  counted := room
  open_ := by
    rw [grantedWithin_append, if_pos ⟨kept.started, le_rfl⟩]
    exact Nat.succ_le_succ kept.open_
  bounded first span := by
    have bound := kept.bounded first span
    have started := kept.started
    rw [grantedWithin_append]
    rw [allowance] at bound ⊢
    dsimp only
    split_ifs at bound ⊢ <;> omega

theorem Kept.next {last : Nat} {ledger : Ledger} {arrival : Arrival} (positive : 0 < length)
    (kept : Kept length limit last ledger) (ordered : last ≤ arrival.now)
    (restarted : arrival.now ≤ arrival.restart) :
    Kept length limit (ledger.window.time length arrival)
      (ledger.next length limit arrival) := by
  have renewed : Kept length limit (ledger.window.time length arrival)
      { ledger with window := ledger.window.renewed length arrival } := by
    have started := kept.started
    simp only [Window.time, Window.renewed]
    split_ifs with aged
    · exact kept.anew positive (ordered.trans restarted) (by omega)
    · exact kept.later ordered
  by_cases full : limit ≤ (ledger.window.renewed length arrival).count
  · simpa [Ledger.next, Window.acquire, full] using renewed
  · simpa [Ledger.next, Window.acquire, full] using renewed.grant (not_le.mp full)

theorem Window.time_le (window : Window) (arrival : Arrival)
    (restarted : arrival.now ≤ arrival.restart) :
    window.time length arrival ≤ arrival.restart := by
  rw [Window.time]
  split_ifs
  · exact le_rfl
  · exact restarted

/-- Every run of requests in order keeps the bounds. -/
theorem Kept.run {last : Nat} {ledger : Ledger} (positive : 0 < length)
    (kept : Kept length limit last ledger) (arrivals : List Arrival)
    (ordered : InOrder last arrivals) :
    Kept length limit (lastReading last arrivals) (ledger.run length limit arrivals) := by
  induction arrivals generalizing last ledger with
  | nil => exact kept
  | cons arrival rest ih =>
      have stepped := (kept.next positive ordered.1 ordered.2.1).later
        (ledger.window.time_le arrival ordered.2.1)
      exact ih stepped ordered.2.2

/-- A refused request comes while the open window is full, and so after as many grants as the limit
says, all of them made less than a window's length before. -/
theorem Kept.refused {last : Nat} {ledger : Ledger} {arrival : Arrival} (positive : 0 < length)
    (kept : Kept length limit last ledger) (ordered : last ≤ arrival.now)
    (refused : (ledger.window.acquire length limit arrival).1 = false) :
    limit ≤ grantedWithin (ledger.window.time length arrival + 1 - length)
      (ledger.window.time length arrival) ledger.grants := by
  simp only [Window.acquire, Window.renewed, Window.time] at refused ⊢
  split_ifs at refused ⊢ with aged full full
  · exact full.trans (Nat.zero_le _)
  · exact full.trans (kept.open_.trans (grantedWithin_le _ _ _ _ _ (by omega) ordered))

end Missive.FixedWindows
