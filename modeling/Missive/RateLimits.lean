import Missive.FixedWindows
import Missive.HttpControl

/-! The rate limiter of the HTTP adapter, over any requests in the order of their readings of the
clock. The mutex lets one request in at a time. -/
namespace Missive.RateLimits

open HttpControl FixedWindows

/-- `Duration::from_secs(60)`. -/
def minute : Nat := 60 * 1000000000

theorem minute_pos : 0 < minute := by simp [minute]

structure HttpRateLimiter where
  limitPerMinute : Nat
  window : HttpRateWindow

def HttpRateLimiter.new (limitPerMinute now : Nat) : HttpRateLimiter :=
  ⟨limitPerMinute, now, 0⟩

def HttpRateLimiter.tryAcquire (limiter : HttpRateLimiter) (request : Arrival) :
    Bool × HttpRateLimiter :=
  let acquired := limiter.window.tryAcquire limiter.limitPerMinute request.now request.restart
  (acquired.1, { limiter with window := acquired.2 })

-- The last reading of the clock that the limiter makes for a request.
def HttpRateLimiter.time (limiter : HttpRateLimiter) (request : Arrival) : Nat :=
  if request.now - limiter.window.startedAt ≥ minute then request.restart else request.now

/-- The limiter, and the times of the requests it granted. -/
structure Served where
  limiter : HttpRateLimiter
  grants : List Nat

def Served.next (served : Served) (request : Arrival) : Served :=
  let acquired := served.limiter.tryAcquire request
  ⟨acquired.2, if acquired.1 then served.grants ++ [served.limiter.time request] else served.grants⟩

def Served.run (served : Served) (requests : List Arrival) : Served :=
  requests.foldl Served.next served

/-! The limiter is one of fixed windows. -/

def windowOf (window : HttpRateWindow) : Window := ⟨window.startedAt, window.count⟩

def Served.ledger (served : Served) : Ledger := ⟨windowOf served.limiter.window, served.grants⟩

theorem tryAcquire_acquires (limiter : HttpRateLimiter) (request : Arrival) :
    (windowOf limiter.window).acquire minute limiter.limitPerMinute request =
      ((limiter.tryAcquire request).1, windowOf (limiter.tryAcquire request).2.window) := by
  simp only [HttpRateLimiter.tryAcquire, HttpRateWindow.tryAcquire, Window.acquire, Window.renewed,
    windowOf, minute, ge_iff_le]
  by_cases aged : 60 * 1000000000 ≤ request.now - limiter.window.startedAt
  · by_cases full : limiter.limitPerMinute ≤ 0 <;> simp only [aged, full, if_true, if_false]
  · by_cases full : limiter.limitPerMinute ≤ limiter.window.count <;>
      simp only [aged, full, if_true, if_false]

theorem Served.time_ledger (served : Served) (request : Arrival) :
    served.ledger.window.time minute request = served.limiter.time request := rfl

theorem next_ledger (served : Served) (request : Arrival) :
    (served.next request).ledger =
      served.ledger.next minute served.limiter.limitPerMinute request := by
  rw [Ledger.next, Served.ledger, Served.ledger, tryAcquire_acquires]
  rfl

theorem run_ledger (served : Served) (requests : List Arrival) :
    (served.run requests).limiter.limitPerMinute = served.limiter.limitPerMinute ∧
    (served.run requests).ledger =
      served.ledger.run minute served.limiter.limitPerMinute requests := by
  induction requests generalizing served with
  | nil => exact ⟨rfl, rfl⟩
  | cons request rest ih =>
      have later := ih (served.next request)
      rw [next_ledger] at later
      exact later

/-- The limiter refuses only while as many requests as its limit were granted less than a minute
before; in any closed interval it grants at most its limit for each full minute and twice more; and
its counter stays within the limit. -/
theorem rate_limits_bounded (limitPerMinute created : Nat) (requests : List Arrival)
    (ordered : InOrder created requests) :
    let served := Served.run ⟨.new limitPerMinute created, []⟩ requests
    (∀ request, InOrder created (requests ++ [request]) →
      (served.limiter.tryAcquire request).1 = false →
      limitPerMinute ≤ grantedWithin (served.limiter.time request + 1 - minute)
        (served.limiter.time request) served.grants) ∧
    (∀ first span, grantedWithin first (first + span) served.grants ≤
      limitPerMinute * (span / minute + 2)) ∧
    served.limiter.window.count ≤ limitPerMinute := by
  intro served
  have positive := minute_pos
  have started : Kept minute limitPerMinute created ⟨⟨created, 0⟩, []⟩ := .start created
  have kept := started.run positive requests ordered
  obtain ⟨same, reached⟩ := run_ledger ⟨.new limitPerMinute created, []⟩ requests
  have kept : Kept minute limitPerMinute (lastReading created requests) served.ledger :=
    reached ▸ kept
  refine ⟨fun request following refused => ?_, fun first span => ?_, kept.counted⟩
  · have later := ((inOrder_append created requests request).mp following).2.1
    have acquired := tryAcquire_acquires served.limiter request
    rw [show served.limiter.limitPerMinute = limitPerMinute from same] at acquired
    have refused : (served.ledger.window.acquire minute limitPerMinute request).1 = false :=
      (congrArg Prod.fst acquired).trans refused
    exact served.time_ledger request ▸ kept.refused positive later refused
  · exact (kept.bounded first span).trans (allowance_le _ kept.counted first span)

theorem second_request_refused :
    (HttpRateLimiter.tryAcquire (Served.run ⟨.new 1 0, []⟩ [⟨5, 5⟩]).limiter ⟨6, 6⟩).1 = false ∧
    1 ≤ grantedWithin (6 + 1 - minute) 6 [5] := by
  have refused : (HttpRateLimiter.tryAcquire (Served.run ⟨.new 1 0, []⟩ [⟨5, 5⟩]).limiter
      ⟨6, 6⟩).1 = false := by decide
  have ordered : InOrder 0 [⟨5, 5⟩] := ⟨by decide, by decide, trivial⟩
  have following : InOrder 0 ([⟨5, 5⟩] ++ [⟨6, 6⟩]) :=
    ⟨by decide, by decide, by decide, by decide, trivial⟩
  exact ⟨refused, (rate_limits_bounded 1 0 [⟨5, 5⟩] ordered).1 ⟨6, 6⟩ following refused⟩

end Missive.RateLimits
