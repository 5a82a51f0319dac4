/-
  ChangeFeed.Listener — who is told of a rebalance.

  A source has one listener.  The listener of a reader remembers the one that
  was installed before it, so listeners form a chain that ends at a foreign
  listener or at nobody.

  Main results:
    * `closed_live` — the walk over closed readers does not end at one.
-/

namespace ChangeFeed

/-- Whoever is told of a rebalance.  A reader's listener comes with the one
    that was installed before it. -/
inductive Listener where
  | nobody
  /-- A listener that is no reader's, by name. -/
  | foreign (name : String)
  /-- The listener of the reader with this serial. -/
  | reader (serial : Nat) (below : Listener)
deriving DecidableEq, Repr, Inhabited

namespace Listener

/-- The serial of the reader that a listener belongs to. -/
def serial? : Listener → Option Nat
  | .reader serial _ => some serial
  | _ => none

/-- The first listener of a chain that is not the listener of a closed
    reader. -/
def live (closed : Nat → Bool) : Listener → Listener
  | .reader serial below =>
    if closed serial then below.live closed else .reader serial below
  | listener => listener

theorem live_of_not_closed {closed : Nat → Bool} {listener : Listener}
    (h : ∀ serial, listener.serial? = some serial → closed serial = false) :
    listener.live closed = listener := by
  cases listener with
  | nobody => rfl
  | foreign name => rfl
  | reader serial below => simp [live, h serial rfl]

theorem closed_live (closed : Nat → Bool) (listener : Listener) (serial : Nat)
    (h : (listener.live closed).serial? = some serial) : closed serial = false := by
  induction listener with
  | nobody => cases h
  | foreign name => cases h
  | reader s below ih =>
    by_cases hs : closed s = true
    · exact ih (by simpa [live, hs] using h)
    · simp only [live, hs] at h
      cases h
      simpa using hs

end Listener

end ChangeFeed
