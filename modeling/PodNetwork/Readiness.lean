import PodNetwork.Site

/-! Waiting until pods are ready, for a bounded time.

Pods are listed at the end of every interval and last at the deadline, so that even a timeout
shorter than the interval has one listing. -/
namespace PodNetwork.Readiness

/-- The time between two listings, in milliseconds. -/
def defaultInterval : Nat := 10000

/-- Whether a listing shows at least one pod and only ready ones. A listing that failed shows
nothing. -/
def isReady (listing : Listing) : Bool :=
  match listing.pods with
  | .ok pods => !pods.isEmpty && pods.all Pod.ready
  | .error _ => false

/-- Waits from a given time on, all times being counted from the start of the wait. The first
argument bounds the number of listings. -/
def waitFrom (ns selector : String) (timeout interval : Nat) : Nat → Nat → Routine Unit
  | 0, _ => throw (.notReady ns selector timeout)
  | fuel + 1, now => do
    let next := min (now + interval) timeout
    Site.pause (next - now)
    let listing ← Site.listPods ns selector
    if isReady listing then return
    if timeout ≤ next then throw (.notReady ns selector timeout)
    waitFrom ns selector timeout interval fuel (max now next + listing.took)

/-- Waits for the pods of a namespace that match a selector, all pods for the empty one. -/
def wait (ns selector : String) (timeout interval : Nat) : Routine Unit :=
  waitFrom ns selector timeout interval (timeout + 1) 0

end PodNetwork.Readiness
