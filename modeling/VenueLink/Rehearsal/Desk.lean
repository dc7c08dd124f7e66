import VenueLink.Desk.CancelRun
import VenueLink.Desk.Push
import VenueLink.Rehearsal.Venue

/-!
# Rehearsing the desk

A desk that works against a scripted venue under a clock that stands still apart from the
time that answers take.
-/

namespace VenueLink.Rehearsal

/-- A desk in a scene. -/
structure DeskScene where
  desk : Desk
  scene : Scene
  /-- The date on the clock. -/
  clock : Moment

namespace DeskScene

/-- Let a routine work at the desk. -/
def perform {α : Type} (x : DeskScene) (m : Routine Desk α) : Option α × DeskScene :=
  let (result?, desk, scene) := play x.clock none m x.desk x.scene
  (result?, { x with desk, scene })

/-- The waits that a cancel run of so many orders can need at most: the searches before the
bulk requests are over, and each order needs two listings and a cancel. -/
def waits (orders : Nat) : Nat := 4 * orders + 4

/-- Cancel some orders within a time. -/
def cancelOrders (p : Policy) (orders : List Order) (timeoutMs : Nat) (x : DeskScene) :
    CancelReport × DeskScene :=
  if orders.isEmpty then ({}, x)
  else
    let deadline? := some (x.scene.nowMs + timeoutMs)
    let (left?, run, scene) :=
      play x.clock deadline? (CancelRun.bulkPart p orders) (.start x.desk orders) x.scene
    let (run, scene) := match left? with
      | none => (run, scene)
      | some left =>
        playTogether x.clock deadline? (waits orders.length)
          (left.map (CancelRun.singlePart p)) run scene
    let (report, desk) := run.finish
    (report, { x with desk, scene })

/-- Cancel every resting order within a time. -/
def cancelAll (p : Policy) (timeoutMs : Nat) (x : DeskScene) : CancelReport × DeskScene :=
  cancelOrders p x.desk.book.resting timeoutMs x

end DeskScene

end VenueLink.Rehearsal
