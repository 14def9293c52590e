import Conveyor.Scenario.Codec
import Conveyor.Control.Plane
/-!
# Control plane scenarios

A control scenario serves a snapshot function (a given map, a given failure, or none at all)
and asks for the snapshot once; it sets the serving status in turn and asks after each, and
once more with a cancelled request when asked. A scenario may instead only make a client for a
target, or close the listener before serving, which fails serving at once.
-/

namespace Conveyor.Scenario

open Conveyor.Json

/-- The type of the value that no encoding carries. -/
def foreignType : String := "chan int"

/-- One answer of the health service. -/
def servingJson (r : Except Fault Bool) : Json :=
  match r with
  | .ok b => Json.obj [("serving", .bool b), ("err", .null)]
  | .error f => Json.obj [("serving", .bool false), ("err", faultJson (some f))]

/-- The snapshot function a scenario describes. -/
def snapshotOf (j : Json) : Option (Except String Control.Snapshot) :=
  if flag j "no_snapshot" then none
  else if j.has "snapshot_err" then some (.error (str j "snapshot_err"))
  else
    let fields := match j.get? "snapshot" with
      | some (.object ms) => ms
      | _ => []
    some (.ok { fields, foreign := if flag j "unencodable" then some ("bad", foreignType) else none })

/-- A control scenario. -/
def controlScenario (j : Json) : Json :=
  if j.has "bad_target" then Json.obj [("err", faultJson (Control.dial (str j "bad_target")))]
  else if flag j "close_listener" then Json.obj [("serve_err", faultJson (some (.text "closed")))]
  else
    let (serving, health) := (list j "serving").foldl
      (fun (acc : List Json × Control.Health) b =>
        let h : Control.Health := { serving := (b.bool?).getD false }
        (acc.1 ++ [servingJson (h.check false)], h))
      ([servingJson (({} : Control.Health).check false)], {})
    let cancelled := if flag j "serving_cancelled" then
        [("serving_cancelled", servingJson (health.check true))] else []
    let (snapshot, err) := match Control.snapshotReply (snapshotOf j) with
      | .ok s => (s, none)
      | .error f => (.null, some f)
    Json.obj ([("addr", Json.text "bufconn"), ("serving", .array serving)] ++ cancelled ++
      [("snapshot", snapshot), ("snapshot_err", faultJson err), ("close_err", .null),
       ("serve_err", .null)])

end Conveyor.Scenario
