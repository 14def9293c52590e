import Conveyor.Scenario.Pipeline
import Conveyor.Scenario.Loaders
import Conveyor.Pipeline.Compile
import Conveyor.Engine.Local
/-!
# Compile scenarios

A compile scenario gives files by their paths under the directory written `$DIR`, the path of
the pipeline file among them (`pipeline.yml` by default), and the environment. The pipeline is
compiled and, when asked, run over its in-memory log on the simulated clock, with the console
sinks' lines captured.

The answer is the compile fault; for a compiled pipeline, the run's fault and the observed
messages when it ran, the runner's snapshot, health, status and close fault; and the captured
lines, sorted when asked.
-/

namespace Conveyor.Scenario

open Conveyor.Json Conveyor.Config Pipeline

/-- What reading a path gives among files under `$DIR`: a file's text, a directory for `$DIR`
and every directory a file lies in, and nothing elsewhere. -/
def filesRead (files : List (String × String)) (path : String) : FileRead :=
  if path.isEmpty then .missing else
  let p := cleanPath path
  match files.find? (fun (rel, _) => joinPath settingsDir rel == p) with
  | some (_, text) => .text text
  | none =>
    if p == settingsDir || files.any (fun (rel, _) => (joinPath settingsDir rel).startsWith (p ++ "/")) then
      .directory
    else .missing

/-- **A compile scenario.** -/
def compileScenario (j : Json) : Json :=
  let files := ((j.get? "files").map Json.members).getD [] |>.filterMap fun (k, v) => v.str?.map (k, ·)
  let path := joinPath settingsDir (str j "pipeline" "pipeline.yml")
  match compile { read := filesRead files, env := envOf j } path with
  | .error f => Json.obj [("compile_err", faultJson (some f)), ("stdout", .array [])]
  | .ok c =>
    let w := Engine.Local.start c clockStart (drawsOf j)
    let ran := flag j "run"
    let e : Engine.LocalEnd := if ran then Engine.runLocal c w
      else { fault := none, runner := c.runner, log := c.source.log, process := w }
    let observed := e.process.observed.mergeSort fun a b =>
      decide (a.record.partition < b.record.partition ∨
        (a.record.partition = b.record.partition ∧ a.record.offset ≤ b.record.offset))
    let snap := e.runner.snapshot
    let status := Engine.Status.of none snap e.runner.dispatcher.coordinator.snapshot
    let lines := e.process.outputLines
    let lines := if flag j "sort_lines" then lines.mergeSort fun a b => decide (a ≤ b) else lines
    let runParts := if ran then
        [("run_err", faultJson e.fault), ("observed", Json.list observationJson observed)]
      else []
    Json.obj ([("compile_err", .null)] ++ runParts ++
      [("snapshot", Json.list stageStatusJson snap), ("health_err", .null), ("status", status.json),
       ("close_err", faultJson e.closeFault), ("stdout", Json.list Json.text lines)])

end Conveyor.Scenario
