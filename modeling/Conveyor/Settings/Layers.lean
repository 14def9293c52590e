import Conveyor.Yaml.Shape
import Conveyor.Text.Case
/-!
# Layered settings

Settings are a tree of named values built from layers: first a YAML file, whose top level
must be a mapping, then environment variables. Each later layer is merged into the tree: a
new key is added, two mappings under one key are merged key by key, and anything else is
replaced by the later value.

An environment variable takes part when its name starts with the layer's prefix. The rest of
its name, in lower case and with each `__` read as a level separator, names the setting:
`KAFKABASIC_KAFKA__TOPIC_ADMIN__PARTITIONS=6` sets `topic_admin.partitions` to the string
`6`. A name that is empty after the prefix is left out.
-/

namespace Conveyor.Settings

open Conveyor.Yaml

/-- The settings tree: the top-level keys and their values. -/
abbrev Tree := List (String × Datum)

/-- **Merging a layer into a tree**: new keys are added at the end, mappings met under one
key are merged, and other values are replaced. -/
def merge : Nat → Tree → Tree → Tree
  | 0, _, dst => dst
  | fuel + 1, src, dst =>
    src.foldl (fun dst (key, v) =>
      match dst.lookup key, v with
      | none, _ => dst ++ [(key, v)]
      | some (.map old), .map new => Datum.setEntry dst key (.map (merge fuel new old))
      | some _, _ => Datum.setEntry dst key v) dst

/-- Puts a value at a path of keys. Where a key on the way holds something other than a
mapping, the rest of the path continues at that level. -/
def insertPath (m : Tree) (v : Datum) : List String → Tree
  | [] => m
  | [last] => Datum.setEntry m last v
  | p :: rest =>
    match m.lookup p with
    | none => Datum.setEntry m p (.map (insertPath [] v rest))
    | some (.map sub) => Datum.setEntry m p (.map (insertPath sub v rest))
    | some _ => insertPath m v rest

/-- **Unflattening**: dotted names become nested mappings. -/
def unflatten (flat : List (String × Datum)) : Tree :=
  flat.foldl (fun m (k, v) => insertPath m v (k.splitOn ".")) []

/-- Replaces every `__` by `.`. -/
def levels (s : String) : String := ".".intercalate (s.splitOn "__")

/-- **The environment layer** for a prefix. -/
def envLayer (pfx : String) (env : List (String × String)) : Tree :=
  let named := env.filterMap fun (name, value) =>
    if name.startsWith pfx then
      let key := levels (Text.lowerText (String.ofList (name.toList.drop pfx.length)))
      if key.isEmpty then none else some (key, Datum.str value)
    else none
  unflatten named

/-- Reads the YAML layer: the top level must be a mapping; an empty document adds nothing. -/
def yamlLayer (text : String) : Except String Tree :=
  match readText text (.dict "map[string]interface \x7b\x7d" .any) .null with
  | .error e => .error e
  | .ok (_, msgs@(_ :: _)) => .error (misfitsMessage msgs)
  | .ok (.map entries, []) => .ok entries
  | .ok (_, []) => .ok []

/-- The text of a top-level setting, as a general text; empty when absent or null. -/
def Tree.text (t : Tree) (key : String) : String :=
  match t.lookup key with
  | none | some .null => ""
  | some (.str s) => s
  | some d => d.text

end Conveyor.Settings
