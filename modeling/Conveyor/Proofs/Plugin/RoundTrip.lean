import Conveyor.Proofs.Text.Lossy
import Conveyor.Proofs.Decimal.ReadBack
import Conveyor.Proofs.Plugin.Status
/-!
# Processing a record through a plugin

A call to a plugin carries a record's position and attempts as text, its key's bytes and its
value; the serving side rebuilds a record from them, processes it, and answers with the
output, the route and whether the record was filtered. Over a transport that delivers what it
is given, this agrees with processing the record in place:

* the serving side sees the record's topic, partition, offset, attempts, key and value, and
  nothing else (`recordOf_callOf`), provided the topic is printable ASCII, so that the call
  passes its own metadata check (`metadataProblem_callOf`), and each number fits the width the
  serving side reads it in;
* the caller gets the filtered failure exactly when the processor filtered the record, and
  otherwise the processor's output, with the route it picked when it picked one
  (`plugin_round_trip`).

The numbers come back by `Decimal.readInteger_toString` and the texts by
`Utf8.lossy_toUTF8`; everything else is reading the metadata the call was built with
(`values_callOf`).
-/

namespace Conveyor.Plugin

/-- A text every character of which is printable ASCII, space to tilde. -/
def printableAscii (s : String) : Bool :=
  s.toList.all fun c => 0x20 ≤ c.toNat && c.toNat ≤ 0x7E

/-- What of a record a call carries: its position, key, value and attempts, with an empty
value carried as none. Everything else keeps its default. -/
def wireImage (m : Record) : Record :=
  { topic := m.topic, partition := m.partition, offset := m.offset, key := m.key,
    value := carried m.value, attempts := m.attempts }

/-! ### Printable text -/

theorem printable_toDigits (n : Nat) :
    (Nat.toDigits 10 n).all (fun c => 0x20 ≤ c.toNat && c.toNat ≤ 0x7E) = true := by
  rw [List.all_eq_true]
  intro c hc
  have hd := Char.isDigit_iff_toNat.1 (Nat.isDigit_of_mem_toDigits (by decide) (by decide) hc)
  simp only [Char.reduceToNat] at hd
  simp only [Bool.and_eq_true, decide_eq_true_eq]
  omega

/-- A number's decimal text is printable: digits, after a minus sign when it is negative. -/
theorem printable_toString (i : Int) : printableAscii (toString i) = true := by
  rw [Int.toString_eq_repr, Int.repr_eq_if]
  split
  · simpa [printableAscii, Nat.repr_eq_ofList_toDigits] using printable_toDigits i.toNat
  · simpa [printableAscii, Nat.repr_eq_ofList_toDigits] using printable_toDigits (-i).toNat

/-- The bytes of a printable text are all printable: each character is one byte, its own
code. -/
theorem toUTF8_printable {s : String} (h : printableAscii s = true) :
    s.toUTF8.data.any (fun b => b < 0x20 || b > 0x7E) = false := by
  rw [String.toUTF8_eq_toByteArray, ← String.utf8Encode_toList, List.utf8Encode,
    List.data_toByteArray, List.any_toArray, List.any_flatMap, List.any_eq_false]
  intro c hc
  have hp : 0x20 ≤ c.toNat ∧ c.toNat ≤ 0x7E := by
    simpa using List.all_eq_true.1 h c hc
  have e : String.utf8EncodeChar c = [UInt8.ofNat c.toNat] := by
    simp [String.utf8EncodeChar, (by omega : c.toNat ≤ 0x7f)]
  rw [e]
  simp [UInt8.lt_iff_toNat_lt, Nat.mod_eq_of_lt (by omega : c.toNat < 256)]
  omega

/-! ### The metadata check -/

/-- Metadata passes its check when every key passes with its values: the check looks at each
key once, in order, and nothing else. -/
theorem metadataProblem_eq_none {md : Metadata}
    (h : ∀ k ∈ md.map (·.1), keyProblem k (md.values k) = none) :
    metadataProblem md = none := by
  unfold metadataProblem
  rw [List.findSome?_eq_none_iff]
  intro k hk
  rw [List.mem_mergeSort] at hk
  exact h k (List.mem_eraseDups.1 hk)

/-- A key that passes with no values passes with the bytes of a printable text. -/
theorem keyProblem_printable {key s : String} (hkey : keyProblem key [] = none)
    (hs : printableAscii s = true) : keyProblem key [s.toUTF8] = none := by
  simp only [keyProblem, List.any_cons, List.any_nil, toUTF8_printable hs, Bool.or_false,
    Bool.false_eq_true, if_false] at hkey ⊢
  exact hkey

/-- The key's bytes are never looked at: their key ends in `-bin`. -/
theorem keyProblem_keyKey (vals : List ByteArray) : keyProblem keyKey vals = none := by
  have hbin : keyKey.endsWith "-bin" = true := by decide +kernel
  unfold keyProblem
  rw [if_neg (by simp [keyKey]), if_neg (by simp [keyKey]), if_pos hbin]

/-- **What a call carries under each key**: one text for each of the four fields, and the
key's bytes when the record has a key. -/
theorem values_callOf (m : Record) (k : String) :
    (callOf m).metadata.values k =
      if k = topicKey then [m.topic.toUTF8]
      else if k = partitionKey then [(toString m.partition).toUTF8]
      else if k = offsetKey then [(toString m.offset).toUTF8]
      else if k = attemptKey then [(toString m.attempts).toUTF8]
      else if k = keyKey then (m.key.map fun v => [v]).getD []
      else [] := by
  -- the five keys are distinct, so each pair of the call is found under its own key only
  have hne : [topicKey, partitionKey, offsetKey, attemptKey, keyKey].Nodup := by decide
  simp only [List.nodup_cons, List.mem_cons, List.not_mem_nil] at hne
  cases hk : m.key <;>
    simp only [callOf, Metadata.values, hk, Option.map_none, Option.map_some, Option.getD_none,
      Option.getD_some, List.append_nil, List.cons_append, List.nil_append, List.filter_cons,
      List.filter_nil, beq_iff_eq] <;>
    grind

theorem values_topic (m : Record) : (callOf m).metadata.values topicKey = [m.topic.toUTF8] := by
  rw [values_callOf, if_pos rfl]

theorem values_partition (m : Record) :
    (callOf m).metadata.values partitionKey = [(toString m.partition).toUTF8] := by
  rw [values_callOf, if_neg (by decide), if_pos rfl]

theorem values_offset (m : Record) :
    (callOf m).metadata.values offsetKey = [(toString m.offset).toUTF8] := by
  rw [values_callOf, if_neg (by decide), if_neg (by decide), if_pos rfl]

theorem values_attempts (m : Record) :
    (callOf m).metadata.values attemptKey = [(toString m.attempts).toUTF8] := by
  rw [values_callOf, if_neg (by decide), if_neg (by decide), if_neg (by decide), if_pos rfl]

theorem values_key (m : Record) :
    (callOf m).metadata.values keyKey = (m.key.map fun v => [v]).getD [] := by
  rw [values_callOf, if_neg (by decide), if_neg (by decide), if_neg (by decide),
    if_neg (by decide), if_pos rfl]

/-- **A call leaves** when the record's topic is printable: the numbers are, and the key's
bytes are not checked. -/
theorem metadataProblem_callOf {m : Record} (ht : printableAscii m.topic = true) :
    metadataProblem (callOf m).metadata = none := by
  apply metadataProblem_eq_none
  intro k hk
  have hkeys :
      k = topicKey ∨ k = partitionKey ∨ k = offsetKey ∨ k = attemptKey ∨ k = keyKey := by
    cases hkey : m.key <;> simp [callOf, hkey] at hk <;> grind
  rcases hkeys with rfl | rfl | rfl | rfl | rfl
  · rw [values_topic]
    exact keyProblem_printable (by simp [keyProblem, topicKey]) ht
  · rw [values_partition]
    exact keyProblem_printable (by simp [keyProblem, partitionKey]) (printable_toString _)
  · rw [values_offset]
    exact keyProblem_printable (by simp [keyProblem, offsetKey]) (printable_toString _)
  · rw [values_attempts]
    exact keyProblem_printable (by simp [keyProblem, attemptKey]) (printable_toString _)
  · exact keyProblem_keyKey _

/-! ### The record the serving side sees -/

/-- A number sent as its decimal text reads back where it fits the width it is read in. -/
theorem numberAt_toString {md : Metadata} {key : String} {bits : Nat} {i : Int}
    (h : md.values key = [(toString i).toUTF8]) (hb : 1 ≤ bits ∧ bits ≤ 64)
    (hi : Decimal.SignedFits bits i) : numberAt md key bits = some i := by
  simp only [numberAt, h, List.head?_cons, Option.bind_some, Utf8.lossy_toUTF8,
    Decimal.readInteger_toString hb hi]
  rfl

/-- **The serving side sees the record's content.** Where the partition fits in 32 bits and
the offset and attempts in 64, the record rebuilt from a record's call is the record's topic,
position, key, value and attempts, and nothing else. -/
theorem recordOf_callOf {m : Record} (hp : Decimal.SignedFits 32 m.partition)
    (ho : Decimal.SignedFits 64 m.offset) (ha : Decimal.SignedFits 64 m.attempts) :
    recordOf (callOf m) = wireImage m := by
  have hpart : numberAt (callOf m).metadata partitionKey 32 = some m.partition :=
    numberAt_toString (values_partition m) (by decide) hp
  have hoff : numberAt (callOf m).metadata offsetKey 64 = some m.offset :=
    numberAt_toString (values_offset m) (by decide) ho
  have hatt : numberAt (callOf m).metadata attemptKey 64 = some m.attempts :=
    numberAt_toString (values_attempts m) (by decide) ha
  have hkey : ((callOf m).metadata.values keyKey).head? = m.key := by
    rw [values_key]
    cases m.key <;> rfl
  simp only [recordOf, wireImage, values_topic, hpart, hoff, hatt, hkey, List.head?_cons,
    Option.map_some, Option.getD_some, Utf8.lossy_toUTF8]
  rfl

/-! ### The reply the caller reads -/

/-- A filtered record comes back as the filtered failure, on the record's own route. -/
theorem outcomeOf_replyOf_filtered (m : Record) (route : String) {f : Fault}
    (hf : f.isa .filtered = true) :
    outcomeOf m (replyOf route (.error f)) = (m.route, .error (.sentinel .filtered)) := by
  simp [replyOf, outcomeOf, hf, Metadata.values]

/-- An output comes back as it was produced, an empty one as none, on the route the processor
picked, or on the record's own when it picked none. -/
theorem outcomeOf_replyOf_ok (m : Record) (route : String) (v : Option ByteArray) :
    outcomeOf m (replyOf route (.ok v)) =
      (if route.isEmpty then m.route else route, .ok (carried v)) := by
  by_cases h : route.isEmpty
  · simp [replyOf, outcomeOf, h, Metadata.values]
  · have hkeys : (routeKey == filteredKey) = false := by decide
    simp [replyOf, outcomeOf, h, Metadata.values, hkeys]
    exact Utf8.lossy_toUTF8 route

/-- **Remote processing is local processing, then the reply.** Over a transport that delivers
what it is given, a processor that reads only what a call carries gives the caller what the
reply to its own result on the record says. -/
theorem process_serve {respond : Record → String × Except Fault (Option ByteArray)}
    (hP : ∀ r, respond (wireImage r) = respond r) {m : Record}
    (ht : printableAscii m.topic = true)
    (hp : Decimal.SignedFits 32 m.partition) (ho : Decimal.SignedFits 64 m.offset)
    (ha : Decimal.SignedFits 64 m.attempts) :
    Id.run (process (fun c => pure (serve respond c)) m) =
      outcomeOf m (replyOf (respond m).1 (respond m).2) := by
  simp [process, invoke, metadataProblem_callOf ht, serve, recordOf_callOf hp ho ha, hP]

/-- **A plugin round trip agrees with processing in place.** For a processor that reads only a
record's topic, position, key, value and attempts, and a record with a printable topic and
numbers that fit their widths, over a transport that delivers what it is given: the serving
side sees exactly what the record holds of these; the caller gets the filtered failure exactly
when the processor filtered the record; and an output comes back as produced, nil and empty
alike, on the route the processor picked when it picked one. -/
theorem plugin_round_trip (respond : Record → String × Except Fault (Option ByteArray))
    (hP : ∀ r, respond (wireImage r) = respond r) (m : Record) (ht : printableAscii m.topic = true)
    (hp : Decimal.SignedFits 32 m.partition) (ho : Decimal.SignedFits 64 m.offset)
    (ha : Decimal.SignedFits 64 m.attempts) :
    let got := Id.run (process (fun c => pure (serve respond c)) m)
    recordOf (callOf m) = wireImage m ∧
      (got.2 = .error (.sentinel .filtered) ↔
        ∃ f, (respond m).2 = .error f ∧ f.isa .filtered = true) ∧
      ∀ v, (respond m).2 = .ok v →
        got = (if (respond m).1.isEmpty then m.route else (respond m).1, .ok (carried v)) := by
  intro got
  have hgot : got = outcomeOf m (replyOf (respond m).1 (respond m).2) :=
    process_serve hP ht hp ho ha
  refine ⟨recordOf_callOf hp ho ha, ?_, ?_⟩
  · rw [hgot]
    cases hr : (respond m).2 with
    | ok v => simp [outcomeOf_replyOf_ok]
    | error f =>
      -- a failure that is no filtered record travels as a bare status, never as the filtered one
      by_cases hf : f.isa .filtered = true
      · simp [outcomeOf_replyOf_filtered _ _ hf, hf]
      · rw [outcomeOf_failure _ _ (by simpa using hf)]
        simp [hf]
  · intro v hv
    rw [hgot, hv, outcomeOf_replyOf_ok]

/-- A processor that forwards a record's key to `audit`, called for a keyed record. -/
theorem plugin_round_trip_forward_key :
    let respond : Record → String × Except Fault (Option ByteArray) := fun r => ("audit", .ok r.key)
    let m : Record :=
      { topic := "orders", partition := 3, offset := 42, key := some "k".toUTF8,
        value := some "v".toUTF8 }
    (∀ r, respond (wireImage r) = respond r) ∧ printableAscii m.topic = true ∧
      Decimal.SignedFits 32 m.partition ∧ Decimal.SignedFits 64 m.offset ∧
      Decimal.SignedFits 64 m.attempts ∧
      let got := Id.run (process (fun c => pure (serve respond c)) m)
      recordOf (callOf m) = wireImage m ∧
        (got.2 = .error (.sentinel .filtered) ↔
          ∃ f, (respond m).2 = .error f ∧ f.isa .filtered = true) ∧
        ∀ v, (respond m).2 = .ok v →
          got = (if (respond m).1.isEmpty then m.route else (respond m).1, .ok (carried v)) :=
  ⟨fun _ => rfl, by simp [printableAscii], by decide, by decide, by decide,
    plugin_round_trip _ (fun _ => rfl) _ (by simp [printableAscii]) (by decide) (by decide)
      (by decide)⟩

end Conveyor.Plugin
