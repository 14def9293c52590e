import Conveyor.Kafka.Admin
import Conveyor.Proofs.Retry.Turn
/-!
# Ensured topics and their dead-letter topics

A cluster is its topics with their partition counts, in the order they were made (`Cluster`).
An admin of it (`Admin.OfCluster`) lists them, and answers a request for a name that is taken
with the broker's word that the topic exists; a request for a free name it makes, or refuses with
another fault. `clusterAdmin` is such an admin, refusing what the caller chooses.

Ensuring the topics decides everything from the one listing it takes first: which topics to ask
for and with how many partitions (`plan`). A run that succeeds has asked for exactly those, in
order, so the first request for a name decides its count (`ensureEach_cluster`). Afterwards
(`dead_letters_mirror_sources`):

* every topic that was there keeps its count;
* every source topic and its dead-letter topic are there;
* when no source topic is another's dead-letter topic (`NoSourceIsDeadLetter`), each source
  topic has the count it was listed with, or the configured one when it was made, and a
  dead-letter topic that was made has the count of its source.

The last needs its condition. With both `t` and `t` with the suffix among the sources, the
second is made first, as a source, with the configured count; the later request for it as
`t`'s dead-letter topic, with `t`'s count, finds it made and counts as done.
-/

namespace Conveyor.Kafka

open Config Retry

/-! ### A cluster -/

/-- The topics of a cluster with their partition counts, oldest first. -/
abbrev Cluster := List (String × Int)

/-- The cluster once a topic was asked for: a name that is taken stays as it is. -/
def addTopic (c : Cluster) (req : TopicRequest) : Cluster :=
  if (c.lookup req.topic).isSome then c else c ++ [(req.topic, req.partitions)]

/-- **An admin of a cluster**: listing answers the cluster's topics; a request for a name that
is taken answers the broker's word that the topic exists, and a request for a free name makes
the topic or is refused with another fault. Only making a topic changes the cluster. -/
structure Admin.OfCluster (admin : Admin (StateM Cluster)) : Prop where
  list : ∀ c, admin.listTopics.run c = (.ok c, c)
  taken : ∀ req c, (c.lookup req.topic).isSome →
    ∃ f, alreadyExists f = true ∧ (admin.createTopic req).run c = (some f, c)
  free : ∀ req c, (c.lookup req.topic).isNone →
    (admin.createTopic req).run c = (none, addTopic c req) ∨
      ∃ f, alreadyExists f = false ∧ (admin.createTopic req).run c = (some f, c)

/-- The admin of a cluster that refuses the requests `refuse` names, with their faults. -/
def clusterAdmin (refuse : TopicRequest → Option Fault) : Admin (StateM Cluster) where
  listTopics := do return .ok (← get)
  createTopic req := do
    let c ← get
    if (c.lookup req.topic).isSome then return some (.broker .topicAlreadyExists)
    match refuse req with
    | some f => return some f
    | none =>
      set (addTopic c req)
      return none

/-- A cluster whose refusals are never the broker's word that a topic exists has an admin. -/
theorem clusterAdmin_ofCluster (refuse : TopicRequest → Option Fault)
    (hr : ∀ q f, refuse q = some f → alreadyExists f = false) :
    (clusterAdmin refuse).OfCluster where
  list c := rfl
  taken req c hs := ⟨.broker .topicAlreadyExists, by decide, by simp [clusterAdmin, hs]; rfl⟩
  free req c hs := by
    have hs' : (c.lookup req.topic).isSome = false := by simpa using hs
    cases hq : refuse req with
    | some f => exact .inr ⟨f, hr req f hq, by simp [clusterAdmin, hs', hq]; rfl⟩
    | none => exact .inl (by simp [clusterAdmin, hs', hq]; rfl)

/-- A log that keeps nothing. -/
def quiet (_ : Log.Entry) : StateM Cluster Unit := pure ()

/-- The warning about a dead-letter topic with fewer partitions changes nothing: whether it is
given or not, the run goes on alike. -/
theorem warn_or_not {α : Type} (b : Prop) [Decidable b] (e : Log.Entry) (x : StateM Cluster α) :
    (if b then quiet e >>= fun _ => x else x) = x := by
  split <;> rfl

/-! ### The plan -/

/-- The count a source topic has, as listed, or the configured one when it is to be made. -/
def sourcePartitions (existing : Cluster) (cfg : TopicAdmin) (t : String) : Int :=
  (existing.lookup t).getD cfg.partitions

/-- What ensuring one source topic asks for, given the listing: the topic when it was not
listed, then its dead-letter topic, with the source's count, when that was not listed. -/
def plannedFor (existing : Cluster) (cfg : TopicAdmin) (t : String) : List TopicRequest :=
  (if (existing.lookup t).isNone then [⟨t, cfg.partitions, cfg.replicationFactor, false⟩] else []) ++
  (if (existing.lookup (t ++ cfg.deadLetterSuffix)).isNone then
    [⟨t ++ cfg.deadLetterSuffix, sourcePartitions existing cfg t, cfg.replicationFactor, false⟩]
   else [])

/-- What ensuring the source topics asks for, in order. -/
def plan (existing : Cluster) (cfg : TopicAdmin) (topics : List String) : List TopicRequest :=
  topics.flatMap (plannedFor existing cfg)

theorem mem_plannedFor {existing : Cluster} {cfg : TopicAdmin} {t : String} {q : TopicRequest} :
    q ∈ plannedFor existing cfg t ↔
      (existing.lookup t = none ∧ q = ⟨t, cfg.partitions, cfg.replicationFactor, false⟩) ∨
      (existing.lookup (t ++ cfg.deadLetterSuffix) = none ∧
        q = ⟨t ++ cfg.deadLetterSuffix, sourcePartitions existing cfg t, cfg.replicationFactor,
          false⟩) := by
  unfold plannedFor
  cases existing.lookup t <;> cases existing.lookup (t ++ cfg.deadLetterSuffix) <;> simp

/-- No source topic is the dead-letter topic of another. -/
def NoSourceIsDeadLetter (cfg : TopicAdmin) (topics : List String) : Prop :=
  ∀ s ∈ topics, ∀ t ∈ topics, s = t ++ cfg.deadLetterSuffix → s = t

section Plan

variable {init : Cluster} {cfg : TopicAdmin} {topics : List String} {t : String}

theorem planned_source (ht : t ∈ topics) (hn : init.lookup t = none) :
    ∃ q ∈ plan init cfg topics, q.topic = t :=
  ⟨_, List.mem_flatMap.mpr ⟨t, ht, mem_plannedFor.mpr (Or.inl ⟨hn, rfl⟩)⟩, rfl⟩

theorem planned_deadLetter (ht : t ∈ topics)
    (hn : init.lookup (t ++ cfg.deadLetterSuffix) = none) :
    ∃ q ∈ plan init cfg topics, q.topic = t ++ cfg.deadLetterSuffix :=
  ⟨_, List.mem_flatMap.mpr ⟨t, ht, mem_plannedFor.mpr (Or.inr ⟨hn, rfl⟩)⟩, rfl⟩

/-- Every request for a source topic that was not listed asks for the configured count. -/
theorem plan_partitions_source (hno : NoSourceIsDeadLetter cfg topics) (ht : t ∈ topics)
    (hn : init.lookup t = none) :
    ∀ q ∈ plan init cfg topics, q.topic = t → q.partitions = cfg.partitions := by
  intro q hq hqt
  obtain ⟨s, hs, hq⟩ := List.mem_flatMap.mp hq
  rcases mem_plannedFor.mp hq with ⟨-, rfl⟩ | ⟨-, rfl⟩
  · rfl
  · -- `t` is named as `s`'s dead-letter topic, so it is `s` itself
    have hts : t = s := hno t ht s hs hqt.symm
    subst hts
    simp [sourcePartitions, hn]

/-- Every request for a source topic's dead-letter topic asks for the source's count. -/
theorem plan_partitions_deadLetter (hno : NoSourceIsDeadLetter cfg topics) (ht : t ∈ topics) :
    ∀ q ∈ plan init cfg topics, q.topic = t ++ cfg.deadLetterSuffix →
      q.partitions = sourcePartitions init cfg t := by
  intro q hq hqt
  obtain ⟨s, hs, hq⟩ := List.mem_flatMap.mp hq
  rcases mem_plannedFor.mp hq with ⟨hn, rfl⟩ | ⟨-, rfl⟩
  · -- a source topic named as `t`'s dead-letter topic is `t` itself
    have hst : s = t := hno s hs t ht hqt
    subst hst
    simp [sourcePartitions, hn]
  · have hst : s = t := (String.append_left_inj _).mp hqt
    subst hst
    rfl

end Plan

/-! ### A cluster after a list of requests -/

theorem lookup_addTopic (c : Cluster) (q : TopicRequest) (x : String) :
    (addTopic c q).lookup x =
      (c.lookup x).or (if q.topic = x then some q.partitions else none) := by
  unfold addTopic
  split
  next hs =>
    by_cases hx : q.topic = x
    · subst hx
      obtain ⟨v, hv⟩ := Option.isSome_iff_exists.mp hs
      simp [hv]
    · simp [hx]
  next =>
    by_cases hx : q.topic = x
    · subst hx
      simp [List.lookup_append]
    · have : (x == q.topic) = false := by simp [Ne.symm hx]
      simp [List.lookup_append, List.lookup_cons, this, hx]

/-- A name has the count it had, or else that of the first request for it. -/
theorem lookup_foldl_addTopic (reqs : List TopicRequest) : ∀ (c : Cluster) (x : String),
    (reqs.foldl addTopic c).lookup x =
      (c.lookup x).or ((reqs.find? (·.topic == x)).map (·.partitions)) := by
  induction reqs with
  | nil => intro c x; simp
  | cons q rest ih =>
    intro c x
    rw [List.foldl_cons, ih, lookup_addTopic]
    by_cases hx : q.topic = x <;> simp [hx]

theorem find?_partitions {reqs : List TopicRequest} {x : String} {v : Int}
    (hall : ∀ q ∈ reqs, q.topic = x → q.partitions = v) (hex : ∃ q ∈ reqs, q.topic = x) :
    (reqs.find? (·.topic == x)).map (·.partitions) = some v := by
  cases hf : reqs.find? (·.topic == x) with
  | none =>
    obtain ⟨q, hq, hqx⟩ := hex
    have := List.find?_eq_none.mp hf q hq
    simp [hqx] at this
  | some q =>
    have hq := List.mem_of_find?_eq_some hf
    have hqx : q.topic = x := by simpa using List.find?_some hf
    simp [hall q hq hqx]

section Requests

variable {reqs : List TopicRequest} {c : Cluster} {x : String} {v : Int}

theorem lookup_foldl_of_some (h : c.lookup x = some v) :
    (reqs.foldl addTopic c).lookup x = some v := by
  rw [lookup_foldl_addTopic, h, Option.some_or]

theorem lookup_foldl_isSome (hex : ∃ q ∈ reqs, q.topic = x) :
    ((reqs.foldl addTopic c).lookup x).isSome := by
  obtain ⟨q, hq, hqx⟩ := hex
  have hfind : (reqs.find? (·.topic == x)).isSome := List.find?_isSome.mpr ⟨q, hq, by simp [hqx]⟩
  rw [lookup_foldl_addTopic]
  cases c.lookup x <;> simp [hfind]

/-- A new name asked for, always with one count, has that count. -/
theorem lookup_foldl_of_none (h : c.lookup x = none)
    (hall : ∀ q ∈ reqs, q.topic = x → q.partitions = v) (hex : ∃ q ∈ reqs, q.topic = x) :
    (reqs.foldl addTopic c).lookup x = some v := by
  rw [lookup_foldl_addTopic, h, Option.none_or, find?_partitions hall hex]

end Requests

/-! ### Ensuring the topics -/

section Admin

variable {admin : Admin (StateM Cluster)} (h : admin.OfCluster)
include h

/-- Asking for a topic either makes the cluster take the request, or fails and changes nothing. -/
theorem createTopic_cases (name : String) (p rf : Int) (c : Cluster) :
    (createTopic admin quiet name p rf).run c = (none, addTopic c ⟨name, p, rf, false⟩) ∨
      ∃ f, (createTopic admin quiet name p rf).run c = (some f, c) := by
  unfold createTopic
  by_cases hs : (c.lookup name).isSome
  · -- a taken name is answered with the broker's word, which counts as done
    obtain ⟨f, hf, hrun⟩ := h.taken ⟨name, p, rf, false⟩ c hs
    left
    rw [run_bind, hrun]
    simp [hf, addTopic, hs, quiet]
    rfl
  · have hfree : (c.lookup name).isNone := by
      cases hl : c.lookup name
      · rfl
      · simp [hl] at hs
    rcases h.free ⟨name, p, rf, false⟩ c hfree with hrun | ⟨f, hf, hrun⟩
    · left
      rw [run_bind, hrun]
      simp [quiet]
      rfl
    · right
      rw [run_bind, hrun]
      exact ⟨_, by simp [hf]; rfl⟩

/-- **A run that succeeds has asked for the plan**, whatever the cluster held when it began. -/
theorem ensureEach_cluster (cfg : TopicAdmin) (existing : Cluster) :
    ∀ (topics : List String) (c c' : Cluster),
      (ensureEach admin quiet cfg existing topics).run c = (none, c') →
        c' = (plan existing cfg topics).foldl addTopic c := by
  intro topics
  induction topics with
  | nil =>
    intro c c' hrun
    cases hrun
    rfl
  | cons t rest ih =>
    intro c c' hrun
    rw [plan, List.flatMap_cons, List.foldl_append]
    unfold ensureEach at hrun
    -- the source topic is listed or asked for, then its dead-letter topic is listed or asked
    -- for; a request that fails ends the run with its fault
    cases hs : existing.lookup t with
    | some pt =>
      cases hd : existing.lookup (t ++ cfg.deadLetterSuffix) with
      | some d =>
        simp only [hs, hd, run_bind] at hrun
        rw [warn_or_not] at hrun
        simp only [run_pure] at hrun
        simpa [plan, plannedFor, hs, hd] using ih c c' hrun
      | none =>
        simp only [hs, hd, run_bind, run_pure] at hrun
        rcases createTopic_cases h (t ++ cfg.deadLetterSuffix) pt cfg.replicationFactor c
          with hc | ⟨f, hc⟩ <;> rw [hc] at hrun
        · simpa [plan, plannedFor, hs, hd, sourcePartitions] using ih _ _ hrun
        · cases hrun
    | none =>
      simp only [hs, run_bind] at hrun
      rcases createTopic_cases h t cfg.partitions cfg.replicationFactor c
        with hc | ⟨f, hc⟩ <;> rw [hc] at hrun
      · cases hd : existing.lookup (t ++ cfg.deadLetterSuffix) with
        | some d =>
          simp only [hd] at hrun
          rw [warn_or_not] at hrun
          simp only [run_pure] at hrun
          simpa [plan, plannedFor, hs, hd] using ih _ c' hrun
        | none =>
          simp only [hd, run_bind, run_pure] at hrun
          rcases createTopic_cases h (t ++ cfg.deadLetterSuffix) cfg.partitions
            cfg.replicationFactor (addTopic c ⟨t, cfg.partitions, cfg.replicationFactor, false⟩)
            with hc' | ⟨f', hc'⟩ <;> rw [hc'] at hrun
          · simpa [plan, plannedFor, hs, hd, sourcePartitions] using ih _ _ hrun
          · cases hrun
      · simp only [run_pure] at hrun
        cases hrun

/-- Ensuring the topics lists the cluster, then ensures each topic against that listing. -/
theorem ensureTopics_run (topics : List String) (cfg : TopicAdmin) (init : Cluster) :
    (ensureTopics admin quiet topics cfg).run init =
      (ensureEach admin quiet cfg init topics).run init := by
  unfold ensureTopics
  rw [run_bind, h.list init]

end Admin

/-- **Dead-letter topics mirror their sources.** For every admin of a cluster, every cluster,
every list of source topics and every setting, when ensuring the topics succeeds the cluster
holds what was there with its counts and the plan's topics; every source topic and its
dead-letter topic are there; and, when no source topic is another's dead-letter topic, each
source topic has its listed or configured count and a dead-letter topic that was not listed has
its source's. -/
theorem dead_letters_mirror_sources (admin : Admin (StateM Cluster)) (h : admin.OfCluster)
    (init : Cluster) (topics : List String) (cfg : TopicAdmin)
    (hok : ((ensureTopics admin quiet topics cfg).run init).1 = none) :
    let after := ((ensureTopics admin quiet topics cfg).run init).2
    after = (plan init cfg topics).foldl addTopic init ∧
    (∀ x v, init.lookup x = some v → after.lookup x = some v) ∧
    (∀ t ∈ topics, (after.lookup t).isSome ∧ (after.lookup (t ++ cfg.deadLetterSuffix)).isSome) ∧
    (NoSourceIsDeadLetter cfg topics →
      ∀ t ∈ topics, after.lookup t = some (sourcePartitions init cfg t) ∧
        (init.lookup (t ++ cfg.deadLetterSuffix) = none →
          after.lookup (t ++ cfg.deadLetterSuffix) = after.lookup t)) := by
  intro after
  have hafter : after = (plan init cfg topics).foldl addTopic init :=
    ensureEach_cluster h cfg init topics init after
      (by rw [← ensureTopics_run h]; exact Prod.ext hok rfl)
  -- every name the cluster had, or the plan asks for, is there afterwards
  have hexists : ∀ x, (init.lookup x).isSome ∨ (∃ q ∈ plan init cfg topics, q.topic = x) →
      (after.lookup x).isSome := by
    rintro x (hx | hx)
    · obtain ⟨v, hv⟩ := Option.isSome_iff_exists.mp hx
      rw [hafter, lookup_foldl_of_some hv]
      rfl
    · rw [hafter]
      exact lookup_foldl_isSome hx
  have hsource : NoSourceIsDeadLetter cfg topics → ∀ t ∈ topics,
      after.lookup t = some (sourcePartitions init cfg t) := by
    intro hno t ht
    rw [hafter]
    cases hn : init.lookup t with
    | some v => simp [lookup_foldl_of_some hn, sourcePartitions, hn]
    | none =>
      rw [lookup_foldl_of_none hn (plan_partitions_source hno ht hn) (planned_source ht hn)]
      simp [sourcePartitions, hn]
  refine ⟨hafter, fun x v hv => by rw [hafter]; exact lookup_foldl_of_some hv,
    fun t ht => ⟨hexists t ?_, hexists _ ?_⟩, fun hno t ht => ⟨hsource hno t ht, fun hn => ?_⟩⟩
  · cases hn : init.lookup t
    · exact Or.inr (planned_source ht hn)
    · exact Or.inl rfl
  · cases hn : init.lookup (t ++ cfg.deadLetterSuffix)
    · exact Or.inr (planned_deadLetter ht hn)
    · exact Or.inl rfl
  · rw [hsource hno t ht, hafter]
    exact lookup_foldl_of_none hn (plan_partitions_deadLetter hno ht) (planned_deadLetter ht hn)

/-- `orders`, listed with six partitions, and `users`, missing, in a cluster that refuses
nothing: the dead-letter topics get six and three partitions. -/
theorem orders_and_users_mirrored :
    (clusterAdmin fun _ => none).OfCluster ∧
    ((ensureTopics (clusterAdmin fun _ => none) quiet ["orders", "users"]
      { partitions := 3, replicationFactor := 1, deadLetterSuffix := ".DLQ" }).run
        [("orders", 6)]).1 = none ∧
    ((ensureTopics (clusterAdmin fun _ => none) quiet ["orders", "users"]
      { partitions := 3, replicationFactor := 1, deadLetterSuffix := ".DLQ" }).run
        [("orders", 6)]).2.lookup "orders.DLQ" = some 6 := by
  have hadmin : (clusterAdmin fun _ => none).OfCluster :=
    clusterAdmin_ofCluster _ fun _ _ h => nomatch h
  have hok : ((ensureTopics (clusterAdmin fun _ => none) quiet ["orders", "users"]
      { partitions := 3, replicationFactor := 1, deadLetterSuffix := ".DLQ" }).run
        [("orders", 6)]).1 = none := by decide
  have hno : NoSourceIsDeadLetter
      { partitions := 3, replicationFactor := 1, deadLetterSuffix := ".DLQ" }
      ["orders", "users"] := by
    unfold NoSourceIsDeadLetter
    decide
  obtain ⟨hsrc, hdlq⟩ :=
    (dead_letters_mirror_sources _ hadmin _ _ _ hok).2.2.2 hno "orders" (by simp)
  exact ⟨hadmin, hok, (hdlq (by decide)).trans (hsrc.trans rfl)⟩

/-- Without the condition a dead-letter topic can keep another count: `orders.DLQ` is made as a
source, with the configured three partitions, before `orders`, listed with six, asks for it. -/
example :
    let run := (ensureTopics (clusterAdmin fun _ => none) quiet ["orders.DLQ", "orders"]
      { partitions := 3, replicationFactor := 1, deadLetterSuffix := ".DLQ" }).run [("orders", 6)]
    run.1 = none ∧ run.2.lookup "orders" = some 6 ∧ run.2.lookup "orders.DLQ" = some 3 := by
  decide

end Conveyor.Kafka
