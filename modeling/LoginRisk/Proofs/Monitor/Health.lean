import LoginRisk.Monitor.Health
import LoginRisk.Proofs.Assoc
import Mathlib.Data.List.DropRight

/-!
What the health monitor holds after any observations. A component is what its own observations make of it, whatever
has been observed about others in between, and the status of the whole is the worst of all components.
-/

namespace LoginRisk

namespace HealthStatus

lemma severity_injective {a b : HealthStatus} (h : a.severity = b.severity) : a = b := by
  cases a <;> cases b <;> first | rfl | cases h

lemma worse_eq_or (a b : HealthStatus) : worse a b = a ∨ worse a b = b := by
  unfold worse
  split <;> simp

lemma le_severity_worse (a b : HealthStatus) :
    a.severity ≤ (worse a b).severity ∧ b.severity ≤ (worse a b).severity := by
  unfold worse
  split <;> omega

lemma foldl_worse_mem (s : HealthStatus) (rest : List HealthStatus) : rest.foldl worse s ∈ s :: rest := by
  induction rest generalizing s with
  | nil => simp
  | cons t rest ih =>
    have hmem := ih (worse s t)
    rw [List.foldl_cons]
    rcases List.mem_cons.mp hmem with heq | hmem
    · rw [heq]
      rcases worse_eq_or s t with h | h <;> simp [h]
    · simp [hmem]

lemma severity_le_foldl_worse (s : HealthStatus) (rest : List HealthStatus) :
    ∀ t ∈ s :: rest, t.severity ≤ (rest.foldl worse s).severity := by
  induction rest generalizing s with
  | nil => simp
  | cons u rest ih =>
    have hworse := le_severity_worse s u
    have hrest := ih (worse s u)
    have hhead := hrest (worse s u) List.mem_cons_self
    intro t ht
    rw [List.foldl_cons]
    rcases List.mem_cons.mp ht with rfl | ht
    · exact hworse.1.trans hhead
    · rcases List.mem_cons.mp ht with rfl | ht
      · exact hworse.2.trans hhead
      · exact hrest t (List.mem_cons_of_mem _ ht)

lemma worst_mem {statuses : List HealthStatus} (h : statuses ≠ []) : worst statuses ∈ statuses := by
  cases statuses with
  | nil => exact absurd rfl h
  | cons s rest => exact foldl_worse_mem s rest

lemma severity_le_worst {statuses : List HealthStatus} {s : HealthStatus} (h : s ∈ statuses) :
    s.severity ≤ (worst statuses).severity := by
  cases statuses with
  | nil => cases h
  | cons first rest => exact severity_le_foldl_worse first rest s h

lemma worst_perm {statuses others : List HealthStatus} (h : statuses.Perm others) : worst statuses = worst others := by
  by_cases hnil : statuses = []
  · subst hnil
    rw [List.nil_perm.mp h]
  · have hothers : others ≠ [] := fun hothers => hnil (List.perm_nil.mp (hothers ▸ h))
    have hle := severity_le_worst (h.mem_iff.mp (worst_mem hnil))
    have hge := severity_le_worst (h.mem_iff.mpr (worst_mem hothers))
    exact severity_injective (Nat.le_antisymm hle hge)

end HealthStatus

namespace Observation

def isFailure : Observation → Bool
  | .failure .. => true
  | _ => false

def isSuccess : Observation → Bool
  | .success _ => true
  | _ => false

def message? : Observation → Option String
  | .failure _ message => some message
  | _ => none

def elapsed? : Observation → Option Float
  | .success elapsedMs | .failure elapsedMs _ => some elapsedMs
  | .disabled => none

end Observation

namespace ComponentHealth

def failures (os : List Observation) : ℕ := os.countP Observation.isFailure

def recentFailures (os : List Observation) : ℕ := failures (os.rtakeWhile fun o => !o.isSuccess)

def statusAfter (s : HealthSettings) (os : List Observation) : HealthStatus :=
  match os.getLast? with
  | none | some .disabled => .unknown
  | some (.success elapsedMs) => if elapsedMs ≤ Float.ofNat s.degradedLatencyMs then .healthy else .degraded
  | some (.failure ..) =>
    if max s.unhealthyAfterFailures 1 ≤ recentFailures os then .unhealthy else .degraded

def ofHistory (s : HealthSettings) (history : List (Instant × Observation)) : ComponentHealth :=
  let os := history.map Prod.snd
  { status := statusAfter s os
    lastCheck := history.getLast?.map Prod.fst
    responseMs := (os.filterMap Observation.elapsed?).getLast?.getD 0.0
    errorCount := failures os
    consecutiveFailures := recentFailures os
    lastError := (os.filterMap Observation.message?).getLast? }

lemma recentFailures_concat (os : List Observation) (o : Observation) :
    recentFailures (os ++ [o]) = if o.isSuccess then 0 else recentFailures os + if o.isFailure then 1 else 0 := by
  unfold recentFailures
  cases o <;>
    simp [failures, List.countP_append, Observation.isSuccess, Observation.isFailure]

lemma observe_ofHistory (s : HealthSettings) (now : Instant) (history : List (Instant × Observation))
    (o : Observation) : (ofHistory s history).observe s now o = ofHistory s (history ++ [(now, o)]) := by
  have hrecent := recentFailures_concat (history.map Prod.snd) o
  cases o <;>
    simp_all [observe, ofHistory, statusAfter, failures, Observation.isSuccess, Observation.isFailure,
      Observation.elapsed?, Observation.message?]

end ComponentHealth

inductive HealthNotice where
  | about (now : Instant) (name : String) (o : Observation)
  | report (now : Instant) (r : StageReport)

def HealthNotice.about? (name : String) : HealthNotice → Option (Instant × Observation)
  | .about now other o => if other = name then some (now, o) else none
  | .report now r => if r.stage.component = name then (Health.observationOf r).map (now, ·) else none

namespace Health

def notice (s : HealthSettings) (h : Health) : HealthNotice → Health
  | .about now name o => h.observe s now name o
  | .report now r => h.observeReport s now r

def after (s : HealthSettings) (names : List String) (notices : List HealthNotice) : Health :=
  notices.foldl (notice s) (ofNames names)

def historyOf (name : String) (notices : List HealthNotice) : List (Instant × Observation) :=
  notices.filterMap (HealthNotice.about? name)

variable {s : HealthSettings} {names : List String} {notices : List HealthNotice} {h : Health}

lemma lookup_observe (now : Instant) (name other : String) (o : Observation) :
    (h.observe s now name o).components.lookup other =
      if other = name then some (((h.components.lookup name).getD {}).observe s now o)
      else h.components.lookup other := by
  unfold observe
  split
  · rename_i heq
    rw [heq, Assoc.lookup_putSorted]
  · rename_i hne
    rw [Assoc.lookup_putSorted_of_ne hne]

/-- The monitor holds a component that is one of the first or has been observed, as its history makes it. -/
structure Tracks (s : HealthSettings) (names : List String) (notices : List HealthNotice) (h : Health) : Prop where
  lookup : ∀ name, h.components.lookup name =
    if name ∈ names ∨ historyOf name notices ≠ [] then some (.ofHistory s (historyOf name notices)) else none
  ascending : (h.components.map Prod.fst).Pairwise (· < ·)

lemma tracks_ofNames (s : HealthSettings) (names : List String) : Tracks s names [] (ofNames names) where
  lookup name := by
    have hempty : ComponentHealth.ofHistory s [] = {} := rfl
    simp [ofNames, Assoc.lookup_sorted_map, historyOf, hempty]
  ascending := Assoc.pairwise_sorted _

lemma Tracks.observe (ht : Tracks s names notices h) {now : Instant} {name : String} {o : Observation}
    {n : HealthNotice} (hn : ∀ other, n.about? other = if name = other then some (now, o) else none) :
    Tracks s names (notices ++ [n]) (h.observe s now name o) where
  lookup other := by
    have hhistory : historyOf other (notices ++ [n]) =
        historyOf other notices ++ if name = other then [(now, o)] else [] := by
      by_cases heq : name = other <;> simp [historyOf, hn, heq]
    rw [lookup_observe, hhistory]
    by_cases heq : name = other
    · subst heq
      have hknown : (h.components.lookup name).getD {} = .ofHistory s (historyOf name notices) := by
        rw [ht.lookup]
        split
        · rfl
        · rename_i hnone
          rw [not_or, not_not] at hnone
          rw [hnone.2]
          rfl
      simp [hknown, ComponentHealth.observe_ofHistory]
    · rw [if_neg (Ne.symm heq), if_neg heq, List.append_nil, ht.lookup]
  ascending := Assoc.pairwise_putSorted _ _ ht.ascending

lemma Tracks.notice (ht : Tracks s names notices h) (n : HealthNotice) :
    Tracks s names (notices ++ [n]) (h.notice s n) := by
  cases n with
  | about now name o => exact ht.observe fun other => rfl
  | report now r =>
    rw [Health.notice, observeReport]
    cases hr : observationOf r with
    | some o => exact ht.observe fun other => by simp [HealthNotice.about?, hr]
    | none =>
      have hhistory (name : String) : historyOf name (notices ++ [.report now r]) = historyOf name notices := by
        simp [historyOf, HealthNotice.about?, hr]
      refine ⟨fun name => ?_, ht.ascending⟩
      rw [hhistory]
      exact ht.lookup name

lemma tracks_after (s : HealthSettings) (names : List String) (notices : List HealthNotice) :
    Tracks s names notices (after s names notices) := by
  induction notices using List.reverseRecOn with
  | nil => exact tracks_ofNames s names
  | append_singleton notices n ih =>
    rw [after, List.foldl_append]
    exact ih.notice n

/-- After any notices the monitor holds, once each, the components that it started with or has been told about, each
as its own history makes it. A report of a failure of the whole pipeline changes nothing. The whole is as bad as its
worst component, in whatever order they are looked at, and unknown when there is none. -/
theorem components_of_history (s : HealthSettings) (names : List String) (notices : List HealthNotice) :
    let h := after s names notices
    (∀ name c, (name, c) ∈ h.components ↔
      (name ∈ names ∨ historyOf name notices ≠ []) ∧ c = .ofHistory s (historyOf name notices)) ∧
    (h.components.map Prod.fst).Nodup ∧
    (∀ now r, r.fallback = some .pipelineFailure → after s names (notices ++ [.report now r]) = h) ∧
    (∀ components, h.components.Perm components → HealthStatus.worst (components.map (·.2.status)) = h.overall) ∧
    (∀ c ∈ h.components, c.2.status.severity ≤ h.overall.severity) ∧
    (h.components ≠ [] → ∃ c ∈ h.components, c.2.status = h.overall) ∧
    (h.components = [] → h.overall = .unknown) := by
  intro h
  have htracks : Tracks s names notices h := tracks_after s names notices
  have hnodup := Assoc.nodup_of_pairwise htracks.ascending
  refine ⟨fun name c => ?_, hnodup, fun now r hr => ?_, fun components hperm => ?_, fun c hc => ?_, fun hsome => ?_,
    fun hnone => ?_⟩
  · rw [← Assoc.lookup_eq_some_iff hnodup, htracks.lookup]
    by_cases hheld : name ∈ names ∨ historyOf name notices ≠ []
    · rw [if_pos hheld, Option.some.injEq]
      exact ⟨fun heq => ⟨hheld, heq.symm⟩, fun heq => heq.2.symm⟩
    · simp [hheld]
  · have hobservation : observationOf r = none := by rw [observationOf, hr]
    rw [after, List.foldl_append, List.foldl_cons, List.foldl_nil, Health.notice, observeReport, hobservation]
    rfl
  · exact (HealthStatus.worst_perm (hperm.map fun c => c.2.status)).symm
  · exact HealthStatus.severity_le_worst (List.mem_map_of_mem hc)
  · have hstatuses : h.components.map (fun c => c.2.status) ≠ [] := by simpa using hsome
    have hmem := HealthStatus.worst_mem hstatuses
    obtain ⟨c, hc, hstatus⟩ := List.mem_map.mp hmem
    exact ⟨c, hc, hstatus⟩
  · rw [overall, hnone]
    rfl

/-- A failure after a pause is still the third in a row. -/
example : ComponentHealth.recentFailures
    [.failure 1.0 "a", .success 1.0, .failure 1.0 "b", .failure 1.0 "b", .disabled, .failure 1.0 "c"] = 3 := by
  decide

end Health

end LoginRisk
