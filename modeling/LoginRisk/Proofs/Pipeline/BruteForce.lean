import LoginRisk.Proofs.Decision.Reach
import LoginRisk.Proofs.Pipeline.Repeat
import LoginRisk.Proofs.Threat.Detect

/-!
Many attempts at one account, as the caller of the pipeline sees them. The threat stage counts the
attempts whose stages ran; an attempt that is served from the cache never gets to it.
-/

namespace LoginRisk

def Assessment.Completes (r : Assessment) (stage : Stage) : Prop :=
  ∀ report ∈ r.reports, report.stage = stage → report.fallback = none

instance (r : Assessment) (stage : Stage) : Decidable (r.Completes stage) :=
  inferInstanceAs (Decidable (∀ report ∈ r.reports, report.stage = stage → report.fallback = none))

namespace Pipeline

def beforeThreat {σ : Type} (settings : Settings) (A : Analyzers σ) (profiles : ProfileStore)
    (a : Attempt) (s : σ) : σ :=
  let v := settings.service
  let s := (runStage .credential v.enableCredential (budget v v.credentialTimeoutMs) .fallback
    (A.credential a.email a.credentialDigest) s).1
  let s := (runStage .embedding v.enableEmbedding (budget v v.embeddingTimeoutMs) .fallback
    (embeddingWork A profiles a (budget v v.embeddingTimeoutMs)) s).1
  (runStage .anomaly v.enableAnomaly (budget v v.anomalyTimeoutMs) .fallback
    (A.anomaly profiles a) s).1

def threatStage {σ : Type} (settings : Settings) (A : Analyzers σ) (now : Instant) (a : Attempt) (s : σ) :
    σ × StageRun ThreatFindings × Nat :=
  runStage .threat settings.service.enableThreat
    (budget settings.service settings.service.threatTimeoutMs) .fallback (A.threat now a) s

lemma runStages_threat {σ : Type} (settings : Settings) (A : Analyzers σ) (profiles : ProfileStore)
    (now : Instant) (a : Attempt) (s : σ) :
    (runStages settings A profiles now a s).1 =
      (threatStage settings A now a (beforeThreat settings A profiles a s)).1 ∧
    (runStages settings A profiles now a s).2.1.threat =
      (threatStage settings A now a (beforeThreat settings A profiles a s)).2.1 :=
  ⟨rfl, rfl⟩

lemma embeddingWork_standard (settings : Settings) (ms : Float) (profiles : ProfileStore) (a : Attempt)
    (budgetMs : Nat) (s : AnalyzerState) :
    (embeddingWork (.standard settings ms) profiles a budgetMs s).1 = s := by
  by_cases h : budgetMs ≤ 0 <;> simp [embeddingWork, Analyzers.standard, h]

/-- The stages of this library before the threat stage leave alone what it remembers. -/
lemma beforeThreat_standard (settings : Settings) (ms : Float) (profiles : ProfileStore)
    (a : Attempt) (s : AnalyzerState) :
    (beforeThreat settings (.standard settings ms) profiles a s).threat = s.threat := by
  let P : AnalyzerState → Prop := fun t => t.threat = s.threat
  refine runStage_keeps (P := P) id (runStage_keeps (P := P) (fun ht => ?_) (runStage_keeps (P := P) id rfl))
  rw [embeddingWork_standard]
  exact ht

end Pipeline

namespace Call

variable {settings : Settings} {c : Call AnalyzerState} {p : Pipeline AnalyzerState}

lemma threat_of_standard {ms : Float} (hstandard : c.analyzers = .standard settings ms)
    {found : ThreatFindings} (h : (c.runs settings p).threat.outcome = .completed found) :
    (Threat.analyze settings.threat p.analyzers.threat c.attempt c.env.now).2 = .ok found ∧
    (c.remembered settings p).threat =
      (Threat.analyze settings.threat p.analyzers.threat c.attempt c.env.now).1 := by
  have hkept :=
    Pipeline.beforeThreat_standard settings ms c.profiles c.attempt p.analyzers
  obtain ⟨hstate, hrun⟩ := Pipeline.runStages_threat settings (.standard settings ms) c.profiles
    c.env.now c.attempt p.analyzers
  rw [runs, hstandard, hrun] at h
  obtain ⟨hending, hwork⟩ := Pipeline.runStage_completed h
  rw [remembered, hstandard, hstate, Pipeline.threatStage, hwork, ← hkept]
  generalize Pipeline.beforeThreat settings (.standard settings ms) c.profiles c.attempt p.analyzers = t
    at hending ⊢
  simp only [Analyzers.standard] at hending ⊢
  refine ⟨?_, trivial⟩
  cases hanalyze : (Threat.analyze settings.threat t.threat c.attempt c.env.now).2 with
  | error e =>
    rw [hanalyze] at hending
    cases hending
  | ok v =>
    rw [hanalyze] at hending
    cases hending
    rfl

lemma completed_of_completes (hserved : ¬c.Served settings p)
    (h : (c.reply settings p).assessment.Completes .threat) :
    (c.reply settings p).assessment = c.computed settings p ∧
    ∃ found, (c.runs settings p).threat.outcome = .completed found := by
  by_cases hoverflow : c.Overflows settings p
  · rw [(reply_of_overflows hserved hoverflow).1] at h
    have hreport : ⟨.threat, 0.0, some .pipelineFailure⟩ ∈ (c.fallback settings).reports := by
      simp [fallback, Assessment.fallback, Stage.all]
    cases h _ hreport rfl
  · have hanswer := (reply_of_not_overflows hserved hoverflow).1
    rw [hanswer] at h
    have hreported : (c.runs settings p).threat.Reported .threat :=
      (Pipeline.reported_runStages ..).threat
    have hnone := h (c.runs settings p).threat.report
      (by simp [computed, Pipeline.assessed, StageRuns.reports]) hreported.stage
    rw [hreported.fallback] at hnone
    refine ⟨hanswer, ?_⟩
    cases houtcome : (c.runs settings p).threat.outcome with
    | completed found => exact ⟨found, rfl⟩
    | fallback found reason =>
      rw [houtcome] at hnone
      cases hnone

lemma analyzers_reply_of_not_served (hserved : ¬c.Served settings p) :
    (c.reply settings p).pipeline.analyzers = c.remembered settings p := by
  by_cases hoverflow : c.Overflows settings p
  · exact (reply_of_overflows hserved hoverflow).2.2
  · exact (reply_of_not_overflows hserved hoverflow).2.2

end Call

namespace Pipeline

def fresh (settings : Settings) (feed : Feed) : Pipeline AnalyzerState :=
  initial
    { anomaly := .initial settings.anomaly
      threat := { ThreatState.initial settings.threat with feed } }

/-- Attempts at one account, seen by the analyzers of this library, in the order of their timestamps and
all inside one window of the threat stage. -/
structure OneAccount (settings : Settings) (email : String) (calls : List (Call AnalyzerState)) :
    Prop where
  standard : ∀ c ∈ calls, ∃ ms, c.analyzers = .standard settings ms
  account : ∀ c ∈ calls, c.attempt.normalizedEmail = email
  ordered : calls.Pairwise fun c d => c.attempt.timestamp ≤ d.attempt.timestamp
  recent : ∀ c ∈ calls, ∀ d ∈ calls, ∀ start,
    c.attempt.timestamp.shift (-AttemptWindow.signedSeconds settings.threat.windowSeconds) = .ok start →
      start ≤ d.attempt.timestamp

/-- The threat stage has recorded these calls at the account, and no other. -/
structure Remembers (settings : Settings) (email : String) (p : Pipeline AnalyzerState)
    (calls : List (Call AnalyzerState)) : Prop where
  seconds : p.analyzers.threat.byAccount.seconds = settings.threat.windowSeconds
  looksBack : p.analyzers.threat.byAccount.LooksBack email
  recorded : (p.analyzers.threat.byAccount.recorded email).map Prod.fst =
    calls.map fun c => c.attempt.timestamp

variable {settings : Settings} {feed : Feed} {email : String}
  {calls counted : List (Call AnalyzerState)} {c : Call AnalyzerState} {p : Pipeline AnalyzerState}

lemma remembers_fresh (settings : Settings) (feed : Feed) (email : String) :
    Remembers settings email (fresh settings feed) [] :=
  ⟨rfl, fun _ h => (by cases h), rfl⟩

lemma Remembers.length_recorded (h : Remembers settings email p counted) :
    (p.analyzers.threat.byAccount.recorded email).length = counted.length := by
  simpa using congrArg List.length h.recorded

lemma Remembers.mem_recorded (h : Remembers settings email p counted) {e : Instant × String}
    (he : e ∈ p.analyzers.threat.byAccount.recorded email) :
    ∃ d ∈ counted, d.attempt.timestamp = e.1 := by
  have hmem : e.1 ∈ counted.map fun c => c.attempt.timestamp := h.recorded ▸ List.mem_map_of_mem he
  simpa using hmem

/-- A call whose stages run joins those recorded, and is reported once they are many. -/
lemma Remembers.of_not_served (h : Remembers settings email p counted)
    (hone : OneAccount settings email (calls ++ [c])) (hearlier : ∀ d ∈ counted, d ∈ calls)
    (hserved : ¬c.Served settings p)
    (hcompletes : (c.reply settings p).assessment.Completes .threat) :
    Remembers settings email (c.reply settings p).pipeline (counted ++ [c]) ∧
    (settings.threat.bruteForceAttempts ≤ (counted ++ [c]).length →
      (c.reply settings p).assessment.threat.ReportBruteForce) := by
  obtain ⟨ms, hstandard⟩ := hone.standard c (by simp)
  have haccount : c.attempt.normalizedEmail = email := hone.account c (by simp)
  obtain ⟨hanswer, found, hfound⟩ := Call.completed_of_completes hserved hcompletes
  obtain ⟨hanalyze, hthreat⟩ := Call.threat_of_standard hstandard hfound
  have hbefore : ∀ e ∈ p.analyzers.threat.byAccount.recorded c.attempt.normalizedEmail,
      e.1 ≤ c.attempt.timestamp := by
    intro e he
    obtain ⟨d, hd, hde⟩ := h.mem_recorded (haccount ▸ he)
    rw [← hde]
    exact (List.pairwise_append.mp hone.ordered).2.2 d (hearlier d hd) c (by simp)
  have hrecent : ∀ start, c.attempt.timestamp.shift
      (-AttemptWindow.signedSeconds p.analyzers.threat.byAccount.seconds) = .ok start →
      start ≤ c.attempt.timestamp ∧
      ∀ e ∈ p.analyzers.threat.byAccount.recorded c.attempt.normalizedEmail, start ≤ e.1 := by
    intro start hstart
    rw [h.seconds] at hstart
    refine ⟨hone.recent c (by simp) c (by simp) start hstart, fun e he => ?_⟩
    obtain ⟨d, hd, hde⟩ := h.mem_recorded (haccount ▸ he)
    rw [← hde]
    exact hone.recent c (by simp) d (by simp [hearlier d hd]) start hstart
  obtain ⟨hseconds, hlooksBack, hrecorded, hmany⟩ :=
    Threat.analyze_of_recent (haccount ▸ h.looksBack) hbefore hrecent hanalyze
  rw [haccount] at hlooksBack hrecorded hmany
  have hanalyzers : (c.reply settings p).pipeline.analyzers.threat =
      (Threat.analyze settings.threat p.analyzers.threat c.attempt c.env.now).1 := by
    rw [Call.analyzers_reply_of_not_served hserved, hthreat]
  refine ⟨⟨?_, ?_, ?_⟩, ?_⟩
  · rw [hanalyzers, hseconds, h.seconds]
  · rw [hanalyzers]
    exact hlooksBack
  · rw [hanalyzers, hrecorded, List.map_append, List.map_append, h.recorded]
    rfl
  · intro hcount
    rw [List.length_append, ← h.length_recorded] at hcount
    have hvalue : (c.reply settings p).assessment.threat = found.clamp := by
      rw [hanswer]
      simp [Call.computed, assessed, hfound, StageOutcome.value]
    rw [hvalue]
    exact ⟨(hmany hcount).rapid, (hmany hcount).pattern⟩

lemma OneAccount.of_append (h : OneAccount settings email (calls ++ [c])) :
    OneAccount settings email calls where
  standard d hd := h.standard d (by simp [hd])
  account d hd := h.account d (by simp [hd])
  ordered := (List.pairwise_append.mp h.ordered).1
  recent d hd e he := h.recent d (by simp [hd]) e (by simp [he])

/-- The calls that are recorded at the end of a run are those that were not served. -/
lemma remembers_runCalls (hone : OneAccount settings email calls)
    (hcompletes : ∀ r ∈ answers settings (fresh settings feed) (calls.map .call),
      r.Completes .threat) :
    Remembers settings email (runCalls settings (fresh settings feed) calls)
      (computedCalls settings (fresh settings feed) calls) := by
  induction calls using List.reverseRecOn with
  | nil => exact remembers_fresh settings feed email
  | append_singleton calls c ih =>
    rw [answers_append_singleton] at hcompletes
    have hbefore := ih hone.of_append fun r hr => hcompletes r (by simp [hr])
    rw [runCalls_append_singleton, computedCalls_append_singleton]
    by_cases hserved : c.Served settings (runCalls settings (fresh settings feed) calls)
    · obtain ⟨r, hr⟩ := hserved
      rw [if_pos ⟨r, hr⟩, List.append_nil]
      refine ⟨?_, ?_, ?_⟩ <;> rw [(Call.reply_of_hit hr).2.2]
      · exact hbefore.seconds
      · exact hbefore.looksBack
      · exact hbefore.recorded
    · rw [if_neg hserved]
      exact (hbefore.of_not_served hone (fun d => mem_of_mem_computedCalls) hserved
        (hcompletes _ (by simp))).1

lemma bruteForce_of_not_served (hone : OneAccount settings email (calls ++ [c]))
    (hcompletes : ∀ r ∈ answers settings (fresh settings feed) ((calls ++ [c]).map .call),
      r.Completes .threat)
    (hserved : ¬c.Served settings (runCalls settings (fresh settings feed) calls))
    (hmany : settings.threat.bruteForceAttempts ≤
      (computedCalls settings (fresh settings feed) (calls ++ [c])).length) :
    (c.reply settings (runCalls settings (fresh settings feed) calls)).assessment.threat.ReportBruteForce := by
  rw [answers_append_singleton] at hcompletes
  rw [computedCalls_append_singleton, if_neg hserved] at hmany
  have hearlier : ∀ r ∈ answers settings (fresh settings feed) (calls.map .call), r.Completes .threat :=
    fun r hr => hcompletes r (by simp [hr])
  have hbefore := remembers_runCalls hone.of_append hearlier
  exact (hbefore.of_not_served hone (fun d => mem_of_mem_computedCalls) hserved
    (hcompletes _ (by simp))).2 hmany

/-- Many attempts at one account inside one window are reported when no two of them share a key. -/
theorem bruteForce_of_distinct_keys (hone : OneAccount settings email (calls ++ [c]))
    (hcompletes : ∀ r ∈ answers settings (fresh settings feed) ((calls ++ [c]).map .call),
      r.Completes .threat)
    (hdistinct : (calls ++ [c]).Pairwise fun c d => c.key settings ≠ d.key settings)
    (hmany : settings.threat.bruteForceAttempts ≤ (calls ++ [c]).length) :
    (c.reply settings (runCalls settings (fresh settings feed) calls)).assessment.threat.ReportBruteForce := by
  have hall : computedCalls settings (fresh settings feed) (calls ++ [c]) = calls ++ [c] :=
    computedCalls_of_distinct_keys _ hdistinct
  exact bruteForce_of_not_served hone hcompletes (not_served_of_distinct_keys _ hdistinct)
    (hall.symm ▸ hmany)

/-- Attempts at one account inside one window. An attempt whose stages run is reported as a brute-force
attack once the stages have run for so many attempts; an attempt that is served from the cache is not
counted, and is answered like an earlier attempt of its key whose stages ran. -/
theorem bruteForce_of_computedCalls (settings : Settings) (feed : Feed) (email : String)
    (calls : List (Call AnalyzerState)) (c : Call AnalyzerState)
    (hone : OneAccount settings email (calls ++ [c]))
    (hcompletes : ∀ r ∈ answers settings (fresh settings feed) ((calls ++ [c]).map .call),
      r.Completes .threat) :
    let p := runCalls settings (fresh settings feed) calls
    let answer := (c.reply settings p).assessment
    (¬c.Served settings p →
      settings.threat.bruteForceAttempts ≤
        (computedCalls settings (fresh settings feed) (calls ++ [c])).length →
      answer.threat.ReportBruteForce) ∧
    (c.Served settings p →
      computedCalls settings (fresh settings feed) (calls ++ [c]) =
        computedCalls settings (fresh settings feed) calls ∧
      ∃ before d after, calls = before ++ d :: after ∧ d.key settings = c.key settings ∧
        ¬d.Served settings (runCalls settings (fresh settings feed) before) ∧
        answer = (d.reply settings (runCalls settings (fresh settings feed) before)).assessment) := by
  intro p answer
  refine ⟨bruteForce_of_not_served hone hcompletes, fun hserved => ⟨?_, ?_⟩⟩
  · rw [computedCalls_append_singleton, if_pos hserved, List.append_nil]
  · exact exists_earlier_of_served _ hserved

def guess (settings : Settings) (userAgent : String) : Call AnalyzerState where
  analyzers := .standard settings 1.0
  profiles := { contents := .memory [] }
  env := { now := default, clock := 0, elapsedMs := 1.0, secret := [] }
  attempt :=
    { email := "a@b.c", credentialDigest := "", clientAddress := .v4 0, userAgent,
      timestamp := default, requestId := "r" }

lemma oneAccount_guesses {settings : Settings} (hwindow : settings.threat.windowSeconds = 900)
    (userAgents : List String) :
    OneAccount settings "a@b.c" (userAgents.map (guess settings)) := by
  have hemail : Text.toLower (Text.trim "a@b.c") = "a@b.c" := by decide +kernel
  have hnow : ∀ d ∈ userAgents.map (guess settings), d.attempt.timestamp = default := by
    intro d hd
    obtain ⟨userAgent, -, rfl⟩ := List.mem_map.mp hd
    rfl
  refine ⟨?_, ?_, ?_, ?_⟩
  · intro c hc
    obtain ⟨userAgent, -, rfl⟩ := List.mem_map.mp hc
    exact ⟨1.0, rfl⟩
  · intro c hc
    obtain ⟨userAgent, -, rfl⟩ := List.mem_map.mp hc
    exact hemail
  · refine List.pairwise_of_forall_mem_list fun c hc d hd => ?_
    rw [hnow c hc, hnow d hd]
    decide
  · intro c hc d hd start hstart
    rw [hnow c hc, hwindow] at hstart
    rw [hnow d hd]
    cases hstart
    decide

def threatOnly : Settings where
  service := { enableCredential := false, enableEmbedding := false, enableAnomaly := false }
  threat := { bruteForceAttempts := 2 }

/-- The second guess is reported when it comes with another user agent. -/
theorem second_guess_reported :
    let p := runCalls threatOnly (fresh threatOnly (.initial {})) [guess threatOnly "a"]
    let answer := ((guess threatOnly "b").reply threatOnly p).assessment
    answer.threat.ReportBruteForce := by
  have hcompletes : ∀ r ∈ answers threatOnly (fresh threatOnly (.initial {}))
      (([guess threatOnly "a"] ++ [guess threatOnly "b"]).map .call), r.Completes .threat := by
    decide +kernel
  exact (bruteForce_of_computedCalls threatOnly (.initial {}) "a@b.c" [guess threatOnly "a"]
    (guess threatOnly "b") (oneAccount_guesses rfl ["a", "b"]) hcompletes).1 (by decide +kernel)
    (by decide +kernel)

/-- Under the default settings ten equal guesses within one second pass unreported: the stages run for
the first of them only. -/
theorem ten_equal_guesses_unreported :
    let calls := List.replicate 10 (guess {} "")
    OneAccount {} "a@b.c" calls ∧ ({} : Settings).threat.bruteForceAttempts ≤ calls.length ∧
    computedCalls {} (fresh {} (.initial {})) calls = [guess {} ""] ∧
    (answers {} (fresh {} (.initial {})) (calls.map .call)).length = 10 ∧
    ∀ r ∈ answers {} (fresh {} (.initial {})) (calls.map .call),
      (∀ stage, r.Completes stage) ∧ r.threat.bruteForce.rapidAttempts = false ∧
      "brute_force" ∉ r.threat.knownPatterns := by
  intro calls
  let p : Pipeline AnalyzerState := fresh {} (.initial {})
  have hserved : ¬(guess {} "").Served {} p := by decide +kernel
  have hfinite : ¬(guess {} "").Overflows {} p := by
    -- Entropies are sums of logarithms, which do not evaluate; whatever they are, the sum is within reach.
    have hweights : ∀ w ∈ ({} : Settings).scoring.weights, isWeight w.2 = true := by decide
    have hbias : ((guess {} "").runs {} p).anomaly.outcome.value.calibrationBias = 0.0 := by decide +kernel
    exact Decision.not_overflows_of_fullSum hweights _ _ _ (hbias ▸ by decide) (hbias ▸ by decide) (by decide +kernel)
  have hequal : ∀ d ∈ List.replicate 9 (guess {} ""), d.key {} = (guess {} "").key {} ∧
      d.env.clock - (guess {} "").env.clock < ({} : Settings).cache.ttlSeconds * 1000 := by
    intro d hd
    rw [List.eq_of_mem_replicate hd]
    exact ⟨rfl, by decide⟩
  obtain ⟨hanswers, hcomputed⟩ := answers_of_one_key rfl hserved hfinite hequal
  have hreports : ∀ report ∈ ((guess {} "").computed {} p).reports, report.fallback = none := by
    decide +kernel
  have hthreat : ((guess {} "").computed {} p).threat.bruteForce.rapidAttempts = false ∧
      "brute_force" ∉ ((guess {} "").computed {} p).threat.knownPatterns := by
    decide +kernel
  refine ⟨?_, by decide, hcomputed, ?_, ?_⟩
  · exact oneAccount_guesses rfl (List.replicate 10 "")
  · rw [length_answers]
    rfl
  · intro r hr
    have hr : r ∈ List.replicate 10 ((guess {} "").computed {} p) := hanswers ▸ hr
    rw [List.eq_of_mem_replicate hr]
    exact ⟨fun stage report hreport _ => hreports report hreport, hthreat⟩

end Pipeline

end LoginRisk
