import LoginRisk.Proofs.Learning.Sequence

/-!
The bias of a user's scores under any run of jobs. Only feedback moves it, each kind in its own direction, and
never beyond the bound; the counts of a profile are those of the feedback for its user.
-/

namespace LoginRisk.Learning

open Number

variable {s : LearningSettings}

/-- The step of the bias and its bound are finite, and the step does not go backwards. -/
structure SteersFinite (s : LearningSettings) : Prop where
  step : s.biasStep.isFinite = true
  forward : 0.0 ≤ s.biasStep
  bound : s.maxUserBias.isFinite = true

def Within (s : LearningSettings) (x : Float) : Prop := x.isFinite = true ∧ x.abs ≤ s.maxUserBias.abs

/-- The direction in which feedback may move a bias. -/
def Steers (before after : Float) : FeedbackKind → Prop
  | .falsePositive => after ≤ before
  | .falseNegative => before ≤ after
  | .confirmed => after = before

def MovesBias (before after : Float) : LearningJob → Prop
  | .outcome .. => after = before
  | .feedback _ f => Steers before after f.kind

lemma abs_le_abs_iff {x bound : Float} (hx : x.isFinite = true) (hbound : bound.isFinite = true) :
    x.abs ≤ bound.abs ↔ -bound.abs ≤ x ∧ x ≤ bound.abs := by
  have habs : bound.abs.isFinite = true := (isFinite_abs bound).trans hbound
  have hneg : (-bound.abs).isFinite = true := (isFinite_neg _).trans habs
  rw [← exact_le_exact_iff ((isFinite_abs x).trans hx) habs, ← exact_le_exact_iff hneg hx,
    ← exact_le_exact_iff hx habs, exact_neg, exact_abs, exact_abs, abs_le]

lemma clampBias_cases {bound x y : Float} (h : clampBias bound x = some y) :
    (y = -bound ∧ x < -bound) ∨ (y = bound ∧ bound < x) ∨ (y = x ∧ ¬x < -bound ∧ ¬bound < x) := by
  unfold clampBias at h
  split at h
  · rename_i hle
    by_cases hlow : x < -bound
    · simp only [if_pos hlow, if_neg (not_float_lt_of_le hle), Option.some.injEq] at h
      exact .inl ⟨h.symm, hlow⟩
    · by_cases hhigh : bound < x
      · simp only [if_neg hlow, if_pos hhigh, Option.some.injEq] at h
        exact .inr (.inl ⟨h.symm, hhigh⟩)
      · simp only [if_neg hlow, if_neg hhigh, Option.some.injEq] at h
        exact .inr (.inr ⟨h.symm, hlow, hhigh⟩)
  · cases h

lemma clampBias_le {bound x y z : Float} (h : clampBias bound x = some y) (hx : x ≤ z) (hz : -bound ≤ z) :
    y ≤ z := by
  obtain ⟨rfl, -⟩ | ⟨rfl, hhigh⟩ | ⟨rfl, -⟩ := clampBias_cases h
  · exact hz
  · exact float_le_trans (float_le_of_lt hhigh) hx
  · exact hx

lemma le_clampBias {bound x y z : Float} (h : clampBias bound x = some y) (hx : z ≤ x) (hz : z ≤ bound) :
    z ≤ y := by
  obtain ⟨rfl, hlow⟩ | ⟨rfl, -⟩ | ⟨rfl, -⟩ := clampBias_cases h
  · exact float_le_of_lt (float_lt_of_le_of_lt hx hlow)
  · exact hz
  · exact hx

lemma clampBias_of_within {x : Float} (hbound : s.maxUserBias.isFinite = true) (h : Within s x) :
    clampBias s.maxUserBias.abs x = some x := by
  obtain ⟨hlow, hhigh⟩ := (abs_le_abs_iff h.1 hbound).mp h.2
  simp only [clampBias, if_pos (neg_abs_le_abs (isNaN_of_isFinite hbound)), if_neg (not_float_lt_of_le hlow),
    if_neg (not_float_lt_of_le hhigh)]

lemma within_of_clampBias {x y : Float} (hbound : s.maxUserBias.isFinite = true) (hx : x.isNaN = false)
    (h : clampBias s.maxUserBias.abs x = some y) : Within s y := by
  have habs : s.maxUserBias.abs.isFinite = true := (isFinite_abs _).trans hbound
  have hneg : (-s.maxUserBias.abs).isFinite = true := (isFinite_neg _).trans habs
  have hbounds : -s.maxUserBias.abs ≤ s.maxUserBias.abs := neg_abs_le_abs (isNaN_of_isFinite hbound)
  have hbetween : -s.maxUserBias.abs ≤ y ∧ y ≤ s.maxUserBias.abs := by
    obtain ⟨rfl, -⟩ | ⟨rfl, -⟩ | ⟨rfl, hlow, hhigh⟩ := clampBias_cases h
    · exact ⟨(exact_le_exact_iff hneg hneg).mp le_rfl, hbounds⟩
    · exact ⟨hbounds, (exact_le_exact_iff habs habs).mp le_rfl⟩
    · exact ⟨float_le_of_not_lt hx (isNaN_of_isFinite hneg) hlow,
        float_le_of_not_lt (isNaN_of_isFinite habs) hx hhigh⟩
  have hy : y.isFinite = true := isFinite_of_le_of_le hneg habs hbetween.1 hbetween.2
  exact ⟨hy, (abs_le_abs_iff hy hbound).mpr hbetween⟩

/-- A step that does not go backwards lowers a number when it is subtracted, also where the difference
overflows. -/
lemma sub_le_self_le_add {x step : Float} (hx : x.isFinite = true) (hstep : step.isFinite = true)
    (hforward : 0.0 ≤ step) : x - step ≤ x ∧ x ≤ x + step := by
  have hexact : 0 ≤ exact step := by
    rw [← exact_zero, exact_le_exact_iff (by decide) hstep]
    exact hforward
  have hneg : (-step).isFinite = true := (isFinite_neg _).trans hstep
  rw [float_sub_eq]
  refine ⟨(isRounding_add hx hneg).mono (isRounding_exact hx) ?_,
    (isRounding_exact hx).mono (isRounding_add hx hstep) ?_⟩
  · rw [exact_neg]
    linarith
  · linarith

lemma SteersFinite.judge {p : Profile} {kind : FeedbackKind} {bias : Float} (h : SteersFinite s)
    (hp : Within s p.calibrationBias)
    (hclamp : clampBias s.maxUserBias.abs (judge s p kind).calibrationBias = some bias) :
    Within s bias ∧ Steers p.calibrationBias bias kind := by
  obtain ⟨hlow, hhigh⟩ := (abs_le_abs_iff hp.1 h.bound).mp hp.2
  obtain ⟨hsub, hadd⟩ := sub_le_self_le_add hp.1 h.step h.forward
  have hnan : (Learning.judge s p kind).calibrationBias.isNaN = false := by
    rw [float_le_iff] at hsub hadd
    cases kind with
    | falsePositive => exact hsub.1
    | falseNegative => exact hadd.2.1
    | confirmed => exact isNaN_of_isFinite hp.1
  refine ⟨within_of_clampBias h.bound hnan hclamp, ?_⟩
  cases kind with
  | falsePositive => exact clampBias_le hclamp hsub hlow
  | falseNegative => exact le_clampBias hclamp hadd hhigh
  | confirmed => exact Option.some.inj (hclamp.symm.trans (clampBias_of_within h.bound hp))

lemma SteersFinite.within_zero (h : SteersFinite s) : Within s 0.0 := by
  have habs : s.maxUserBias.abs.isFinite = true := (isFinite_abs _).trans h.bound
  refine ⟨by decide, ?_⟩
  rw [← exact_le_exact_iff (by decide) habs, exact_abs, exact_abs, exact_zero, abs_zero]
  exact abs_nonneg _

def feedbackCount (p : Profile) : FeedbackKind → UInt32
  | .falsePositive => p.falsePositives
  | .falseNegative => p.falseNegatives
  | .confirmed => p.confirmed

def kind? : LearningJob → Option FeedbackKind
  | .outcome .. => none
  | .feedback _ f => some f.kind

def countFeedback (key : String) (kind : FeedbackKind) (jobs : List LearningJob) : ℕ :=
  jobs.countP fun job => job.key = key ∧ kind? job = some kind

lemma feedbackCount_of_standing {p q : Profile} (h : standing p = standing q) :
    feedbackCount p = feedbackCount q := by
  funext kind
  cases kind with
  | falsePositive => exact congrArg Standing.falsePositives h
  | falseNegative => exact congrArg Standing.falseNegatives h
  | confirmed => exact congrArg Standing.confirmed h

lemma feedbackCount_judge (p : Profile) (given kind : FeedbackKind) :
    feedbackCount (judge s p given) kind = feedbackCount p kind + if given = kind then 1 else 0 := by
  cases given <;> cases kind <;> simp [feedbackCount, judge]

lemma countFeedback_concat (key : String) (kind : FeedbackKind) (jobs : List LearningJob)
    (job : LearningJob) :
    countFeedback key kind (jobs ++ [job]) =
      countFeedback key kind jobs + if job.key = key ∧ kind? job = some kind then 1 else 0 := by
  simp [countFeedback, List.countP_append, List.countP_cons]

lemma countFeedback_replicate (key : String) (kind : FeedbackKind) (n : ℕ) (job : LearningJob) :
    countFeedback key kind (.replicate n job) = if job.key = key ∧ kind? job = some kind then n else 0 := by
  simp [countFeedback, List.countP_replicate]

section Change

variable {now : Instant} {job : LearningJob} {vector : Option (List Float32)} {stats : LearningStats}
  {p p' : Profile}

lemma feedbackCount_change (h : (change s now job vector stats p).2 = .ok p') (kind : FeedbackKind) :
    feedbackCount p' kind = feedbackCount p kind + if kind? job = some kind then 1 else 0 := by
  cases job with
  | outcome a success =>
    rw [feedbackCount_of_standing (standing_applyOutcome (change_outcome_eq_ok h))]
    simp [kind?]
  | feedback a f =>
    obtain ⟨moved, bias, hmoved, -, rfl⟩ := change_feedback_eq_ok h
    have hcount : feedbackCount { moved with calibrationBias := bias, updatedAt := now } kind =
        feedbackCount moved kind := by
      cases kind <;> rfl
    rw [hcount, feedbackCount_of_standing (standing_applyFeedback hmoved), feedbackCount_judge]
    simp [kind?]

lemma SteersFinite.change (h : SteersFinite s) (hp : Within s p.calibrationBias)
    (hchange : (change s now job vector stats p).2 = .ok p') :
    Within s p'.calibrationBias ∧ MovesBias p.calibrationBias p'.calibrationBias job := by
  cases job with
  | outcome a success =>
    have hbias : p'.calibrationBias = p.calibrationBias :=
      congrArg Standing.bias (standing_applyOutcome (change_outcome_eq_ok hchange))
    exact ⟨hbias ▸ hp, hbias⟩
  | feedback a f =>
    obtain ⟨moved, bias, hmoved, hclamp, rfl⟩ := change_feedback_eq_ok hchange
    rw [show moved.calibrationBias = (Learning.judge s p f.kind).calibrationBias from
      congrArg Standing.bias (standing_applyFeedback hmoved)] at hclamp
    exact h.judge hp hclamp

end Change

/-- What is stored for a user after some jobs: a profile if there are jobs for it among them, with a bias
within the bound and the counts of the feedback. -/
structure Calibrated (s : LearningSettings) (done : List LearningJob) (key : String)
    (known : Option Profile) : Prop where
  stored : known = none ↔ ∀ job ∈ done, job.key ≠ key
  within : ∀ p, known = some p → Within s p.calibrationBias
  counted : ∀ p, known = some p → ∀ kind, feedbackCount p kind = .ofNat (countFeedback key kind done)

def biasOf (known : Option Profile) : Float := (known.map (·.calibrationBias)).getD 0.0

lemma biasOf_eq (known : Option Profile) (key : String) (now : Instant) :
    biasOf known = (known.getD (.new key now)).calibrationBias := by
  cases known <;> rfl

lemma calibrated_none (s : LearningSettings) (key : String) : Calibrated s [] key none :=
  ⟨by simp, by simp, by simp⟩

namespace Calibrated

variable {done : List LearningJob} {key : String} {known : Option Profile}

lemma within_biasOf (h : Calibrated s done key known) (hs : SteersFinite s) : Within s (biasOf known) := by
  cases known with
  | none => exact hs.within_zero
  | some p => exact h.within p rfl

lemma feedbackCount_getD (h : Calibrated s done key known) (now : Instant) (kind : FeedbackKind) :
    feedbackCount (known.getD (.new key now)) kind = .ofNat (countFeedback key kind done) := by
  cases known with
  | none =>
    have hnone := h.stored.mp rfl
    have hzero : countFeedback key kind done = 0 := by
      simp only [countFeedback, List.countP_eq_zero, decide_eq_true_eq]
      exact fun job hjob hkey => hnone job hjob hkey.1
    rw [hzero]
    cases kind <;> rfl
  | some p => exact h.counted p rfl kind

lemma other (h : Calibrated s done key known) {job : LearningJob} (hkey : job.key ≠ key) :
    Calibrated s (done ++ [job]) key known := by
  refine ⟨?_, h.within, fun p hp kind => ?_⟩
  · rw [h.stored, List.forall_mem_append, List.forall_mem_singleton]
    exact (and_iff_left hkey).symm
  · rw [h.counted p hp, countFeedback_concat, if_neg fun hown => hkey hown.1, Nat.add_zero]

lemma revise {t : Turn} (h : Calibrated s done t.job.key known) (hs : SteersFinite s)
    (hsucceeds : t.Succeeds s) : Calibrated s (done ++ [t.job]) t.job.key (t.revise s known) ∧
      MovesBias (biasOf known) (biasOf (t.revise s known)) t.job := by
  obtain ⟨p, hp⟩ := hsucceeds (known.getD (.new t.job.key t.now))
  obtain ⟨vector, -, hchange⟩ := Turn.change_eq_ok hp
  have hwithin := h.within_biasOf hs
  rw [biasOf_eq known t.job.key t.now] at hwithin ⊢
  obtain ⟨hbias, hmoves⟩ := hs.change hwithin hchange
  rw [Turn.revise_of_eq_ok hp]
  refine ⟨⟨by simp, ?_, ?_⟩, hmoves⟩
  · rintro _ ⟨⟩
    exact hbias
  · rintro _ ⟨⟩ kind
    rw [feedbackCount_change hchange, h.feedbackCount_getD, countFeedback_concat, UInt32.ofNat_add]
    simp [apply_ite UInt32.ofNat]

end Calibrated

variable {σ : Type} {embed : Embedder σ} {memory : σ} {state : LearningState} {done : List LearningJob}
  {content : String → Option Profile}

lemma movesBias_self (x : Float) (hx : x.isFinite = true) (job : LearningJob) : MovesBias x x job := by
  have hle : x ≤ x := (exact_le_exact_iff hx hx).mp le_rfl
  have hsteers (kind : FeedbackKind) : Steers x x kind := by
    cases kind with
    | falsePositive => exact hle
    | falseNegative => exact hle
    | confirmed => rfl
  cases job with
  | outcome a success => rfl
  | feedback a f => exact hsteers f.kind

/-- The jobs that end without a panic, of jobs that are handled one after another. -/
def ended (s : LearningSettings) (embed : Embedder σ) :
    List (Instant × LearningJob) → σ → LearningState → List LearningJob
  | [], _, _ => []
  | (now, job) :: rest, memory, state =>
    let run := handle s embed now job memory state
    (if run.ending = .ok () then [job] else []) ++ ended s embed rest run.memory run.state

/-- One job keeps what is stored for each user as it should be after it. -/
lemma calibrated_handle (embed : Embedder σ) (hs : SteersFinite s) (henabled : s.enabled = true)
    (hholds : state.profiles.Holds content) (h : ∀ key, Calibrated s done key (content key))
    (now : Instant) (job : LearningJob) (memory : σ) :
    let run := handle s embed now job memory state
    ∃ next : String → Option Profile, run.state.profiles.Holds next ∧
      (∀ key, Calibrated s (done ++ if run.ending = .ok () then [job] else []) key (next key)) ∧
      MovesBias (biasOf (content job.key)) (biasOf (next job.key)) job := by
  intro run
  obtain ⟨hending, hnext⟩ := handle_of_holds embed henabled hholds now job memory
  refine ⟨_, hnext, ?_⟩
  rw [Function.update_self]
  by_cases hsucceeds : Turn.Succeeds s ⟨now, job, (ask s embed job memory).2⟩
  · obtain ⟨hrevised, hmoves⟩ := (h job.key).revise hs hsucceeds
    rw [if_pos (hending.mpr hsucceeds)]
    refine ⟨fun key => ?_, hmoves⟩
    by_cases hkey : key = job.key
    · subst hkey
      rw [Function.update_self]
      exact hrevised
    · rw [Function.update_of_ne hkey]
      exact (h key).other (Ne.symm hkey)
  · rw [if_neg (mt hending.mp hsucceeds), Turn.revise_of_not_succeeds hsucceeds, List.append_nil,
      Function.update_eq_self]
    exact ⟨h, movesBias_self _ ((h job.key).within_biasOf hs).1 job⟩

lemma calibrated_handleAll (embed : Embedder σ) (hs : SteersFinite s) (henabled : s.enabled = true)
    (hholds : state.profiles.Holds content) (h : ∀ key, Calibrated s done key (content key))
    (jobs : List (Instant × LearningJob)) (memory : σ) :
    ∃ last : String → Option Profile, (handleAll s embed jobs memory state).2.profiles.Holds last ∧
      ∀ key, Calibrated s (done ++ ended s embed jobs memory state) key (last key) := by
  induction jobs generalizing memory state content done with
  | nil => exact ⟨content, hholds, by simpa [ended] using h⟩
  | cons timed jobs ih =>
    obtain ⟨now, job⟩ := timed
    obtain ⟨next, hnext, hcalibrated, -⟩ := calibrated_handle embed hs henabled hholds h now job memory
    rw [ended, ← List.append_assoc]
    exact ih hnext hcalibrated _

lemma exists_calibrated (hs : SteersFinite s) (henabled : s.enabled = true) (embed : Embedder σ)
    (jobs : List (Instant × LearningJob)) (memory : σ) (key : String) :
    ∃ known, profileAfter s embed jobs memory key = .ok known ∧
      Calibrated s (ended s embed jobs memory { profiles := .memory }) key known := by
  obtain ⟨content, hholds, hcalibrated⟩ :=
    calibrated_handleAll embed hs henabled holds_empty (calibrated_none s) jobs memory
  exact ⟨content key, hholds.load key, hcalibrated key⟩

lemma ended_of_panicFree (hs : SteersFinite s) (henabled : s.enabled = true)
    (hembed : ∀ a memory, (embed a memory).2.ending ≠ .panicked)
    (hholds : state.profiles.Holds content) (h : ∀ key, Calibrated s done key (content key))
    {jobs : List (Instant × LearningJob)}
    (hhistory : ∀ timed ∈ jobs, ∃ start, Profile.daysBefore timed.1 s.outcomeHistoryDays = .ok start) :
    ended s embed jobs memory state = jobs.map Prod.snd := by
  induction jobs generalizing memory state content done with
  | nil => rfl
  | cons timed jobs ih =>
    obtain ⟨now, job⟩ := timed
    rw [List.forall_mem_cons] at hhistory
    have hkeeps : KeepsBias s now :=
      ⟨hhistory.1, isNaN_of_isFinite hs.bound, isNaN_of_isFinite hs.step, .inl hs.bound⟩
    have hanswers : state.profiles.Answers :=
      ⟨fun key => ⟨_, hholds.load key⟩, fun p => (hholds.save p).imp fun _ => And.left⟩
    have hfinite : state.profiles.HasFiniteBiases := fun key p hp => by
      rw [hholds.load, Except.ok.injEq] at hp
      exact ((h key).within p hp).1
    have hending : (handle s embed now job memory state).ending = .ok () :=
      (hkeeps.endsFinite henabled hembed state job hanswers hfinite).1
    obtain ⟨next, hnext, hcalibrated, -⟩ := calibrated_handle embed hs henabled hholds h now job memory
    rw [ended, if_pos hending, ih hnext hcalibrated hhistory.2, List.map_cons, List.singleton_append]

lemma ended_of_disabled (h : s.enabled = false) (jobs : List (Instant × LearningJob)) :
    ended s embed jobs memory state = jobs.map Prod.snd := by
  induction jobs generalizing memory state with
  | nil => rfl
  | cons timed jobs ih =>
    have hending : (handle s embed timed.1 timed.2 memory state).ending = .ok () :=
      congrArg Prod.snd (handle_of_disabled h)
    rw [ended, if_pos hending, ih, List.map_cons, List.singleton_append]

/-- After jobs on an empty store, every user of a job that ended has a profile whose bias is finite and within
the bound and whose counts are those of the feedback modulo `2 ^ 32`; whatever job comes next moves the bias of its profile
in its own direction only. All jobs end if the look-back can be represented and the embedder does not panic. -/
theorem calibration_of_jobs {s : LearningSettings} (hs : SteersFinite s) (embed : Embedder σ)
    (jobs : List (Instant × LearningJob)) (memory : σ) :
    let done := ended s embed jobs memory { profiles := .memory }
    (∀ key, ∃ known, profileAfter s embed jobs memory key = .ok known ∧
      (known = none ↔ s.enabled = false ∨ ∀ job ∈ done, job.key ≠ key) ∧
      ∀ p, known = some p → p.calibrationBias.isFinite = true ∧
        p.calibrationBias.abs ≤ s.maxUserBias.abs ∧
        ∀ kind, (feedbackCount p kind).toNat = countFeedback key kind done % 2 ^ 32) ∧
    (∀ now job, ∃ known next, profileAfter s embed jobs memory job.key = .ok known ∧
      profileAfter s embed (jobs ++ [(now, job)]) memory job.key = .ok next ∧
      MovesBias (biasOf known) (biasOf next) job) ∧
    ((∀ timed ∈ jobs, ∃ start, Profile.daysBefore timed.1 s.outcomeHistoryDays = .ok start) →
      (∀ a memory, (embed a memory).2.ending ≠ .panicked) → done = jobs.map Prod.snd) := by
  intro done
  cases henabled : s.enabled with
  | false =>
    refine ⟨fun key => ⟨none, profileAfter_of_disabled henabled jobs memory key, by simp, by simp⟩,
      fun now job => ⟨none, none, profileAfter_of_disabled henabled _ memory _,
        profileAfter_of_disabled henabled _ memory _, movesBias_self 0.0 (by decide) job⟩,
      fun _ _ => ended_of_disabled henabled jobs⟩
  | true =>
    obtain ⟨content, hholds, hcalibrated⟩ :=
      calibrated_handleAll embed hs henabled holds_empty (calibrated_none s) jobs memory
    rw [List.nil_append] at hcalibrated
    refine ⟨fun key => ⟨content key, hholds.load key, ?_, fun p hp => ?_⟩, fun now job => ?_,
      fun hhistory hembed => ended_of_panicFree hs henabled hembed holds_empty (calibrated_none s) hhistory⟩
    · rw [(hcalibrated key).stored]
      simp [done]
    · obtain ⟨hfinite, hbound⟩ := (hcalibrated key).within p hp
      refine ⟨hfinite, hbound, fun kind => ?_⟩
      rw [(hcalibrated key).counted p hp, UInt32.toNat_ofNat']
    · obtain ⟨next, hnext, -, hmoves⟩ := calibrated_handle embed hs henabled hholds hcalibrated now job
        (handleAll s embed jobs memory { profiles := .memory }).1
      refine ⟨content job.key, next job.key, hholds.load job.key, ?_, hmoves⟩
      rw [profileAfter, handleAll_append]
      exact hnext.load job.key

def flaggedJobs : List (Instant × LearningJob) := [
  (⟨0, 0⟩, .feedback bareAttempt (bareFeedback .falsePositive)),
  (⟨10, 0⟩, .outcome bareAttempt true),
  (⟨20, 0⟩, .feedback bareAttempt (bareFeedback .falsePositive))]

theorem calibration_of_flagged_logins :
    ∃ p, profileAfter { biasStep := 0.15 } constantEmbedder flaggedJobs () "" = .ok (some p) ∧
      p.calibrationBias.abs ≤ (0.2 : Float).abs ∧ p.falsePositives = 2 ∧ p.falseNegatives = 0 := by
  obtain ⟨hstored, -, hall⟩ := calibration_of_jobs (s := { biasStep := 0.15 })
    ⟨by decide +kernel, by decide +kernel, by decide +kernel⟩ constantEmbedder flaggedJobs ()
  have hhistory : ∀ timed ∈ flaggedJobs, ∃ start, Profile.daysBefore timed.1 30 = .ok start := by
    simp only [flaggedJobs, List.forall_mem_cons]
    exact ⟨⟨_, rfl⟩, ⟨_, rfl⟩, ⟨_, rfl⟩, by simp⟩
  have hdone := hall hhistory constantEmbedder_ending
  obtain ⟨known, hload, hnone, hsome⟩ := hstored ""
  cases known with
  | none => exact absurd (hnone.mp rfl) (by rw [hdone]; decide)
  | some p =>
    obtain ⟨-, hbound, hcounts⟩ := hsome p rfl
    rw [hdone] at hcounts
    exact ⟨p, hload, hbound, UInt32.toNat.inj (hcounts .falsePositive), UInt32.toNat.inj (hcounts .falseNegative)⟩

lemma steersFinite_default : SteersFinite {} := ⟨by decide +kernel, by decide +kernel, by decide +kernel⟩

/-- Confirmations of one user's login. -/
def confirmations (n : ℕ) : List (Instant × LearningJob) :=
  .replicate n (⟨0, 0⟩, .feedback bareAttempt (bareFeedback .confirmed))

lemma countFeedback_confirmations (n : ℕ) :
    countFeedback "" .confirmed ((confirmations n).map Prod.snd) = n := by
  have hkey : bareAttempt.profileKey = "" := by decide +kernel
  rw [confirmations, List.map_replicate, countFeedback_replicate]
  exact if_pos ⟨hkey, rfl⟩

lemma confirmed_of_confirmations {n : ℕ} (h : n ≠ 0) :
    ∃ p, profileAfter {} constantEmbedder (confirmations n) () "" = .ok (some p) ∧ p.confirmed = .ofNat n := by
  obtain ⟨known, hload, hknown⟩ :=
    exists_calibrated steersFinite_default rfl constantEmbedder (confirmations n) () ""
  have hhistory : ∀ timed ∈ confirmations n, ∃ start, Profile.daysBefore timed.1 30 = .ok start := by
    intro timed htimed
    rw [List.eq_of_mem_replicate htimed]
    exact ⟨_, rfl⟩
  rw [ended_of_panicFree steersFinite_default rfl constantEmbedder_ending holds_empty (calibrated_none {})
    hhistory] at hknown
  cases known with
  | none =>
    have hzero := (countFeedback_confirmations n).symm.trans
      (List.countP_eq_zero.mpr fun job hjob => by simp [hknown.stored.mp rfl job hjob])
    exact absurd hzero h
  | some p =>
    have hcount := hknown.counted p rfl .confirmed
    rw [countFeedback_confirmations] at hcount
    exact ⟨p, hload, hcount⟩

/-- A false alarm of which somebody is sure, so that the embedder is asked. -/
def sureAlarm : LearningJob := .feedback bareAttempt { bareFeedback .falsePositive with confidence := 1.0 }

def panickingEmbedder : Embedder Unit := fun _ memory => (memory, { ending := .panicked })

/-- Feedback is not counted exactly. After `2 ^ 32` confirmations there is none in the profile, and feedback that
makes the embedder panic is missing in it. -/
theorem feedback_counts_inexact :
    (countFeedback "" .confirmed ((confirmations (2 ^ 32)).map Prod.snd) = 2 ^ 32 ∧
      ∃ p, profileAfter {} constantEmbedder (confirmations (2 ^ 32)) () "" = .ok (some p) ∧ p.confirmed = 0) ∧
    let jobs := confirmations 1 ++ [(⟨0, 0⟩, sureAlarm)]
    countFeedback "" .falsePositive (jobs.map Prod.snd) = 1 ∧
      ∃ p, profileAfter {} panickingEmbedder jobs () "" = .ok (some p) ∧ p.falsePositives = 0 := by
  refine ⟨⟨countFeedback_confirmations _, confirmed_of_confirmations (by decide)⟩, ?_⟩
  intro jobs
  refine ⟨by decide +kernel, ?_⟩
  obtain ⟨known, hload, hknown⟩ := exists_calibrated steersFinite_default rfl panickingEmbedder jobs () ""
  cases known with
  | none => exact absurd (hknown.stored.mp rfl) (by decide +kernel)
  | some p =>
    refine ⟨p, hload, (hknown.counted p rfl .falsePositive).trans ?_⟩
    decide +kernel

end LoginRisk.Learning
