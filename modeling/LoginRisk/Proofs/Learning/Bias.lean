import LoginRisk.Proofs.Learning.Handle
import LoginRisk.Proofs.Number.Sign
import LoginRisk.Proofs.Profile.Bias
import LoginRisk.Proofs.Settings.Validate

/-!
Under which settings learning always ends and keeps the biases of users finite. Acceptance looks at none
of the numbers that learning computes with, so that it does not decide this.
-/

namespace LoginRisk

open Number

namespace Learning

/-- The settings let learning end and keep biases finite: the look-back over outcomes is representable,
the bound and the step of the bias are numbers, and what the bound does not catch is not too large. -/
structure KeepsBias (s : LearningSettings) (now : Instant) : Prop where
  history : ∃ start, Profile.daysBefore now s.outcomeHistoryDays = .ok start
  bound : s.maxUserBias.isNaN = false
  step : s.biasStep.isNaN = false
  reach : s.maxUserBias.isFinite = true ∨ (largest + s.biasStep.abs).isFinite = true

lemma exists_clampBias {bound x : Float} (hbound : bound.isFinite = true) (hx : x.isNaN = false) :
    ∃ y, clampBias bound.abs x = some y ∧ y.isFinite = true := by
  have habs : bound.abs.isFinite = true := (isFinite_abs bound).trans hbound
  have hneg : (-bound.abs).isFinite = true := (isFinite_neg _).trans habs
  rw [clampBias, if_pos (neg_abs_le_abs (isNaN_of_isFinite hbound))]
  refine ⟨_, rfl, ?_⟩
  by_cases hlow : x < -bound.abs
  · simp only [if_pos hlow]
    split
    · exact habs
    · exact hneg
  · simp only [if_neg hlow]
    split
    · exact habs
    · rename_i hhigh
      exact isFinite_of_le_of_le hneg habs (float_le_of_not_lt hx (isNaN_of_isFinite hneg) hlow)
        (float_le_of_not_lt (isNaN_of_isFinite habs) hx hhigh)

lemma clampBias_of_infinite {bound : Float} (hfinite : bound.isFinite = false) (hnan : bound.isNaN = false)
    (x : Float) : clampBias bound.abs x = some x := by
  obtain ⟨hlow, hhigh⟩ := not_lt_of_infinite hfinite hnan x
  simp only [clampBias, if_pos (neg_abs_le_abs hnan), if_neg hlow, if_neg hhigh]

lemma clampBias_of_isNaN {bound : Float} (h : bound.isNaN = true) (x : Float) :
    clampBias bound.abs x = none := by
  rw [clampBias, if_neg]
  intro hle
  rw [float_le_iff, isNaN_neg, isNaN_abs, h] at hle
  cases hle.1

lemma clampBias_isNaN {bound x y : Float} (hx : x.isNaN = true) (h : clampBias bound x = some y) : y = x := by
  have hlow : ¬x < -bound := fun hlt => by
    rw [float_lt_iff, hx] at hlt
    cases hlt.1
  have hhigh : ¬bound < x := fun hlt => by
    rw [float_lt_iff, hx] at hlt
    cases hlt.2.1
  simp only [clampBias, if_neg hlow, if_neg hhigh] at h
  split at h <;> cases h
  rfl

section Change

variable {s : LearningSettings} {now : Instant} (a : Attempt) (vector : Option (List Float32))
  (stats : LearningStats) {p : Profile}

/-- Learning from a success touches what is usual for the user and nothing else. -/
lemma exists_learnSuccess (s : LearningSettings) (p : Profile) :
    ∃ hours countries locations devices agents logins embeddings, learnSuccess s a vector p =
      { p with
        hourHistogram := hours
        knownCountries := countries
        knownLocations := locations
        knownDevices := devices
        knownUserAgents := agents
        recentLogins := logins
        typicalEmbeddings := embeddings } := by
  obtain ⟨hours, hhours⟩ : ∃ hours, countHour a.timestamp.hour p = { p with hourHistogram := hours } := ⟨_, rfl⟩
  obtain ⟨countries, locations, hplace⟩ : ∃ countries locations, learnPlace s a.place (countHour a.timestamp.hour p) =
      { p with hourHistogram := hours, knownCountries := countries, knownLocations := locations } := by
    rw [hhours]
    unfold learnPlace
    split
    · exact ⟨_, _, rfl⟩
    · dsimp only
      unfold learnCountry
      split <;> exact ⟨_, _, rfl⟩
  rw [learnSuccess, hplace]
  cases vector <;> exact ⟨_, _, _, _, _, _, _, rfl⟩

lemma learnSuccess_bias (p : Profile) :
    (learnSuccess s a vector p).calibrationBias = p.calibrationBias := by
  obtain ⟨_, _, _, _, _, _, _, hlearned⟩ := exists_learnSuccess a vector s p
  rw [hlearned]

lemma addOutcome_bias {start : Instant} (h : Profile.daysBefore now s.outcomeHistoryDays = .ok start)
    (o : LoginOutcome) (p : Profile) :
    ∃ added, addOutcome s now o p = .ok added ∧ added.calibrationBias = p.calibrationBias := by
  simp only [addOutcome, h, Except.map]
  exact ⟨_, rfl, rfl⟩

lemma applyOutcome_bias (h : ∃ start, Profile.daysBefore now s.outcomeHistoryDays = .ok start)
    (success : Bool) (p : Profile) : ∃ p', applyOutcome s now a success vector p = .ok p' ∧
      p'.calibrationBias = p.calibrationBias := by
  obtain ⟨start, hstart⟩ := h
  obtain ⟨added, hadded, hbias⟩ :=
    addOutcome_bias hstart ⟨a.timestamp, success, a.clientAddress.text⟩ p
  simp only [applyOutcome, hadded, bind, Except.bind, pure, Except.pure]
  refine ⟨_, rfl, ?_⟩
  cases success
  · exact hbias
  · exact (learnSuccess_bias a vector added).trans hbias

lemma applyFeedback_bias (h : ∃ start, Profile.daysBefore now s.outcomeHistoryDays = .ok start)
    (f : Feedback) (p : Profile) : ∃ p', applyFeedback s now a f vector p = .ok p' ∧
      p'.calibrationBias = (judge s p f.kind).calibrationBias := by
  unfold applyFeedback
  split
  · exact applyOutcome_bias a vector h true _
  · exact ⟨_, rfl, rfl⟩

lemma change_outcome (h : ∃ start, Profile.daysBefore now s.outcomeHistoryDays = .ok start)
    (success : Bool) : ∃ p', change s now (.outcome a success) vector stats p = (stats, .ok p') ∧
      p'.calibrationBias = p.calibrationBias := by
  obtain ⟨p', hp', hbias⟩ := applyOutcome_bias a vector h success p
  refine ⟨p', ?_, hbias⟩
  rw [change, hp']
  rfl

lemma change_feedback (h : ∃ start, Profile.daysBefore now s.outcomeHistoryDays = .ok start)
    {f : Feedback} {y : Float}
    (hy : clampBias s.maxUserBias.abs (judge s p f.kind).calibrationBias = some y) :
    ∃ p', change s now (.feedback a f) vector stats p = (stats.judge f.kind, .ok p') ∧
      p'.calibrationBias = y := by
  obtain ⟨moved, hmoved, hbias⟩ := applyFeedback_bias a vector h f p
  refine ⟨{ moved with calibrationBias := y, updatedAt := now }, ?_, rfl⟩
  simp only [change, hmoved, boundBias, hbias, hy, Option.map_some]

end Change

lemma KeepsBias.exists_judge {s : LearningSettings} {now : Instant} (h : KeepsBias s now) {p : Profile}
    (hp : p.calibrationBias.isFinite = true) (kind : FeedbackKind) :
    ∃ y, clampBias s.maxUserBias.abs (judge s p kind).calibrationBias = some y ∧ y.isFinite = true := by
  have hsteps : (judge s p kind).calibrationBias.isNaN = false ∧
      ((largest + s.biasStep.abs).isFinite = true →
        (judge s p kind).calibrationBias.isFinite = true) := by
    cases kind with
    | falseNegative => exact ⟨isNaN_add hp h.step, isFinite_add_of_largest hp⟩
    | confirmed => exact ⟨isNaN_of_isFinite hp, fun _ => hp⟩
    | falsePositive =>
      change (p.calibrationBias - s.biasStep).isNaN = false ∧
        (_ → (p.calibrationBias - s.biasStep).isFinite = true)
      rw [float_sub_eq]
      refine ⟨isNaN_add hp ((isNaN_neg _).trans h.step), fun hreach => isFinite_add_of_largest hp ?_⟩
      rwa [float_abs_neg]
  cases hbound : s.maxUserBias.isFinite with
  | true => exact exists_clampBias hbound hsteps.1
  | false =>
    have hreach := h.reach.resolve_left (by simp [hbound])
    exact ⟨_, clampBias_of_infinite hbound h.bound _, hsteps.2 hreach⟩

lemma KeepsBias.exists_change {s : LearningSettings} {now : Instant} (h : KeepsBias s now) {p : Profile}
    (hp : p.calibrationBias.isFinite = true) (job : LearningJob) (vector : Option (List Float32))
    (stats : LearningStats) :
    ∃ stats' p', change s now job vector stats p = (stats', .ok p') ∧
      p'.calibrationBias.isFinite = true := by
  cases job with
  | outcome a success =>
    obtain ⟨p', hchange, hbias⟩ := change_outcome a vector stats h.history success
    exact ⟨_, p', hchange, hbias ▸ hp⟩
  | feedback a f =>
    obtain ⟨y, hy, hfinite⟩ := h.exists_judge hp f.kind
    obtain ⟨p', hchange, hbias⟩ := change_feedback a vector stats h.history hy
    exact ⟨_, p', hchange, hbias ▸ hfinite⟩

section Apply

variable {s : LearningSettings} {now : Instant} {job : LearningJob} {vector : Option (List Float32)}
  {state : LearningState} {known : Option Profile} {stats : LearningStats}

lemma apply_of_change {p : Profile} {saved : ProfileStore} (hload : state.profiles.load job.key = .ok known)
    (hchange : change s now job vector state.stats (known.getD (.new job.key now)) = (stats, .ok p))
    (hsave : state.profiles.save p = .ok saved) :
    apply s now job vector state = (⟨saved, stats.finish job⟩, .ok ()) := by
  simp only [apply, hload, hchange, hsave]

lemma apply_of_change_error {e : JobError} (hload : state.profiles.load job.key = .ok known)
    (hchange : change s now job vector state.stats (known.getD (.new job.key now)) = (stats, .error e)) :
    apply s now job vector state = ({ state with stats }, .error e) := by
  simp only [apply, hload, hchange]

lemma change_error {p : Profile} {e : JobError} (h : (change s now job vector stats p).2 = .error e) :
    e = .panicked := by
  cases job with
  | outcome a success =>
    simp only [change] at h
    cases houtcome : applyOutcome s now a success vector p <;> rw [houtcome] at h <;> cases h
    rfl
  | feedback a f =>
    simp only [change] at h
    split at h
    · cases h
      rfl
    · dsimp only at h
      split at h <;> cases h
      rfl

lemma clampBias_of_change {a : Attempt} {f : Feedback} {stats' : LearningStats} {p p' : Profile}
    (hhistory : ∃ start, Profile.daysBefore now s.outcomeHistoryDays = .ok start)
    (h : change s now (.feedback a f) vector stats p = (stats', .ok p')) :
    clampBias s.maxUserBias.abs (judge s p f.kind).calibrationBias = some p'.calibrationBias := by
  obtain ⟨moved, hmoved, hbias⟩ := applyFeedback_bias a vector hhistory f p
  simp only [change, hmoved, boundBias, hbias] at h
  cases hclamp : clampBias s.maxUserBias.abs (judge s p f.kind).calibrationBias with
  | none =>
    rw [hclamp] at h
    cases h
  | some y =>
    rw [hclamp] at h
    cases h
    rfl

end Apply

section Handle

variable {σ : Type} {s : LearningSettings} {embed : Embedder σ} {now : Instant} {memory : σ}

/-- Every job on every working store with finite biases ends and leaves finite biases. -/
def EndsFinite (s : LearningSettings) (embed : Embedder σ) (now : Instant) (memory : σ) : Prop :=
  ∀ (state : LearningState) (job : LearningJob), state.profiles.Answers →
    state.profiles.HasFiniteBiases →
    (handle s embed now job memory state).ending = .ok () ∧
      (handle s embed now job memory state).state.profiles.HasFiniteBiases

def onlyProfile (key : String) (p : Profile) : LearningState := ⟨⟨.memory [(key, p)], {}⟩, {}⟩

lemma onlyProfile_answers (key : String) (p : Profile) : (onlyProfile key p).profiles.Answers :=
  ⟨fun _ => ⟨_, rfl⟩, fun _ => ⟨_, rfl⟩⟩

lemma load_onlyProfile (key : String) (p : Profile) :
    (onlyProfile key p).profiles.load key = .ok (some p) := by
  change Except.ok (List.lookup key [(key, p)]) = _
  simp

lemma onlyProfile_hasFiniteBiases (key : String) {p : Profile} (hp : p.calibrationBias.isFinite = true) :
    (onlyProfile key p).profiles.HasFiniteBiases := by
  intro key' q hq
  change Except.ok (List.lookup key' [(key, p)]) = _ at hq
  rw [Except.ok.injEq] at hq
  have hmem := Assoc.mem_of_lookup hq
  rw [List.mem_singleton, Prod.mk.injEq] at hmem
  rwa [hmem.2]

lemma EndsFinite.exists_change (h : EndsFinite s embed now memory) (henabled : s.enabled = true)
    (hembed : ∀ a memory, (embed a memory).2.ending ≠ .panicked) (job : LearningJob) {p : Profile}
    (hp : p.calibrationBias.isFinite = true) :
    ∃ vector stats p', change s now job vector {} p = (stats, .ok p') ∧
      p'.calibrationBias.isFinite = true := by
  obtain ⟨vector, hvector⟩ := exists_vectorFor s job memory hembed
  obtain ⟨hending, hafter⟩ :=
    h (onlyProfile job.key p) job (onlyProfile_answers _ _) (onlyProfile_hasFiniteBiases _ hp)
  have hresult : (handle s embed now job memory (onlyProfile job.key p)).result =
      finished (apply s now job vector (onlyProfile job.key p)) := handle_of_vector henabled hvector
  have hload := load_onlyProfile job.key p
  obtain ⟨stats, changed, hchange⟩ : ∃ stats changed,
      change s now job vector {} p = (stats, changed) := ⟨_, _, rfl⟩
  cases changed with
  | error e =>
    have hpanicked : e = .panicked := change_error (congrArg Prod.snd hchange)
    rw [apply_of_change_error hload hchange, hpanicked] at hresult
    exact absurd (hending.symm.trans (congrArg Prod.snd hresult)) (by simp [finished])
  | ok p' =>
    rw [apply_of_change hload hchange rfl] at hresult
    have hstate : (handle s embed now job memory (onlyProfile job.key p)).state.profiles =
        ⟨.memory (Assoc.put p'.userId p' [(job.key, p)]), {}⟩ :=
      congrArg (·.1.profiles) hresult
    rw [hstate] at hafter
    exact ⟨vector, stats, p', hchange, hafter p'.userId p' (congrArg Except.ok (Assoc.lookup_put ..))⟩

def bareAttempt : Attempt where
  email := ""
  credentialDigest := ""
  clientAddress := .v4 0
  userAgent := ""
  timestamp := ⟨0, 0⟩
  requestId := ""

/-- Feedback of a kind, from someone who is not sure of it at all. -/
def bareFeedback (kind : FeedbackKind) : Feedback := ⟨kind, 0.0, none, "", none⟩

def biased (now : Instant) (bias : Float) : Profile := { Profile.new "" now with calibrationBias := bias }

lemma isFinite_zero : (0.0 : Float).isFinite = true := by decide

lemma EndsFinite.exists_start (h : EndsFinite s embed now memory) (henabled : s.enabled = true)
    (hembed : ∀ a memory, (embed a memory).2.ending ≠ .panicked) :
    ∃ start, Profile.daysBefore now s.outcomeHistoryDays = .ok start := by
  obtain ⟨vector, stats, p', hchange, -⟩ :=
    h.exists_change henabled hembed (.outcome bareAttempt false) (p := biased now 0.0) isFinite_zero
  cases hstart : Profile.daysBefore now s.outcomeHistoryDays with
  | ok start => exact ⟨start, rfl⟩
  | error e =>
    simp only [change, applyOutcome, addOutcome, hstart] at hchange
    cases hchange

lemma EndsFinite.exists_clamp (h : EndsFinite s embed now memory) (henabled : s.enabled = true)
    (hembed : ∀ a memory, (embed a memory).2.ending ≠ .panicked) (kind : FeedbackKind) (bias : Float)
    (hbias : bias.isFinite = true) :
    ∃ y, clampBias s.maxUserBias.abs (judge s (biased now bias) kind).calibrationBias = some y ∧
      y.isFinite = true := by
  obtain ⟨vector, stats, p', hchange, hfinite⟩ :=
    h.exists_change henabled hembed (.feedback bareAttempt (bareFeedback kind)) (p := biased now bias) hbias
  have hclamp := clampBias_of_change (h.exists_start henabled hembed) hchange
  exact ⟨p'.calibrationBias, hclamp, hfinite⟩

/-- Where all jobs end well, the settings are as they need to be: jobs that show it are those of a user
without a bias, or with the largest. -/
lemma EndsFinite.keepsBias (h : EndsFinite s embed now memory) (henabled : s.enabled = true)
    (hembed : ∀ a memory, (embed a memory).2.ending ≠ .panicked) : KeepsBias s now where
  history := h.exists_start henabled hembed
  bound := by
    obtain ⟨y, hy, -⟩ := h.exists_clamp henabled hembed .confirmed 0.0 isFinite_zero
    by_contra hnan
    rw [clampBias_of_isNaN (by simpa using hnan)] at hy
    cases hy
  step := by
    obtain ⟨y, hy, hfinite⟩ := h.exists_clamp henabled hembed .falseNegative 0.0 isFinite_zero
    by_contra hnan
    have hmoved : (0.0 + s.biasStep : Float).isNaN = true := isNaN_add_of_isNaN _ (by simpa using hnan)
    rw [clampBias_isNaN hmoved hy] at hfinite
    rw [isNaN_of_isFinite hfinite] at hmoved
    cases hmoved
  reach := by
    obtain ⟨confirmed, hconfirmed, -⟩ := h.exists_clamp henabled hembed .confirmed 0.0 isFinite_zero
    rw [or_iff_not_imp_left, Bool.not_eq_true]
    intro hinfinite
    have hnan : s.maxUserBias.isNaN = false := by
      by_contra hnan
      rw [clampBias_of_isNaN (by simpa using hnan)] at hconfirmed
      cases hconfirmed
    have hkept (kind : FeedbackKind) :
        (judge s (biased now largest) kind).calibrationBias.isFinite = true := by
      obtain ⟨y, hy, hfinite⟩ := h.exists_clamp henabled hembed kind largest rfl
      rw [clampBias_of_infinite hinfinite hnan] at hy
      cases hy
      exact hfinite
    obtain heq | heq := add_abs_eq largest s.biasStep
    · rw [heq]
      exact hkept .falseNegative
    · rw [heq]
      exact hkept .falsePositive

lemma KeepsBias.endsFinite (h : KeepsBias s now) (henabled : s.enabled = true)
    (hembed : ∀ a memory, (embed a memory).2.ending ≠ .panicked) : EndsFinite s embed now memory := by
  intro state job hanswers hfinite
  obtain ⟨vector, hvector⟩ := exists_vectorFor s job memory hembed
  obtain ⟨known, hload⟩ := hanswers.load job.key
  have hknown : (known.getD (.new job.key now)).calibrationBias.isFinite = true := by
    cases known with
    | none => exact isFinite_zero
    | some p => exact hfinite job.key p hload
  obtain ⟨stats, p', hchange, hp'⟩ := h.exists_change hknown job vector state.stats
  obtain ⟨saved, hsave⟩ := hanswers.save p'
  have hresult : (handle s embed now job memory state).result = (⟨saved, stats.finish job⟩, .ok ()) := by
    rw [handle_of_vector henabled hvector, apply_of_change hload hchange hsave]
    rfl
  refine ⟨congrArg Prod.snd hresult, ?_⟩
  have hstate : (handle s embed now job memory state).state.profiles = saved :=
    congrArg (·.1.profiles) hresult
  rw [hstate]
  exact hfinite.save hp' hsave

/-- Learning ends and keeps biases finite, whatever the job and the profiles are, exactly when it is
switched off or its settings keep the bias. -/
theorem ends_finite_iff (s : LearningSettings) (embed : Embedder σ) (now : Instant) (memory : σ)
    (hembed : ∀ a memory, (embed a memory).2.ending ≠ .panicked) :
    EndsFinite s embed now memory ↔ (s.enabled = true → KeepsBias s now) := by
  refine ⟨fun h henabled => h.keepsBias henabled hembed, fun h => ?_⟩
  cases henabled : s.enabled with
  | true => exact (h henabled).endsFinite henabled hembed
  | false =>
    intro state job _ hfinite
    have hresult : (handle s embed now job memory state).result = (state, .ok ()) :=
      handle_of_disabled henabled
    have hstate : (handle s embed now job memory state).state = state := congrArg Prod.fst hresult
    rw [hstate]
    exact ⟨congrArg Prod.snd hresult, hfinite⟩

end Handle

theorem ends_finite_defaults :
    Settings.validate {} = .ok () ∧
      EndsFinite (Settings.learning {}) constantEmbedder ⟨60, 0⟩ () := by
  refine ⟨Settings.validate_eq_ok (by decide +kernel),
    (ends_finite_iff _ constantEmbedder ⟨60, 0⟩ () constantEmbedder_ending).mpr fun _ => ?_⟩
  exact ⟨⟨_, rfl⟩, by decide +kernel, by decide +kernel, .inl (by decide +kernel)⟩

def unboundedSettings : Settings := { learning := { maxUserBias := 0.0 / 0.0 } }

/-- The size of the bound is taken so that a negative one does no harm, but nothing lies within one that
is no number: the first feedback ends learning. -/
theorem accepted_bound_panics :
    unboundedSettings.validate = .ok () ∧
      ProfileStore.memory.Answers ∧ ProfileStore.memory.HasFiniteBiases ∧
      (handle unboundedSettings.learning constantEmbedder ⟨60, 0⟩
        (.feedback bareAttempt (bareFeedback .confirmed)) () { profiles := .memory }).ending =
        .error .panicked := by
  refine ⟨Settings.validate_eq_ok (by decide +kernel), ⟨fun _ => ⟨_, rfl⟩, fun _ => ⟨_, rfl⟩⟩, ?_, ?_⟩
  · intro key p h
    cases h
  · decide +kernel

end Learning

end LoginRisk
