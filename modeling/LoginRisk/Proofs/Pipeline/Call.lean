import LoginRisk.Proofs.Cache.Entries
import LoginRisk.Proofs.Pipeline.Assemble

/-!
What one call can do. It is served from the cache, or its stages make an assessment that is cached, or
an overflow leaves the fallback and the cache as the look-up left it.
-/

namespace LoginRisk

/-- One call of a pipeline with all that it is given from outside. The analyzers may differ from call
to call, so that they may do anything. -/
structure Call (σ : Type) where
  analyzers : Analyzers σ
  profiles : ProfileStore
  env : Surroundings
  attempt : Attempt

namespace Call

variable {σ : Type}

def key (settings : Settings) (c : Call σ) : String := Pipeline.cacheKey settings c.env c.attempt

def lookup (settings : Settings) (c : Call σ) (p : Pipeline σ) : ResultCache × CacheLookup :=
  p.cache.get settings.cache c.env.clock (c.key settings)

/-- The call is answered from the cache. -/
def Served (settings : Settings) (c : Call σ) (p : Pipeline σ) : Prop :=
  ∃ r, (c.lookup settings p).2 = .hit r

instance (settings : Settings) (c : Call σ) (p : Pipeline σ) : Decidable (c.Served settings p) :=
  match h : (c.lookup settings p).2 with
  | .hit r => isTrue ⟨r, h⟩
  | .miss => isFalse fun ⟨r, hr⟩ => by rw [h] at hr; cases hr
  | .corrupted fault => isFalse fun ⟨r, hr⟩ => by rw [h] at hr; cases hr

/-- The stages as they finish if the call is not answered from the cache. -/
def runs (settings : Settings) (c : Call σ) (p : Pipeline σ) : StageRuns :=
  (Pipeline.runStages settings c.analyzers c.profiles c.env.now c.attempt p.analyzers).2.1

def remembered (settings : Settings) (c : Call σ) (p : Pipeline σ) : σ :=
  (Pipeline.runStages settings c.analyzers c.profiles c.env.now c.attempt p.analyzers).1

/-- The assessment that the stages make if their signals stay finite. -/
def computed (settings : Settings) (c : Call σ) (p : Pipeline σ) : Assessment :=
  Pipeline.assessed settings c.env.now c.env.elapsedMs c.attempt (c.runs settings p)
    (Pipeline.score settings (c.runs settings p))

def fallback (settings : Settings) (c : Call σ) : Assessment :=
  .fallback c.attempt.requestId settings.service.fallbackScore c.env.elapsedMs c.env.now

def Overflows (settings : Settings) (c : Call σ) (p : Pipeline σ) : Prop :=
  Decision.Overflows (Pipeline.signals settings (c.runs settings p))

instance (settings : Settings) (c : Call σ) (p : Pipeline σ) : Decidable (c.Overflows settings p) :=
  inferInstanceAs (Decidable (Decision.Overflows _))

def reply (settings : Settings) (c : Call σ) (p : Pipeline σ) : Reply σ :=
  p.analyze settings c.analyzers c.profiles c.env c.attempt

variable {settings : Settings} {c : Call σ} {p : Pipeline σ}

lemma reply_of_hit {r : Assessment} (h : (c.lookup settings p).2 = .hit r) :
    (c.reply settings p).assessment = r ∧
    (c.reply settings p).pipeline.cache = (c.lookup settings p).1 ∧
    (c.reply settings p).pipeline.analyzers = p.analyzers := by
  simp only [lookup, key] at h
  simp only [reply, Pipeline.analyze, Pipeline.begin, h, lookup, key, and_self]

lemma reply_of_not_served (h : ¬c.Served settings p) :
    ∃ q : Pipeline σ, q.cache = (c.lookup settings p).1 ∧ q.analyzers = c.remembered settings p ∧
      c.reply settings p =
        q.conclude settings c.env c.attempt (c.key settings) (c.runs settings p) := by
  simp only [Served, lookup, key] at h
  simp only [reply, Pipeline.analyze, Pipeline.begin, lookup, key, remembered, runs]
  cases hl : (p.cache.get settings.cache c.env.clock
      (Pipeline.cacheKey settings c.env c.attempt)).2 with
  | hit r => exact absurd ⟨r, hl⟩ h
  | miss => exact ⟨_, rfl, rfl, rfl⟩
  | corrupted fault => exact ⟨_, rfl, rfl, rfl⟩

lemma reply_of_not_overflows (h : ¬c.Served settings p) (hfinite : ¬c.Overflows settings p) :
    (c.reply settings p).assessment = c.computed settings p ∧
    (c.reply settings p).pipeline.cache = (c.lookup settings p).1.insert settings.cache c.env.clock
      (c.key settings) (c.computed settings p) ∧
    (c.reply settings p).pipeline.analyzers = c.remembered settings p := by
  obtain ⟨q, hcache, hanalyzers, hreply⟩ := reply_of_not_served h
  have hassemble :=
    (Pipeline.assemble_of_not_overflows c.env.now c.env.elapsedMs c.attempt hfinite).1
  rw [hreply, Pipeline.conclude, hassemble, ← hcache, ← hanalyzers]
  exact ⟨rfl, rfl, rfl⟩

lemma reply_of_overflows (h : ¬c.Served settings p) (hoverflow : c.Overflows settings p) :
    (c.reply settings p).assessment = c.fallback settings ∧
    (c.reply settings p).pipeline.cache = (c.lookup settings p).1 ∧
    (c.reply settings p).pipeline.analyzers = c.remembered settings p := by
  obtain ⟨q, hcache, hanalyzers, hreply⟩ := reply_of_not_served h
  obtain ⟨e, hassemble⟩ :=
    Pipeline.assemble_of_overflows c.env.now c.env.elapsedMs c.attempt hoverflow
  rw [hreply, Pipeline.conclude, hassemble, ← hcache, ← hanalyzers]
  exact ⟨rfl, rfl, rfl⟩

/-- All that a call can do to the cache, with the answer that goes with it. -/
theorem reply_cases (settings : Settings) (c : Call σ) (p : Pipeline σ) :
    (∃ r, (c.lookup settings p).2 = .hit r ∧ (c.reply settings p).assessment = r ∧
      (c.reply settings p).pipeline.cache = (c.lookup settings p).1) ∨
    (¬c.Served settings p ∧ ¬c.Overflows settings p ∧
      (c.reply settings p).assessment = c.computed settings p ∧
      (c.reply settings p).pipeline.cache = (c.lookup settings p).1.insert settings.cache c.env.clock
        (c.key settings) (c.computed settings p)) ∨
    (¬c.Served settings p ∧ c.Overflows settings p ∧
      (c.reply settings p).assessment = c.fallback settings ∧
      (c.reply settings p).pipeline.cache = (c.lookup settings p).1) := by
  by_cases hserved : c.Served settings p
  · obtain ⟨r, hr⟩ := hserved
    exact .inl ⟨r, hr, (reply_of_hit hr).1, (reply_of_hit hr).2.1⟩
  · by_cases hoverflow : c.Overflows settings p
    · obtain ⟨hanswer, hcache, -⟩ := reply_of_overflows hserved hoverflow
      exact .inr (.inr ⟨hserved, hoverflow, hanswer, hcache⟩)
    · obtain ⟨hanswer, hcache, -⟩ := reply_of_not_overflows hserved hoverflow
      exact .inr (.inl ⟨hserved, hoverflow, hanswer, hcache⟩)

lemma computed_valid (h : ¬c.Overflows settings p) : (c.computed settings p).Valid :=
  (Pipeline.assemble_of_not_overflows _ _ _ h).2

lemma computed_coherent (settings : Settings) (c : Call σ) (p : Pipeline σ) :
    (c.computed settings p).Coherent :=
  Pipeline.assessed_coherent (Pipeline.reported_runStages ..) _

/-- A call to analyzers that break every promise: a similarity that is no number, an error, a time
deviation and a bias out of range, and an infinite reputation after the end of the budget. -/
def hostile (bias : Float) : Call Unit where
  analyzers :=
    { credential := fun _ _ s => (s, ⟨.value { CredentialFindings.fallback with similarity := 0.0 / 0.0 }, 0, 0.0⟩)
      embed := fun _ s => (s, ⟨.failure "no vector", 0, 0.0⟩)
      score := fun _ _ _ s => (s, ⟨.panicked, 0, 0.0⟩)
      anomaly := fun _ _ s =>
        (s, ⟨.value { BehaviorFindings.fallback with timeDeviation := 7.0, calibrationBias := bias }, 0, 0.0⟩)
      threat := fun _ _ s =>
        (s, ⟨.value { ThreatFindings.fallback with ipReputation := 1.0 / 0.0 }, 9000, 0.0⟩)
      cleanup := fun _ s => (s, .ok ()) }
  profiles := { contents := .memory [] }
  env := { now := default, clock := 0, elapsedMs := 1.0, secret := [] }
  attempt :=
    { email := "a@b.c", credentialDigest := "", clientAddress := .v4 0, userAgent := "",
      timestamp := default, requestId := "r" }

end Call

end LoginRisk
