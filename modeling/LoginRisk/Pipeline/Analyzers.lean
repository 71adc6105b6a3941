import LoginRisk.Anomaly.Detect
import LoginRisk.Credential.Analyze
import LoginRisk.Embedding.Analyze
import LoginRisk.Threat.Detect

/-!
The four analyzers that a pipeline runs, and the ones that this library brings along. An analyzer may
remember things between attempts and may do anything on an attempt: answer, fail, panic or take its
time.
-/

namespace LoginRisk

/-- Analyzers with a common memory of type `σ`. -/
structure Analyzers (σ : Type) where
  credential : (email credential : String) → σ → σ × StageTask CredentialFindings
  embed : Attempt → σ → σ × StageTask EmbeddingFindings
  score : ProfileStore → Attempt → EmbeddingFindings → σ → σ × StageTask EmbeddingFindings
  anomaly : ProfileStore → Attempt → σ → σ × StageTask BehaviorFindings
  /-- The instant decides which indicators have expired. -/
  threat : Instant → Attempt → σ → σ × StageTask ThreatFindings
  cleanup : Instant → σ → σ × Except TimeOverflow Unit

structure AnalyzerState where
  anomaly : AnomalyState
  threat : ThreatState

namespace AnalyzerState

def initial (s : Settings) : AnalyzerState := ⟨.initial s.anomaly, .initial s.threat⟩

/-- Adds the indicators of a JSON array to the feed; `none` when the text is no array of indicators. -/
def withIndicators? (s : AnalyzerState) (text : String) : Option AnalyzerState :=
  (s.threat.feed.load? text).map fun loaded => { s with threat := { s.threat with feed := loaded.1 } }

end AnalyzerState

namespace Analyzers

/-- The analyzers of this library; each run takes `elapsedMs` by the stopwatch and never waits. -/
def standard (s : Settings) (elapsedMs : Float) : Analyzers AnalyzerState where
  credential email credential state :=
    (state, { ending := .value (Credential.analyze email credential), elapsedMs })
  embed a state := (state, { ending := .value (Embedding.embed s.embedding a), elapsedMs })
  score profiles a e state :=
    (state, { ending := Embedding.score s.embedding profiles a e, elapsedMs })
  anomaly profiles a state :=
    let (anomaly, ending) := Anomaly.detect s.anomaly profiles a state.anomaly
    ({ state with anomaly }, { ending, elapsedMs })
  threat now a state :=
    let (threat, found) := Threat.analyze s.threat state.threat a now
    ({ state with threat }, { ending := .ofExcept found, elapsedMs })
  cleanup now state :=
    let (anomaly, cleaned) := Anomaly.cleanup state.anomaly now
    let state := { state with anomaly }
    match cleaned with
    | .error e => (state, .error e)
    | .ok () =>
      let (threat, cleaned) := Threat.cleanup state.threat now
      ({ state with threat }, cleaned)

end Analyzers

end LoginRisk
