import LoginRisk.Attempt.Basic
import LoginRisk.Feedback.Basic
import LoginRisk.Findings.Basic
import LoginRisk.Pipeline.Task
import LoginRisk.Profile.Store
import LoginRisk.Settings.Basic

/-!
What is learned from outcomes and from feedback is learned in jobs, one profile each.
-/

namespace LoginRisk

inductive LearningJob where
  | outcome (attempt : Attempt) (success : Bool)
  | feedback (attempt : Attempt) (feedback : Feedback)

namespace LearningJob

def attempt : LearningJob → Attempt
  | .outcome a _ | .feedback a _ => a

def key (job : LearningJob) : String := job.attempt.profileKey

end LearningJob

/-- Whether feedback extends what is usual for the user: the attempt was wrongly flagged, and whoever
says so is sure enough. -/
def Feedback.extendsBaseline (s : LearningSettings) (f : Feedback) : Bool :=
  f.kind = .falsePositive && s.minFeedbackConfidence ≤ f.confidence

def LearningJob.needsVector (s : LearningSettings) : LearningJob → Bool
  | .outcome _ success => success
  | .feedback _ f => f.extendsBaseline s

structure LearningStats where
  profileUpdates : Nat := 0
  feedbackProcessed : Nat := 0
  falsePositives : Nat := 0
  falseNegatives : Nat := 0
  confirmed : Nat := 0
  droppedJobs : Nat := 0
  failedJobs : Nat := 0
  deriving DecidableEq, Repr

namespace LearningStats

def judge (s : LearningStats) : FeedbackKind → LearningStats
  | .falsePositive => { s with falsePositives := s.falsePositives + 1 }
  | .falseNegative => { s with falseNegatives := s.falseNegatives + 1 }
  | .confirmed => { s with confirmed := s.confirmed + 1 }

def finish (s : LearningStats) : LearningJob → LearningStats
  | .outcome .. => { s with profileUpdates := s.profileUpdates + 1 }
  | .feedback .. => { s with feedbackProcessed := s.feedbackProcessed + 1 }

def drop (s : LearningStats) : LearningStats := { s with droppedJobs := s.droppedJobs + 1 }

def fail (s : LearningStats) : LearningStats := { s with failedJobs := s.failedJobs + 1 }

def toJson (s : LearningStats) : Json := .object [
  ("profile_updates", .nat s.profileUpdates),
  ("feedback_processed", .nat s.feedbackProcessed),
  ("false_positives", .nat s.falsePositives),
  ("false_negatives", .nat s.falseNegatives),
  ("confirmed", .nat s.confirmed),
  ("dropped_jobs", .nat s.droppedJobs),
  ("failed_jobs", .nat s.failedJobs)]

end LearningStats

inductive JobError where
  | store (error : StoreError)
  | panicked
  deriving DecidableEq, Repr

end LoginRisk
