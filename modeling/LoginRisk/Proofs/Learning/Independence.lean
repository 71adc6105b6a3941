import LoginRisk.Proofs.Learning.Concurrent
import LoginRisk.Proofs.Learning.Sequence

/-!
Users do not disturb each other: a profile is what the jobs of its own user make of it, whatever jobs for
other users come between them.
-/

namespace LoginRisk.Learning

variable {σ : Type} {s : LearningSettings} {embed : Embedder σ}

def ownJobs (key : String) (jobs : List (Instant × LearningJob)) : List (Instant × LearningJob) :=
  jobs.filter fun timed => timed.2.key = key

lemma Steady.ask_eq (h : Steady embed) (job : LearningJob) (memory memory' : σ) :
    (ask s embed job memory).2 = (ask s embed job memory').2 := by
  unfold ask
  split
  · exact congrArg some (h job.attempt memory memory')
  · rfl

lemma Steady.turns_eq (h : Steady embed) (jobs : List (Instant × LearningJob)) (memory memory' : σ) :
    turns s embed jobs memory =
      jobs.map fun timed => ⟨timed.1, timed.2, (ask s embed timed.2 memory').2⟩ := by
  induction jobs generalizing memory with
  | nil => rfl
  | cons timed jobs ih =>
    rw [turns, List.map_cons, ← ih (ask s embed timed.2 memory).1, ← h.ask_eq timed.2 memory memory']

/-- With a steady embedder a profile depends on nothing but its own jobs. -/
lemma Steady.profileAfter_eq (h : Steady embed) (henabled : s.enabled = true) {key : String}
    {jobs jobs' : List (Instant × LearningJob)} (hown : ownJobs key jobs = ownJobs key jobs')
    (memory memory' : σ) :
    profileAfter s embed jobs memory key = profileAfter s embed jobs' memory' key := by
  let turn (timed : Instant × LearningJob) : Turn := ⟨timed.1, timed.2, (ask s embed timed.2 memory').2⟩
  have hturns (jobs : List (Instant × LearningJob)) (memory : σ) :
      ((turns s embed jobs memory).filter fun t => t.job.key = key) = (ownJobs key jobs).map turn := by
    rw [h.turns_eq jobs memory memory', List.filter_map]
    rfl
  rw [profileAfter_of_enabled henabled, profileAfter_of_enabled henabled, hturns, hturns, hown]

lemma ownJobs_ownJobs (key : String) (jobs : List (Instant × LearningJob)) :
    ownJobs key (ownJobs key jobs) = ownJobs key jobs := by
  simp [ownJobs]

lemma ownJobs_swap {a b : Instant × LearningJob} (hne : a.2.key ≠ b.2.key) (key : String)
    (first last : List (Instant × LearningJob)) :
    ownJobs key (first ++ a :: b :: last) = ownJobs key (first ++ b :: a :: last) := by
  simp only [ownJobs, List.filter_append, List.filter_cons, decide_eq_true_eq]
  by_cases ha : a.2.key = key
  · have hb : b.2.key ≠ key := fun hb => hne (ha.trans hb.symm)
    simp [ha, hb]
  · simp [ha]

/-- After any jobs on an empty store, the profile under a key is the one that the jobs for this key leave
alone, under the id of its user, and there is none when there are no such jobs. So neighbouring jobs for
different keys may change places. Each job keeps its own time, and the embedder may go by the attempt only. -/
theorem profile_of_own_jobs (s : LearningSettings) (embed : Embedder σ) (henabled : s.enabled = true)
    (hsteady : Steady embed) (jobs : List (Instant × LearningJob)) (memory : σ) (key : String) :
    profileAfter s embed jobs memory key = profileAfter s embed (ownJobs key jobs) memory key ∧
    (∀ p, profileAfter s embed jobs memory key = .ok (some p) → p.userId = key) ∧
    ((∀ timed ∈ jobs, timed.2.key ≠ key) → profileAfter s embed jobs memory key = .ok none) ∧
    (∀ first a b last, jobs = first ++ a :: b :: last → a.2.key ≠ b.2.key →
      profileAfter s embed jobs memory key = profileAfter s embed (first ++ b :: a :: last) memory key) := by
  refine ⟨?_, fun p => userId_of_profileAfter henabled, fun hnone => ?_, ?_⟩
  · exact hsteady.profileAfter_eq henabled (ownJobs_ownJobs key jobs).symm memory memory
  · have hown : ownJobs key jobs = ownJobs key [] := by
      simpa [ownJobs, List.filter_eq_nil_iff] using hnone
    exact hsteady.profileAfter_eq henabled hown memory memory
  · rintro first a b last rfl hne
    exact hsteady.profileAfter_eq henabled (ownJobs_swap hne key first last) memory memory

def loginOf (user : String) (seconds : ℤ) : Instant × LearningJob :=
  (⟨seconds, 0⟩, .outcome { bareAttempt with userId := some user, timestamp := ⟨seconds, 0⟩ } true)

/-- A login of another user between two logins of the first, and before them. -/
theorem own_jobs_of_two_users :
    profileAfter {} constantEmbedder [loginOf "a" 1, loginOf "b" 2, loginOf "a" 3] () "a" =
      profileAfter {} constantEmbedder [loginOf "a" 1, loginOf "a" 3] () "a" ∧
    profileAfter {} constantEmbedder [loginOf "a" 1, loginOf "b" 2, loginOf "a" 3] () "a" =
      profileAfter {} constantEmbedder [loginOf "b" 2, loginOf "a" 1, loginOf "a" 3] () "a" ∧
    profileAfter {} constantEmbedder [loginOf "a" 1, loginOf "b" 2, loginOf "a" 3] () "c" = .ok none := by
  have hfirst := profile_of_own_jobs {} constantEmbedder rfl (fun _ _ _ => rfl)
    [loginOf "a" 1, loginOf "b" 2, loginOf "a" 3] () "a"
  have hthird := profile_of_own_jobs {} constantEmbedder rfl (fun _ _ _ => rfl)
    [loginOf "a" 1, loginOf "b" 2, loginOf "a" 3] () "c"
  refine ⟨hfirst.1.trans rfl, hfirst.2.2.2 [] _ _ _ rfl (by decide), hthird.2.2.1 (by decide)⟩

end LoginRisk.Learning
