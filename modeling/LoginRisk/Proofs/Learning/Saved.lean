import LoginRisk.Proofs.Learning.Handle
import LoginRisk.Proofs.Learning.Sequence
import LoginRisk.Proofs.Profile.ReadBack

/-!
What a job leaves in any store, in memory or in a table. A job that ends well has saved the profile under its
key as changed; one that ends otherwise has saved nothing.
-/

namespace LoginRisk.Learning

variable {σ : Type} {s : LearningSettings} {embed : Embedder σ} {now : Instant} {job : LearningJob}
  {memory : σ} {state : LearningState}

inductive Leaves (s : LearningSettings) (now : Instant) (job : LearningJob) (state : LearningState) :
    Bool → ProfileStore → Prop where
  | nothing : Leaves s now job state false state.profiles
  | saved {known : Option Profile} {vector : Option (List Float32)} {p : Profile} {store : ProfileStore}
      (load : state.profiles.load job.key = .ok known)
      (change : (change s now job vector state.stats (known.getD (.new job.key now))).2 = .ok p)
      (save : state.profiles.save p = .ok store) : Leaves s now job state true store

lemma leaves_apply (vector : Option (List Float32)) :
    Leaves s now job state (apply s now job vector state).2.isOk (apply s now job vector state).1.profiles := by
  unfold apply
  split
  · exact .nothing
  · rename_i known hload
    dsimp only
    split
    · exact .nothing
    · rename_i p hchange
      split
      · exact .nothing
      · rename_i store hsave
        exact .saved hload hchange hsave

lemma leaves_perform (s : LearningSettings) (embed : Embedder σ) (now : Instant) (job : LearningJob)
    (memory : σ) (state : LearningState) :
    let run := perform s embed now job memory state
    Leaves s now job state run.ending.isOk run.state.profiles := by
  change Leaves s now job state (perform s embed now job memory state).result.2.isOk
    (perform s embed now job memory state).result.1.profiles
  rw [perform_result]
  cases vectorFor s embed job memory with
  | error e => exact .nothing
  | ok vector => exact leaves_apply vector

lemma leaves_of_ok (h : (perform s embed now job memory state).ending = .ok ()) :
    Leaves s now job state true (perform s embed now job memory state).state.profiles := by
  have hperform := leaves_perform s embed now job memory state
  dsimp only at hperform
  rwa [h] at hperform

lemma finished_profiles (result : LearningState × Except JobError Unit) :
    (finished result).1.profiles = result.1.profiles := by
  obtain ⟨state, (_ | _) | _⟩ := result <;> rfl

/-- In the background a job does the same to the profiles, if learning is switched on. -/
lemma handle_profiles (s : LearningSettings) (embed : Embedder σ) (now : Instant) (job : LearningJob)
    (memory : σ) (state : LearningState) :
    (handle s embed now job memory state).state.profiles =
      if s.enabled then (perform s embed now job memory state).state.profiles else state.profiles := by
  change (handle s embed now job memory state).result.1.profiles = _
  cases henabled : s.enabled with
  | false => rw [handle_of_disabled henabled, if_neg Bool.false_ne_true]
  | true =>
    rw [handle_of_enabled henabled, finished_profiles, if_pos rfl]
    rfl

section Store

variable {saves : Bool} {store : ProfileStore}

lemma userId_of_change {known : Option Profile} {vector : Option (List Float32)} {p : Profile}
    (hfiled : state.profiles.Filed) (hload : state.profiles.load job.key = .ok known)
    (h : (change s now job vector state.stats (known.getD (.new job.key now))).2 = .ok p) : p.userId = job.key := by
  rw [userId_change h]
  cases known with
  | none => rfl
  | some q => exact hfiled job.key q hload

lemma Leaves.exists_load (h : Leaves s now job state true store) :
    ∃ known, state.profiles.load job.key = .ok known := by
  cases h with
  | saved load change save => exact ⟨_, load⟩

lemma Leaves.faults (h : Leaves s now job state saves store) : store.faults = state.profiles.faults := by
  cases h with
  | nothing => rfl
  | saved load change save => exact ProfileStore.faults_save save

lemma Leaves.filed (h : Leaves s now job state saves store) (hfiled : state.profiles.Filed) : store.Filed := by
  cases h with
  | nothing => exact hfiled
  | saved load change save => exact hfiled.save save

lemma Leaves.load_of_ne (h : Leaves s now job state saves store) (hfiled : state.profiles.Filed) {key : String}
    (hkey : key ≠ job.key) : store.load key = state.profiles.load key := by
  cases h with
  | nothing => rfl
  | saved load change save =>
    exact ProfileStore.load_save_of_ne save (userId_of_change hfiled load change ▸ hkey)

end Store

end LoginRisk.Learning
