import LoginRisk.Proofs.Learning.Familiar

/-!
What the works that have been saved make of a user's profile. From a store without profiles on, a statement about
the works of a user and the profile holds after any works, if it holds of a new profile, if every job keeps it, and
if it holds of what the store gives back.
-/

namespace LoginRisk

def ProfileStore.Vacant (store : ProfileStore) : Prop := ∀ key found, store.load key = .ok found → found = none

lemma ProfileStore.vacant_memory : ProfileStore.memory.Vacant := by
  rintro key found ⟨⟩
  rfl

namespace Learning

variable {σ : Type} {s : LearningSettings} {embed : Embedder σ} {state : LearningState} {store : ProfileStore}
  {key : String} {ws : List Work} {contents : StoreContents} {Q : List Work → Profile → Prop}

/-- The works under a key that are saved, of some that are done one after another. -/
def savedWorks (s : LearningSettings) (embed : Embedder σ) (key : String) : List Work → σ → LearningState → List Work
  | [], _, _ => []
  | w :: ws, memory, state =>
    let run := w.run s embed memory state
    let rest := savedWorks s embed key ws run.memory run.state
    if w.saves s embed memory state && w.job.key = key then w :: rest else rest

def taught (s : LearningSettings) (works : List Work) : List Attempt :=
  (works.filter fun w => teaches s w.job).map fun w => w.job.attempt

lemma taught_concat (s : LearningSettings) (works : List Work) (w : Work) : taught s (works ++ [w]) =
    if teaches s w.job then taught s works ++ [w.job.attempt] else taught s works := by
  rw [taught, List.filter_append, List.map_append]
  cases hteaches : teaches s w.job <;> simp [taught, hteaches]

lemma learned_eq (ws : List Work) (memory : σ) (state : LearningState) :
    learned s embed key ws memory state = taught s (savedWorks s embed key ws memory state) := by
  induction ws generalizing memory state with
  | nil => rfl
  | cons w ws ih =>
    rw [learned, savedWorks, ih]
    cases w.saves s embed memory state <;> by_cases hkey : w.job.key = key <;> cases hteaches : teaches s w.job <;>
      simp [taught, hkey, hteaches]

/-- A statement about saved works and a profile that is true of new profiles, that jobs keep, and that does not get
lost in the store. -/
structure Maintains (s : LearningSettings) (key : String) (ws : List Work) (contents : StoreContents)
    (Q : List Work → Profile → Prop) : Prop where
  new : ∀ now, Q [] (.new key now)
  change : ∀ {done w vector stats p p'}, w ∈ ws → w.job.key = key → Q done p →
    (change s w.now w.job vector stats p).2 = .ok p' → Q (done ++ [w]) p'
  back : ∀ {done p q}, Q done p → contents.GivesBack p q → Q done q

structure Maintained (key : String) (contents : StoreContents) (Q : List Work → Profile → Prop) (done : List Work)
    (store : ProfileStore) : Prop where
  filed : store.Filed
  back : store.contents.GivesBack = contents.GivesBack
  none_iff : ∀ found, store.load key = .ok found → (found = none ↔ done = [])
  holds : ∀ p, store.load key = .ok (some p) → Q done p

lemma Maintained.vacant (h : store.Vacant) : Maintained key store.contents Q [] store where
  filed key p hp := by cases h key _ hp
  back := rfl
  none_iff found hfound := iff_of_true (h key found hfound) rfl
  holds p hp := by cases h key _ hp

/-- A job under the key that is saved adds to the works, other jobs leave the profile. -/
lemma Maintained.step (hQ : Maintains s key ws contents Q) {done : List Work}
    (h : Maintained key contents Q done state.profiles) {w : Work} (hw : w ∈ ws) {saves : Bool}
    (hleaves : Leaves s w.now w.job state saves store) :
    Maintained key contents Q (if saves && w.job.key = key then done ++ [w] else done) store := by
  have hfiled := hleaves.filed h.filed
  cases hleaves with
  | nothing => exact h
  | @saved known vector p _ load change save =>
    have hback := (ProfileStore.givesBack_save save).trans h.back
    have huser := userId_of_change h.filed load change
    by_cases hkey : w.job.key = key
    · rw [hkey] at load change huser
      have hp : Q (done ++ [w]) p := by
        refine hQ.change hw hkey ?_ change
        cases known with
        | none =>
          rw [(h.none_iff none load).mp rfl]
          exact hQ.new w.now
        | some q => exact h.holds q load
      -- What can be loaded now need not be the profile that was saved, but the store gave it back for that one.
      have hfound {found : Option Profile} (hfound : store.load key = .ok found) :
          ∃ q, found = some q ∧ Q (done ++ [w]) q := by
        rw [← huser] at hfound
        obtain ⟨q, hq, hgiven⟩ := ProfileStore.givesBack_of_load save hfound
        exact ⟨q, hq, hQ.back hp (h.back ▸ hgiven)⟩
      rw [if_pos (by simp [hkey])]
      refine ⟨hfiled, hback, fun found hload => ?_, fun q hload => ?_⟩
      · obtain ⟨q, rfl, -⟩ := hfound hload
        simp
      · obtain ⟨q', heq, hq⟩ := hfound hload
        cases heq
        exact hq
    · have hload : store.load key = state.profiles.load key :=
        ProfileStore.load_save_of_ne save (huser ▸ Ne.symm hkey)
      rw [if_neg (by simp [hkey])]
      refine ⟨hfiled, hback, ?_, ?_⟩
      · rw [hload]
        exact h.none_iff
      · rw [hload]
        exact h.holds

lemma Maintained.after (hQ : Maintains s key ws contents Q) {todo : List Work} (htodo : ∀ w ∈ todo, w ∈ ws)
    {done : List Work} (memory : σ) (h : Maintained key contents Q done state.profiles) :
    Maintained key contents Q (done ++ savedWorks s embed key todo memory state)
      (Learning.after s embed todo memory state).2.profiles := by
  induction todo generalizing memory state done with
  | nil =>
    rw [savedWorks, List.append_nil]
    exact h
  | cons w todo ih =>
    rw [List.forall_mem_cons] at htodo
    have hnext := ih htodo.2 (w.run s embed memory state).memory
      (h.step hQ htodo.1 (w.leaves s embed memory state))
    rw [Learning.after, savedWorks]
    split at hnext
    · rename_i hsaved
      rw [if_pos hsaved, ← List.singleton_append, ← List.append_assoc]
      exact hnext
    · rename_i hsaved
      rw [if_neg hsaved]
      exact hnext

/-- After any works from a store without profiles on, a user has a profile just if one has been saved, and the
statement is true of it. -/
theorem maintained_after {memory : σ} (hvacant : state.profiles.Vacant)
    (hQ : Maintains s key ws state.profiles.contents Q) :
    Maintained key state.profiles.contents Q (savedWorks s embed key ws memory state)
      (after s embed ws memory state).2.profiles := by
  simpa using (Maintained.vacant hvacant).after hQ (fun _ hw => hw) memory

end Learning

end LoginRisk
