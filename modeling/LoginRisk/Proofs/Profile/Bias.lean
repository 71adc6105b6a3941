import LoginRisk.Profile.Store
import LoginRisk.Proofs.Json.Finite

/-!
Stores whose profiles all have a finite bias. A table has no others: its rows are text, in which a profile
with another bias cannot be written so that it is read again.
-/

namespace LoginRisk

lemma Profile.isFinite_of_ofJson {j : Json} {p : Profile} (hj : j.AllFinite) (h : Profile.ofJson j = .ok p) :
    p.calibrationBias.isFinite = true := by
  -- The fields are read in order, nine of them before the bias and five after it.
  obtain ⟨f, hf, h⟩ := exists_of_bind_eq_ok h
  iterate 9 obtain ⟨_, -, h⟩ := exists_of_bind_eq_ok h
  obtain ⟨bias, hbias, h⟩ := exists_of_bind_eq_ok h
  iterate 5 obtain ⟨_, -, h⟩ := exists_of_bind_eq_ok h
  cases h
  exact Json.Fields.isFinite_required (Json.Fields.allFinite_of hj hf) hbias

namespace ProfileStore

structure Answers (store : ProfileStore) : Prop where
  load : ∀ key, ∃ found, store.load key = .ok found
  save : ∀ p, ∃ saved, store.save p = .ok saved

def HasFiniteBiases (store : ProfileStore) : Prop :=
  ∀ key p, store.load key = .ok (some p) → p.calibrationBias.isFinite = true

/-- Rows of text cannot hold another bias. -/
lemma hasFiniteBiases_table (rows : List (String × String)) (faults : StoreFaults) :
    HasFiniteBiases ⟨.table rows, faults⟩ := by
  intro key p h
  unfold load StoreContents.load at h
  split at h
  · cases h
  · dsimp only at h
    split at h
    · cases h
    · rename_i row hrow
      unfold StoreContents.readRow at h
      split at h
      · cases h
      · rename_i j hj
        cases hdecoded : Profile.ofJson j with
        | error e =>
          rw [hdecoded] at h
          cases h
        | ok decoded =>
          rw [hdecoded] at h
          cases h
          exact Profile.isFinite_of_ofJson (Json.allFinite_read hj) hdecoded

lemma HasFiniteBiases.save {store saved : ProfileStore} {p : Profile} (h : store.HasFiniteBiases)
    (hp : p.calibrationBias.isFinite = true) (hsave : store.save p = .ok saved) :
    saved.HasFiniteBiases := by
  obtain ⟨contents, faults⟩ := store
  unfold ProfileStore.save at hsave
  split at hsave
  · cases hsave
  · cases hsave
    cases contents with
    | table rows => exact hasFiniteBiases_table _ _
    | memory profiles =>
      intro key q hload
      unfold ProfileStore.load at hload
      split at hload
      · cases hload
      · rename_i hfaults
        change Except.ok ((Assoc.put p.userId p profiles).lookup key) = _ at hload
        rw [Except.ok.injEq] at hload
        by_cases hkey : key = p.userId
        · subst hkey
          rw [Assoc.lookup_put] at hload
          cases hload
          exact hp
        · rw [Assoc.lookup_put_of_ne hkey] at hload
          refine h key q ?_
          unfold ProfileStore.load
          rw [if_neg hfaults]
          exact congrArg Except.ok hload

end ProfileStore

end LoginRisk
