import LoginRisk.Proofs.Assoc
import LoginRisk.Proofs.Except
import LoginRisk.Window.Store

/-!
What a window keeps while nothing expires: all attempts recorded under its key, so that the count it
answers is their number.
-/

namespace LoginRisk

namespace Instant

lemma le_iff (a b : Instant) :
    a ≤ b ↔ a.seconds < b.seconds ∨ a.seconds = b.seconds ∧ a.nanos ≤ b.nanos := by
  change a.le b = true ↔ _
  simp [le]

lemma le_refl (t : Instant) : t ≤ t := by
  rw [le_iff]
  omega

lemma le_trans {a b c : Instant} (hab : a ≤ b) (hbc : b ≤ c) : a ≤ c := by
  rw [le_iff] at *
  omega

lemma lt_iff_not_le {a b : Instant} : a < b ↔ ¬b ≤ a := by
  change (!b.le a) = true ↔ ¬b.le a = true
  simp

end Instant

namespace AttemptWindow

variable {w : AttemptWindow} {now : Instant} {label : String}

lemma record_of_recent (h : ∀ start, w.cutoff now = .ok start →
    start ≤ now ∧ ∀ e ∈ w.events, start ≤ e.1) :
    (w.record now label).1 = { w with events := w.events ++ [(now, label)] } := by
  unfold record trim cutoff
  cases hcutoff : now.shift (-w.span) with
  | error e => simp [bind, Except.bind, hcutoff]
  | ok start =>
    obtain ⟨hnow, hevents⟩ := h start hcutoff
    have hrecent : ∀ e ∈ w.events ++ [(now, label)], start ≤ e.1 := by
      intro e he
      rcases List.mem_append.mp he with he | he
      · exact hevents e he
      · rw [List.mem_singleton.mp he]
        exact hnow
    have hkept : (w.events ++ [(now, label)]).dropWhile (fun e => e.1 < start) =
        w.events ++ [(now, label)] := by
      generalize w.events ++ [(now, label)] = events at hrecent
      cases events with
      | nil => rfl
      | cons e rest =>
        have he : ¬e.1 < start := fun hlt => Instant.lt_iff_not_le.mp hlt (hrecent e (by simp))
        rw [List.dropWhile_cons_of_neg (by simpa using he)]
    simp [bind, Except.bind, hcutoff, hkept, pure, Except.pure]

/-- The count is the number of recorded attempts while none lies outside the look-back. -/
lemma count_of_recent {n : Nat} (h : w.count now = .ok n)
    (hevents : ∀ start, w.cutoff now = .ok start → ∀ e ∈ w.events, start ≤ e.1 ∧ e.1 ≤ now) :
    n = w.events.length := by
  unfold count within at h
  cases hcutoff : w.cutoff now with
  | error e =>
    rw [hcutoff] at h
    cases h
  | ok start =>
    rw [hcutoff] at h
    have hall : w.events.filter (fun e => start ≤ e.1 && e.1 ≤ now) = w.events :=
      List.filter_eq_self.mpr fun e he => by simpa using hevents start hcutoff e he
    simp only [bind, Except.bind, pure, Except.pure, Except.map, hall, Except.ok.injEq] at h
    exact h.symm

end AttemptWindow

namespace WindowStore

def recorded (s : WindowStore) (key : String) : List (Instant × String) :=
  (s.windows.lookup key).elim [] AttemptWindow.events

def LooksBack (s : WindowStore) (key : String) : Prop :=
  ∀ w, s.windows.lookup key = some w → w.span = AttemptWindow.signedSeconds s.seconds

lemma window_eq_ok {s : WindowStore} {key : String} {w : AttemptWindow} (h : s.window key = .ok w)
    (hspan : s.LooksBack key) :
    w.span = AttemptWindow.signedSeconds s.seconds ∧ w.events = s.recorded key := by
  unfold window at h
  unfold recorded
  cases hlookup : s.windows.lookup key with
  | some v =>
    rw [hlookup] at h
    cases h
    exact ⟨hspan w hlookup, rfl⟩
  | none =>
    rw [hlookup] at h
    simp only [AttemptWindow.empty?] at h
    split at h
    · cases h
      exact ⟨rfl, rfl⟩
    · cases h

/-- While nothing expires, a recorded attempt joins those recorded before, and the answer counts them. -/
theorem record_of_recent {s : WindowStore} {key label : String} {now : Instant} {n d : Nat}
    (hspan : s.LooksBack key) (hbefore : ∀ e ∈ s.recorded key, e.1 ≤ now)
    (hrecent : ∀ start, now.shift (-AttemptWindow.signedSeconds s.seconds) = .ok start →
      start ≤ now ∧ ∀ e ∈ s.recorded key, start ≤ e.1)
    (h : (s.record key now label).2 = .ok (n, d)) :
    (s.record key now label).1.seconds = s.seconds ∧
    (s.record key now label).1.LooksBack key ∧
    (s.record key now label).1.recorded key = s.recorded key ++ [(now, label)] ∧
    n = (s.recorded key).length + 1 := by
  unfold record at h ⊢
  cases hwindow : s.window key with
  | error e =>
    rw [hwindow] at h
    cases h
  | ok w =>
    obtain ⟨hlength, hevents⟩ := window_eq_ok hwindow hspan
    rw [hwindow] at h
    have hadded : (w.record now label).1 = { w with events := w.events ++ [(now, label)] } := by
      apply AttemptWindow.record_of_recent
      rw [AttemptWindow.cutoff, hlength, hevents]
      exact hrecent
    rcases hrecord : w.record now label with ⟨added, outcome⟩
    rw [hrecord] at hadded
    dsimp only at hadded h ⊢
    rw [hrecord] at h ⊢
    subst hadded
    dsimp only at h ⊢
    obtain ⟨_, -, h⟩ := exists_of_bind_eq_ok h
    obtain ⟨m, hcount, h⟩ := exists_of_bind_eq_ok h
    obtain ⟨_, -, h⟩ := exists_of_bind_eq_ok h
    cases h
    refine ⟨rfl, ?_, ?_, ?_⟩
    · intro v hv
      rw [Assoc.lookup_put] at hv
      cases hv
      exact hlength
    · rw [recorded, Assoc.lookup_put, ← hevents]
      rfl
    · have hn := AttemptWindow.count_of_recent hcount fun start hstart e he => ?_
      · simp [hn, hevents]
      · rw [AttemptWindow.cutoff, hlength] at hstart
        obtain ⟨hnow, hall⟩ := hrecent start hstart
        rcases List.mem_append.mp he with he | he
        · exact ⟨hall e (hevents ▸ he), hbefore e (hevents ▸ he)⟩
        · rw [List.mem_singleton.mp he]
          exact ⟨hnow, Instant.le_refl now⟩

end WindowStore

end LoginRisk
