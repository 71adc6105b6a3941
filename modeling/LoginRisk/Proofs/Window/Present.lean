import LoginRisk.Proofs.Window.History

/-!
Whether an attempt lies in the window that it has just been recorded in. Lengths are configured as 64 bits
without a sign and read with one, so that those from `2 ^ 63` seconds on are negative. Such a window starts
after its end: no attempt is ever counted, while every other window counts at least the attempt at hand.
-/

namespace LoginRisk

namespace Instant

variable {t start : Instant} {span : ℤ}

/-- The cutoff is no later than the present just when the look-back is not negative. This holds in a leap
second too, which a step leaves by one of its ends. -/
lemma shift_le_iff (h : t.shift (-span) = .ok start) : start ≤ t ↔ 0 ≤ span := by
  unfold shift at h
  dsimp only at h
  rw [le_iff]
  split at h
  · split at h <;> cases h
    dsimp only
    omega
  · rename_i hleaves
    rw [Bool.or_eq_true, decide_eq_true_eq, decide_eq_true_eq] at hleaves
    split at h
    · split at h <;> cases h
      dsimp only
      omega
    · split at h <;> cases h
      dsimp only
      omega

end Instant

def between (start now : Instant) (attempts : List (Instant × String)) : List (Instant × String) :=
  attempts.filter fun e => start ≤ e.1 && e.1 ≤ now

lemma between_dropBefore (start now : Instant) (attempts : List (Instant × String)) :
    between start now (dropBefore start attempts) = between start now attempts := by
  refine filter_dropBefore fun e _ hlt => ?_
  rw [Instant.lt_iff_not_le] at hlt
  simp [hlt]

lemma between_eq_nil {start now : Instant} (h : ¬start ≤ now) (attempts : List (Instant × String)) :
    between start now attempts = [] := by
  refine List.filter_eq_nil_iff.mpr fun e _ hwithin => h ?_
  rw [Bool.and_eq_true, decide_eq_true_eq, decide_eq_true_eq] at hwithin
  exact Instant.le_trans hwithin.1 hwithin.2

lemma mem_between {start now : Instant} (h : start ≤ now) (label : String)
    (attempts : List (Instant × String)) : (now, label) ∈ between start now (attempts ++ [(now, label)]) := by
  simp [between, h, now.le_refl]

lemma tally_bounds {attempts : List (Instant × String)} (h : attempts ≠ []) :
    1 ≤ (tally attempts).2 ∧ (tally attempts).2 ≤ (tally attempts).1 := by
  obtain ⟨e, he⟩ := List.exists_mem_of_ne_nil attempts h
  constructor
  · exact Finset.card_pos.mpr ⟨e.2, List.mem_toFinset.mpr (List.mem_map_of_mem he)⟩
  · exact (List.toFinset_card_le _).trans_eq (List.length_map _)

namespace AttemptWindow

variable {w : AttemptWindow} {now start : Instant}

lemma signedSeconds_nonneg_iff (seconds : UInt64) : 0 ≤ signedSeconds seconds ↔ seconds.toNat < 2 ^ 63 := by
  rw [signedSeconds, Int64.toInt, UInt64.toBitVec_toInt64, BitVec.toInt_eq_toNat_cond]
  have hlt := seconds.toBitVec.isLt
  change _ ↔ seconds.toBitVec.toNat < 2 ^ 63
  split <;> omega

lemma eq_of_empty? {seconds : UInt64} (h : empty? seconds = .ok w) : w = ⟨signedSeconds seconds, []⟩ := by
  unfold empty? at h
  dsimp only at h
  split at h <;> cases h
  rfl

lemma within_of_cutoff (h : w.cutoff now = .ok start) : w.within now = .ok (between start now w.events) := by
  rw [within, h]
  rfl

lemma count_of_cutoff (h : w.cutoff now = .ok start) :
    w.count now = .ok (tally (between start now w.events)).1 := by
  rw [count, within_of_cutoff h]
  rfl

lemma distinct_of_cutoff (h : w.cutoff now = .ok start) :
    w.distinct now = .ok (tally (between start now w.events)).2 := by
  rw [distinct, within_of_cutoff h, tally, ← Text.length_distinct]
  rfl

lemma span_trim {trimmed : AttemptWindow} (h : w.trim now = .ok trimmed) : trimmed.span = w.span := by
  obtain ⟨start, -, h⟩ := exists_of_bind_eq_ok h
  cases h
  rfl

lemma span_record (w : AttemptWindow) (now : Instant) (label : String) :
    (w.record now label).1.span = w.span := by
  unfold record
  dsimp only
  split
  · rename_i htrim
    exact (span_trim htrim :)
  · rfl

end AttemptWindow

namespace WindowStore

/-- Whatever has happened to it, a store looks back as it is configured, and so do all its windows. -/
structure Configured (seconds : UInt64) (s : WindowStore) : Prop where
  seconds_eq : s.seconds = seconds
  spans : ∀ entry ∈ s.windows, entry.2.span = AttemptWindow.signedSeconds seconds

namespace Configured

variable {seconds : UInt64} {s : WindowStore} {key label : String} {now : Instant}

lemma lookBack (h : Configured seconds s) (key : String) : s.LooksBack key := fun _ hlookup =>
  (h.spans _ (Assoc.mem_of_lookup hlookup)).trans (congrArg _ h.seconds_eq.symm)

lemma record (h : Configured seconds s) (key label : String) (now : Instant) :
    Configured seconds (s.record key now label).1 := by
  unfold WindowStore.record
  cases hwindow : s.window key with
  | error e => exact h
  | ok w =>
    obtain ⟨hspan, -⟩ := window_eq_ok hwindow (h.lookBack key)
    refine ⟨h.seconds_eq, fun entry hentry => ?_⟩
    rcases Assoc.mem_put hentry with rfl | hentry
    · rw [AttemptWindow.span_record, hspan, h.seconds_eq]
    · exact h.spans entry hentry

lemma cleanup (h : Configured seconds s) {cleaned : WindowStore} (hcleaned : s.cleanup now = .ok cleaned) :
    Configured seconds cleaned := by
  obtain ⟨trimmed, htrimmed, hcleaned⟩ := exists_of_bind_eq_ok hcleaned
  cases hcleaned
  refine ⟨h.seconds_eq, fun entry hentry => ?_⟩
  obtain ⟨before, hbefore, htrim⟩ := exists_of_mem_mapM htrimmed (List.mem_filter.mp hentry).1
  cases hw : before.2.trim now with
  | error e =>
    rw [hw] at htrim
    cases htrim
  | ok w =>
    rw [hw] at htrim
    cases htrim
    exact (AttemptWindow.span_trim hw).trans (h.spans before hbefore)

lemma step (h : Configured seconds s) (event : WindowEvent) : Configured seconds (s.step event) := by
  cases event with
  | attempt key now label => exact h.record key label now
  | cleanup now =>
    unfold WindowStore.step
    dsimp only
    split
    · rename_i hcleaned
      exact h.cleanup hcleaned
    · exact h

lemma window (h : Configured seconds s) {w : AttemptWindow} (hw : AttemptWindow.empty? seconds = .ok w)
    (key : String) : s.window key = .ok ⟨w.span, s.recorded key⟩ := by
  have hempty := AttemptWindow.eq_of_empty? hw
  unfold WindowStore.window recorded
  cases hlookup : s.windows.lookup key with
  | some v =>
    have hspan : v.span = w.span := by
      rw [h.spans _ (Assoc.mem_of_lookup hlookup), hempty]
    rw [← hspan]
    rfl
  | none =>
    dsimp only
    rw [h.seconds_eq, hw, hempty]
    rfl

lemma record_eq_tally (h : Configured seconds s) {w : AttemptWindow}
    (hw : AttemptWindow.empty? seconds = .ok w) {start : Instant} (hstart : w.cutoff now = .ok start)
    (key label : String) : (s.record key now label).2 =
      .ok (tally (between start now (s.recorded key ++ [(now, label)]))) := by
  let v : AttemptWindow := ⟨w.span, s.recorded key⟩
  let kept : AttemptWindow := ⟨w.span, dropBefore start (s.recorded key ++ [(now, label)])⟩
  have hrecord : v.record now label = (kept, .ok ()) := AttemptWindow.record_of_cutoff (w := v) hstart label
  have hcount := AttemptWindow.count_of_cutoff (w := kept) hstart
  have hdistinct := AttemptWindow.distinct_of_cutoff (w := kept) hstart
  rw [between_dropBefore] at hcount hdistinct
  simp only [WindowStore.record, h.window hw key]
  rw [hrecord]
  dsimp only
  rw [hcount, hdistinct]
  rfl

end Configured

lemma configured_run (seconds : UInt64) (events : List WindowEvent) : Configured seconds (run seconds events) := by
  induction events using List.reverseRecOn with
  | nil => exact ⟨rfl, fun _ h => absurd h List.not_mem_nil⟩
  | append_singleton events event ih =>
    rw [run_append_singleton]
    exact ih.step event

/-- The attempt that has just been recorded counts if and only if the configured length fits into 63 bits. Under
a greater length nothing ever counts. -/
theorem record_counts_present_iff {seconds : UInt64} {w : AttemptWindow} {now start : Instant}
    (hw : AttemptWindow.empty? seconds = .ok w) (hstart : w.cutoff now = .ok start)
    (events : List WindowEvent) (key label : String) :
    ∃ count distinct, ((run seconds events).record key now label).2 = .ok (count, distinct) ∧
      (1 ≤ distinct ∧ distinct ≤ count ↔ seconds.toNat < 2 ^ 63) ∧
      (2 ^ 63 ≤ seconds.toNat → count = 0 ∧ distinct = 0) := by
  have hanswer := (configured_run seconds events).record_eq_tally hw hstart key label
  have hpresent : start ≤ now ↔ seconds.toNat < 2 ^ 63 := by
    rw [Instant.shift_le_iff hstart, AttemptWindow.eq_of_empty? hw, AttemptWindow.signedSeconds_nonneg_iff]
  refine ⟨_, _, hanswer, ?_⟩
  by_cases h : start ≤ now
  · have hbounds := tally_bounds (List.ne_nil_of_mem (mem_between h label ((run seconds events).recorded key)))
    have hsmall := hpresent.mp h
    exact ⟨iff_of_true hbounds hsmall, fun hlarge => by omega⟩
  · rw [between_eq_nil h]
    exact ⟨iff_of_false (by decide) (fun hsmall => h (hpresent.mpr hsmall)), fun _ => ⟨rfl, rfl⟩⟩

/-- A leap second after an attempt that bears a later time. -/
theorem leap_second_counts :
    let events : List WindowEvent := [.attempt "shop" ⟨200, 0⟩ "a", .cleanup ⟨150, 0⟩]
    let now : Instant := ⟨119, 1500000000⟩
    AttemptWindow.empty? 60 = .ok ⟨60, []⟩ ∧ now.shift (-60) = .ok ⟨60, 500000000⟩ ∧
      ∃ count distinct, ((run 60 events).record "shop" now "b").2 = .ok (count, distinct) ∧
        1 ≤ distinct ∧ distinct ≤ count := by
  intro events now
  have hw : AttemptWindow.empty? 60 = .ok ⟨60, []⟩ := rfl
  have hstart : now.shift (-60) = .ok ⟨60, 500000000⟩ := by decide
  obtain ⟨count, distinct, hanswer, hiff, -⟩ := record_counts_present_iff hw hstart events "shop" "b"
  exact ⟨hw, hstart, count, distinct, hanswer, hiff.mpr (by decide)⟩

/-- The greatest length is read as one second ahead, and its window does not count the attempt at hand. -/
theorem greatest_length_counts_nothing :
    AttemptWindow.empty? 18446744073709551615 = .ok ⟨-1, []⟩ ∧
      ((run 18446744073709551615 [.attempt "shop" ⟨100, 0⟩ "a"]).record "shop" ⟨100, 0⟩ "b").2 = .ok (0, 0) :=
  ⟨rfl, by decide⟩

end WindowStore

end LoginRisk
