import LoginRisk.Proofs.Anomaly.Detect
import LoginRisk.Proofs.Learning.Bias
import LoginRisk.Proofs.Number.Whole

/-!
Which hours are typical of a user, and how unusual the time of an attempt is. An hour is typical from a twentieth of
all successful logins on, so that the most frequent one need not be: twenty-four hours can have less than a twentieth
each, twenty hours cannot.
-/

namespace LoginRisk

namespace Profile

open Number Float.Model

/-- The number that stands for a twentieth is slightly larger. -/
lemma exact_twentieth : exact 0.05 = (1 + 1 / 2 ^ 54) / 20 := by
  have hunpack : (0.05 : Float).toModel.unpack = .finite .positive 7205759403792794 (-57) (by decide) := rfl
  rw [exact, hunpack]
  norm_num [value, UnpackedFloat.Sign.apply]

lemma rounded_twentieth_le_iff {total n : ℕ} (h : total < 2 ^ 32) :
    rounded (total * exact 0.05) ≤ n ↔ total ≤ 20 * n := by
  rw [exact_twentieth]
  constructor
  · -- One login more than twenty times `n` is more than what rounding can take away.
    contrapose!
    intro hmore
    have hmore' : (20 * n + 1 : ℚ) ≤ total := by exact_mod_cast hmore
    have habove : ((32 * n + 1 : ℕ) : ℚ) * 2 ^ (-5 : ℤ) ≤ total * ((1 + 1 / 2 ^ 54) / 20) := by
      norm_num
      linarith
    have hrounded := rounded_mono habove
    rw [rounded_of_lt (by omega) (by decide)] at hrounded
    norm_num at hrounded ⊢
    linarith
  · intro hle
    -- The least number that suffices is small enough to be exact.
    obtain ⟨k, hk, hkn, hsmall⟩ : ∃ k, total ≤ 20 * k ∧ k ≤ n ∧ k < 2 ^ 53 :=
      ⟨(total + 19) / 20, by omega, by omega, by omega⟩
    have hk' : (total : ℚ) ≤ 20 * k := by exact_mod_cast hk
    have hle' : total * ((1 + 1 / 2 ^ 54) / 20) ≤ (k + k / 2 ^ 54 : ℚ) := by
      norm_num
      linarith
    exact (rounded_le_natCast hsmall hle').trans (by exact_mod_cast hkn)

/-- Counted with floating-point numbers, a twentieth is a twentieth all the same. -/
theorem typicalCount_le_iff {total n : ℕ} (h0 : 0 < total) (h : total < 2 ^ 32) :
    typicalCount total ≤ n ↔ total ≤ 20 * n := by
  have htotal : (Float.ofNat total).isFinite = true := isFinite_ofNat (h.trans (by decide))
  have hexact : exact (Float.ofNat total) = total := exact_ofNat (h.trans (by decide))
  have hshare := isRounding_mul htotal (y := 0.05) rfl
  rw [hexact] at hshare
  have hcast : (total : ℚ) < 2 ^ 32 := by exact_mod_cast h
  have hnonneg : 0.0 ≤ Float.ofNat total * 0.05 := by
    refine (isRounding_exact rfl).mono hshare ?_
    rw [exact_zero, exact_twentieth]
    positivity
  have hfinite : (Float.ofNat total * 0.05).isFinite = true := by
    refine isFinite_of_le_of_le rfl htotal hnonneg (hshare.mono (isRounding_exact htotal) ?_)
    rw [hexact, exact_twentieth]
    norm_num
    linarith
  have hrounded := hshare.exact_eq hfinite
  have hbound : exact (Float.ofNat total * 0.05) < 2 ^ 53 := by
    rw [hrounded]
    refine ((rounded_twentieth_le_iff h).mpr (show total ≤ 20 * total by omega)).trans_lt ?_
    linarith
  have hceil := ceil_eq hfinite hnonneg hbound
  rw [typicalCount, hceil, max_le_iff, Nat.ceil_le, hrounded, rounded_twentieth_le_iff h]
  omega

def loginsAt (p : Profile) (hour : Fin 24) : ℕ := (p.hourHistogram.get hour).toNat

/-- The successful logins at all hours, however many. -/
def allLogins (p : Profile) : ℕ := (p.hourHistogram.toList.map UInt32.toNat).sum

lemma toNat_foldl_add (counts : List UInt32) (n : UInt32) :
    (counts.foldl (· + ·) n).toNat = (n.toNat + (counts.map UInt32.toNat).sum) % 2 ^ 32 := by
  induction counts generalizing n with
  | nil => simp [Nat.mod_eq_of_lt n.toNat_lt]
  | cons m counts ih =>
    rw [List.foldl_cons, ih, UInt32.toNat_add, List.map_cons, List.sum_cons, Nat.mod_add_mod, Nat.add_assoc]

lemma successfulLogins_eq {p : Profile} (h : p.allLogins < 2 ^ 32) : p.successfulLogins = p.allLogins := by
  rw [successfulLogins, toNat_foldl_add, UInt32.toNat_zero, Nat.zero_add]
  exact Nat.mod_eq_of_lt h

lemma mem_typicalHours {p : Profile} (h0 : 0 < p.allLogins) (h : p.allLogins < 2 ^ 32) (hour : Fin 24) :
    hour ∈ p.typicalHours ↔ p.allLogins ≤ 20 * p.loginsAt hour := by
  rw [typicalHours, successfulLogins_eq h, if_neg h0.ne', List.mem_filter, decide_eq_true_iff,
    typicalCount_le_iff h0 h]
  exact and_iff_right (List.mem_finRange hour)

/-- At how many hours of the day there was a login. -/
def busyHours (p : Profile) : ℕ := (p.hourHistogram.toList.map UInt32.toNat).countP (0 < ·)

private lemma sum_le_countP_mul {counts : List ℕ} {most : ℕ} (h : ∀ n ∈ counts, n ≤ most) :
    counts.sum ≤ counts.countP (0 < ·) * most := by
  induction counts with
  | nil => simp
  | cons n counts ih =>
    have hn := h n List.mem_cons_self
    have ih := ih fun n hn => h n (List.mem_cons_of_mem _ hn)
    rw [List.sum_cons, List.countP_cons]
    split_ifs with hpos
    · rw [Nat.add_mul, one_mul]
      omega
    · simp only [decide_eq_true_iff] at hpos
      rw [add_zero]
      omega

lemma allLogins_le {p : Profile} {hour : Fin 24} (h : ∀ g, p.loginsAt g ≤ p.loginsAt hour) :
    p.allLogins ≤ p.busyHours * p.loginsAt hour := by
  refine sum_le_countP_mul fun n hn => ?_
  obtain ⟨count, hcount, rfl⟩ := List.mem_map.mp hn
  obtain ⟨g, hg, rfl⟩ := Vector.mem_iff_getElem.mp (Vector.mem_toList_iff.mp hcount)
  exact h ⟨g, hg⟩

end Profile

namespace Anomaly

variable {settings : AnomalySettings}

lemma isNear_self (h : Fin 24) : isNear h h = true := by
  simp [isNear]

/-- With enough logins, a time is unusual where no hour next to it has a twentieth of them. -/
theorem timeDeviation_of_enough {p : Profile} (hmin : timeBaseline ≤ p.allLogins) (hmax : p.allLogins < 2 ^ 32)
    (t : Instant) : timeDeviation settings t (some p) =
      if ∃ h, isNear t.hour h = true ∧ p.allLogins ≤ 20 * p.loginsAt h then 0.0 else 0.6 := by
  have hpos : 0 < p.allLogins := lt_of_lt_of_le (by decide) hmin
  rw [timeDeviation_some, Profile.successfulLogins_eq hmax, if_pos hmin]
  refine if_congr ?_ rfl rfl
  simp only [List.any_eq_true, Profile.mem_typicalHours hpos hmax, and_comm]

/-- How unusual the time is of an attempt at the hour at which the user logs in most often. It is usual if and only if
at least a twentieth of the logins took place at that hour, as they do where there are logins at twenty hours at
most. -/
theorem time_of_busiest_hour (settings : AnomalySettings) {store : ProfileStore} {a : Attempt} {p : Profile}
    (hload : store.load a.profileKey = .ok (some p)) (hmin : timeBaseline ≤ p.allLogins) (hmax : p.allLogins < 2 ^ 32)
    (hbusiest : ∀ h, p.loginsAt h ≤ p.loginsAt a.timestamp.hour) (m : AnomalyState) :
    (LooksBack m a → ∃ r, (detect settings store a m).2 = .value r) ∧
      ∀ r, (detect settings store a m).2 = .value r →
        r.timeDeviation = (if p.allLogins ≤ 20 * p.loginsAt a.timestamp.hour then 0.0 else 0.6) ∧
        (p.busyHours ≤ 20 → r.timeDeviation = 0.0) := by
  refine ⟨exists_detect hload, fun r hr => ?_⟩
  obtain ⟨found, hfound, hreads⟩ := reads_of_detect hr
  rw [hload, Except.ok.injEq] at hfound
  subst hfound
  have hnear : (∃ h, isNear a.timestamp.hour h = true ∧ p.allLogins ≤ 20 * p.loginsAt h) ↔
      p.allLogins ≤ 20 * p.loginsAt a.timestamp.hour := by
    constructor
    · rintro ⟨h, -, hle⟩
      exact hle.trans (Nat.mul_le_mul_left 20 (hbusiest h))
    · exact fun hle => ⟨_, isNear_self _, hle⟩
  have htime : r.timeDeviation =
      if p.allLogins ≤ 20 * p.loginsAt a.timestamp.hour then 0.0 else 0.6 := by
    rw [hreads.time, timeDeviation_of_enough hmin hmax, if_congr hnear rfl rfl]
    split_ifs <;> decide +kernel
  refine ⟨htime, fun hfew => ?_⟩
  rw [htime, if_pos]
  exact (Profile.allLogins_le hbusiest).trans (Nat.mul_le_mul_right _ hfew)

/-- An office worker who once was up at night. -/
def officeHours : Profile :=
  { Profile.new "" ⟨0, 0⟩ with hourHistogram := (((Vector.replicate 24 0).set 9 30).set 14 20).set 3 1 }

def morningAttempt : Attempt := { Learning.bareAttempt with timestamp := ⟨32400, 0⟩ }

theorem morning_is_usual : ∃ r, (detect {} (Learning.onlyProfile "" officeHours).profiles morningAttempt
    (.initial {})).2 = .value r ∧ r.timeDeviation = 0.0 := by
  obtain ⟨hreports, htime⟩ := time_of_busiest_hour {} (a := morningAttempt)
    (Learning.load_onlyProfile "" officeHours) (by decide +kernel) (by decide +kernel) (by decide +kernel)
    (.initial {})
  obtain ⟨r, hr⟩ := hreports ⟨⟨_, rfl⟩, ⟨_, rfl⟩, ⟨_, rfl⟩⟩
  exact ⟨r, hr, (htime r hr).2 (by decide +kernel)⟩

def everyHour : Profile := { Profile.new "" ⟨0, 0⟩ with hourHistogram := Vector.replicate 24 1 }

/-- None of its hours is less frequent than any other, and all of them are unusual. -/
theorem every_hour_is_unusual : timeBaseline ≤ everyHour.allLogins ∧ everyHour.allLogins < 2 ^ 32 ∧
    (∀ h, everyHour.loginsAt h ≤ everyHour.loginsAt morningAttempt.timestamp.hour) ∧
    ∃ r, (detect {} (Learning.onlyProfile "" everyHour).profiles morningAttempt (.initial {})).2 = .value r ∧
      r.timeDeviation = 0.6 := by
  refine ⟨by decide +kernel, by decide +kernel, by decide +kernel, ?_⟩
  have hload : (Learning.onlyProfile "" everyHour).profiles.load morningAttempt.profileKey = .ok (some everyHour) :=
    Learning.load_onlyProfile "" everyHour
  obtain ⟨r, hr⟩ : ∃ r, (detect {} (Learning.onlyProfile "" everyHour).profiles morningAttempt (.initial {})).2 =
      .value r := exists_detect hload ⟨⟨_, rfl⟩, ⟨_, rfl⟩, ⟨_, rfl⟩⟩
  obtain ⟨found, hfound, hreads⟩ := reads_of_detect hr
  rw [hload, Except.ok.injEq] at hfound
  subst hfound
  refine ⟨r, hr, hreads.time.trans ?_⟩
  decide +kernel

end Anomaly

end LoginRisk
