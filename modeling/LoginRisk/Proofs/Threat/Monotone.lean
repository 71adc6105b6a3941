import LoginRisk.Proofs.Decision.Monotone
import LoginRisk.Proofs.Number.Sign
import LoginRisk.Proofs.Threat.History

/-!
More evidence against an attempt never makes the threat stage report less. Every pattern and every actor has a
condition that more evidence keeps, and each further signal leaves less of the chance that all of them are wrong.
-/

namespace LoginRisk

open Number

section Unit

variable {x y : Float}

lemma one_sub_le_one_sub (hx : x.isFinite = true) (hy : y.isFinite = true) (h : x ≤ y) : 1.0 - y ≤ 1.0 - x := by
  have hneg : -y ≤ -x := by
    rw [← exact_le_exact_iff (by rwa [isFinite_neg]) (by rwa [isFinite_neg]), exact_neg, exact_neg]
    exact neg_le_neg ((exact_le_exact_iff hx hy).mpr h)
  rw [float_sub_eq, float_sub_eq]
  exact float_add_le_add rfl rfl (by rwa [isFinite_neg]) (by rwa [isFinite_neg]) (by decide) hneg

lemma isUnit_one_sub (h : isUnit x = true) : isUnit (1.0 - x) = true := by
  obtain ⟨hx, h0, h1⟩ := (isUnit_iff x).mp h
  have hlow : 1.0 - 1.0 ≤ 1.0 - x := one_sub_le_one_sub hx rfl h1
  have hhigh : 1.0 - x ≤ 1.0 - 0.0 := one_sub_le_one_sub rfl hx h0
  exact (isUnit_iff _).mpr ⟨isFinite_of_le_of_le rfl rfl hlow hhigh, hlow, hhigh⟩

lemma isWeight_of_isUnit (h : isUnit x = true) : isWeight x = true := by
  obtain ⟨hx, h0, -⟩ := (isUnit_iff x).mp h
  exact (isWeight_iff x).mpr ⟨hx, h0⟩

lemma isUnit_mul (hx : isUnit x = true) (hy : isUnit y = true) : isUnit (x * y) = true := by
  have hwithin := within_mul hx (isWeight_of_isUnit hy)
  exact (isUnit_iff _).mpr
    ⟨hwithin.isFinite, hwithin.nonneg, float_le_trans hwithin.le ((isUnit_iff y).mp hy).2.2⟩

lemma float_mul_le_left (hx : isUnit x = true) (hy : isUnit y = true) : x * y ≤ x := by
  obtain ⟨hxf, hx0, -⟩ := (isUnit_iff x).mp hx
  obtain ⟨hyf, -, hy1⟩ := (isUnit_iff y).mp hy
  rw [← exact_le_exact_iff rfl hxf, exact_zero] at hx0
  rw [← exact_le_exact_iff hyf rfl, exact_one] at hy1
  exact (isRounding_mul hxf hyf).mono (isRounding_exact hxf) (mul_le_of_le_one_right hx0 hy1)

end Unit

namespace Threat

/-- What a further signal leaves of the chance that all of them are wrong. -/
def dismiss (chance x : Float) : Float := chance * (1.0 - x)

lemma isUnit_dismiss {chance x : Float} (h : isUnit chance = true) (hx : isUnit x = true) :
    isUnit (dismiss chance x) = true :=
  isUnit_mul h (isUnit_one_sub hx)

lemma isUnit_foldl_dismiss {xs : List Float} (hxs : ∀ x ∈ xs, isUnit x = true) {chance : Float}
    (h : isUnit chance = true) : isUnit (xs.foldl dismiss chance) = true := by
  induction xs generalizing chance with
  | nil => exact h
  | cons x xs ih => exact ih (fun y hy => hxs y (by simp [hy])) (isUnit_dismiss h (hxs x (by simp)))

lemma foldl_dismiss_anti {xs ys : List Float} (h : xs.Sublist ys) (hys : ∀ y ∈ ys, isUnit y = true)
    {chance chance' : Float} (hchance : isUnit chance = true) (hchance' : isUnit chance' = true)
    (hle : chance' ≤ chance) : ys.foldl dismiss chance' ≤ xs.foldl dismiss chance := by
  induction h generalizing chance chance' with
  | slnil => exact hle
  | cons y _ ih =>
    have hy : isUnit y = true := hys y (by simp)
    have hless : dismiss chance' y ≤ chance :=
      float_le_trans (float_mul_le_left hchance' (isUnit_one_sub hy)) hle
    exact ih (fun x hx => hys x (by simp [hx])) hchance (isUnit_dismiss hchance' hy) hless
  | cons_cons x _ ih =>
    have hx : isUnit x = true := hys x (by simp)
    have hless : dismiss chance' x ≤ dismiss chance x :=
      (Decision.within_mul_mul hchance' hchance hle (isWeight_of_isUnit (isUnit_one_sub hx))).le
    exact ih (fun y hy => hys y (by simp [hy])) (isUnit_dismiss hchance hx) (isUnit_dismiss hchance' hx) hless

lemma reputation_mono {xs ys : List Float} (h : xs.Sublist ys) (hys : ∀ y ∈ ys, isUnit y = true) :
    reputation xs ≤ reputation ys := by
  have hxs : ∀ x ∈ xs, isUnit x = true := fun x hx => hys x (h.subset hx)
  have hall : isUnit (xs.foldl dismiss 1.0) = true := isUnit_foldl_dismiss hxs rfl
  have hall' : isUnit (ys.foldl dismiss 1.0) = true := isUnit_foldl_dismiss hys rfl
  have hless : ys.foldl dismiss 1.0 ≤ xs.foldl dismiss 1.0 := foldl_dismiss_anti h hys rfl rfl (by decide)
  exact clampUnit_mono (isFinite_of_isUnit (isUnit_one_sub hall)) (isFinite_of_isUnit (isUnit_one_sub hall'))
    (one_sub_le_one_sub (isFinite_of_isUnit hall') (isFinite_of_isUnit hall) hless)

/-- The second attempt and verdict are the first with more evidence. -/
structure Worse (a a' : Attempt) (v v' : FeedVerdict) : Prop where
  same : { a' with isTorExit := a.isTorExit, isVpn := a.isVpn, previousFailures := a.previousFailures } = a
  isTorExit : a.isTorExit = true → a'.isTorExit = true
  isVpn : a.isVpn = true → a'.isVpn = true
  previousFailures : a.previousFailures ≤ a'.previousFailures
  torExit : v.torExit = true → v'.torExit = true
  found : v.found.Sublist v'.found

lemma sublist_of_imp {α : Type} {p q : Prop} [Decidable p] [Decidable q] (h : p → q) (l : List α) :
    (if p then l else []).Sublist (if q then l else []) := by
  by_cases hp : p
  · rw [if_pos hp, if_pos (h hp)]
  · rw [if_neg hp]
    exact List.nil_sublist _

section Worse

variable {s : ThreatSettings} {w : Activity} {a a' : Attempt} {v v' : FeedVerdict}

lemma Worse.isTor (h : Worse a a' v v') : isTor a v = true → isTor a' v' = true := by
  simp only [Threat.isTor, Bool.or_eq_true]
  exact Or.imp h.isTorExit h.torExit

lemma Worse.any (h : Worse a a' v v') (p : Indicator → Bool) : v.found.any p = true → v'.found.any p = true := by
  simp only [List.any_eq_true]
  rintro ⟨i, hi, hp⟩
  exact ⟨i, h.found.subset hi, hp⟩

lemma Worse.record (h : Worse a a' v v') (state : ThreatState) : record state a' = record state a := by
  rw [← h.same]
  rfl

lemma isUnit_of_mem_signals : ∀ x ∈ signals s a v, isUnit x = true := by
  intro x hx
  simp only [signals, List.cons_append, List.mem_cons, List.mem_append, List.mem_map] at hx
  rcases hx with rfl | (⟨i, -, rfl⟩ | hx) | hx
  · exact isUnit_clampUnit _
  · exact isUnit_clampUnit _
  · split_ifs at hx
    · rw [List.mem_singleton.mp hx]
      exact isUnit_clampUnit _
    · cases hx
  · split_ifs at hx
    · rw [List.mem_singleton.mp hx]
      exact isUnit_clampUnit _
    · cases hx

lemma Worse.signals (h : Worse a a' v v') : (signals s a v).Sublist (signals s a' v') := by
  have hscore : a'.threatScore = a.threatScore := by rw [← h.same]
  have htor : (Threat.isTor a v && s.torDetection) = true → (Threat.isTor a' v' && s.torDetection) = true := by
    simp only [Bool.and_eq_true]
    exact And.imp_left h.isTor
  rw [Threat.signals, Threat.signals, hscore]
  exact (((((h.found.filter isReputation).map Indicator.score).append (sublist_of_imp htor _)).append
    (sublist_of_imp h.isVpn _)).cons_cons _)

lemma Worse.takeover_count (h : Worse a a' v v') : (takeover a v).count ≤ (takeover a' v').count := by
  have hlocation : (takeover a' v').locationChange = (takeover a v).locationChange := by
    rw [← h.same]
    rfl
  have hdevice : (takeover a' v').deviceChange = (takeover a v).deviceChange := by
    rw [← h.same]
    rfl
  have hbehavior : (takeover a v).behaviorChange = true → (takeover a' v').behaviorChange = true := by
    simp only [takeover, Bool.and_eq_true, Bool.or_eq_true, decide_eq_true_eq]
    exact And.imp (fun hmany => hmany.trans h.previousFailures) (Or.imp h.isTor h.isVpn)
  have hcount : (if (takeover a v).behaviorChange = true then 1 else 0) ≤
      if (takeover a' v').behaviorChange = true then 1 else 0 := by
    split_ifs <;> simp_all
  simp only [TakeoverSigns.count, List.countP_cons, List.countP_nil, id, hlocation, hdevice]
  omega

lemma Worse.patterns (h : Worse a a' v v') :
    (patterns a v (bruteForce s w) (stuffing s w v) (takeover a v)).Sublist
      (patterns a' v' (bruteForce s w) (stuffing s w v') (takeover a' v')) := by
  have hfailures : 0 < a.previousFailures → 0 < a'.previousFailures := fun hpos => hpos.trans_le h.previousFailures
  have htakeover : (2 ≤ (takeover a v).count && (0 < a.previousFailures || Threat.isTor a v || a.isVpn)) = true →
      (2 ≤ (takeover a' v').count && (0 < a'.previousFailures || Threat.isTor a' v' || a'.isVpn)) = true := by
    simp only [Bool.and_eq_true, Bool.or_eq_true, decide_eq_true_eq]
    exact And.imp (fun htwo => htwo.trans h.takeover_count) (Or.imp (Or.imp hfailures h.isTor) h.isVpn)
  have htorAbuse : (Threat.isTor a v && 0 < a.previousFailures) = true →
      (Threat.isTor a' v' && 0 < a'.previousFailures) = true := by
    simp only [Bool.and_eq_true, decide_eq_true_eq]
    exact And.imp h.isTor hfailures
  refine ((((List.Sublist.refl _).append (.refl _)).append ?_).append ?_).append ?_
  · exact sublist_of_imp htakeover _
  · exact sublist_of_imp htorAbuse _
  · exact sublist_of_imp (h.any _) _

lemma Worse.actors (h : Worse a a' v v') : (actors a v).Sublist (actors a' v') := by
  refine ((List.Sublist.map _ (List.monotone_filter_right _ fun p => h.any _)).append ?_).append ?_
  · exact sublist_of_imp h.isTor _
  · exact sublist_of_imp h.isVpn _

lemma Worse.findings (h : Worse a a' v v') :
    (findings s a v w).knownPatterns.Sublist (findings s a' v' w).knownPatterns ∧
    (findings s a v w).actors.Sublist (findings s a' v' w).actors ∧
    (findings s a v w).similarAttacks ≤ (findings s a' v' w).similarAttacks ∧
    (findings s a v w).ipReputation ≤ (findings s a' v' w).ipReputation := by
  have hpatterns := h.patterns (s := s) (w := w)
  refine ⟨hpatterns, h.actors, ?_, reputation_mono h.signals isUnit_of_mem_signals⟩
  simp only [Threat.findings, List.isEmpty_iff]
  by_cases hnone : Threat.patterns a v (bruteForce s w) (stuffing s w v) (takeover a v) = []
  · rw [if_pos hnone]
    exact Nat.zero_le _
  · have hsome : Threat.patterns a' v' (bruteForce s w) (stuffing s w v') (takeover a' v') ≠ [] := by
      intro hnone'
      rw [hnone', List.sublist_nil] at hpatterns
      exact hnone hpatterns
    rw [if_neg hnone, if_neg hsome]

end Worse

/-- From the same state an attempt with more evidence against it is answered where the other is, leaves the same state,
and is reported with no pattern and no actor less, and with at least as many similar attacks and as high a
reputation for attacks. -/
theorem assess_mono (settings : ThreatSettings) {a a' : Attempt} {v v' : FeedVerdict} (h : Worse a a' v v')
    (s : ThreatState) :
    (assess settings s a' v').1 = (assess settings s a v).1 ∧
    (∀ e, (assess settings s a v).2 = .error e → (assess settings s a' v').2 = .error e) ∧
    ∀ found, (assess settings s a v).2 = .ok found → ∃ found', (assess settings s a' v').2 = .ok found' ∧
      found.knownPatterns.Sublist found'.knownPatterns ∧ found.actors.Sublist found'.actors ∧
      found.similarAttacks ≤ found'.similarAttacks ∧ found.ipReputation ≤ found'.ipReputation ∧
      isUnit found.ipReputation = true ∧ isUnit found'.ipReputation = true := by
  have hstate : ∀ a v, (assess settings s a v).1 = (record s a).1 := fun _ _ => rfl
  rw [hstate, hstate, h.record s]
  refine ⟨rfl, ?_⟩
  cases hrecord : (record s a).2 with
  | error e =>
    have hrecord' : (record s a').2 = .error e := by rw [h.record s, hrecord]
    rw [assess_of_error hrecord, assess_of_error hrecord']
    exact ⟨fun _ he => he, fun _ hfound => nomatch hfound⟩
  | ok w =>
    have hrecord' : (record s a').2 = .ok w := by rw [h.record s, hrecord]
    rw [assess_of_ok hrecord, assess_of_ok hrecord']
    refine ⟨fun _ he => (nomatch he), fun found hfound => ?_⟩
    obtain rfl := Except.ok.inj hfound
    obtain ⟨hpatterns, hactors, hattacks, hreputation⟩ := h.findings (s := settings) (w := w)
    exact ⟨_, rfl, hpatterns, hactors, hattacks, hreputation, isUnit_clampUnit _, isUnit_clampUnit _⟩

def knownTool : Indicator := { kind := .userAgent, value := "curl", severity := .suspicious }

def knownSource : Indicator := { kind := .ip, value := "198.51.100.7", severity := .critical, tags := ["botnet"] }

/-- The same attempt through an exit node after four failures, its address known as well. -/
theorem assess_mono_exitNode :
    ∃ found found',
      (assess {} (.initial {}) (sampleAttempt "a@b.c" 0) ⟨[knownTool], false⟩).2 = .ok found ∧
      (assess {} (.initial {}) { sampleAttempt "a@b.c" 0 with isTorExit := true, previousFailures := 4 }
        ⟨[knownSource, knownTool], true⟩).2 = .ok found' ∧
      found.knownPatterns.Sublist found'.knownPatterns ∧ found.ipReputation ≤ found'.ipReputation := by
  have hworse : Worse (sampleAttempt "a@b.c" 0)
      { sampleAttempt "a@b.c" 0 with isTorExit := true, previousFailures := 4 }
      ⟨[knownTool], false⟩ ⟨[knownSource, knownTool], true⟩ :=
    ⟨rfl, fun _ => rfl, id, by decide, fun _ => rfl, .cons _ (.refl _)⟩
  obtain ⟨w, hassess⟩ := assess_initial {} (sampleAttempt "a@b.c" 0) (by decide) (by decide)
  obtain ⟨found', hfound', hpatterns, -, -, hreputation, -⟩ :=
    (assess_mono {} hworse (.initial {})).2.2 _ (hassess _)
  exact ⟨_, found', hassess _, hfound', hpatterns, hreputation⟩

end Threat

end LoginRisk
