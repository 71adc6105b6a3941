import LoginRisk.Profile.Basic
import LoginRisk.Proofs.Assoc
import LoginRisk.Proofs.Number.Exact

/-!
What the statistics of a profile say about the outcomes that they are made from. Each failure is counted once by its
hour and once by its address, under keys that cannot be mistaken for one another whatever the address is.
-/

namespace LoginRisk.Profile

open Number

def IsHourKey (key : String) : Prop := ∃ h, key = hourKey h

instance (key : String) : Decidable (IsHourKey key) := inferInstanceAs (Decidable (∃ h, key = hourKey h))

def IsAddressKey (key : String) : Prop := "ip:".toList <+: key.toList

instance (key : String) : Decidable (IsAddressKey key) := inferInstanceAs (Decidable (_ <+: _))

lemma hourKey_injective : Function.Injective hourKey := by
  decide +kernel

lemma isHourKey_hourKey (h : Fin 24) : IsHourKey (hourKey h) := ⟨h, rfl⟩

lemma isAddressKey_append (ip : String) : IsAddressKey ("ip:" ++ ip) := by
  rw [IsAddressKey, String.toList_append]
  exact List.prefix_append ..

lemma IsHourKey.not_isAddressKey {key : String} (h : IsHourKey key) : ¬IsAddressKey key := by
  obtain ⟨h, rfl⟩ := h
  revert h
  decide +kernel

lemma IsAddressKey.not_isHourKey {key : String} (h : IsAddressKey key) : ¬IsHourKey key :=
  fun hhour => hhour.not_isAddressKey h

lemma hourKey_ne_append (h : Fin 24) (ip : String) : hourKey h ≠ "ip:" ++ ip := fun heq =>
  (isHourKey_hourKey h).not_isAddressKey (heq ▸ isAddressKey_append ip)

def failureKeys (o : LoginOutcome) : List String :=
  if o.success then [] else [hourKey o.timestamp.hour, "ip:" ++ o.ip]

lemma failurePattern_eq (outcomes : List LoginOutcome) :
    failurePattern outcomes = Assoc.tallyAll (outcomes.flatMap failureKeys) := by
  induction outcomes using List.reverseRecOn with
  | nil => rfl
  | append_singleton outcomes o ih =>
    rw [failurePattern] at ih ⊢
    rw [List.filter_append, List.foldl_append, ih, List.flatMap_append, List.flatMap_singleton, failureKeys]
    cases hsuccess : o.success with
    | true => simp [hsuccess]
    | false =>
      rw [if_neg Bool.false_ne_true, List.append_cons, Assoc.tallyAll_concat, Assoc.tallyAll_concat]
      simp [hsuccess]

/-- Where one of the keys of a failure counts and none of a success, the keys are counted by counting outcomes. -/
lemma countP_failureKeys {counts : String → Bool} {among : LoginOutcome → Bool}
    (h : ∀ o, (failureKeys o).countP counts = if among o then 1 else 0) (outcomes : List LoginOutcome) :
    (outcomes.flatMap failureKeys).countP counts = outcomes.countP among := by
  induction outcomes with
  | nil => rfl
  | cons o outcomes ih => rw [List.flatMap_cons, List.countP_append, ih, h, List.countP_cons, add_comm]

lemma count_hourKey (outcomes : List LoginOutcome) (h : Fin 24) :
    (outcomes.flatMap failureKeys).count (hourKey h) =
      outcomes.countP fun o => !o.success && o.timestamp.hour = h := by
  refine countP_failureKeys (fun o => ?_) outcomes
  have haddress : ("ip:" ++ o.ip == hourKey h) = false := beq_eq_false_iff_ne.mpr (hourKey_ne_append h o.ip).symm
  have hhour : (hourKey o.timestamp.hour == hourKey h) = decide (o.timestamp.hour = h) := by
    rw [beq_eq_decide, decide_eq_decide]
    exact hourKey_injective.eq_iff
  cases hsuccess : o.success <;> simp [failureKeys, hsuccess, List.countP_cons, haddress, hhour]

lemma count_addressKey (outcomes : List LoginOutcome) (ip : String) :
    (outcomes.flatMap failureKeys).count ("ip:" ++ ip) = outcomes.countP fun o => !o.success && o.ip = ip := by
  refine countP_failureKeys (fun o => ?_) outcomes
  have hhour : (hourKey o.timestamp.hour == "ip:" ++ ip) = false :=
    beq_eq_false_iff_ne.mpr (hourKey_ne_append o.timestamp.hour ip)
  have haddress : ("ip:" ++ o.ip == "ip:" ++ ip) = decide (o.ip = ip) := by
    rw [beq_eq_decide, decide_eq_decide]
    exact String.append_right_inj _
  cases hsuccess : o.success <;> simp [failureKeys, hsuccess, List.countP_cons, haddress, hhour]

lemma countP_isHourKey (outcomes : List LoginOutcome) :
    (outcomes.flatMap failureKeys).countP (fun key => IsHourKey key) = outcomes.countP fun o => !o.success := by
  refine countP_failureKeys (fun o => ?_) outcomes
  have hhour := isHourKey_hourKey o.timestamp.hour
  have haddress := (isAddressKey_append o.ip).not_isHourKey
  cases hsuccess : o.success <;> simp [failureKeys, hsuccess, haddress, hhour]

lemma countP_isAddressKey (outcomes : List LoginOutcome) :
    (outcomes.flatMap failureKeys).countP (fun key => IsAddressKey key) = outcomes.countP fun o => !o.success := by
  refine countP_failureKeys (fun o => ?_) outcomes
  have hhour := (isHourKey_hourKey o.timestamp.hour).not_isAddressKey
  have haddress := isAddressKey_append o.ip
  cases hsuccess : o.success <;> simp [failureKeys, hsuccess, haddress, hhour]

lemma kind_of_mem {outcomes : List LoginOutcome} {key : String} (h : key ∈ outcomes.flatMap failureKeys) :
    IsHourKey key ↔ ¬IsAddressKey key := by
  obtain ⟨o, -, hkey⟩ := List.mem_flatMap.mp h
  rw [failureKeys] at hkey
  split at hkey
  · cases hkey
  · simp only [List.mem_cons, List.not_mem_nil, or_false] at hkey
    rcases hkey with rfl | rfl
    · have hhour := isHourKey_hourKey o.timestamp.hour
      exact iff_of_true hhour hhour.not_isAddressKey
    · have haddress := isAddressKey_append o.ip
      exact iff_of_false haddress.not_isHourKey (not_not_intro haddress)

def countUnder (pattern : List (String × ℕ)) (key : String) : ℕ := (pattern.lookup key).getD 0

def successes (outcomes : List LoginOutcome) : ℕ := outcomes.countP LoginOutcome.success

def successShare (outcomes : List LoginOutcome) : ℚ :=
  if outcomes = [] then 1 else successes outcomes / outcomes.length

/-- Statistics that are about some outcomes: the rate is the floating-point number nearest to the share of successes,
and the counts by hour and by address add up to the failures. -/
structure Describes (outcomes : List LoginOutcome) (samples : ℕ) (rate : Float) (pattern : List (String × ℕ)) :
    Prop where
  samples : samples = outcomes.length
  rate : IsRounding rate (successShare outcomes)
  keys : (pattern.map Prod.fst).Pairwise (· < ·)
  positive : ∀ entry ∈ pattern, 0 < entry.2
  kinds : ∀ entry ∈ pattern, (IsHourKey entry.1 ↔ ¬IsAddressKey entry.1)
  hour : ∀ h, countUnder pattern (hourKey h) = outcomes.countP fun o => !o.success && o.timestamp.hour = h
  address : ∀ ip, countUnder pattern ("ip:" ++ ip) = outcomes.countP fun o => !o.success && o.ip = ip
  hours : Assoc.total IsHourKey pattern + successes outcomes = outcomes.length
  addresses : Assoc.total IsAddressKey pattern + successes outcomes = outcomes.length

lemma countP_failures (outcomes : List LoginOutcome) :
    outcomes.countP (fun o => !o.success) + successes outcomes = outcomes.length := by
  rw [add_comm, List.length_eq_countP_add_countP LoginOutcome.success, successes]
  simp

lemma isRounding_successRate {outcomes : List LoginOutcome} (h : outcomes.length < 2 ^ 32) :
    IsRounding (successRate outcomes) (successShare outcomes) := by
  unfold successRate successShare
  cases outcomes with
  | nil => exact exact_one ▸ isRounding_exact rfl
  | cons o outcomes =>
    have hle : successes (o :: outcomes) ≤ (o :: outcomes).length := List.countP_le_length
    have hpart : successes (o :: outcomes) < 2 ^ 53 := by omega
    have hwhole : (o :: outcomes).length < 2 ^ 53 := by omega
    have hne : exact (Float.ofNat (o :: outcomes).length) ≠ 0 := by
      rw [exact_ofNat hwhole]
      exact Nat.cast_ne_zero.mpr (Nat.succ_ne_zero outcomes.length)
    have hdiv := isRounding_div (isFinite_ofNat (hpart.trans (by decide)))
      (isFinite_ofNat (hwhole.trans (by decide))) hne
    rw [exact_ofNat hpart, exact_ofNat hwhole] at hdiv
    exact hdiv

/-- Success rate and failure pattern are about the outcomes that they are made from. -/
theorem describes_statistics {outcomes : List LoginOutcome} (h : outcomes.length < 2 ^ 32) :
    Describes outcomes outcomes.length (successRate outcomes) (failurePattern outcomes) := by
  rw [failurePattern_eq]
  refine ⟨rfl, isRounding_successRate h, Assoc.pairwise_tallyAll _, fun entry hentry => ?_, fun entry hentry => ?_,
    fun h => ?_, fun ip => ?_, ?_, ?_⟩
  · exact Assoc.pos_of_mem_tallyAll hentry
  · exact kind_of_mem (Assoc.mem_keys_tallyAll hentry)
  · rw [countUnder, Assoc.lookup_tallyAll, count_hourKey]
  · rw [countUnder, Assoc.lookup_tallyAll, count_addressKey]
  · rw [Assoc.total_tallyAll, countP_isHourKey, countP_failures]
  · rw [Assoc.total_tallyAll, countP_isAddressKey, countP_failures]

end LoginRisk.Profile
