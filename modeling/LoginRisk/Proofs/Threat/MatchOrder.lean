import LoginRisk.Proofs.Threat.History

/-!
The order in which the feed reports its matches. What is found about an attempt goes by which indicators match, except
for the campaign: it is that of the first match that has one, and so it is settled only where all these matches have
the same.
-/

namespace LoginRisk.Threat

structure Reordered (v v' : FeedVerdict) : Prop where
  found : v'.found.Perm v.found
  torExit : v'.torExit = v.torExit

def campaigns (found : List Indicator) : List String := found.filterMap Indicator.campaign

/-- No two matches point to different campaigns. -/
def OneCampaign (found : List Indicator) : Prop := ∀ c ∈ campaigns found, ∀ d ∈ campaigns found, c = d

lemma head?_eq_of_perm {l l' : List String} (h : l'.Perm l) (hone : ∀ c ∈ l, ∀ d ∈ l, c = d) :
    l'.head? = l.head? := by
  cases l' with
  | nil => rw [List.nil_perm.mp h]
  | cons c cs =>
    cases l with
    | nil => cases List.perm_nil.mp h
    | cons d ds =>
      have hc : c ∈ d :: ds := h.subset (by simp)
      rw [List.head?_cons, List.head?_cons, hone c hc d (by simp)]

section Reordered

variable {s : ThreatSettings} {w : Activity} {a : Attempt} {v v' : FeedVerdict}

/-- The findings but for the reputation, whose factors are rounded in their order, and the campaign. -/
lemma Reordered.findings (h : Reordered v v') :
    { findings s a v' w with
      ipReputation := (findings s a v w).ipReputation, campaign := (findings s a v w).campaign } =
        findings s a v w := by
  have hany : ∀ p : Indicator → Bool, v'.found.any p = v.found.any p := fun _ => h.found.any_eq
  have htor : isTor a v' = isTor a v := by rw [isTor, isTor, h.torExit]
  have hstuffing : stuffing s w v' = stuffing s w v := by rw [stuffing, stuffing, hany]
  have htakeover : takeover a v' = takeover a v := by rw [takeover, takeover, htor]
  have hactors : actors a v' = actors a v := by simp only [actors, htor, hany]
  have hpatterns : ∀ b c t, patterns a v' b c t = patterns a v b c t := by
    intro b c t
    rw [patterns, patterns, htor, hany]
  simp only [Threat.findings, hstuffing, htakeover, hactors, hpatterns]

lemma campaign_findings : (findings s a v w).campaign =
    (campaigns v.found).head?.orElse fun _ =>
      if (stuffing s w v).multipleAccounts then some (networkCampaign a.clientAddress) else none := by
  rw [campaigns, List.head?_filterMap]
  rfl

/-- A match with a campaign can be reported before all others. -/
lemma exists_reordered_campaign {c : String} (hc : c ∈ campaigns v.found) :
    ∃ v', Reordered v v' ∧ (findings s a v' w).campaign = some c := by
  obtain ⟨i, hi, hcampaign⟩ := List.mem_filterMap.mp hc
  obtain ⟨before, after, hfound⟩ := List.append_of_mem hi
  refine ⟨⟨i :: (before ++ after), v.torExit⟩, ⟨?_, rfl⟩, ?_⟩
  · rw [hfound]
    exact List.perm_middle.symm
  · rw [campaign_findings, campaigns, List.filterMap_cons_some hcampaign]
    rfl

lemma Reordered.campaign (h : Reordered v v') (hone : OneCampaign v.found) :
    (Threat.findings s a v' w).campaign = (Threat.findings s a v w).campaign := by
  have haccounts : (stuffing s w v').multipleAccounts = (stuffing s w v).multipleAccounts := rfl
  have hhead : (campaigns v'.found).head? = (campaigns v.found).head? :=
    head?_eq_of_perm (h.found.filterMap _) hone
  rw [campaign_findings, campaign_findings, hhead, haccounts]

end Reordered

/-- In every order of the matches the attempt is answered alike, leaves the same state, and is reported with the same
patterns, actors, signs and number of similar attacks. The campaign is the same in every order exactly where no two
matches point to different ones. -/
theorem assess_of_reordered (settings : ThreatSettings) (s : ThreatState) (a : Attempt) (v : FeedVerdict) :
    (∀ v', Reordered v v' →
      (assess settings s a v').1 = (assess settings s a v).1 ∧
      (∀ e, (assess settings s a v).2 = .error e → (assess settings s a v').2 = .error e) ∧
      ∀ found, (assess settings s a v).2 = .ok found → ∃ found', (assess settings s a v').2 = .ok found' ∧
        { found' with ipReputation := found.ipReputation, campaign := found.campaign } = found) ∧
    ∀ found, (assess settings s a v).2 = .ok found →
      ((∀ v' found', Reordered v v' → (assess settings s a v').2 = .ok found' →
          found'.campaign = found.campaign) ↔
        OneCampaign v.found) := by
  cases hrecord : (record s a).2 with
  | error e =>
    simp only [assess_of_error hrecord]
    exact ⟨fun _ _ => ⟨rfl, fun _ he => he, fun _ hfound => (nomatch hfound)⟩, fun _ hfound => (nomatch hfound)⟩
  | ok w =>
    simp only [assess_of_ok hrecord, Except.ok.injEq]
    refine ⟨fun v' h => ⟨rfl, fun _ he => (nomatch he), ?_⟩, ?_⟩
    · rintro found rfl
      exact ⟨_, rfl, h.findings⟩
    · rintro found rfl
      constructor
      · intro hsame c hc d hd
        obtain ⟨v₁, h₁, hc⟩ := exists_reordered_campaign (s := settings) (w := w) (a := a) hc
        obtain ⟨v₂, h₂, hd⟩ := exists_reordered_campaign (s := settings) (w := w) (a := a) hd
        refine Option.some_injective _ ?_
        rw [← hc, ← hd, hsame v₁ _ h₁ rfl, hsame v₂ _ h₂ rfl]
      · rintro hone v' found' h rfl
        exact h.campaign hone

def narrowBlock (campaign : String) : Indicator :=
  { kind := .cidr, value := "198.51.100.0/24", severity := .malicious, campaign := some campaign }

def wideBlock (campaign : String) : Indicator :=
  { kind := .cidr, value := "198.51.0.0/16", severity := .suspicious, campaign := some campaign }

/-- Two blocks of one campaign. -/
theorem assess_of_reordered_oneCampaign :
    ∃ found found',
      (assess {} (.initial {}) (sampleAttempt "a@b.c" 0)
        ⟨[narrowBlock "camp-a", wideBlock "camp-a"], false⟩).2 = .ok found ∧
      (assess {} (.initial {}) (sampleAttempt "a@b.c" 0)
        ⟨[wideBlock "camp-a", narrowBlock "camp-a"], false⟩).2 = .ok found' ∧
      { found' with ipReputation := found.ipReputation } = found := by
  have hreordered : Reordered ⟨[narrowBlock "camp-a", wideBlock "camp-a"], false⟩
      ⟨[wideBlock "camp-a", narrowBlock "camp-a"], false⟩ := ⟨.swap .., rfl⟩
  obtain ⟨w, hassess⟩ := assess_initial {} (sampleAttempt "a@b.c" 0) (by decide) (by decide)
  obtain ⟨hall, hcampaign⟩ := assess_of_reordered {} (.initial {}) (sampleAttempt "a@b.c" 0)
    ⟨[narrowBlock "camp-a", wideBlock "camp-a"], false⟩
  obtain ⟨found', hfound', hrest⟩ := (hall _ hreordered).2.2 _ (hassess _)
  have hone : OneCampaign [narrowBlock "camp-a", wideBlock "camp-a"] := by
    simp [OneCampaign, campaigns, narrowBlock, wideBlock]
  rw [← (hcampaign _ (hassess _)).mpr hone _ found' hreordered hfound'] at hrest
  exact ⟨_, found', hassess _, hfound', hrest⟩

/-- Two blocks of different campaigns. -/
theorem campaign_of_first_match :
    Reordered ⟨[narrowBlock "camp-a", wideBlock "camp-b"], false⟩
      ⟨[wideBlock "camp-b", narrowBlock "camp-a"], false⟩ ∧
    ∃ found found',
      (assess {} (.initial {}) (sampleAttempt "a@b.c" 0)
        ⟨[narrowBlock "camp-a", wideBlock "camp-b"], false⟩).2 = .ok found ∧
      (assess {} (.initial {}) (sampleAttempt "a@b.c" 0)
        ⟨[wideBlock "camp-b", narrowBlock "camp-a"], false⟩).2 = .ok found' ∧
      found.campaign = some "camp-a" ∧ found'.campaign = some "camp-b" := by
  obtain ⟨w, hassess⟩ := assess_initial {} (sampleAttempt "a@b.c" 0) (by decide) (by decide)
  exact ⟨⟨.swap .., rfl⟩, _, _, hassess _, hassess _, rfl, rfl⟩

end LoginRisk.Threat
