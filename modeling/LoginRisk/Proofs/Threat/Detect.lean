import LoginRisk.Proofs.Window.Store
import LoginRisk.Threat.Detect

/-!
Many attempts at one account, as the threat stage sees them: it counts what its window over the account
has recorded, and reports a brute-force attack once the count reaches the threshold.
-/

namespace LoginRisk

structure ThreatFindings.ReportBruteForce (t : ThreatFindings) : Prop where
  rapid : t.bruteForce.rapidAttempts = true
  pattern : "brute_force" ∈ t.knownPatterns

namespace Threat

lemma record_eq_ok {s : ThreatState} {a : Attempt} {w : Activity} (h : (record s a).2 = .ok w) :
    ∃ n d, (s.byAccount.record a.normalizedEmail a.timestamp a.clientAddress.text).2 = .ok (n, d) ∧
      w.accountAttempts = n ∧
      (record s a).1.byAccount =
        (s.byAccount.record a.normalizedEmail a.timestamp a.clientAddress.text).1 := by
  unfold record at h ⊢
  dsimp only at h ⊢
  split at h
  · cases h
  · split at h
    · cases h
    · rename_i n d haccount
      split at h
      · cases h
      · dsimp only at h ⊢
        cases hgap : WindowStore.meanInterval
            (s.byAccount.record a.normalizedEmail a.timestamp a.clientAddress.text).1
            a.normalizedEmail a.timestamp with
        | error e =>
          rw [hgap] at h
          cases h
        | ok gap =>
          rw [hgap] at h
          cases h
          exact ⟨n, d, haccount, rfl, rfl⟩

lemma findings_rapid {s : ThreatSettings} {w : Activity} (h : s.bruteForceAttempts ≤ w.accountAttempts)
    (a : Attempt) (v : FeedVerdict) : (findings s a v w).ReportBruteForce := by
  have hrapid : (bruteForce s w).rapidAttempts = true := by simp [bruteForce, h]
  refine ⟨hrapid, ?_⟩
  simp [findings, patterns, hrapid]

/-- While nothing expires, the stage adds the attempt to those recorded at the account and reports them
once they are many. -/
theorem analyze_of_recent {settings : ThreatSettings} {s : ThreatState} {a : Attempt} {now : Instant}
    {found : ThreatFindings} (hspan : s.byAccount.LooksBack a.normalizedEmail)
    (hbefore : ∀ e ∈ s.byAccount.recorded a.normalizedEmail, e.1 ≤ a.timestamp)
    (hrecent : ∀ start, a.timestamp.shift (-AttemptWindow.signedSeconds s.byAccount.seconds) = .ok start →
      start ≤ a.timestamp ∧ ∀ e ∈ s.byAccount.recorded a.normalizedEmail, start ≤ e.1)
    (h : (analyze settings s a now).2 = .ok found) :
    (analyze settings s a now).1.byAccount.seconds = s.byAccount.seconds ∧
    (analyze settings s a now).1.byAccount.LooksBack a.normalizedEmail ∧
    (analyze settings s a now).1.byAccount.recorded a.normalizedEmail =
      s.byAccount.recorded a.normalizedEmail ++ [(a.timestamp, a.clientAddress.text)] ∧
    (settings.bruteForceAttempts ≤ (s.byAccount.recorded a.normalizedEmail).length + 1 →
      found.ReportBruteForce) := by
  have hstate : (analyze settings s a now).1 = (record s a).1 := rfl
  have hfound : (analyze settings s a now).2 =
      (record s a).2.map (findings settings a (s.feed.lookup a now)) := rfl
  rw [hfound] at h
  cases hrecord : (record s a).2 with
  | error e =>
    rw [hrecord] at h
    cases h
  | ok w =>
    rw [hrecord] at h
    cases h
    obtain ⟨n, d, haccount, hn, hstore⟩ := record_eq_ok hrecord
    obtain ⟨hseconds, hlooksBack, hrecorded, hcount⟩ :=
      WindowStore.record_of_recent hspan hbefore hrecent haccount
    rw [hstate, hstore]
    refine ⟨hseconds, hlooksBack, hrecorded, fun hmany => ?_⟩
    exact findings_rapid (by rw [hn, hcount]; exact hmany) a _

end Threat

end LoginRisk
