import LoginRisk.Proofs.Net.AddressText
import LoginRisk.Proofs.Window.History
import LoginRisk.Threat.Detect
import Mathlib.Data.Finset.Image

/-!
What the threat stage finds on a run of attempts and cleanups. Its three windows see one and the same
history under different keys and labels, so that attempts in the order of time are judged by all the
attempts of the run that the look-back reaches.
-/

namespace LoginRisk

/-- What may happen to the threat stage: an attempt with the feed's verdict on it, or a cleanup. -/
inductive ThreatEvent where
  | attempt (a : Attempt) (verdict : FeedVerdict)
  | cleanup (now : Instant)

namespace ThreatEvent

def instant : ThreatEvent → Instant
  | .attempt a _ => a.timestamp
  | .cleanup now => now

def attempt? : ThreatEvent → Option Attempt
  | .attempt a _ => some a
  | .cleanup _ => none

def attempts (events : List ThreatEvent) : List Attempt :=
  events.filterMap attempt?

/-- No attempt is earlier than anything that came before it. -/
def InOrder (events : List ThreatEvent) : Prop :=
  events.Pairwise fun e f => f.attempt?.isSome → e.instant ≤ f.instant

/-- The attempts of a history and one more, as far as the look-back of the last one reaches. -/
def recentAttempts (span : ℤ) (events : List ThreatEvent) (a : Attempt) : List Attempt :=
  (attempts events ++ [a]).filter fun b => b.timestamp.IsWithin span a.timestamp

/-- The event as windows see it that keep attempts under one text and label them with another. -/
def toWindow (key label : Attempt → String) : ThreatEvent → WindowEvent
  | .attempt a _ => .attempt (key a) a.timestamp (label a)
  | .cleanup now => .cleanup now

@[simp] lemma instant_toWindow (key label : Attempt → String) (event : ThreatEvent) :
    (event.toWindow key label).instant = event.instant := by
  cases event <;> rfl

variable {key label : Attempt → String} {events : List ThreatEvent} {a : Attempt} {span : ℤ}

lemma attempts_toWindow (key label : Attempt → String) (text : String) (events : List ThreatEvent) :
    WindowEvent.attempts text (events.map (toWindow key label)) =
      ((attempts events).filter fun b => key b = text).map fun b => (b.timestamp, label b) := by
  induction events with
  | nil => rfl
  | cons event events ih =>
    rw [WindowEvent.attempts] at ih ⊢
    rw [List.map_cons, List.filterMap_cons, ih]
    cases event with
    | cleanup now => rfl
    | attempt b verdict =>
      by_cases h : key b = text <;>
        simp [toWindow, WindowEvent.attempt?, attempts, attempt?, h]

lemma hasLookBack_toWindow (h : ∀ e ∈ events, e.instant.HasLookBack span) (key label : Attempt → String) :
    ∀ e ∈ events.map (toWindow key label), e.instant.HasLookBack span := by
  intro e he
  obtain ⟨event, hevent, rfl⟩ := List.mem_map.mp he
  rw [instant_toWindow]
  exact h event hevent

lemma upTo_toWindow {now : Instant} (h : ∀ e ∈ events, e.instant ≤ now) (key label : Attempt → String)
    (text : String) : WindowEvent.UpTo now text (events.map (toWindow key label)) := by
  have hwindow : ∀ e ∈ events.map (toWindow key label), e.instant ≤ now := by
    intro e he
    obtain ⟨event, hevent, rfl⟩ := List.mem_map.mp he
    rw [instant_toWindow]
    exact h event hevent
  exact ⟨fun e he => hwindow _ (WindowEvent.mem_attempts he), fun t ht => hwindow _ ht⟩

/-- What a window counts are the recent attempts with the same key, and their labels. -/
lemma tally_toWindow (span : ℤ) (key label : Attempt → String) (events : List ThreatEvent) (a : Attempt) :
    tally (recent span a.timestamp
      (WindowEvent.attempts (key a) (events.map (toWindow key label)) ++ [(a.timestamp, label a)])) =
    (((recentAttempts span events a).filter fun b => key b = key a).length,
      (((recentAttempts span events a).filter fun b => key b = key a).map label).toFinset.card) := by
  have hall : WindowEvent.attempts (key a) (events.map (toWindow key label)) ++ [(a.timestamp, label a)] =
      ((attempts events ++ [a]).filter fun b => key b = key a).map fun b => (b.timestamp, label b) := by
    rw [attempts_toWindow, List.filter_append, List.map_append]
    simp
  have hrecent : recent span a.timestamp
      (((attempts events ++ [a]).filter fun b => key b = key a).map fun b => (b.timestamp, label b)) =
      ((recentAttempts span events a).filter fun b => key b = key a).map
        fun b => (b.timestamp, label b) := by
    rw [recent, recentAttempts, List.filter_map, List.filter_comm]
    rfl
  rw [hall, hrecent, tally, List.length_map, List.map_map]
  rfl

end ThreatEvent

namespace Threat

open ThreatEvent

/-- The stage after an event. A failing cleanup drops what it can. -/
def step (settings : ThreatSettings) (s : ThreatState) : ThreatEvent → ThreatState
  | .attempt a verdict => (assess settings s a verdict).1
  | .cleanup now => (cleanup s now).1

def run (settings : ThreatSettings) (feed : Feed) (events : List ThreatEvent) : ThreatState :=
  events.foldl (step settings) { ThreatState.initial settings with feed }

lemma run_append_singleton (settings : ThreatSettings) (feed : Feed) (events : List ThreatEvent)
    (event : ThreatEvent) :
    run settings feed (events ++ [event]) = step settings (run settings feed events) event := by
  simp [run]

def addressText (a : Attempt) : String := a.clientAddress.text

def tag (a : Attempt) : String := credentialTag a.credentialDigest

structure Follows (settings : ThreatSettings) (events : List ThreatEvent) (s : ThreatState) : Prop where
  byIp : s.byIp = .run settings.windowSeconds (events.map (toWindow addressText Attempt.normalizedEmail))
  byAccount : s.byAccount =
    .run settings.windowSeconds (events.map (toWindow Attempt.normalizedEmail addressText))
  byCredential : s.byCredential =
    .run settings.windowSeconds (events.map (toWindow tag Attempt.normalizedEmail))

lemma record_eq {s : ThreatState} {a : Attempt} {source account credential : ℕ × ℕ} {gap : Option Float}
    (hsource : (s.byIp.record (addressText a) a.timestamp a.normalizedEmail).2 = .ok source)
    (haccount : (s.byAccount.record a.normalizedEmail a.timestamp (addressText a)).2 = .ok account)
    (hcredential : (s.byCredential.record (tag a) a.timestamp a.normalizedEmail).2 = .ok credential)
    (hgap : WindowStore.meanInterval
      (s.byAccount.record a.normalizedEmail a.timestamp (addressText a)).1 a.normalizedEmail
        a.timestamp = .ok gap) :
    record s a =
      ({ s with
          byIp := (s.byIp.record (addressText a) a.timestamp a.normalizedEmail).1
          byAccount := (s.byAccount.record a.normalizedEmail a.timestamp (addressText a)).1
          byCredential := (s.byCredential.record (tag a) a.timestamp a.normalizedEmail).1 },
        .ok ⟨source.1, source.2, account.1, account.2, credential.2, gap⟩) := by
  unfold addressText tag at *
  simp only [record, hsource, haccount, hcredential, hgap]
  rfl

lemma assess_of_ok {s : ThreatState} {a : Attempt} {w : Activity} (h : (record s a).2 = .ok w)
    (settings : ThreatSettings) (v : FeedVerdict) :
    (assess settings s a v).2 = .ok (findings settings a v w) :=
  congrArg (Except.map (findings settings a v)) h

lemma assess_of_error {s : ThreatState} {a : Attempt} {e : TimeOverflow} (h : (record s a).2 = .error e)
    (settings : ThreatSettings) (v : FeedVerdict) : (assess settings s a v).2 = .error e :=
  congrArg (Except.map (findings settings a v)) h

lemma cleanup_eq {s : ThreatState} {now : Instant} {byIp byAccount byCredential : WindowStore}
    (hsource : s.byIp.cleanup now = .ok byIp) (haccount : s.byAccount.cleanup now = .ok byAccount)
    (hcredential : s.byCredential.cleanup now = .ok byCredential) :
    cleanup s now = (⟨s.feed.cleanup now, byIp, byAccount, byCredential⟩, .ok ()) := by
  simp only [cleanup, hsource, haccount, hcredential]

section Run

variable {settings : ThreatSettings} {events : List ThreatEvent} {s : ThreatState} {a : Attempt}

lemma Follows.record (h : Follows settings events s)
    (hseconds : settings.windowSeconds.toNat ≤ 9223372036854775)
    (hevents : ∀ e ∈ events, e.instant.HasLookBack settings.windowSeconds.toNat)
    (hnow : a.timestamp.HasLookBack settings.windowSeconds.toNat) (verdict : FeedVerdict) :
    Follows settings (events ++ [.attempt a verdict]) (record s a).1 ∧
    ∃ source account credential gap,
      (record s a).2 = .ok ⟨source.1, source.2, account.1, account.2, credential.2, gap⟩ ∧
      (s.byIp.record (addressText a) a.timestamp a.normalizedEmail).2 = .ok source ∧
      (s.byAccount.record a.normalizedEmail a.timestamp (addressText a)).2 = .ok account ∧
      (s.byCredential.record (tag a) a.timestamp a.normalizedEmail).2 = .ok credential := by
  obtain ⟨hbyIp, hbyAccount, hbyCredential⟩ := h
  have hlookBack := hasLookBack_toWindow hevents
  obtain ⟨source, hsource, -⟩ := WindowStore.record_run hseconds
    (hlookBack addressText Attempt.normalizedEmail) hnow (addressText a) a.normalizedEmail
  obtain ⟨account, haccount, -⟩ := WindowStore.record_run hseconds
    (hlookBack Attempt.normalizedEmail addressText) hnow a.normalizedEmail (addressText a)
  obtain ⟨credential, hcredential, -⟩ := WindowStore.record_run hseconds
    (hlookBack tag Attempt.normalizedEmail) hnow (tag a) a.normalizedEmail
  rw [← hbyIp] at hsource
  rw [← hbyAccount] at haccount
  rw [← hbyCredential] at hcredential
  have hafter : ∀ e ∈ events ++ [.attempt a verdict],
      e.instant.HasLookBack settings.windowSeconds.toNat := by
    intro e he
    rcases List.mem_append.mp he with he | he
    · exact hevents e he
    · rw [List.mem_singleton.mp he]
      exact hnow
  have hnext : ∀ key label, (events ++ [ThreatEvent.attempt a verdict]).map (toWindow key label) =
      events.map (toWindow key label) ++ [.attempt (key a) a.timestamp (label a)] := by
    intro key label
    rw [List.map_append]
    rfl
  have hfollows : Follows settings (events ++ [.attempt a verdict])
      { s with
        byIp := (s.byIp.record (addressText a) a.timestamp a.normalizedEmail).1
        byAccount := (s.byAccount.record a.normalizedEmail a.timestamp (addressText a)).1
        byCredential := (s.byCredential.record (tag a) a.timestamp a.normalizedEmail).1 } := by
    constructor <;> rw [hnext, WindowStore.run_append_singleton]
    · rw [← hbyIp]
      rfl
    · rw [← hbyAccount]
      rfl
    · rw [← hbyCredential]
      rfl
  obtain ⟨gap, hgap⟩ := (WindowStore.tracks_run hseconds
    (hasLookBack_toWindow hafter Attempt.normalizedEmail addressText)).meanInterval_ok
    (fun e he => (hasLookBack_toWindow hafter _ _ e he).regular) hnow a.normalizedEmail
  rw [← hfollows.byAccount] at hgap
  rw [record_eq hsource haccount hcredential hgap]
  exact ⟨hfollows, source, account, credential, gap, rfl, hsource, haccount, hcredential⟩

lemma Follows.cleanup (h : Follows settings events s)
    (hseconds : settings.windowSeconds.toNat ≤ 9223372036854775)
    (hevents : ∀ e ∈ events, e.instant.HasLookBack settings.windowSeconds.toNat) {now : Instant}
    (hnow : now.HasLookBack settings.windowSeconds.toNat) :
    Follows settings (events ++ [.cleanup now]) (cleanup s now).1 := by
  obtain ⟨hbyIp, hbyAccount, hbyCredential⟩ := h
  have hstep : ∀ key label, WindowStore.cleanup
      (.run settings.windowSeconds (events.map (toWindow key label))) now =
      .ok (.run settings.windowSeconds
        ((events ++ [ThreatEvent.cleanup now]).map (toWindow key label))) := by
    intro key label
    rw [List.map_append]
    exact WindowStore.cleanup_run hseconds (hasLookBack_toWindow hevents key label) hnow
  rw [cleanup_eq (by rw [hbyIp, hstep]) (by rw [hbyAccount, hstep]) (by rw [hbyCredential, hstep])]
  exact ⟨rfl, rfl, rfl⟩

/-- Whatever happens, the three windows go through the history together. -/
theorem follows_run (hseconds : settings.windowSeconds.toNat ≤ 9223372036854775) (feed : Feed)
    (hevents : ∀ e ∈ events, e.instant.HasLookBack settings.windowSeconds.toNat) :
    Follows settings events (run settings feed events) := by
  induction events using List.reverseRecOn with
  | nil => exact ⟨rfl, rfl, rfl⟩
  | append_singleton events event ih =>
    have hbefore : ∀ e ∈ events, e.instant.HasLookBack settings.windowSeconds.toNat := fun e he =>
      hevents e (List.mem_append_left _ he)
    have hnow := hevents event (by simp)
    rw [run_append_singleton]
    cases event with
    | attempt a verdict => exact ((ih hbefore).record hseconds hbefore hnow verdict).1
    | cleanup now => exact (ih hbefore).cleanup hseconds hbefore hnow

end Run

lemma assess_initial (settings : ThreatSettings) (a : Attempt)
    (hseconds : settings.windowSeconds.toNat ≤ 9223372036854775)
    (hnow : a.timestamp.HasLookBack settings.windowSeconds.toNat) :
    ∃ w, ∀ verdict, (assess settings (.initial settings) a verdict).2 = .ok (findings settings a verdict w) := by
  have hfollows : Follows settings [] (.initial settings) := ⟨rfl, rfl, rfl⟩
  obtain ⟨-, source, account, credential, gap, hrecord, -⟩ :=
    hfollows.record hseconds (by simp) hnow ⟨[], false⟩
  exact ⟨_, assess_of_ok hrecord settings⟩

def ofAccount (a : Attempt) (attempts : List Attempt) : List Attempt :=
  attempts.filter fun b => b.normalizedEmail = a.normalizedEmail

def fromAddress (a : Attempt) (attempts : List Attempt) : List Attempt :=
  attempts.filter fun b => b.clientAddress = a.clientAddress

def withCredential (a : Attempt) (attempts : List Attempt) : List Attempt :=
  attempts.filter fun b => b.credentialDigest = a.credentialDigest

def accounts (attempts : List Attempt) : Finset String := (attempts.map Attempt.normalizedEmail).toFinset

def addresses (attempts : List Attempt) : Finset Address := (attempts.map Attempt.clientAddress).toFinset

/-- The findings about `a` tell of attacks in progress what some attempts, `a` among them, show. -/
structure Reflects (settings : ThreatSettings) (a : Attempt) (attempts : List Attempt)
    (found : ThreatFindings) : Prop where
  rapidAttempts : found.bruteForce.rapidAttempts = true ↔
    settings.bruteForceAttempts ≤ (ofAccount a attempts).length ∨
      settings.bruteForceAttempts ≤ (fromAddress a attempts).length
  multipleIps : found.bruteForce.multipleIps = true ↔
    settings.distributedIpThreshold ≤ (addresses (ofAccount a attempts)).card
  multipleAccounts : found.stuffing.multipleAccounts = true ↔
    settings.stuffingAccountsThreshold ≤ (accounts (fromAddress a attempts)).card
  passwordReuse : found.stuffing.passwordReuse = true ↔
    3 ≤ (accounts (withCredential a attempts)).card
  similarAttacks : found.similarAttacks =
    if found.knownPatterns = [] then 0 else (accounts (fromAddress a attempts)).card - 1
  fitsInto32Bits : attempts.length ≤ 2 ^ 32 → found.similarAttacks < 2 ^ 32

lemma card_accounts_le (a : Attempt) (attempts : List Attempt) :
    (accounts (fromAddress a attempts)).card ≤ attempts.length := by
  refine (List.toFinset_card_le _).trans ?_
  rw [List.length_map]
  exact List.length_filter_le _ attempts

lemma reflects_findings (settings : ThreatSettings) (a : Attempt) (verdict : FeedVerdict)
    (attempts : List Attempt) (gap : Option Float) :
    Reflects settings a attempts (findings settings a verdict
      ⟨(fromAddress a attempts).length, (accounts (fromAddress a attempts)).card,
        (ofAccount a attempts).length, (addresses (ofAccount a attempts)).card,
        (accounts (withCredential a attempts)).card, gap⟩) where
  rapidAttempts := by simp [findings, bruteForce]
  multipleIps := by simp [findings, bruteForce]
  multipleAccounts := by simp [findings, stuffing]
  passwordReuse := by simp [findings, stuffing]
  similarAttacks := by simp only [findings, List.isEmpty_iff]
  fitsInto32Bits hlength := by
    have hcard := card_accounts_le a attempts
    simp only [findings]
    split <;> omega

lemma filter_addressText (a : Attempt) (attempts : List Attempt) :
    (attempts.filter fun b => addressText b = addressText a) = fromAddress a attempts := by
  refine List.filter_congr fun b _ => ?_
  rw [decide_eq_decide]
  exact Address.text_injective.eq_iff

lemma card_addressText (attempts : List Attempt) :
    (attempts.map addressText).toFinset.card = (addresses attempts).card := by
  have himage : (attempts.map addressText).toFinset = (addresses attempts).image Address.text := by
    ext text
    simp [addressText, addresses]
  rw [himage, Finset.card_image_of_injective _ Address.text_injective]

/-- Tags tell the credentials of some attempts apart. -/
def TagsDiffer (attempts : List Attempt) : Prop :=
  ∀ b ∈ attempts, ∀ c ∈ attempts, tag b = tag c → b.credentialDigest = c.credentialDigest

lemma filter_tag {a : Attempt} {attempts : List Attempt} (h : TagsDiffer attempts) (ha : a ∈ attempts)
    (p : Attempt → Bool) :
    ((attempts.filter p).filter fun b => tag b = tag a) = withCredential a (attempts.filter p) := by
  refine List.filter_congr fun b hb => ?_
  rw [decide_eq_decide]
  exact ⟨h b (List.mem_filter.mp hb).1 a ha, congrArg credentialTag⟩

/-- On a run in the order of time, the findings about each attempt tell of attacks in progress what all
the attempts of the run show that its look-back reaches. -/
theorem assess_of_history {settings : ThreatSettings}
    (hseconds : settings.windowSeconds.toNat ≤ 9223372036854775) (feed : Feed)
    {events : List ThreatEvent} {a : Attempt} {verdict : FeedVerdict}
    (hevents : ∀ e ∈ events ++ [.attempt a verdict], e.instant.HasLookBack settings.windowSeconds.toNat)
    (horder : InOrder (events ++ [.attempt a verdict]))
    (htags : TagsDiffer (attempts (events ++ [.attempt a verdict]))) :
    ∃ found, (assess settings (run settings feed events) a verdict).2 = .ok found ∧
      Reflects settings a (recentAttempts settings.windowSeconds.toNat events a) found := by
  have hbefore : ∀ e ∈ events, e.instant.HasLookBack settings.windowSeconds.toNat := fun e he =>
    hevents e (List.mem_append_left _ he)
  have hnow : a.timestamp.HasLookBack settings.windowSeconds.toNat := hevents (.attempt a verdict) (by simp)
  have hle : ∀ e ∈ events, e.instant ≤ a.timestamp := fun e he =>
    (List.pairwise_append.mp horder).2.2 e he (.attempt a verdict) (by simp) rfl
  have hfollows := follows_run hseconds feed hbefore
  obtain ⟨-, source, account, credential, gap, hrecord, hsource, haccount, hcredential⟩ :=
    hfollows.record hseconds hbefore hnow verdict
  have hexact : ∀ key label answer,
      ((WindowStore.run settings.windowSeconds (events.map (toWindow key label))).record
        (key a) a.timestamp (label a)).2 = .ok answer →
      answer = (((recentAttempts settings.windowSeconds.toNat events a).filter fun b =>
          key b = key a).length,
        (((recentAttempts settings.windowSeconds.toNat events a).filter fun b =>
          key b = key a).map label).toFinset.card) := by
    intro key label answer hanswer
    obtain ⟨answer', hanswer', -, heq⟩ := WindowStore.record_run hseconds
      (hasLookBack_toWindow hbefore key label) hnow (key a) (label a)
    rw [hanswer', Except.ok.injEq] at hanswer
    rw [← hanswer, heq (upTo_toWindow hle key label (key a)), tally_toWindow]
  rw [hfollows.byIp] at hsource
  rw [hfollows.byAccount] at haccount
  rw [hfollows.byCredential] at hcredential
  have htag : ((recentAttempts settings.windowSeconds.toNat events a).filter fun b => tag b = tag a) =
      withCredential a (recentAttempts settings.windowSeconds.toNat events a) := by
    have hattempts : attempts (events ++ [.attempt a verdict]) = attempts events ++ [a] :=
      List.filterMap_append ..
    rw [hattempts] at htags
    exact filter_tag htags (by simp) _
  obtain rfl := hexact addressText Attempt.normalizedEmail source hsource
  obtain rfl := hexact Attempt.normalizedEmail addressText account haccount
  obtain rfl := hexact tag Attempt.normalizedEmail credential hcredential
  refine ⟨findings settings a verdict _, ?_, reflects_findings settings a verdict _ gap⟩
  change (record (run settings feed events) a).2.map (findings settings a verdict) = _
  rw [hrecord, filter_addressText, card_addressText, htag]
  rfl

def sampleAttempt (email : String) (seconds : Int) : Attempt where
  email
  credentialDigest := "d3b0"
  clientAddress := .v4 0xc6336407
  userAgent := "curl"
  timestamp := ⟨seconds, 0⟩
  requestId := ""

/-- One credential is tried at three accounts from one address, with a cleanup between them. An older
attempt at a fourth account no longer counts. -/
theorem assess_of_history_stuffing :
    ∃ found, (assess {} (run {} ⟨[], [], [], [], [], []⟩
      [.attempt (sampleAttempt "old@b.c" (-1000)) ⟨[], false⟩, .attempt (sampleAttempt "a@b.c" 0) ⟨[], false⟩,
        .attempt (sampleAttempt " B@b.c" 60) ⟨[], false⟩, .cleanup ⟨90, 0⟩])
      (sampleAttempt "c@b.c" 120) ⟨[], false⟩).2 = .ok found ∧
      found.stuffing.passwordReuse = true ∧ found.stuffing.multipleAccounts = false := by
  have htags : ∀ xs : List Attempt, (∀ b ∈ xs, b.credentialDigest = "d3b0") → TagsDiffer xs :=
    fun xs h b hb c hc _ => (h b hb).trans (h c hc).symm
  obtain ⟨found, hfound, hreflects⟩ := assess_of_history
    (by decide : ({} : ThreatSettings).windowSeconds.toNat ≤ 9223372036854775) ⟨[], [], [], [], [], []⟩
    (by decide : ∀ e ∈ [.attempt (sampleAttempt "old@b.c" (-1000)) ⟨[], false⟩,
      .attempt (sampleAttempt "a@b.c" 0) ⟨[], false⟩, .attempt (sampleAttempt " B@b.c" 60) ⟨[], false⟩,
      .cleanup ⟨90, 0⟩] ++ [ThreatEvent.attempt (sampleAttempt "c@b.c" 120) ⟨[], false⟩],
      e.instant.HasLookBack ({} : ThreatSettings).windowSeconds.toNat)
    (by unfold InOrder; decide) (htags _ (by decide))
  refine ⟨found, hfound, hreflects.passwordReuse.mpr (by decide +kernel), ?_⟩
  rw [Bool.eq_false_iff, ne_eq, hreflects.multipleAccounts]
  decide +kernel

end Threat

end LoginRisk
