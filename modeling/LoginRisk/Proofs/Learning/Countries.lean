import LoginRisk.Proofs.Learning.Stored
import LoginRisk.Proofs.Text.Case

/-!
Which countries a profile knows. Countries are kept in upper case and compared without the case of ASCII letters, and
the two agree on names without other letters that have an upper case. A country whose name has such a letter is
never known: each login from it is scored as one from a new country and adds it once more.
-/

namespace LoginRisk.Learning

open Text (toUpper toUpper_toUpper eqIgnoringAsciiCase AsciiCased)

def countryOf (a : Attempt) : Option String := (a.place.map Place.country).filter (· ≠ "")

def addCountry (known : List String) (country : String) : List String :=
  if known.any (eqIgnoringAsciiCase · country) then known else known ++ [toUpper country]

def knownAfter (countries : List String) : List String := countries.foldl addCountry []

section Names

lemma knownAfter_concat (countries : List String) (c : String) :
    knownAfter (countries ++ [c]) = addCountry (knownAfter countries) c := by
  rw [knownAfter, List.foldl_append]
  rfl

/-- Among names in upper case, a name is found just if it is found in upper case and that differs from it by ASCII
letters only. -/
lemma any_iff {known countries : List String} (h : ∀ e, e ∈ known ↔ e ∈ countries.map toUpper) (c : String) :
    known.any (eqIgnoringAsciiCase · c) = true ↔ AsciiCased c ∧ toUpper c ∈ countries.map toUpper := by
  rw [List.any_eq_true, ← Text.eqIgnoringAsciiCase_toUpper_iff]
  constructor
  · rintro ⟨e, he, hsame⟩
    have hupper : e = toUpper c := by
      obtain ⟨c', -, rfl⟩ := List.mem_map.mp ((h e).mp he)
      rw [← Text.toUpper_of_eqIgnoringAsciiCase hsame, toUpper_toUpper]
    exact ⟨hupper ▸ hsame, hupper ▸ (h e).mp he⟩
  · rintro ⟨hsame, hmem⟩
    exact ⟨_, (h _).mpr hmem, hsame⟩

lemma mem_knownAfter (countries : List String) (e : String) :
    e ∈ knownAfter countries ↔ e ∈ countries.map toUpper := by
  induction countries using List.reverseRecOn generalizing e with
  | nil => rfl
  | append_singleton countries c ih =>
    rw [knownAfter_concat, addCountry, List.map_append, List.mem_append, ← ih]
    split
    · rename_i hknown
      have hold := ((any_iff ih c).mp hknown).2
      rw [← ih] at hold
      simp only [List.map_cons, List.map_nil, List.mem_singleton]
      exact ⟨.inl, fun h => h.elim id fun heq => heq ▸ hold⟩
    · rw [List.mem_append]
      rfl

lemma nodup_knownAfter_iff (countries : List String) : (knownAfter countries).Nodup ↔
    countries.Pairwise fun c c' => toUpper c = toUpper c' → AsciiCased c' := by
  induction countries using List.reverseRecOn with
  | nil => exact iff_of_true List.nodup_nil .nil
  | append_singleton countries c ih =>
    have hknown := any_iff (mem_knownAfter countries) c
    rw [knownAfter_concat, addCountry, List.pairwise_append, ← ih]
    simp only [List.pairwise_singleton, true_and, List.forall_mem_singleton]
    split
    · rename_i hany
      exact ⟨fun h => ⟨h, fun _ _ _ => (hknown.mp hany).1⟩, fun h => h.1⟩
    · rename_i hany
      rw [List.nodup_append_comm, List.singleton_append, List.nodup_cons, mem_knownAfter, and_comm]
      refine and_congr_right fun _ => ⟨fun hnew c' hc' hsame => ?_, fun h hold => hany (hknown.mpr ⟨?_, hold⟩)⟩
      · exact absurd (hsame ▸ List.mem_map_of_mem hc') hnew
      · obtain ⟨c', hc', hsame⟩ := List.mem_map.mp hold
        exact h c' hc' hsame

end Names

section Change

variable {s : LearningSettings} {now : Instant} {vector : Option (List Float32)} {p p' : Profile}

def addCountryOf (known : List String) (a : Attempt) : List String := (countryOf a).elim known (addCountry known)

lemma countries_learnPlace (a : Attempt) (p : Profile) :
    (learnPlace s a.place p).knownCountries = addCountryOf p.knownCountries a := by
  unfold learnPlace learnCountry addCountryOf countryOf
  cases a.place with
  | none => rfl
  | some place =>
    by_cases hempty : place.country = ""
    · simp [hempty, Option.filter_some]
    · cases hknown : p.knowsCountry place.country <;> rw [Profile.knowsCountry] at hknown <;>
        simp [hempty, Option.filter_some, addCountry, Profile.knowsCountry, hknown]

lemma countries_learnSuccess (a : Attempt) (p : Profile) :
    (learnSuccess s a vector p).knownCountries = addCountryOf p.knownCountries a := by
  have hhour : (countHour a.timestamp.hour p).knownCountries = p.knownCountries := by
    simp only [countHour]
  have hvector (q : Profile) : (learnVector s vector q).knownCountries = q.knownCountries := by
    cases vector <;> rfl
  rw [← hhour, ← countries_learnPlace (s := s), learnSuccess, hvector]

lemma countries_applyOutcome {a : Attempt} {success : Bool} (h : applyOutcome s now a success vector p = .ok p') :
    p'.knownCountries = if success then addCountryOf p.knownCountries a else p.knownCountries := by
  obtain ⟨-, -, outcomes, rfl⟩ := applyOutcome_eq_ok h
  cases success
  · rfl
  · exact countries_learnSuccess a { p with outcomes }

lemma countries_change {job : LearningJob} {stats : LearningStats} (h : (change s now job vector stats p).2 = .ok p') :
    p'.knownCountries = if teaches s job then addCountryOf p.knownCountries job.attempt else p.knownCountries := by
  have hjudge (kind : FeedbackKind) (p : Profile) : (judge s p kind).knownCountries = p.knownCountries := by
    cases kind <;> rfl
  obtain ⟨hrecorded, hp⟩ | ⟨success, q, q', hrecorded, hq, hq', hp⟩ :=
    part_change Profile.knownCountries hjudge (fun _ _ => rfl) h
  · rw [hp, teaches_eq, hrecorded]
    rfl
  · rw [hp, countries_applyOutcome hq', hq, teaches_eq, hrecorded]
    rfl

end Change

def taughtCountries (s : LearningSettings) (works : List Work) : List String :=
  ((works.filter fun w => teaches s w.job).map fun w => w.job.attempt).filterMap countryOf

lemma knownAfter_taught (s : LearningSettings) (works : List Work) (w : Work) :
    knownAfter (taughtCountries s (works ++ [w])) =
      if teaches s w.job then addCountryOf (knownAfter (taughtCountries s works)) w.job.attempt
      else knownAfter (taughtCountries s works) := by
  unfold taughtCountries addCountryOf
  cases hteaches : teaches s w.job
  · simp [hteaches]
  · cases hcountry : countryOf w.job.attempt <;> simp [hteaches, hcountry, knownAfter_concat]

lemma maintains_countries (s : LearningSettings) (key : String) (ws : List Work) (contents : StoreContents) :
    Maintains s key ws contents fun done p => p.knownCountries = knownAfter (taughtCountries s done) where
  new now := rfl
  change {done w vector stats p p'} _ _ hp h := by
    rw [countries_change h, hp, knownAfter_taught]
  back hp h := (congrArg Profile.Baseline.countries h.baseline.2).trans hp

variable {σ : Type}

/-- What is known of the countries that a user has been learned to log in from, after any works from a store without
profiles on. A country is known just if its name has no letter beyond ASCII that has an upper case; of any other
the user is scored as coming from a new country, unless the place itself is known or taken for usual. The list of
countries is without repetition just if no such country has been learned after one of the same upper case. -/
theorem countries_of_learned (s : LearningSettings) (embed : Embedder σ) (works : List Work) (memory : σ)
    (state : LearningState) (hvacant : state.profiles.Vacant) (key : String) :
    let store := (after s embed works memory state).2.profiles
    let countries := (learned s embed key works memory state).filterMap countryOf
    (store.load key = .ok none → countries = []) ∧
    ∀ p, store.load key = .ok (some p) →
      (p.knownCountries.Nodup ↔ countries.Pairwise fun c c' => toUpper c = toUpper c' → AsciiCased c') ∧
      ∀ c ∈ countries, (p.knowsCountry c = true ↔ AsciiCased c) ∧
        ∀ {settings a m r place}, a.profileKey = key → a.place = some place → place.country = c →
          (Anomaly.detect settings store a m).2 = .value r → r.locationDeviation = clampUnit (
            if place.isUsual then 0.0
            else if p.knownLocations.isEmpty then settings.unknownLocationScore
            else if p.knowsLocation place.key then 0.0
            else if AsciiCased c then settings.unknownLocationScore * 0.5
            else settings.newCountryScore) := by
  intro store countries
  have hkept : Maintained key state.profiles.contents _ (savedWorks s embed key works memory state) store :=
    maintained_after hvacant (maintains_countries s key works state.profiles.contents)
  have hcountries : countries = taughtCountries s (savedWorks s embed key works memory state) :=
    congrArg (List.filterMap countryOf) (learned_eq works memory state)
  refine ⟨fun hnone => ?_, fun p hp => ?_⟩
  · rw [hcountries, (hkept.none_iff none hnone).mp rfl]
    rfl
  · have hknown := hkept.holds p hp
    rw [← hcountries] at hknown
    have hknows (c : String) (hc : c ∈ countries) : p.knowsCountry c = true ↔ AsciiCased c := by
      rw [Profile.knowsCountry, hknown, any_iff (mem_knownAfter countries)]
      exact and_iff_left (List.mem_map_of_mem hc)
    refine ⟨by rw [hknown, nodup_knownAfter_iff], fun c hc => ⟨hknows c hc, ?_⟩⟩
    rintro settings a m r place rfl hplace rfl hr
    obtain ⟨found, hfound, hreads⟩ := Anomaly.reads_of_detect hr
    rw [hp, Except.ok.injEq] at hfound
    subst hfound
    rw [hreads.location, hplace, Anomaly.locationDeviation_some, if_congr (hknows _ hc) rfl rfl]

def worksIn (countries : List String) : List Work :=
  countries.map fun c => ⟨⟨0, 0⟩, .outcome (loginFrom "phone" c false) true, false⟩

def storeAfter (countries : List String) : ProfileStore :=
  (after {} constantEmbedder (worksIn countries) () { profiles := .memory }).2.profiles

def elsewhereIn (country : String) : Attempt := { bareAttempt with place := some { country } }

/-- Of a country beyond ASCII the name in upper case is known. -/
theorem upper_case_is_known : ∃ p r, (storeAfter ["nl", "CURAÇAO", "NL"]).load "" = .ok (some p) ∧
    p.knownCountries.Nodup ∧ p.knowsCountry "CURAÇAO" = true ∧
    (Anomaly.detect {} (storeAfter ["nl", "CURAÇAO", "NL"]) (elsewhereIn "CURAÇAO") (.initial {})).2 = .value r ∧
    r.locationDeviation ≠ 0.7 := by
  obtain ⟨hnone, hsome⟩ := countries_of_learned {} constantEmbedder (worksIn ["nl", "CURAÇAO", "NL"]) ()
    { profiles := .memory } ProfileStore.vacant_memory ""
  have hloads : ((storeAfter ["nl", "CURAÇAO", "NL"]).load "").isOk = true := by decide +kernel
  cases hload : (storeAfter ["nl", "CURAÇAO", "NL"]).load "" with
  | error e =>
    rw [hload] at hloads
    cases hloads
  | ok found =>
    cases found with
    | none => exact absurd (hnone hload) (by decide +kernel)
    | some p =>
      obtain ⟨hnodup, hknown⟩ := hsome p hload
      obtain ⟨hknows, hscore⟩ := hknown "CURAÇAO" (by decide +kernel)
      obtain ⟨r, hr⟩ : ∃ r, (Anomaly.detect {} (storeAfter ["nl", "CURAÇAO", "NL"]) (elsewhereIn "CURAÇAO")
          (.initial {})).2 = .value r := Anomaly.exists_detect hload ⟨⟨_, rfl⟩, ⟨_, rfl⟩, ⟨_, rfl⟩⟩
      have hcased : AsciiCased "CURAÇAO" := by decide +kernel
      refine ⟨p, r, rfl, hnodup.mpr (by decide +kernel), hknows.mpr hcased, hr, ?_⟩
      rw [hscore rfl rfl rfl hr, if_pos hcased]
      split_ifs <;> decide +kernel

def loadedCountries : Except StoreError (Option Profile) → Option (List String)
  | .ok (some p) => some p.knownCountries
  | _ => none

def reportedLocation : Ending BehaviorFindings → Option Float
  | .value r => some r.locationDeviation
  | _ => none

/-- In lower case the same country is learned twice over and is still a new one. -/
theorem lower_case_stays_new : ∃ p r,
    (learned {} constantEmbedder "" (worksIn ["Curaçao", "Curaçao"]) () { profiles := .memory }).filterMap countryOf =
      ["Curaçao", "Curaçao"] ∧
    (storeAfter ["Curaçao", "Curaçao"]).load "" = .ok (some p) ∧
    p.knownCountries = ["CURAÇAO", "CURAÇAO"] ∧ p.knowsCountry "Curaçao" = false ∧
    (Anomaly.detect {} (storeAfter ["Curaçao", "Curaçao"]) (elsewhereIn "Curaçao") (.initial {})).2 = .value r ∧
    r.locationDeviation = 0.7 := by
  have hlearned : (learned {} constantEmbedder "" (worksIn ["Curaçao", "Curaçao"]) ()
      { profiles := .memory }).filterMap countryOf = ["Curaçao", "Curaçao"] := by decide +kernel
  have hcountries : loadedCountries ((storeAfter ["Curaçao", "Curaçao"]).load "") = some ["CURAÇAO", "CURAÇAO"] := by
    decide +kernel
  have hscore : reportedLocation (Anomaly.detect {} (storeAfter ["Curaçao", "Curaçao"]) (elsewhereIn "Curaçao")
      (.initial {})).2 = some 0.7 := by decide +kernel
  unfold loadedCountries at hcountries
  split at hcountries
  · rename_i p hload
    rw [Option.some.injEq] at hcountries
    unfold reportedLocation at hscore
    split at hscore
    · rename_i r hr
      refine ⟨p, r, hlearned, hload, hcountries, ?_, hr, Option.some.inj hscore⟩
      rw [Profile.knowsCountry, hcountries]
      decide +kernel
    · cases hscore
  · cases hcountries

end LoginRisk.Learning
