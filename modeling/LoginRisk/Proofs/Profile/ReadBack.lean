import LoginRisk.Profile.Store
import LoginRisk.Proofs.Assoc
import LoginRisk.Proofs.Json.ReadBack

/-!
What a store gives back of a saved profile. Values in memory come back as they are. From a row of text, where it
can be read at all, the user, the counts of hours and the known countries, places, devices and user agents come
back as they were, and so do the outcomes if their times can be read.
-/

namespace LoginRisk

namespace Json

variable {α : Type} {j' : Json}

lemma ReadsAs.string_eq {s t : String} (h : ReadsAs (.string s) j') (ht : Decode.string j' = .ok t) : t = s := by
  cases h
  exact (Except.ok.inj ht).symm

lemma ReadsAs.nat_eq {n m bits : ℕ} (h : ReadsAs (.nat n) j') (hm : Decode.nat bits j' = .ok m) : m = n := by
  obtain - | - | - | ⟨hwhole⟩ := h
  rename_i number
  cases number with
  | float x => cases hm
  | whole k =>
    rw [hwhole n rfl k rfl] at hm
    unfold Decode.nat Decode.int at hm
    dsimp only at hm
    split at hm <;> cases hm
    rfl

lemma ReadsAs.bool_eq {b c : Bool} (h : ReadsAs (.bool b) j') (hc : Decode.bool j' = .ok c) : c = b := by
  cases h
  exact (Except.ok.inj hc).symm

lemma ReadsAs.instant_eq {t u : Instant} (h : ReadsAs (.string t.text) j') (ht : Instant.read? t.text = some t)
    (hu : Decode.instant j' = .ok u) : u = t := by
  cases h
  rw [Decode.instant, ht] at hu
  exact (Except.ok.inj hu).symm

lemma ReadsAs.list_eq {write : α → Json} {read : Decoder α} {as bs : List α}
    (hitem : ∀ a ∈ as, ∀ j' b, ReadsAs (write a) j' → read j' = .ok b → b = a)
    (h : ReadsAs (.array (as.map write)) j') (hbs : Decode.list read j' = .ok bs) : bs = as := by
  obtain - | - | - | - | - | ⟨hall⟩ := h
  rename_i items
  change items.mapM read = _ at hbs
  induction as generalizing items bs with
  | nil =>
    cases hall
    cases hbs
    rfl
  | cons a as ih =>
    cases hall with
    | cons hfirst hrest =>
      rw [List.mapM_cons] at hbs
      obtain ⟨b, hb, hbs⟩ := exists_of_bind_eq_ok hbs
      obtain ⟨bs', hbs', heq⟩ := exists_of_bind_eq_ok hbs
      cases heq
      rw [hitem a List.mem_cons_self _ _ hfirst hb, ih (fun a ha => hitem a (List.mem_cons_of_mem _ ha)) hrest hbs']

lemma lookup_readsAs {members members' : List (String × Json)}
    (names : members.map Prod.fst = members'.map Prod.fst)
    (values : List.Forall₂ ReadsAs (members.map Prod.snd) (members'.map Prod.snd)) {name : String} {j : Json}
    (h : members.lookup name = some j) : ∃ j', members'.lookup name = some j' ∧ ReadsAs j j' := by
  induction members generalizing members' with
  | nil => cases h
  | cons m ms ih =>
    cases members' with
    | nil => cases names
    | cons m' ms' =>
      rw [List.map_cons, List.map_cons, List.cons.injEq] at names
      rw [List.map_cons, List.map_cons] at values
      obtain - | ⟨hvalue, hvalues⟩ := values
      rw [List.lookup_cons] at h ⊢
      rw [← names.1]
      split at h
      · cases h
        exact ⟨_, rfl, hvalue⟩
      · exact ih names.2 hvalues h

/-- A required field of a record of which all members are fields. -/
lemma ReadsAs.required {names : List String} {members : List (String × Json)} {f : Fields}
    (h : ReadsAs (.object members) j') (hnames : ∀ m ∈ members, names.contains m.1 = true)
    (hf : Fields.of names j' = .ok f) {name : String} {read : Decoder α} {a : α}
    (ha : f.required name read = .ok a) {j : Json} (hj : members.lookup name = some j) :
    ∃ j', ReadsAs j j' ∧ read j' = .ok a := by
  obtain - | - | - | - | - | - | ⟨hsame, hvalues⟩ := h
  rename_i members'
  have hgiven : f.given = members' := by
    have hall : ∀ m ∈ members', names.contains m.1 = true := fun m hm => by
      have hmem : m.1 ∈ members.map Prod.fst := hsame ▸ List.mem_map_of_mem hm
      obtain ⟨m', hm', heq⟩ := List.mem_map.mp hmem
      exact heq ▸ hnames m' hm'
    unfold Fields.of at hf
    dsimp only at hf
    split at hf <;> cases hf
    exact List.filter_eq_self.mpr hall
  obtain ⟨found, hfound, hreads⟩ := lookup_readsAs hsame hvalues hj
  unfold Fields.required at ha
  rw [hgiven, hfound] at ha
  exact ⟨found, hreads, ha⟩

end Json

namespace Profile

structure Baseline where
  hours : Vector UInt32 24
  countries : List String
  locations : List String
  devices : List String
  userAgents : List String

def baseline (p : Profile) : Baseline :=
  ⟨p.hourHistogram, p.knownCountries, p.knownLocations, p.knownDevices, p.knownUserAgents⟩

lemma count_of_readsAs {n m : UInt32} {j : Json} (hj : Json.ReadsAs (.nat n.toNat) j) (h : count j = .ok m) :
    m = n := by
  cases hnumber : Json.Decode.nat 32 j with
  | error e =>
    rw [count, hnumber] at h
    cases h
  | ok k =>
    rw [count, hnumber, hj.nat_eq hnumber] at h
    cases h
    exact UInt32.ofNat_toNat

lemma outcome_of_readsAs {o o' : LoginOutcome} {j : Json} (hj : Json.ReadsAs o.toJson j)
    (htime : Instant.read? o.timestamp.text = some o.timestamp) (h : LoginOutcome.ofJson j = .ok o') : o' = o := by
  obtain ⟨f, hf, h⟩ := exists_of_bind_eq_ok h
  obtain ⟨timestamp, htimestamp, h⟩ := exists_of_bind_eq_ok h
  obtain ⟨success, hsuccess, h⟩ := exists_of_bind_eq_ok h
  obtain ⟨ip, hip, h⟩ := exists_of_bind_eq_ok h
  cases h
  have hread {α : Type} {name : String} {read : Json.Decoder α} {a : α} :=
    @Json.ReadsAs.required α j ["timestamp", "success", "ip"] _ f hj (by simp) hf name read a
  obtain ⟨_, htimeReads, htimestamp⟩ := hread htimestamp rfl
  obtain ⟨_, hsuccessReads, hsuccess⟩ := hread hsuccess rfl
  obtain ⟨_, hipReads, hip⟩ := hread hip rfl
  rw [htimeReads.instant_eq htime htimestamp, hsuccessReads.bool_eq hsuccess, hipReads.string_eq hip]

lemma parts_of_readsAs {p q : Profile} {j : Json} (hj : Json.ReadsAs p.toJson j) (h : Profile.ofJson j = .ok q) :
    q.userId = p.userId ∧ q.baseline = p.baseline ∧
      ((∀ o ∈ p.outcomes, Instant.read? o.timestamp.text = some o.timestamp) → q.outcomes = p.outcomes) := by
  obtain ⟨f, hf, h⟩ := exists_of_bind_eq_ok h
  obtain ⟨userId, huser, h⟩ := exists_of_bind_eq_ok h
  obtain ⟨hours, hhours, h⟩ := exists_of_bind_eq_ok h
  obtain ⟨countries, hcountries, h⟩ := exists_of_bind_eq_ok h
  obtain ⟨locations, hlocations, h⟩ := exists_of_bind_eq_ok h
  obtain ⟨devices, hdevices, h⟩ := exists_of_bind_eq_ok h
  obtain ⟨agents, hagents, h⟩ := exists_of_bind_eq_ok h
  obtain ⟨_, -, h⟩ := exists_of_bind_eq_ok h
  obtain ⟨outcomes, houtcomes, h⟩ := exists_of_bind_eq_ok h
  iterate 7 obtain ⟨_, -, h⟩ := exists_of_bind_eq_ok h
  cases h
  have hread {α : Type} {name : String} {read : Json.Decoder α} {a : α} :=
    @Json.ReadsAs.required α j fieldNames _ f hj (by simp [fieldNames]) hf name read a
  have hstrings {known given : List String} (h : ∃ j', Json.ReadsAs (.strings known) j' ∧
      Json.Decode.list Json.Decode.string j' = .ok given) : given = known := by
    obtain ⟨j', hreads, hlist⟩ := h
    exact hreads.list_eq (fun s _ j' t hs ht => hs.string_eq ht) hlist
  obtain ⟨_, huserReads, huser⟩ := hread huser rfl
  obtain ⟨_, hhoursReads, hhours⟩ := hread hhours rfl
  obtain ⟨_, houtcomesReads, houtcomes⟩ := hread houtcomes rfl
  have hcounts : hours = p.hourHistogram := by
    obtain ⟨counts, hcounts, hhours⟩ := exists_of_bind_eq_ok hhours
    have hlist := hhoursReads.list_eq (fun n _ j' m hn hm => count_of_readsAs hn hm) hcounts
    split at hhours <;> cases hhours
    exact Vector.toArray_inj.mp ((congrArg List.toArray hlist).trans Vector.toArray_toList)
  refine ⟨huserReads.string_eq huser, ?_, fun htimes => ?_⟩
  · simp only [baseline, hcounts, hstrings (hread hcountries rfl), hstrings (hread hlocations rfl),
      hstrings (hread hdevices rfl), hstrings (hread hagents rfl)]
  · exact houtcomesReads.list_eq (fun o ho j' o' hj' ho' => outcome_of_readsAs hj' (htimes o ho) ho') houtcomes

end Profile

namespace StoreContents

/-- What can come back of a saved profile: from memory the profile, from a table what its row is read as. -/
def GivesBack : StoreContents → Profile → Profile → Prop
  | .memory _, p, q => q = p
  | .table _, p, q => ∃ j, Json.ReadsAs p.toJson j ∧ Profile.ofJson j = .ok q

variable {c : StoreContents} {p q : Profile}

lemma GivesBack.baseline (h : c.GivesBack p q) : q.userId = p.userId ∧ q.baseline = p.baseline := by
  cases c with
  | memory profiles =>
    cases h
    exact ⟨rfl, rfl⟩
  | table rows =>
    obtain ⟨j, hj, hq⟩ := h
    obtain ⟨huser, hbaseline, -⟩ := Profile.parts_of_readsAs hj hq
    exact ⟨huser, hbaseline⟩

lemma GivesBack.outcomes (h : c.GivesBack p q) (htimes : (∃ profiles, c = .memory profiles) ∨
    ∀ o ∈ p.outcomes, Instant.read? o.timestamp.text = some o.timestamp) : q.outcomes = p.outcomes := by
  cases c with
  | memory profiles =>
    cases h
    rfl
  | table rows =>
    obtain ⟨j, hj, hq⟩ := h
    refine (Profile.parts_of_readsAs hj hq).2.2 (htimes.resolve_left ?_)
    rintro ⟨profiles, hkind⟩
    cases hkind

end StoreContents

namespace ProfileStore

variable {store saved : ProfileStore} {p : Profile}

/-- What comes back of the profile that was saved last for a user. -/
theorem givesBack_of_load (h : store.save p = .ok saved) {found : Option Profile}
    (hfound : saved.load p.userId = .ok found) : ∃ q, found = some q ∧ store.contents.GivesBack p q := by
  unfold save at h
  split at h <;> cases h
  unfold load at hfound
  split at hfound
  · cases hfound
  · dsimp only at hfound
    cases hcontents : store.contents with
    | memory profiles =>
      rw [hcontents] at hfound
      change Except.ok ((Assoc.put p.userId p profiles).lookup p.userId) = _ at hfound
      rw [Assoc.lookup_put] at hfound
      cases hfound
      exact ⟨p, rfl, rfl⟩
    | table rows =>
      rw [hcontents] at hfound
      simp only [StoreContents.save, StoreContents.load, Assoc.lookup_put, StoreContents.readRow,
        Profile.rowText] at hfound
      split at hfound
      · cases hfound
      · rename_i j hj
        cases hdecoded : Profile.ofJson j with
        | error e =>
          rw [hdecoded] at hfound
          cases hfound
        | ok q =>
          rw [hdecoded] at hfound
          cases hfound
          exact ⟨q, rfl, j, Json.readsAs_of_read_compact hj, hdecoded⟩

lemma givesBack_save (h : store.save p = .ok saved) : saved.contents.GivesBack = store.contents.GivesBack := by
  unfold save at h
  split at h <;> cases h
  cases store.contents <;> rfl

theorem load_save (h : store.save p = .ok saved) {found : Option Profile} (hfound : saved.load p.userId = .ok found) :
    ∃ q, found = some q ∧ q.userId = p.userId ∧ q.baseline = p.baseline := by
  obtain ⟨q, hq, hback⟩ := givesBack_of_load h hfound
  exact ⟨q, hq, hback.baseline⟩

lemma faults_save (h : store.save p = .ok saved) : saved.faults = store.faults := by
  unfold save at h
  split at h <;> cases h
  rfl

/-- The other users' profiles are as before. -/
theorem load_save_of_ne (h : store.save p = .ok saved) {key : String} (hkey : key ≠ p.userId) :
    saved.load key = store.load key := by
  unfold save at h
  split at h <;> cases h
  unfold load
  cases hcontents : store.contents with
  | memory profiles =>
    simp only [StoreContents.save, StoreContents.load, Assoc.lookup_put_of_ne hkey]
  | table rows =>
    simp only [StoreContents.save, StoreContents.load, Assoc.lookup_put_of_ne hkey]

lemma faults_of_load {key : String} {found : Option Profile} (h : store.load key = .ok found) :
    store.faults.load = false := by
  by_contra hfault
  rw [load, if_pos (by simpa using hfault)] at h
  cases h

def Filed (store : ProfileStore) : Prop := ∀ key p, store.load key = .ok (some p) → p.userId = key

lemma Filed.save (hfiled : store.Filed) (h : store.save p = .ok saved) : saved.Filed := by
  intro key q hq
  by_cases hkey : key = p.userId
  · subst hkey
    obtain ⟨q', heq, huser, -⟩ := load_save h hq
    cases heq
    exact huser
  · rw [load_save_of_ne h hkey] at hq
    exact hfiled key q hq

end ProfileStore

end LoginRisk
