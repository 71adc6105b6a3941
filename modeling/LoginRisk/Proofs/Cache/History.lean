import LoginRisk.Proofs.Assessment.Valid
import LoginRisk.Proofs.Cache.Entries
import Mathlib.Data.Finset.Card
import Mathlib.Data.Finset.Dedup
import Mathlib.Data.Finset.Erase
import Mathlib.Data.List.Induction

/-!
What a history of operations leaves in the cache. A hit answers what was inserted last under its key,
and an entry is found as long as it lives and fewer other keys than the capacity were used after it.
-/

namespace LoginRisk

inductive CacheOperation where
  | insert (key : String) (r : Assessment)
  | get (key : String)
  | purge
  | clear

/-- An operation with the clock at which it takes place. -/
structure CacheEvent where
  clock : Nat
  operation : CacheOperation

namespace CacheEvent

def Inserts (key : String) (e : CacheEvent) : Prop := ∃ r, e.operation = .insert key r

def Clears (e : CacheEvent) : Prop := e.operation = .clear

def key? (e : CacheEvent) : Option String :=
  match e.operation with
  | .insert key _ | .get key => some key
  | .purge | .clear => none

def otherKeys (key : String) (events : List CacheEvent) : Finset String :=
  (events.filterMap key?).toFinset.erase key

end CacheEvent

namespace ResultCache

def step (s : CacheSettings) (c : ResultCache) (e : CacheEvent) : ResultCache :=
  match e.operation with
  | .insert key r => c.insert s e.clock key r
  | .get key => (c.get s e.clock key).1
  | .purge => c.purge s e.clock
  | .clear => c.clear

def run (s : CacheSettings) (c : ResultCache) (events : List CacheEvent) : ResultCache :=
  events.foldl (step s) c

variable {s : CacheSettings} {c : ResultCache} {clock : Nat} {key : String} {r : Assessment}
  {e : CacheEntry} {events : List CacheEvent} {event : CacheEvent}

@[simp] lemma run_append (before after : List CacheEvent) :
    run s c (before ++ after) = run s (run s c before) after :=
  List.foldl_append

@[simp] lemma run_cons (event : CacheEvent) (events : List CacheEvent) :
    run s c (event :: events) = run s (step s c event) events :=
  rfl

@[simp] lemma run_nil : run s c [] = c :=
  rfl

@[simp] lemma step_insert : step s c ⟨clock, .insert key r⟩ = c.insert s clock key r :=
  rfl

@[simp] lemma step_get : step s c ⟨clock, .get key⟩ = (c.get s clock key).1 :=
  rfl

lemma run_of_disabled (hdisabled : s.enabled = false) (events : List CacheEvent) :
    run s empty events = empty := by
  induction events with
  | nil => rfl
  | cons event events ih =>
    have hstep : step s empty event = empty := by
      rcases event with ⟨clock, _ | _ | _ | _⟩
      · exact insert_of_disabled hdisabled
      · simp [step, get, hdisabled]
      · rfl
      · rfl
    rw [run_cons, hstep, ih]

section Size

lemma size_remove_le (c : ResultCache) (key : String) : (c.remove key).size ≤ c.size :=
  List.length_filter_le ..

lemma size_remove_lt (h : c.entries.lookup key = some e) : (c.remove key).size < c.size := by
  refine List.length_filter_lt_length_iff_exists.mpr ⟨(key, e), mem_of_lookup h, ?_⟩
  simp

lemma size_get_le (s : CacheSettings) (clock : Nat) (c : ResultCache) (key : String) :
    (c.get s clock key).1.size ≤ c.size := by
  rcases get_cases s clock c key with ⟨heq, -⟩ |
    ⟨e, -, he, ⟨-, heq⟩ | ⟨-, fault, -, heq⟩ | ⟨-, -, heq⟩⟩ <;> rw [heq]
  · exact size_remove_le c key
  · exact size_remove_le c key
  · exact size_remove_lt he

lemma size_step_le (h : c.size ≤ capacity s) (event : CacheEvent) :
    (step s c event).size ≤ capacity s := by
  rcases event with ⟨clock, ⟨key, r⟩ | key | _ | _⟩
  · rw [step_insert, insert]
    split
    · exact h
    · exact List.length_take_le _ _
  · exact (size_get_le s clock c key).trans h
  · exact (List.length_filter_le ..).trans h
  · exact Nat.zero_le _

lemma size_run_le (events : List CacheEvent) : (run s empty events).size ≤ capacity s := by
  induction events using List.reverseRecOn with
  | nil => exact Nat.zero_le _
  | append_singleton events event ih =>
    rw [run_append]
    exact size_step_le ih event

end Size

section Provenance

/-- The last insertion under the key puts `r` there at the clock `t`, and nothing is cleared after it. -/
def LastInserts (key : String) (t : Nat) (r : Assessment) (events : List CacheEvent) : Prop :=
  ∃ before after, events = before ++ ⟨t, .insert key r⟩ :: after ∧
    ∀ event ∈ after, ¬event.Inserts key ∧ ¬event.Clears

lemma lastInserts_insertion (events : List CacheEvent) (t : Nat) (key : String) (r : Assessment) :
    LastInserts key t r (events ++ [⟨t, .insert key r⟩]) :=
  ⟨events, [], rfl, by simp⟩

lemma LastInserts.append {t : Nat} (h : LastInserts key t r events) (hinserts : ¬event.Inserts key)
    (hclears : ¬event.Clears) : LastInserts key t r (events ++ [event]) := by
  obtain ⟨before, after, rfl, hafter⟩ := h
  refine ⟨before, after ++ [event], by simp, ?_⟩
  simp only [List.mem_append, List.mem_singleton]
  rintro later (hlater | rfl)
  · exact hafter later hlater
  · exact ⟨hinserts, hclears⟩

/-- Every entry is what was inserted last under its key. -/
lemma lastInserts_of_mem (henabled : s.enabled = true) :
    ∀ x ∈ (run s empty events).entries, LastInserts x.1 x.2.insertedAt x.2.assessment events := by
  induction events using List.reverseRecOn with
  | nil =>
    intro x hx
    cases hx
  | append_singleton events event ih =>
    intro x hx
    rw [run_append, run_cons, run_nil] at hx
    rcases event with ⟨clock, ⟨key, r⟩ | key | _ | _⟩
    · -- An insertion under the key replaces its entry, so that what is left has another key.
      rcases mem_insert_cases henabled hx with rfl | ⟨hx, hkey⟩
      · exact lastInserts_insertion events clock key r
      · refine (ih x hx).append ?_ (by simp [CacheEvent.Clears])
        rintro ⟨r', hr'⟩
        cases hr'
        exact hkey rfl
    · exact (ih x (mem_of_mem_get hx)).append (by simp [CacheEvent.Inserts]) (by simp [CacheEvent.Clears])
    · exact (ih x (mem_of_mem_purge hx)).append (by simp [CacheEvent.Inserts]) (by simp [CacheEvent.Clears])
    · cases hx

end Provenance

section Removal

lemma of_key_of_run {P : CacheEntry → Prop} (h : ∀ x ∈ c.entries, x.1 = key → P x.2)
    (hevents : ∀ event ∈ events, ¬event.Inserts key) :
    ∀ x ∈ (run s c events).entries, x.1 = key → P x.2 := by
  induction events generalizing c with
  | nil => exact h
  | cons event events ih =>
    refine ih (fun x hx => ?_) fun later hlater => hevents later (List.mem_cons_of_mem _ hlater)
    rcases event with ⟨clock, ⟨other, r⟩ | other | _ | _⟩
    · rcases mem_of_mem_insert hx with rfl | hx
      · rintro rfl
        exact absurd ⟨r, rfl⟩ (hevents _ List.mem_cons_self)
      · exact h x hx
    · exact h x (mem_of_mem_get hx)
    · exact h x (mem_of_mem_purge hx)
    · cases hx

lemma get_of_key_ne (h : ∀ x ∈ c.entries, x.1 ≠ key) : (c.get s clock key).2 = .miss := by
  rcases get_cases s clock c key with ⟨heq, -⟩ | ⟨e, -, he, -⟩
  · rw [heq]
  · exact absurd rfl (h _ (mem_of_lookup he))

lemma get_of_stale (henabled : s.enabled = true) (he : c.entries.lookup key = some e)
    (hstale : isExpired s clock e = true ∨ e.assessment.isValid = false) :
    (c.get s clock key).1 = c.remove key ∧ ¬∃ r, (c.get s clock key).2 = .hit r := by
  rcases get_cases s clock c key with ⟨-, hnone⟩ |
    ⟨e', -, he', ⟨-, heq⟩ | ⟨-, fault, -, heq⟩ | ⟨hlive, hvalid, -⟩⟩
  · rw [hnone henabled] at he
    cases he
  · rw [heq]
    exact ⟨rfl, by rintro ⟨r, hr⟩; cases hr⟩
  · rw [heq]
    exact ⟨rfl, by rintro ⟨r, hr⟩; cases hr⟩
  · obtain rfl : e = e' := Option.some.inj (he.symm.trans he')
    rcases hstale with hexpired | hinvalid
    · rw [hlive] at hexpired
      cases hexpired
    · simp [Assessment.isValid, hvalid] at hinvalid

end Removal

section Retention

def Distinct (c : ResultCache) : Prop := (c.entries.map Prod.fst).Nodup

lemma Distinct.of_sublist {d : ResultCache} (h : c.Distinct) (hsub : d.entries.Sublist c.entries) :
    d.Distinct :=
  h.sublist (hsub.map Prod.fst)

lemma Distinct.cons_remove (h : c.Distinct) (key : String) (e : CacheEntry) :
    Distinct ⟨(key, e) :: (c.remove key).entries⟩ := by
  refine List.nodup_cons.mpr ⟨?_, h.of_sublist List.filter_sublist⟩
  simp [remove]

lemma Distinct.step (h : c.Distinct) (event : CacheEvent) : (step s c event).Distinct := by
  rcases event with ⟨clock, ⟨key, r⟩ | key | _ | _⟩
  · rw [step_insert, insert]
    split
    · exact h
    · exact (h.cons_remove key ⟨r, clock⟩).of_sublist (List.take_sublist ..)
  · rw [step_get]
    rcases get_cases s clock c key with ⟨heq, -⟩ |
      ⟨e, -, he, ⟨-, heq⟩ | ⟨-, fault, -, heq⟩ | ⟨-, -, heq⟩⟩ <;> rw [heq]
    · exact h
    · exact h.of_sublist List.filter_sublist
    · exact h.of_sublist List.filter_sublist
    · exact h.cons_remove key e
  · exact h.of_sublist List.filter_sublist
  · exact List.nodup_nil

lemma Distinct.run (h : c.Distinct) (events : List CacheEvent) : (run s c events).Distinct := by
  induction events generalizing c with
  | nil => exact h
  | cons event events ih => exact ih (h.step event)

lemma distinct_empty : Distinct empty :=
  List.nodup_nil

/-- The entry is in the cache, and those used after it have keys among `others`. -/
def Keeps (key : String) (e : CacheEntry) (others : Finset String) (c : ResultCache) : Prop :=
  ∃ front back, c.entries = front ++ (key, e) :: back ∧ ∀ x ∈ front, x.1 ∈ others

variable {others : Finset String} {other : String}

lemma keeps_cons (key : String) (e : CacheEntry) (others : Finset String)
    (rest : List (String × CacheEntry)) : Keeps key e others ⟨(key, e) :: rest⟩ :=
  ⟨[], rest, rfl, by simp⟩

lemma Keeps.lookup (h : Keeps key e others c) (hkey : key ∉ others) :
    c.entries.lookup key = some e := by
  obtain ⟨front, back, hentries, hfront⟩ := h
  rw [hentries]
  refine List.lookup_eq_some_iff.mpr ⟨front, back, rfl, fun x hx => ?_⟩
  have hne : key ≠ x.1 := fun heq => hkey (heq ▸ hfront x hx)
  simpa using hne

lemma Keeps.filter (h : Keeps key e others c) {p : String × CacheEntry → Bool}
    (hp : p (key, e) = true) : Keeps key e others ⟨c.entries.filter p⟩ := by
  obtain ⟨front, back, hentries, hfront⟩ := h
  refine ⟨front.filter p, back.filter p, ?_, fun x hx => hfront x (List.mem_of_mem_filter hx)⟩
  simp [hentries, hp]

lemma Keeps.remove (h : Keeps key e others c) (hne : other ≠ key) :
    Keeps key e others (c.remove other) :=
  h.filter (by simpa using hne.symm)

lemma Keeps.cons (h : Keeps key e others c) (hother : other ∈ others) (e' : CacheEntry) :
    Keeps key e others ⟨(other, e') :: c.entries⟩ := by
  obtain ⟨front, back, hentries, hfront⟩ := h
  refine ⟨(other, e') :: front, back, by simp [hentries], fun x hx => ?_⟩
  rcases List.mem_cons.mp hx with rfl | hx
  · exact hother
  · exact hfront x hx

/-- What a full cache drops lies behind an entry with fewer keys in front of it than there is room. -/
lemma Keeps.take (h : Keeps key e others c) (hdistinct : c.Distinct) {n : Nat}
    (hroom : others.card < n) : Keeps key e others ⟨c.entries.take n⟩ := by
  obtain ⟨front, back, hentries, hfront⟩ := h
  have hnodup : (front.map Prod.fst).Nodup := by
    rw [Distinct, hentries, List.map_append] at hdistinct
    exact hdistinct.of_append_left
  -- The keys in front are different, so that there are no more of them than there are in `others`.
  have hlength : front.length ≤ others.card := by
    rw [← List.length_map (f := Prod.fst), ← List.toFinset_card_of_nodup hnodup]
    refine Finset.card_le_card fun k hk => ?_
    obtain ⟨x, hx, rfl⟩ := List.mem_map.mp (List.mem_toFinset.mp hk)
    exact hfront x hx
  obtain ⟨m, hm⟩ : ∃ m, n = front.length + (m + 1) := ⟨n - front.length - 1, by omega⟩
  refine ⟨front, back.take m, ?_, hfront⟩
  simp [hentries, hm, List.take_append]

/-- An entry that lives and keeps the rules stays, whatever is done under keys among few others. -/
lemma Keeps.step (h : Keeps key e others c) (hdistinct : c.Distinct)
    (hvalid : e.assessment.firstFault = none) (hlive : isExpired s event.clock e = false)
    (hroom : others.card < capacity s) (hkey : key ∉ others)
    (hused : ∀ k, event.key? = some k → k ≠ key → k ∈ others)
    (hinserts : ¬event.Inserts key) (hclears : ¬event.Clears) :
    Keeps key e others (step s c event) := by
  rcases event with ⟨clock, ⟨k, r⟩ | k | _ | _⟩
  · have hne : k ≠ key := by
      rintro rfl
      exact hinserts ⟨r, rfl⟩
    dsimp only [ResultCache.step]
    unfold insert
    split
    · exact h
    · exact ((h.remove hne).cons (hused k rfl hne) ⟨r, clock⟩).take (hdistinct.cons_remove k _) hroom
  · -- A look-up drops the entry it finds only if that has expired or breaks a rule, which `e` does not.
    have hlookup := h.lookup hkey
    rw [step_get]
    rcases get_cases s clock c k with ⟨heq, -⟩ |
      ⟨e', -, he', ⟨hexpired, heq⟩ | ⟨-, fault, hfault, heq⟩ | ⟨-, -, heq⟩⟩ <;> rw [heq]
    · exact h
    · refine h.remove ?_
      rintro rfl
      obtain rfl : e = e' := Option.some.inj (hlookup.symm.trans he')
      dsimp only at hlive
      rw [hlive] at hexpired
      cases hexpired
    · refine h.remove ?_
      rintro rfl
      obtain rfl : e = e' := Option.some.inj (hlookup.symm.trans he')
      rw [hvalid] at hfault
      cases hfault
    · by_cases hne : k = key
      · subst hne
        obtain rfl : e = e' := Option.some.inj (hlookup.symm.trans he')
        exact keeps_cons ..
      · exact (h.remove hne).cons (hused k rfl hne) e'
  · exact h.filter (by simpa using hlive)
  · exact absurd rfl hclears

lemma isExpired_mono {earlier later : Nat} (hle : earlier ≤ later)
    (hlive : isExpired s later e = false) : isExpired s earlier e = false := by
  simp only [isExpired, decide_eq_false_iff_not, not_le] at hlive ⊢
  omega

lemma Keeps.run (h : Keeps key e others c) (hdistinct : c.Distinct)
    (hvalid : e.assessment.firstFault = none) (hlive : isExpired s clock e = false)
    (hroom : others.card < capacity s) (hkey : key ∉ others)
    (hevents : ∀ event ∈ events, event.clock ≤ clock ∧ ¬event.Inserts key ∧ ¬event.Clears)
    (hused : ∀ event ∈ events, ∀ k, event.key? = some k → k ≠ key → k ∈ others) :
    Keeps key e others (run s c events) := by
  induction events generalizing c with
  | nil => exact h
  | cons event events ih =>
    obtain ⟨hclock, hinserts, hclears⟩ := hevents event List.mem_cons_self
    have hstep := h.step hdistinct hvalid (isExpired_mono hclock hlive) hroom hkey
      (hused event List.mem_cons_self) hinserts hclears
    exact ih hstep (hdistinct.step event) (fun later hlater => hevents later (List.mem_cons_of_mem _ hlater))
      fun later hlater => hused later (List.mem_cons_of_mem _ hlater)

lemma isExpired_eq_false_iff (t : Nat) :
    isExpired s clock ⟨r, t⟩ = false ↔ clock - t < s.ttlSeconds * 1000 := by
  simp [isExpired]

/-- After the insertion that left `c`, the entry of the key was used last right before `recent`: by this
insertion, or by a hit. -/
inductive UsedBefore (s : CacheSettings) (c : ResultCache) (key : String) (recent : List CacheEvent) :
    List CacheEvent → Prop
  | insertion : UsedBefore s c key recent recent
  | hit (between : List CacheEvent) (clock : Nat) (r : Assessment)
      (h : ((run s c between).get s clock key).2 = .hit r) :
      UsedBefore s c key recent (between ++ ⟨clock, .get key⟩ :: recent)

lemma keeps_of_hit (h : (c.get s clock key).2 = .hit r) (honly : ∀ x ∈ c.entries, x.1 = key → x.2 = e) :
    Keeps key e others (c.get s clock key).1 := by
  rcases get_cases s clock c key with ⟨heq, -⟩ |
    ⟨e', -, he', ⟨-, heq⟩ | ⟨-, fault, -, heq⟩ | ⟨-, -, heq⟩⟩ <;> rw [heq] at h
  · cases h
  · cases h
  · cases h
  · obtain rfl : e' = e := honly _ (mem_of_lookup he') rfl
    rw [heq]
    exact keeps_cons ..

/-- An entry that was put in front, lives and keeps the rules is found as long as fewer other keys than
the capacity have been used after it. -/
lemma get_of_usedBefore {rest : List (String × CacheEntry)} {after recent : List CacheEvent}
    (henabled : s.enabled = true) (hfront : c.entries = (key, e) :: rest) (hdistinct : c.Distinct)
    (hvalid : e.assessment.firstFault = none) (hlive : isExpired s clock e = false)
    (hafter : ∀ event ∈ after, event.clock ≤ clock ∧ ¬event.Inserts key ∧ ¬event.Clears)
    (hrecent : UsedBefore s c key recent after)
    (hroom : (CacheEvent.otherKeys key recent).card < capacity s) :
    ((run s c after).get s clock key).2 = .hit e.assessment := by
  have hused : ∀ event ∈ recent, ∀ k, event.key? = some k → k ≠ key →
      k ∈ CacheEvent.otherKeys key recent := by
    intro event hevent k hk hne
    exact Finset.mem_erase.mpr ⟨hne, List.mem_toFinset.mpr (List.mem_filterMap.mpr ⟨event, hevent, hk⟩)⟩
  have hkey : key ∉ CacheEvent.otherKeys key recent := by simp [CacheEvent.otherKeys]
  suffices hkeeps : Keeps key e (CacheEvent.otherKeys key recent) (run s c after) by
    rw [get_of_lookup henabled (hkeeps.lookup hkey) hlive hvalid]
  cases hrecent with
  | insertion =>
    have hkeeps : Keeps key e (CacheEvent.otherKeys key after) c := ⟨[], rest, hfront, by simp⟩
    exact hkeeps.run hdistinct hvalid hlive hroom hkey hafter hused
  | hit between clock' r' hhit =>
    -- Since the insertion nothing else was stored under the key, so that the hit found this entry.
    have honly : ∀ x ∈ (run s c between).entries, x.1 = key → x.2 = e := by
      refine of_key_of_run (P := (· = e)) (fun x hx heq => ?_) fun event hevent => (hafter event ?_).2.1
      · rw [hfront] at hx
        rcases List.mem_cons.mp hx with rfl | hx
        · rfl
        · rw [Distinct, hfront] at hdistinct
          have hmem : x.1 ∈ rest.map Prod.fst := List.mem_map_of_mem hx
          rw [heq] at hmem
          exact absurd hmem (List.nodup_cons.mp hdistinct).1
      · simp [hevent]
    rw [run_append, run_cons]
    exact (keeps_of_hit hhit honly).run ((hdistinct.run between).step ⟨clock', .get key⟩) hvalid hlive hroom
      hkey (fun event hevent => hafter event (by simp [hevent])) hused

end Retention

/-- Whatever happens to a cache, it keeps within its capacity; a hit answers what was inserted last under
its key, while it lives and keeps the rules; what has expired or breaks a rule is taken out when it is
looked up, and nothing else is; what lives and keeps the rules is found as long as fewer other keys than
the capacity have been used after it. -/
theorem cache_of_history (s : CacheSettings) :
    (∀ events, (run s empty events).size ≤ max s.capacity 1) ∧
    (∀ events clock key r, ((run s empty events).get s clock key).2 = .hit r →
      s.enabled = true ∧ r.isValid = true ∧
      ∃ t, LastInserts key t r events ∧ clock - t < s.ttlSeconds * 1000) ∧
    (∀ events clock key e, (run s empty events).entries.lookup key = some e →
      (isExpired s clock e = true ∨ e.assessment.isValid = false) →
      (¬∃ r, ((run s empty events).get s clock key).2 = .hit r) ∧
      ((run s empty events).get s clock key).1.entries =
        (run s empty events).entries.filter (fun x => x.1 ≠ key) ∧
      ∀ later clock', (∀ event ∈ later, ¬event.Inserts key) →
        ((run s empty (events ++ ⟨clock, .get key⟩ :: later)).get s clock' key).2 = .miss) ∧
    ∀ before t key r after recent clock,
      s.enabled = true → r.isValid = true → clock - t < s.ttlSeconds * 1000 →
      (∀ event ∈ after, event.clock ≤ clock ∧ ¬event.Inserts key ∧ ¬event.Clears) →
      UsedBefore s (run s empty (before ++ [⟨t, .insert key r⟩])) key recent after →
      (CacheEvent.otherKeys key recent).card < max s.capacity 1 →
      ((run s empty (before ++ ⟨t, .insert key r⟩ :: after)).get s clock key).2 = .hit r := by
  refine ⟨size_run_le, fun events clock key r hhit => ?_, fun events clock key e he hstale => ?_,
    fun before t key r after recent clock henabled hvalid hage hafter hrecent hroom => ?_⟩
  · obtain ⟨henabled, hvalid, e, he, hlive, rfl⟩ := entry_of_hit hhit
    exact ⟨henabled, by simp [Assessment.isValid, hvalid], e.insertedAt,
      lastInserts_of_mem henabled _ (mem_of_lookup he), (isExpired_eq_false_iff _).mp hlive⟩
  · have henabled : s.enabled = true := by
      by_contra hdisabled
      rw [run_of_disabled (by simpa using hdisabled)] at he
      cases he
    obtain ⟨hremoved, hmiss⟩ := get_of_stale henabled he hstale
    refine ⟨hmiss, by rw [hremoved]; rfl, fun later clock' hlater => get_of_key_ne ?_⟩
    have hgone : ∀ x ∈ ((run s empty events).remove key).entries, x.1 = key → False := by
      intro x hx heq
      simp [remove, heq] at hx
    rw [run_append, run_cons, step_get, hremoved]
    exact of_key_of_run (P := fun _ => False) hgone hlater
  · obtain ⟨rest, hrest⟩ :
        ∃ rest, (run s empty (before ++ [⟨t, .insert key r⟩])).entries = (key, ⟨r, t⟩) :: rest := by
      rw [run_append, run_cons, run_nil, step_insert]
      obtain ⟨n, hn⟩ := entries_insert henabled t (run s empty before) key r
      exact ⟨_, hn⟩
    have hget := get_of_usedBefore henabled hrest (distinct_empty.run _)
      (by simpa [Assessment.isValid] using hvalid) ((isExpired_eq_false_iff t).mpr hage) hafter hrecent hroom
    rwa [← run_append, List.append_assoc] at hget

/-- In a cache for two, an entry that has been hit outlives the one that was inserted after it; once it
has expired it is taken out. -/
theorem hit_entry_outlives_later_one :
    let s : CacheSettings := { capacity := 2, ttlSeconds := 1 }
    let r := Assessment.fallback "r" 0.0 1.0 default
    let events : List CacheEvent :=
      [⟨0, .insert "a" r⟩, ⟨1, .insert "b" r⟩, ⟨2, .get "a"⟩, ⟨3, .insert "c" r⟩]
    (run s empty events).size ≤ 2 ∧ ((run s empty events).get s 4 "a").2 = .hit r ∧
    (∃ t, LastInserts "a" t r events ∧ 4 - t < s.ttlSeconds * 1000) ∧
    ((run s empty (events ++ [⟨1000, .get "a"⟩])).get s 1000 "a").2 = .miss := by
  intro s r events
  obtain ⟨hsize, hhit, hstale, hfound⟩ := cache_of_history s
  have hvalid : r.isValid = true := (Assessment.isValid_iff r).mpr (Assessment.fallback_valid ..)
  have hfirst : ((run s empty [⟨0, .insert "a" r⟩, ⟨1, .insert "b" r⟩]).get s 2 "a").2 = .hit r := by
    refine hfound [] 0 "a" r [⟨1, .insert "b" r⟩] [⟨1, .insert "b" r⟩] 2 rfl hvalid (by decide) ?_ .insertion
      (by decide)
    simp [CacheEvent.Inserts, CacheEvent.Clears]
  have hsecond : ((run s empty events).get s 4 "a").2 = .hit r := by
    refine hfound [] 0 "a" r [⟨1, .insert "b" r⟩, ⟨2, .get "a"⟩, ⟨3, .insert "c" r⟩] [⟨3, .insert "c" r⟩] 4
      rfl hvalid (by decide) ?_ (.hit [⟨1, .insert "b" r⟩] 2 r hfirst) (by decide +kernel)
    simp [CacheEvent.Inserts, CacheEvent.Clears]
  obtain ⟨-, -, t, hlast, hage⟩ := hhit events 4 "a" r hsecond
  have hlater : ∀ event ∈ ([⟨1, .insert "b" r⟩, ⟨2, .get "a"⟩, ⟨3, .insert "c" r⟩] : List CacheEvent),
      ¬event.Inserts "a" := by
    simp [CacheEvent.Inserts]
  have hlookup : (run s empty events).entries.lookup "a" = some ⟨r, 0⟩ := by
    obtain ⟨-, -, e, he, -, -⟩ := entry_of_hit hsecond
    have honly : ∀ x ∈ (empty.insert s 0 "a" r).entries, x.1 = "a" → x.2 = ⟨r, 0⟩ := by
      intro x hx hkey
      obtain rfl : x = ("a", ⟨r, 0⟩) := by simpa [insert, empty, remove, s, capacity] using hx
      rfl
    obtain rfl : e = ⟨r, 0⟩ := of_key_of_run (P := (· = ⟨r, 0⟩)) honly hlater _ (mem_of_lookup he) rfl
    exact he
  exact ⟨hsize events, hsecond, ⟨t, hlast, hage⟩,
    (hstale events 1000 "a" ⟨r, 0⟩ hlookup (.inl (by decide))).2.2 [] 1000 (by simp)⟩

end ResultCache

end LoginRisk
