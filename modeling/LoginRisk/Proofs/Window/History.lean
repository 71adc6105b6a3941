import LoginRisk.Proofs.Text.Search
import LoginRisk.Proofs.Window.Store
import Mathlib.Data.Finset.Card
import Mathlib.Data.Finset.Dedup
import Mathlib.Data.List.Induction
import Mathlib.Data.List.TakeWhile

/-!
What a history of attempts and cleanups leaves in the windows. Attempts may come in any order of their
timestamps. Trimming and cleanups drop only what no look-back from then on reaches, so that the numbers
answered at the present are those of the whole history, and at any other time they are not larger.
-/

namespace LoginRisk

namespace Instant

def IsRegular (t : Instant) : Prop := t.nanos < 1000000000

instance (t : Instant) : Decidable t.IsRegular := inferInstanceAs (Decidable (_ < _))

/-- Nanoseconds since 1970 on a clock without leap seconds. -/
def total (t : Instant) : ℤ := t.seconds * 1000000000 + t.nanos

lemma le_iff_total_le {t u : Instant} (ht : t.IsRegular) (hu : u.IsRegular) :
    t ≤ u ↔ t.total ≤ u.total := by
  rw [le_iff]
  unfold IsRegular at ht hu
  unfold total
  omega

/-- A regular instant from which one can look back some seconds without leaving the calendar. -/
structure HasLookBack (span : ℤ) (t : Instant) : Prop where
  regular : t.IsRegular
  inRange : inRange (t.seconds - span) = true

instance (span : ℤ) (t : Instant) : Decidable (t.HasLookBack span) :=
  decidable_of_iff (t.IsRegular ∧ inRange (t.seconds - span) = true)
    ⟨fun h => ⟨h.1, h.2⟩, fun h => ⟨h.1, h.2⟩⟩

lemma HasLookBack.shift {span : ℤ} {t : Instant} (h : t.HasLookBack span) :
    ∃ start, t.shift (-span) = .ok start ∧ start.IsRegular ∧
      start.total = t.total - span * 1000000000 := by
  refine ⟨⟨t.seconds - span, t.nanos⟩, ?_, h.regular, ?_⟩
  · have hbase : (decide (-span = 0) || decide (t.nanos < 1000000000)) = true := by
      simp [show t.nanos < 1000000000 from h.regular]
    unfold Instant.shift
    simp only [hbase, if_true, ← Int.sub_eq_add_neg, h.inRange]
  · simp only [total]
    omega

def IsWithin (t : Instant) (span : ℤ) (now : Instant) : Prop :=
  now.total - span * 1000000000 ≤ t.total ∧ t.total ≤ now.total

instance (t : Instant) (span : ℤ) (now : Instant) : Decidable (t.IsWithin span now) :=
  inferInstanceAs (Decidable (_ ∧ _))

end Instant

def recent (span : ℤ) (now : Instant) (attempts : List (Instant × String)) : List (Instant × String) :=
  attempts.filter fun e => e.1.IsWithin span now

@[simp] lemma recent_append (span : ℤ) (now : Instant) (xs ys : List (Instant × String)) :
    recent span now (xs ++ ys) = recent span now xs ++ recent span now ys :=
  List.filter_append ..

def tally (attempts : List (Instant × String)) : Nat × Nat :=
  (attempts.length, (attempts.map Prod.snd).toFinset.card)

lemma tally_le_of_sublist {kept attempts : List (Instant × String)} (h : kept.Sublist attempts) :
    tally kept ≤ tally attempts := by
  have hlabels : (kept.map Prod.snd).toFinset ⊆ (attempts.map Prod.snd).toFinset := by
    intro label hlabel
    rw [List.mem_toFinset] at *
    exact (h.map Prod.snd).subset hlabel
  exact ⟨h.length_le, Finset.card_le_card hlabels⟩

def dropBefore (start : Instant) (attempts : List (Instant × String)) : List (Instant × String) :=
  attempts.dropWhile fun e => e.1 < start

lemma sublist_dropBefore (start : Instant) (attempts : List (Instant × String)) :
    (dropBefore start attempts).Sublist attempts :=
  List.dropWhile_sublist _

/-- Where nothing before `start` counts, nothing that counts is dropped. -/
lemma filter_dropBefore {start : Instant} {attempts : List (Instant × String)} {counts : Instant × String → Bool}
    (h : ∀ e ∈ attempts, e.1 < start → counts e = false) :
    (dropBefore start attempts).filter counts = attempts.filter counts := by
  have hdropped : (attempts.takeWhile fun e => e.1 < start).filter counts = [] := by
    refine List.filter_eq_nil_iff.mpr fun e he => ?_
    have hlt : decide (e.1 < start) = true :=
      List.mem_takeWhile_imp (p := fun e : Instant × String => decide (e.1 < start)) he
    rw [decide_eq_true_eq] at hlt
    simp [h e ((List.takeWhile_sublist _).subset he) hlt]
  have hsplit := List.takeWhile_append_dropWhile (p := fun e => decide (e.1 < start)) (l := attempts)
  conv_rhs => rw [← hsplit, List.filter_append, hdropped, List.nil_append]
  rfl

lemma recent_dropBefore {span : ℤ} {start later : Instant} {attempts : List (Instant × String)}
    (hstart : start.IsRegular) (hattempts : ∀ e ∈ attempts, e.1.IsRegular)
    (hlater : start.total ≤ later.total - span * 1000000000) :
    recent span later (dropBefore start attempts) = recent span later attempts := by
  refine filter_dropBefore fun e he hlt => ?_
  rw [Instant.lt_iff_not_le, Instant.le_iff_total_le hstart (hattempts e he)] at hlt
  rw [decide_eq_false_iff_not, Instant.IsWithin]
  omega

namespace AttemptWindow

variable {w : AttemptWindow} {now : Instant} {label : String}

lemma within_eq (hnow : now.HasLookBack w.span) (hevents : ∀ e ∈ w.events, e.1.IsRegular) :
    w.within now = .ok (recent w.span now w.events) := by
  obtain ⟨start, hstart, hregular, htotal⟩ := hnow.shift
  have hfilter : w.events.filter (fun e => start ≤ e.1 && e.1 ≤ now) = recent w.span now w.events := by
    refine List.filter_congr fun e he => ?_
    rw [Bool.eq_iff_iff, Bool.and_eq_true, decide_eq_true_eq, decide_eq_true_eq, decide_eq_true_eq,
      Instant.le_iff_total_le hregular (hevents e he), Instant.le_iff_total_le (hevents e he) hnow.regular,
      htotal, Instant.IsWithin]
  rw [within, cutoff, hstart]
  exact congrArg Except.ok hfilter

lemma count_eq (hnow : now.HasLookBack w.span) (hevents : ∀ e ∈ w.events, e.1.IsRegular) :
    w.count now = .ok (recent w.span now w.events).length := by
  rw [count, within_eq hnow hevents]
  rfl

lemma distinct_eq (hnow : now.HasLookBack w.span) (hevents : ∀ e ∈ w.events, e.1.IsRegular) :
    w.distinct now = .ok ((recent w.span now w.events).map Prod.snd).toFinset.card := by
  rw [distinct, within_eq hnow hevents, ← Text.length_distinct]
  rfl

lemma meanInterval_eq (hnow : now.HasLookBack w.span) (hevents : ∀ e ∈ w.events, e.1.IsRegular) :
    w.meanInterval now = .ok (meanGap ((recent w.span now w.events).map Prod.fst)) := by
  rw [meanInterval, within_eq hnow hevents]
  rfl

def startingAt (start : Instant) (w : AttemptWindow) : AttemptWindow :=
  ⟨w.span, dropBefore start w.events⟩

lemma trim_eq {start : Instant} (h : w.cutoff now = .ok start) :
    w.trim now = .ok (w.startingAt start) := by
  rw [trim, h]
  rfl

lemma record_of_cutoff {start : Instant} (h : w.cutoff now = .ok start) (label : String) :
    w.record now label = (⟨w.span, dropBefore start (w.events ++ [(now, label)])⟩, .ok ()) := by
  have htrim := trim_eq (w := { w with events := w.events ++ [(now, label)] }) h
  simp only [record, htrim, startingAt]

lemma record_eq (hnow : now.HasLookBack w.span) (hevents : ∀ e ∈ w.events, e.1.IsRegular)
    (label : String) :
    ∃ kept, w.record now label = ({ w with events := kept }, .ok ()) ∧
      kept.Sublist (w.events ++ [(now, label)]) ∧
      ∀ later, now.total ≤ later.total →
        recent w.span later kept = recent w.span later (w.events ++ [(now, label)]) := by
  obtain ⟨start, hshift, hregular, htotal⟩ := hnow.shift
  have hadded : ∀ e ∈ w.events ++ [(now, label)], e.1.IsRegular := by
    intro e he
    rcases List.mem_append.mp he with he | he
    · exact hevents e he
    · rw [List.mem_singleton.mp he]
      exact hnow.regular
  refine ⟨dropBefore start (w.events ++ [(now, label)]), record_of_cutoff hshift label,
    sublist_dropBefore _ _, fun later hlater => ?_⟩
  exact recent_dropBefore hregular hadded (by omega)

end AttemptWindow

inductive WindowEvent where
  | attempt (key : String) (at_ : Instant) (label : String)
  | cleanup (now : Instant)

namespace WindowEvent

def instant : WindowEvent → Instant
  | .attempt _ at_ _ | .cleanup at_ => at_

def attempt? (key : String) : WindowEvent → Option (Instant × String)
  | .attempt other at_ label => if other = key then some (at_, label) else none
  | .cleanup _ => none

def attempts (key : String) (events : List WindowEvent) : List (Instant × String) :=
  events.filterMap (attempt? key)

/-- Nothing that matters to a key is later than `now`. -/
structure UpTo (now : Instant) (key : String) (events : List WindowEvent) : Prop where
  attempts : ∀ e ∈ attempts key events, e.1 ≤ now
  cleanups : ∀ t, .cleanup t ∈ events → t ≤ now

lemma attempts_append (key : String) (before after : List WindowEvent) :
    attempts key (before ++ after) = attempts key before ++ attempts key after :=
  List.filterMap_append ..

@[simp] lemma attempts_cleanup (key : String) (t : Instant) : attempts key [.cleanup t] = [] :=
  rfl

@[simp] lemma attempts_attempt_same (key : String) (t : Instant) (label : String) :
    attempts key [.attempt key t label] = [(t, label)] := by
  simp [attempts, attempt?]

lemma attempts_attempt_of_ne {key other : String} (h : other ≠ key) (t : Instant) (label : String) :
    attempts key [.attempt other t label] = [] := by
  simp [attempts, attempt?, h]

lemma mem_attempts {key : String} {events : List WindowEvent} {e : Instant × String}
    (h : e ∈ attempts key events) : .attempt key e.1 e.2 ∈ events := by
  obtain ⟨event, hevent, he⟩ := List.mem_filterMap.mp h
  cases event with
  | cleanup t => cases he
  | attempt other t label =>
    simp only [attempt?, Option.ite_none_right_eq_some, Option.some.injEq] at he
    obtain ⟨rfl, rfl⟩ := he
    exact hevent

lemma UpTo.append_attempt {now : Instant} {key : String} {events : List WindowEvent}
    (h : UpTo now key events) (label : String) : UpTo now key (events ++ [.attempt key now label]) := by
  refine ⟨fun e he => ?_, fun t ht => h.cleanups t ?_⟩
  · rw [WindowEvent.attempts_append, attempts_attempt_same] at he
    rcases List.mem_append.mp he with he | he
    · exact h.attempts e he
    · rw [List.mem_singleton.mp he]
      exact now.le_refl
  · simpa using ht

lemma UpTo.of_append {now : Instant} {key : String} {before after : List WindowEvent}
    (h : UpTo now key (before ++ after)) : UpTo now key before := by
  refine ⟨fun e he => h.attempts e ?_, fun t ht => h.cleanups t (List.mem_append_left _ ht)⟩
  rw [WindowEvent.attempts_append]
  exact List.mem_append_left _ he

def withoutCleanups (events : List WindowEvent) : List WindowEvent :=
  events.filter fun
    | .attempt .. => true
    | .cleanup _ => false

lemma attempts_withoutCleanups (key : String) (events : List WindowEvent) :
    attempts key (withoutCleanups events) = attempts key events := by
  rw [attempts, withoutCleanups, List.filterMap_filter]
  refine List.filterMap_congr fun event _ => ?_
  cases event <;> rfl

lemma UpTo.withoutCleanups {now : Instant} {key : String} {events : List WindowEvent}
    (h : UpTo now key events) : UpTo now key (withoutCleanups events) := by
  refine ⟨fun e he => h.attempts e ?_, fun t ht => ?_⟩
  · rwa [attempts_withoutCleanups] at he
  · exact absurd (List.mem_filter.mp ht).2 Bool.false_ne_true

end WindowEvent

namespace WindowStore

open WindowEvent

/-- A cleanup that fails leaves the windows as they were. -/
def step (s : WindowStore) : WindowEvent → WindowStore
  | .attempt key at_ label => (s.record key at_ label).1
  | .cleanup now =>
    match s.cleanup now with
    | .ok cleaned => cleaned
    | .error _ => s

def run (seconds : UInt64) (events : List WindowEvent) : WindowStore :=
  events.foldl step (.empty seconds)

lemma run_append_singleton (seconds : UInt64) (events : List WindowEvent) (event : WindowEvent) :
    run seconds (events ++ [event]) = (run seconds events).step event := by
  simp [run]

def countAt (s : WindowStore) (key : String) (now : Instant) : Except TimeOverflow Nat :=
  match s.windows.lookup key with
  | some w => w.count now
  | none => .ok 0

def distinctAt (s : WindowStore) (key : String) (now : Instant) : Except TimeOverflow Nat :=
  match s.windows.lookup key with
  | some w => w.distinct now
  | none => .ok 0

/-- The store looks back `span` seconds, and of the attempts under each key it keeps at least those that
the present reaches. -/
structure Tracks (span : ℤ) (events : List WindowEvent) (s : WindowStore) : Prop where
  seconds : AttemptWindow.signedSeconds s.seconds = span
  nodup : (s.windows.map Prod.fst).Nodup
  spans : ∀ entry ∈ s.windows, entry.2.span = span
  sublist : ∀ key, (s.recorded key).Sublist (attempts key events)
  recent : ∀ key now, now.IsRegular → UpTo now key events →
    recent span now (s.recorded key) = recent span now (attempts key events)

namespace Tracks

variable {span : ℤ} {events : List WindowEvent} {s : WindowStore} {key label : String} {now : Instant}

lemma regular (h : Tracks span events s) (hevents : ∀ e ∈ events, e.instant.IsRegular) (key : String) :
    ∀ e ∈ s.recorded key, e.1.IsRegular := fun _ he =>
  hevents _ (mem_attempts ((h.sublist key).subset he))

lemma window (h : Tracks span events s) (hspan : Instant.isDistance span = true) (key : String) :
    ∃ w, s.window key = .ok w ∧ w.span = span ∧ w.events = s.recorded key := by
  unfold WindowStore.window recorded
  cases hlookup : s.windows.lookup key with
  | some w => exact ⟨w, rfl, h.spans _ (Assoc.mem_of_lookup hlookup), rfl⟩
  | none =>
    refine ⟨⟨span, []⟩, ?_, rfl, rfl⟩
    simp only [AttemptWindow.empty?, h.seconds, hspan, if_true]

lemma empty {seconds : UInt64} (h : AttemptWindow.signedSeconds seconds = span) :
    Tracks span [] (.empty seconds) where
  seconds := h
  nodup := List.nodup_nil
  spans _ h := absurd h List.not_mem_nil
  sublist _ := .refl _
  recent _ _ _ _ := rfl

lemma recorded_put (s : WindowStore) (key : String) (w : AttemptWindow) (other : String) :
    recorded { s with windows := Assoc.put key w s.windows } other =
      if other = key then w.events else s.recorded other := by
  unfold recorded
  split
  · rename_i h
    rw [h, Assoc.lookup_put]
    rfl
  · rename_i h
    rw [Assoc.lookup_put_of_ne h]

/-- Recording changes the window of its key only, where it keeps what a look-back from then on reaches. -/
lemma record_eq (h : Tracks span events s) (hspan : Instant.isDistance span = true)
    (hevents : ∀ e ∈ events, e.instant.IsRegular) (hnow : now.HasLookBack span) (key label : String) :
    ∃ kept, s.record key now label = ({ s with windows := Assoc.put key ⟨span, kept⟩ s.windows },
        .ok (tally (LoginRisk.recent span now kept))) ∧
      kept.Sublist (s.recorded key ++ [(now, label)]) ∧
      ∀ later, now.total ≤ later.total →
        LoginRisk.recent span later kept = LoginRisk.recent span later (s.recorded key ++ [(now, label)]) := by
  obtain ⟨w, hwindow, rfl, hrecorded⟩ := h.window hspan key
  have hregular := h.regular hevents key
  rw [← hrecorded] at hregular ⊢
  obtain ⟨kept, hrecord, hsublist, hrecent⟩ := AttemptWindow.record_eq hnow hregular label
  have hkept : ∀ e ∈ kept, e.1.IsRegular := by
    intro e he
    rcases List.mem_append.mp (hsublist.subset he) with he | he
    · exact hregular e he
    · rw [List.mem_singleton.mp he]
      exact hnow.regular
  refine ⟨kept, ?_, hsublist, hrecent⟩
  let w' : AttemptWindow := { w with events := kept }
  have hcount : w'.count now = .ok (LoginRisk.recent w.span now kept).length :=
    AttemptWindow.count_eq (w := w') hnow hkept
  have hdistinct : w'.distinct now =
      .ok ((LoginRisk.recent w.span now kept).map Prod.snd).toFinset.card :=
    AttemptWindow.distinct_eq (w := w') hnow hkept
  simp only [WindowStore.record, hwindow, hrecord]
  rw [hcount, hdistinct]
  rfl

lemma record (h : Tracks span events s) (hspan : Instant.isDistance span = true)
    (hevents : ∀ e ∈ events, e.instant.IsRegular) (hnow : now.HasLookBack span) (key label : String) :
    Tracks span (events ++ [.attempt key now label]) (s.record key now label).1 ∧
    (s.record key now label).2 =
      .ok (tally (LoginRisk.recent span now ((s.record key now label).1.recorded key))) := by
  obtain ⟨kept, hrecord, hsublist, hrecent⟩ := h.record_eq hspan hevents hnow key label
  rw [hrecord, recorded_put, if_pos rfl]
  refine ⟨⟨h.seconds, Assoc.nodup_put h.nodup, ?_, ?_, ?_⟩, rfl⟩
  · intro entry hentry
    rcases Assoc.mem_put hentry with rfl | hentry
    · rfl
    · exact h.spans entry hentry
  · intro other
    rw [attempts_append, recorded_put]
    split
    · rename_i heq
      subst heq
      rw [attempts_attempt_same]
      exact hsublist.trans ((h.sublist _).append (.refl _))
    · rename_i hne
      rw [attempts_attempt_of_ne (Ne.symm hne), List.append_nil]
      exact h.sublist other
  · intro other later hlater hupTo
    have hbefore := h.recent other later hlater hupTo.of_append
    rw [attempts_append, recent_append, ← hbefore, recorded_put]
    split
    · rename_i heq
      subst heq
      have hle := hupTo.attempts (now, label) (by simp [attempts_append])
      rw [Instant.le_iff_total_le hnow.regular hlater] at hle
      rw [hrecent later hle, recent_append, attempts_attempt_same]
    · rename_i hne
      rw [attempts_attempt_of_ne (Ne.symm hne)]
      simp [LoginRisk.recent]

lemma cleanup_eq (h : Tracks span events s) {start : Instant} (hstart : now.shift (-span) = .ok start) :
    s.cleanup now = .ok { s with
      windows := (s.windows.map fun entry => (entry.1, entry.2.startingAt start)).filter
        fun entry => !entry.2.isEmpty } := by
  have htrim : ∀ entry ∈ s.windows, ((entry.2.trim now).map fun w => (entry.1, w)) =
      .ok (entry.1, entry.2.startingAt start) := by
    intro entry hentry
    rw [AttemptWindow.trim_eq (by rw [AttemptWindow.cutoff, h.spans entry hentry, hstart])]
    rfl
  rw [WindowStore.cleanup, mapM_eq_ok htrim]
  rfl

lemma recorded_cleanup (h : Tracks span events s) {start : Instant}
    (hstart : now.shift (-span) = .ok start) {cleaned : WindowStore} (hcleaned : s.cleanup now = .ok cleaned)
    (key : String) : cleaned.recorded key = dropBefore start (s.recorded key) := by
  rw [h.cleanup_eq hstart, Except.ok.injEq] at hcleaned
  subst hcleaned
  have hnodup : ((s.windows.map fun entry => (entry.1, entry.2.startingAt start)).map Prod.fst).Nodup := by
    simpa [List.map_map, Function.comp_def] using h.nodup
  unfold recorded
  rw [Assoc.lookup_filter hnodup (fun w => !w.isEmpty), Assoc.lookup_map (AttemptWindow.startingAt start)]
  cases s.windows.lookup key with
  | none => rfl
  | some w =>
    simp only [Option.map_some, Option.filter_some, AttemptWindow.isEmpty, AttemptWindow.startingAt,
      Option.elim_some]
    cases dropBefore start w.events <;> rfl

lemma cleanup (h : Tracks span events s) (hevents : ∀ e ∈ events, e.instant.IsRegular)
    (hnow : now.HasLookBack span) :
    ∃ cleaned, s.cleanup now = .ok cleaned ∧ Tracks span (events ++ [.cleanup now]) cleaned := by
  obtain ⟨start, hstart, hregular, htotal⟩ := hnow.shift
  have hcleaned := h.cleanup_eq hstart
  have hrecorded := h.recorded_cleanup hstart hcleaned
  refine ⟨_, hcleaned, h.seconds, ?_, ?_, ?_, ?_⟩
  · refine (List.Nodup.sublist ?_ h.nodup)
    have hsublist := (List.filter_sublist (p := fun entry => !entry.2.isEmpty)
      (l := s.windows.map fun entry => (entry.1, entry.2.startingAt start))).map Prod.fst
    simpa [List.map_map, Function.comp_def] using hsublist
  · intro entry hentry
    obtain ⟨entry', hentry', rfl⟩ := List.mem_map.mp (List.mem_filter.mp hentry).1
    exact h.spans entry' hentry'
  · intro key
    rw [hrecorded, attempts_append, attempts_cleanup, List.append_nil]
    exact (sublist_dropBefore _ _).trans (h.sublist key)
  · intro key later hlater hupTo
    have hle := hupTo.cleanups now (by simp)
    rw [Instant.le_iff_total_le hnow.regular hlater] at hle
    rw [hrecorded, recent_dropBefore hregular (h.regular hevents key) (by omega),
      h.recent key later hlater hupTo.of_append, attempts_append, attempts_cleanup, List.append_nil]

/-- What is kept and reached is never more than what happened, and just that at the present. -/
lemma tally_recorded (h : Tracks span events s) (key : String) (now : Instant) :
    tally (LoginRisk.recent span now (s.recorded key)) ≤
        tally (LoginRisk.recent span now (attempts key events)) ∧
      (now.IsRegular → UpTo now key events →
        tally (LoginRisk.recent span now (s.recorded key)) =
          tally (LoginRisk.recent span now (attempts key events))) :=
  ⟨tally_le_of_sublist ((h.sublist key).filter _), fun hnow hupTo => by rw [h.recent key now hnow hupTo]⟩

lemma meanInterval_ok (h : Tracks span events s) (hevents : ∀ e ∈ events, e.instant.IsRegular)
    (hnow : now.HasLookBack span) (key : String) : ∃ gap, s.meanInterval key now = .ok gap := by
  have hregular := h.regular hevents key
  unfold WindowStore.meanInterval
  unfold recorded at hregular
  cases hlookup : s.windows.lookup key with
  | none => exact ⟨none, rfl⟩
  | some w =>
    rw [hlookup] at hregular
    obtain rfl := h.spans _ (Assoc.mem_of_lookup hlookup)
    exact ⟨_, AttemptWindow.meanInterval_eq hnow hregular⟩

lemma countAt_distinctAt_eq (h : Tracks span events s) (hevents : ∀ e ∈ events, e.instant.IsRegular)
    (hnow : now.HasLookBack span) (key : String) :
    s.countAt key now = .ok (tally (LoginRisk.recent span now (s.recorded key))).1 ∧
      s.distinctAt key now = .ok (tally (LoginRisk.recent span now (s.recorded key))).2 := by
  have hregular := h.regular hevents key
  unfold countAt distinctAt
  unfold recorded at *
  cases hlookup : s.windows.lookup key with
  | none => exact ⟨rfl, rfl⟩
  | some w =>
    rw [hlookup] at hregular
    obtain rfl := h.spans _ (Assoc.mem_of_lookup hlookup)
    exact ⟨AttemptWindow.count_eq hnow hregular, AttemptWindow.distinct_eq hnow hregular⟩

end Tracks

lemma signedSeconds_eq {seconds : UInt64} (h : seconds.toNat ≤ 9223372036854775) :
    AttemptWindow.signedSeconds seconds = seconds.toNat := by
  rw [AttemptWindow.signedSeconds, Int64.toInt, UInt64.toBitVec_toInt64, BitVec.toInt_eq_toNat_of_lt]
  · rfl
  · change 2 * seconds.toNat < 2 ^ 64
    omega

lemma isDistance_of_le {seconds : UInt64} (h : seconds.toNat ≤ 9223372036854775) :
    Instant.isDistance seconds.toNat = true := by
  rw [Instant.isDistance, Instant.longest, Bool.and_eq_true, decide_eq_true_iff, decide_eq_true_iff]
  omega

/-- Whatever happens, the windows keep what the present reaches. -/
theorem tracks_run {seconds : UInt64} (hseconds : seconds.toNat ≤ 9223372036854775)
    {events : List WindowEvent} (hevents : ∀ e ∈ events, e.instant.HasLookBack seconds.toNat) :
    Tracks seconds.toNat events (run seconds events) := by
  induction events using List.reverseRecOn with
  | nil => exact Tracks.empty (signedSeconds_eq hseconds)
  | append_singleton events event ih =>
    have hspan := isDistance_of_le hseconds
    have hbefore : ∀ e ∈ events, e.instant.HasLookBack seconds.toNat := fun e he =>
      hevents e (List.mem_append_left _ he)
    have hregular : ∀ e ∈ events, e.instant.IsRegular := fun e he => (hbefore e he).regular
    rw [run_append_singleton]
    cases event with
    | attempt key t label =>
      have hnow : t.HasLookBack seconds.toNat := hevents (.attempt key t label) (by simp)
      exact ((ih hbefore).record hspan hregular hnow key label).1
    | cleanup t =>
      have hnow : t.HasLookBack seconds.toNat := hevents (.cleanup t) (by simp)
      obtain ⟨cleaned, hcleaned, htracks⟩ := (ih hbefore).cleanup hregular hnow
      rw [step, hcleaned]
      exact htracks

section Answers

variable {seconds : UInt64} {events : List WindowEvent} {key : String} {now : Instant}

/-- Recording answers the numbers of the history, and less only when something is later. -/
lemma record_run (hseconds : seconds.toNat ≤ 9223372036854775)
    (hevents : ∀ e ∈ events, e.instant.HasLookBack seconds.toNat)
    (hnow : now.HasLookBack seconds.toNat) (key label : String) :
    ∃ answer, ((run seconds events).record key now label).2 = .ok answer ∧
      answer ≤ tally (recent seconds.toNat now (attempts key events ++ [(now, label)])) ∧
      (UpTo now key events →
        answer = tally (recent seconds.toNat now (attempts key events ++ [(now, label)]))) := by
  obtain ⟨htracks, hanswer⟩ := (tracks_run hseconds hevents).record (isDistance_of_le hseconds)
    (fun e he => (hevents e he).regular) hnow key label
  obtain ⟨hle, heq⟩ := htracks.tally_recorded key now
  rw [attempts_append, attempts_attempt_same] at hle heq
  exact ⟨_, hanswer, hle, fun hupTo => heq hnow.regular (hupTo.append_attempt label)⟩

lemma cleanup_run (hseconds : seconds.toNat ≤ 9223372036854775)
    (hevents : ∀ e ∈ events, e.instant.HasLookBack seconds.toNat)
    (hnow : now.HasLookBack seconds.toNat) :
    (run seconds events).cleanup now = .ok (run seconds (events ++ [.cleanup now])) := by
  obtain ⟨cleaned, hcleaned, -⟩ := (tracks_run hseconds hevents).cleanup
    (fun e he => (hevents e he).regular) hnow
  rw [run_append_singleton, step, hcleaned]

/-- Whatever the order of the attempts, a key's window answers the numbers of its whole history within
the look-back at every time that nothing is later than, and at no time larger numbers. Recording answers
the same numbers with the new attempt, so that no attempt at or after the cleanups shows that there were
any. -/
theorem answers_of_history (hseconds : seconds.toNat ≤ 9223372036854775)
    (hevents : ∀ e ∈ events, e.instant.HasLookBack seconds.toNat)
    (hnow : now.HasLookBack seconds.toNat) (key : String) :
    (∃ count distinct, (run seconds events).countAt key now = .ok count ∧
      (run seconds events).distinctAt key now = .ok distinct ∧
      (count, distinct) ≤ tally (recent seconds.toNat now (attempts key events)) ∧
      (UpTo now key events →
        (count, distinct) = tally (recent seconds.toNat now (attempts key events)))) ∧
    (∀ label, ∃ answer, ((run seconds events).record key now label).2 = .ok answer ∧
      answer ≤ tally (recent seconds.toNat now (attempts key events ++ [(now, label)])) ∧
      (UpTo now key events →
        answer = tally (recent seconds.toNat now (attempts key events ++ [(now, label)])) ∧
        ((run seconds (withoutCleanups events)).record key now label).2 = .ok answer)) ∧
    ∃ cleaned, (run seconds events).cleanup now = .ok cleaned := by
  have htracks := tracks_run hseconds hevents
  have hregular : ∀ e ∈ events, e.instant.IsRegular := fun e he => (hevents e he).regular
  refine ⟨?_, fun label => ?_, ?_⟩
  · obtain ⟨hcount, hdistinct⟩ := htracks.countAt_distinctAt_eq hregular hnow key
    obtain ⟨hle, heq⟩ := htracks.tally_recorded key now
    exact ⟨_, _, hcount, hdistinct, hle, heq hnow.regular⟩
  · obtain ⟨answer, hanswer, hle, heq⟩ := record_run hseconds hevents hnow key label
    refine ⟨answer, hanswer, hle, fun hupTo => ⟨heq hupTo, ?_⟩⟩
    have hwithout : ∀ e ∈ withoutCleanups events, e.instant.HasLookBack seconds.toNat := fun e he =>
      hevents e (List.mem_filter.mp he).1
    obtain ⟨answer', hanswer', -, heq'⟩ := record_run hseconds hwithout hnow key label
    rw [hanswer', heq' hupTo.withoutCleanups, heq hupTo, attempts_withoutCleanups]
  · exact ⟨_, cleanup_run hseconds hevents hnow⟩

/-- An attempt that comes late, a cleanup that finds it behind a younger one, and a window that goes. -/
theorem answers_of_history_out_of_order :
    let events : List WindowEvent :=
      [.attempt "shop" ⟨100, 0⟩ "a", .attempt "shop" ⟨50, 0⟩ "b", .attempt "bank" ⟨40, 0⟩ "a",
        .cleanup ⟨120, 0⟩]
    (run 60 events).countAt "shop" ⟨150, 0⟩ = .ok 1 ∧
      ((run 60 events).record "shop" ⟨150, 0⟩ "c").2 = .ok (2, 2) := by
  intro events
  have hevents : ∀ e ∈ events, e.instant.HasLookBack (60 : UInt64).toNat := by decide
  have hnow : (⟨150, 0⟩ : Instant).HasLookBack (60 : UInt64).toNat := by decide
  have hupTo : UpTo ⟨150, 0⟩ "shop" events := ⟨by decide, by simp [events]; decide⟩
  obtain ⟨⟨count, distinct, hcount, -, -, hat⟩, hrecord, -⟩ :=
    answers_of_history (by decide) hevents hnow "shop"
  obtain ⟨answer, hanswer, -, hrecorded⟩ := hrecord "c"
  have hone : (count, distinct) = (1, 1) := (hat hupTo).trans (by decide)
  have htwo : answer = (2, 2) := (hrecorded hupTo).1.trans (by decide)
  rw [hcount, hanswer, htwo, (Prod.mk.injEq ..).mp hone |>.1]
  exact ⟨rfl, rfl⟩

end Answers

end WindowStore

end LoginRisk
