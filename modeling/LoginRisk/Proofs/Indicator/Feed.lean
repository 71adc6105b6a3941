import LoginRisk.Proofs.Assoc
import LoginRisk.Proofs.Indicator.Key
import LoginRisk.Proofs.Window.Store
import Mathlib.Data.List.Induction
import Mathlib.Data.List.Nodup
import Mathlib.Logic.Function.Basic

/-!
What the indicator database answers after any history. Its five tables are one map from keys to indicators, and
that map holds the last indicator that was accepted under each key, unless it has expired and was dropped.
-/

namespace LoginRisk

lemma Indicator.live_and_live {t now : Instant} (h : t ≤ now) (i : Indicator) :
    (!i.isExpired now && !i.isExpired t) = !i.isExpired now := by
  unfold isExpired
  cases i.expiresAt with
  | none => rfl
  | some expiry =>
    have := fun hexpiry : expiry ≤ t => Instant.le_trans hexpiry h
    by_cases hexpiry : expiry ≤ t <;> simp_all

inductive FeedStep where
  | add (i : Indicator)
  | load (text : String)
  | cleanup (now : Instant)

namespace Feed

/-- The indicators that a file holds, accepted or not; `none` when it is no array of indicators. -/
def readAll? (text : String) : Option (List Indicator) := do
  let j ← (Json.readRecords Indicator.fieldNames text).toOption
  (Json.Decode.list Indicator.ofJson j).toOption

/-- One step. What is refused changes nothing. -/
def step (f : Feed) : FeedStep → Feed
  | .add i => (f.add? i).getD f
  | .load text => ((f.load? text).map Prod.fst).getD f
  | .cleanup now => f.cleanup now

def run (f : Feed) (steps : List FeedStep) : Feed := steps.foldl step f

end Feed

def FeedStep.indicators : FeedStep → List Indicator
  | .add i => [i]
  | .load text => (Feed.readAll? text).getD []
  | .cleanup _ => []

namespace Feed

/-- The last indicator with the key. Those that are refused have no key. -/
def lastUnder (known : List Indicator) (key : IndicatorKey) : Option Indicator :=
  known.reverse.find? fun i => i.key? = some key

/-- The five tables as one map. -/
def find? (f : Feed) : IndicatorKey → Option Indicator
  | .ip address => f.ips.lookup address
  | .cidr block => f.blocks.lookup block
  | .userAgent text => f.userAgents.lookup text
  | .emailDomain text => f.emailDomains.lookup text
  | .credentialDigest text => f.credentialDigests.lookup text

structure KeysDistinct (f : Feed) : Prop where
  ips : (f.ips.map Prod.fst).Nodup
  blocks : (f.blocks.map Prod.fst).Nodup
  userAgents : (f.userAgents.map Prod.fst).Nodup
  emailDomains : (f.emailDomains.map Prod.fst).Nodup
  credentialDigests : (f.credentialDigests.map Prod.fst).Nodup

variable {f g : Feed} {i : Indicator} {key : IndicatorKey} {known : List Indicator} {now : Instant}

lemma lastUnder_append (known : List Indicator) (i : Indicator) :
    lastUnder (known ++ [i]) = match i.key? with
      | some key => Function.update (lastUnder known) key (some i)
      | none => lastUnder known := by
  funext key
  rw [lastUnder, List.reverse_append, List.reverse_singleton, List.singleton_append, List.find?_cons]
  cases hkey : i.key? with
  | none => rfl
  | some own =>
    by_cases h : own = key
    · simp [h]
    · simp [h, Function.update_of_ne (Ne.symm h), lastUnder]

section Put

def put (f : Feed) (i : Indicator) : IndicatorKey → Feed
  | .ip address => { f with ips := Assoc.put address i f.ips }
  | .cidr block => { f with blocks := Assoc.put block i f.blocks }
  | .userAgent text => { f with userAgents := Assoc.put text i f.userAgents }
  | .emailDomain text => { f with emailDomains := Assoc.put text i f.emailDomains }
  | .credentialDigest text => { f with credentialDigests := Assoc.put text i f.credentialDigests }

/-- Accepted is what has a key, and it is put under that. -/
lemma add?_eq (f : Feed) (i : Indicator) : f.add? i = i.key?.map (f.put i) := by
  unfold add? Indicator.key? keyText
  cases i.kind <;> simp [put, Function.comp_def]

lemma find?_put (f : Feed) (i : Indicator) (key : IndicatorKey) :
    (f.put i key).find? = Function.update f.find? key (some i) := by
  funext other
  by_cases h : other = key
  · subst h
    rw [Function.update_self]
    cases other <;> exact Assoc.lookup_put ..
  · rw [Function.update_of_ne h]
    cases key <;> cases other
    all_goals first
      | rfl
      | exact Assoc.lookup_put_of_ne (fun heq => h (congrArg _ heq)) ..

lemma keysDistinct_put (h : f.KeysDistinct) (i : Indicator) (key : IndicatorKey) :
    (f.put i key).KeysDistinct := by
  obtain ⟨ips, blocks, userAgents, emailDomains, credentialDigests⟩ := h
  cases key <;> constructor
  all_goals first
    | exact Assoc.nodup_put ‹_›
    | assumption

end Put

section Add

lemma load?_eq (f : Feed) (text : String) : f.load? text = (readAll? text).map f.addAll := by
  unfold load? readAll?
  cases Json.readRecords Indicator.fieldNames text with
  | error e => rfl
  | ok j => cases h : Json.Decode.list Indicator.ofJson j <;> simp [h, Except.toOption]

lemma run_concat (f : Feed) (steps : List FeedStep) (e : FeedStep) :
    f.run (steps ++ [e]) = (f.run steps).step e :=
  List.foldl_append ..

lemma addAll_concat (f : Feed) (is : List Indicator) (i : Indicator) :
    f.addAll (is ++ [i]) =
      ((f.addAll is).1.step (.add i), (f.addAll is).2 + if i.key?.isSome then 1 else 0) := by
  rw [addAll, List.foldl_append, ← addAll, List.foldl_cons, List.foldl_nil, step]
  obtain ⟨g, n⟩ := f.addAll is
  dsimp only
  rw [add?_eq]
  cases i.key? <;> rfl

lemma addAll_eq (f : Feed) (is : List Indicator) :
    f.addAll is = (f.run (is.map .add), is.countP fun i => i.key?.isSome) := by
  induction is using List.reverseRecOn with
  | nil => rfl
  | append_singleton is i ih =>
    rw [addAll_concat, ih, List.map_append, List.map_singleton, run_concat, List.countP_append,
      List.countP_singleton]

end Add

section Cleanup

lemma keysDistinct_cleanup (h : f.KeysDistinct) (now : Instant) : (f.cleanup now).KeysDistinct where
  ips := h.ips.sublist (List.filter_sublist.map _)
  blocks := h.blocks.sublist (List.filter_sublist.map _)
  userAgents := h.userAgents.sublist (List.filter_sublist.map _)
  emailDomains := h.emailDomains.sublist (List.filter_sublist.map _)
  credentialDigests := h.credentialDigests.sublist (List.filter_sublist.map _)

lemma find?_cleanup (h : f.KeysDistinct) (now : Instant) (key : IndicatorKey) :
    (f.cleanup now).find? key = (f.find? key).filter fun i => !i.isExpired now := by
  cases key with
  | ip => exact Assoc.lookup_filter h.ips (fun i => !i.isExpired now) _
  | cidr => exact Assoc.lookup_filter h.blocks (fun i => !i.isExpired now) _
  | userAgent => exact Assoc.lookup_filter h.userAgents (fun i => !i.isExpired now) _
  | emailDomain => exact Assoc.lookup_filter h.emailDomains (fun i => !i.isExpired now) _
  | credentialDigest => exact Assoc.lookup_filter h.credentialDigests (fun i => !i.isExpired now) _

end Cleanup

/-- Under each key stands the last indicator of the history, or both have expired or are missing. -/
structure Reflects (f : Feed) (known : List Indicator) (now : Instant) : Prop where
  keysDistinct : f.KeysDistinct
  find? : ∀ key, ((f.find? key).filter fun i => !i.isExpired now) =
    (lastUnder known key).filter fun i => !i.isExpired now

namespace Reflects

lemma add (h : f.Reflects known now) (i : Indicator) :
    ((f.add? i).getD f).Reflects (known ++ [i]) now := by
  rw [add?_eq]
  cases hkey : i.key? with
  | none =>
    have hlast : lastUnder (known ++ [i]) = lastUnder known := by rw [lastUnder_append, hkey]
    exact ⟨h.keysDistinct, fun key => hlast ▸ h.find? key⟩
  | some own =>
    refine ⟨keysDistinct_put h.keysDistinct i own, fun key => ?_⟩
    have hlast : lastUnder (known ++ [i]) = Function.update (lastUnder known) own (some i) := by
      rw [lastUnder_append, hkey]
    rw [hlast, Option.map_some, Option.getD_some, find?_put]
    by_cases heq : key = own
    · subst heq
      rw [Function.update_self, Function.update_self]
    · rw [Function.update_of_ne heq, Function.update_of_ne heq]
      exact h.find? key

lemma cleanup (h : f.Reflects known now) {t : Instant} (ht : t ≤ now) :
    (f.cleanup t).Reflects known now := by
  refine ⟨keysDistinct_cleanup h.keysDistinct t, fun key => ?_⟩
  rw [find?_cleanup h.keysDistinct, ← h.find? key, Option.filter_filter]
  congr 1
  funext i
  rw [Bool.and_comm, Indicator.live_and_live ht]

lemma adds (h : f.Reflects known now) (is : List Indicator) :
    (f.run (is.map .add)).Reflects (known ++ is) now := by
  induction is generalizing f known with
  | nil => simpa [Feed.run] using h
  | cons i rest ih =>
    rw [List.append_cons]
    exact ih (h.add i)

lemma step (h : f.Reflects known now) {e : FeedStep} (he : ∀ t, e = .cleanup t → t ≤ now) :
    (f.step e).Reflects (known ++ e.indicators) now := by
  cases e with
  | add i => exact h.add i
  | load text =>
    rw [Feed.step, FeedStep.indicators, load?_eq]
    cases readAll? text with
    | none => simpa using h
    | some is =>
      rw [Option.map_some, Option.map_some, addAll_eq]
      exact h.adds is
  | cleanup t => simpa [Feed.step, FeedStep.indicators] using h.cleanup (he t rfl)

lemma run (h : f.Reflects known now) {steps : List FeedStep} (hsteps : ∀ t, .cleanup t ∈ steps → t ≤ now) :
    (f.run steps).Reflects (known ++ steps.flatMap FeedStep.indicators) now := by
  induction steps generalizing f known with
  | nil => simpa [Feed.run] using h
  | cons e rest ih =>
    rw [List.flatMap_cons, ← List.append_assoc]
    refine ih (h.step fun t ht => hsteps t (ht ▸ List.mem_cons_self)) fun t ht => ?_
    exact hsteps t (List.mem_cons_of_mem _ ht)

lemma initial (s : ThreatSettings) (now : Instant) : (Feed.initial s).Reflects builtin now := by
  rw [Feed.initial, addAll_eq, ← List.nil_append builtin]
  refine adds ⟨?_, fun key => ?_⟩ builtin
  · constructor <;> exact List.nodup_nil
  · cases key <;> rfl

end Reflects

section Lookup

/-- What applies to an attempt, expired or not, each indicator with its key. -/
def applying (f : Feed) (a : Attempt) : List (IndicatorKey × Indicator) :=
  (f.ips.lookup a.clientAddress).toList.map (fun i => (.ip a.clientAddress, i)) ++
  (f.blocks.filter fun e => e.1.contains a.clientAddress).map (fun e => (.cidr e.1, e.2)) ++
  (f.userAgents.filter fun e => e.1 ≠ "" && Text.contains (Text.toLower a.userAgent) e.1).map
    (fun e => (.userAgent e.1, e.2)) ++
  (f.emailDomains.lookup (Text.toLower a.emailDomain)).toList.map
    (fun i => (.emailDomain (Text.toLower a.emailDomain), i)) ++
  (f.credentialDigests.lookup (Text.toLower (Text.trim a.credentialDigest))).toList.map
    (fun i => (.credentialDigest (Text.toLower (Text.trim a.credentialDigest)), i))

lemma found_lookup (f : Feed) (a : Attempt) (now : Instant) :
    (f.lookup a now).found = ((f.applying a).filter fun e => !e.2.isExpired now).map Prod.snd := by
  simp [lookup, applying, List.filter_map, Function.comp_def]

lemma mem_applying (h : f.KeysDistinct) (a : Attempt) :
    (key, i) ∈ f.applying a ↔ f.find? key = some i ∧ key.Applies a := by
  simp only [applying, List.mem_append, List.mem_map, List.mem_filter, Option.mem_toList]
  cases key with
  | cidr =>
    simp [find?, IndicatorKey.Applies, Assoc.lookup_eq_some_iff h.blocks, Block.contains_iff]
  | userAgent =>
    simp [find?, IndicatorKey.Applies, Assoc.lookup_eq_some_iff h.userAgents, Text.contains, Text.hasInfix_iff]
  | ip | emailDomain | credentialDigest =>
    simp only [find?, IndicatorKey.Applies]
    grind

lemma nodup_filter_map {κ : Type} {table : List (κ × Indicator)} (h : (table.map Prod.fst).Nodup)
    (p : κ × Indicator → Bool) {t : κ → IndicatorKey} (ht : Function.Injective t) :
    ((table.filter p).map fun e => t e.1).Nodup := by
  have hkeys := List.Nodup.map ht (h.sublist (List.filter_sublist (p := p).map Prod.fst))
  rwa [List.map_map] at hkeys

lemma nodup_applying (h : f.KeysDistinct) (a : Attempt) : ((f.applying a).map Prod.fst).Nodup := by
  have hone : ∀ (o : Option Indicator) (key : IndicatorKey), (o.toList.map fun _ => key).Nodup := by
    intro o key
    cases o <;> simp
  have hblocks := nodup_filter_map h.blocks (fun e => e.1.contains a.clientAddress)
    (t := .cidr) fun _ _ => IndicatorKey.cidr.inj
  have hagents := nodup_filter_map h.userAgents
    (fun e => e.1 ≠ "" && Text.contains (Text.toLower a.userAgent) e.1)
    (t := .userAgent) fun _ _ => IndicatorKey.userAgent.inj
  simp only [applying, List.map_append, List.map_map, Function.comp_def, List.nodup_append, hone, hblocks, hagents,
    List.mem_append, List.mem_map, true_and]
  grind

lemma applying_cleanup (h : f.KeysDistinct) (a : Attempt) (t : Instant) :
    (f.cleanup t).applying a = (f.applying a).filter fun e => !e.2.isExpired t := by
  have hone : ∀ (o : Option Indicator) (key : IndicatorKey),
      (o.filter fun i => !i.isExpired t).toList.map (fun i => (key, i)) =
        (o.toList.map fun i => (key, i)).filter fun e => !e.2.isExpired t := by
    intro o key
    cases o with
    | none => rfl
    | some i => cases hi : i.isExpired t <;> simp [Option.filter, hi]
  have hmany : ∀ {κ : Type} (table : List (κ × Indicator)) (p : κ × Indicator → Bool) (tag : κ → IndicatorKey),
      ((table.filter fun e => !e.2.isExpired t).filter p).map (fun e => (tag e.1, e.2)) =
        ((table.filter p).map fun e => (tag e.1, e.2)).filter fun e => !e.2.isExpired t := by
    intro κ table p tag
    simp [List.filter_map, Function.comp_def, Bool.and_comm]
  simp only [applying, cleanup, List.filter_append, ← hone, ← hmany]
  rw [Assoc.lookup_filter h.ips fun i => !i.isExpired t,
    Assoc.lookup_filter h.emailDomains fun i => !i.isExpired t,
    Assoc.lookup_filter h.credentialDigests fun i => !i.isExpired t]

/-- Dropping what has expired changes no answer from then on. -/
lemma lookup_cleanup (h : f.KeysDistinct) (a : Attempt) {t : Instant} (ht : t ≤ now) :
    (f.cleanup t).lookup a now = f.lookup a now := by
  have hfound : ((f.cleanup t).lookup a now).found = (f.lookup a now).found := by
    rw [found_lookup, found_lookup, applying_cleanup h, List.filter_filter]
    congr 2
    funext e
    exact Indicator.live_and_live ht e.2
  exact congrArg (FeedVerdict.mk · (f.isTorExit a.clientAddress)) hfound

end Lookup

/-- The answers of the database after any history of additions, files and cleanups, asked at an instant that is
not before any cleanup. -/
theorem lookup_of_history (s : ThreatSettings) (steps : List FeedStep) (a : Attempt) (now : Instant)
    (h : ∀ t, .cleanup t ∈ steps → t ≤ now) :
    let f := (initial s).run steps
    let known := builtin ++ steps.flatMap FeedStep.indicators
    (∃ found : List (IndicatorKey × Indicator),
      (f.lookup a now).found = found.map Prod.snd ∧ (found.map Prod.fst).Nodup ∧
      ∀ key i, (key, i) ∈ found ↔
        lastUnder known key = some i ∧ i.isExpired now = false ∧ key.Applies a) ∧
    (∀ i, (f.add? i = none ↔ i.key? = none) ∧ (f.add? i = none → f.step (.add i) = f)) ∧
    (∀ text, (f.load? text = none ↔ readAll? text = none) ∧ (f.load? text = none → f.step (.load text) = f)) ∧
    (∀ text is, readAll? text = some is →
      f.load? text = some (f.run (is.map .add), is.countP fun i => i.key?.isSome)) ∧
    ∀ t ≤ now, (f.cleanup t).lookup a now = f.lookup a now := by
  intro f known
  have hf : f.Reflects known now := (Reflects.initial s now).run h
  refine ⟨⟨(f.applying a).filter fun e => !e.2.isExpired now, found_lookup f a now, ?_, fun key i => ?_⟩, fun i => ?_,
    fun text => ?_, fun text is his => ?_, fun t ht => lookup_cleanup hf.keysDistinct a ht⟩
  · exact (nodup_applying hf.keysDistinct a).sublist (List.filter_sublist.map Prod.fst)
  · have hfind := congrArg (i ∈ ·) (hf.find? key)
    simp only [Option.mem_def, Option.filter_eq_some_iff, Bool.not_eq_true', eq_iff_iff] at hfind
    rw [List.mem_filter, mem_applying hf.keysDistinct, ← and_assoc, ← hfind]
    simp [and_right_comm]
  · rw [add?_eq, Option.map_eq_none_iff]
    exact ⟨Iff.rfl, fun hkey => by rw [step, add?_eq, hkey]; rfl⟩
  · rw [load?_eq, Option.map_eq_none_iff]
    exact ⟨Iff.rfl, fun htext => by rw [step, load?_eq, htext]; rfl⟩
  · rw [load?_eq, his, Option.map_some, addAll_eq]

/-- A block with other bits set, in blanks, found after a cleanup. -/
theorem lookup_of_history_block :
    let block : Indicator :=
      { kind := .cidr, value := " 10.1.2.3/8 ", severity := .malicious, expiresAt := some ⟨100, 0⟩ }
    let steps : List FeedStep := [.add block, .cleanup ⟨60, 0⟩]
    let a : Attempt :=
      { email := "ann@example.com", credentialDigest := "", clientAddress := .v4 0x0a090909, userAgent := "curl",
        timestamp := ⟨70, 0⟩, requestId := "r" }
    block ∈ (((initial {}).run steps).lookup a ⟨70, 0⟩).found := by
  intro block steps a
  have hsteps : ∀ t, .cleanup t ∈ steps → t ≤ (⟨70, 0⟩ : Instant) := by
    simp only [steps, List.mem_cons, List.not_mem_nil, reduceCtorEq, FeedStep.cleanup.injEq, or_false, false_or]
    rintro t rfl
    decide
  have hkey : block.key? = some (.cidr ⟨.v4 0x0a000000, 8⟩) := by decide
  have hlast : lastUnder (builtin ++ [block]) (.cidr ⟨.v4 0x0a000000, 8⟩) = some block := by
    rw [lastUnder_append, hkey]
    exact Function.update_self ..
  obtain ⟨⟨found, hfound, -, hmem⟩, -⟩ := lookup_of_history {} steps a ⟨70, 0⟩ hsteps
  rw [hfound]
  refine List.mem_map.mpr ⟨(.cidr ⟨.v4 0x0a000000, 8⟩, block), (hmem _ _).mpr ⟨hlast, by decide, ?_⟩, rfl⟩
  exact (Block.contains_iff ⟨.v4 0x0a000000, 8⟩ a.clientAddress).mp (by decide)

end Feed

end LoginRisk
