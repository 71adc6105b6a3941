import LoginRisk.Proofs.Profile.RowText

/-!
The answers of a store in memory and of a table over any sequence of calls. Both give what has been saved last for a
user and count the users, but a table fails to load a profile with a float that is not finite.
-/

namespace LoginRisk

inductive StoreCall where
  | save (p : Profile)
  | load (userId : String)
  | count

inductive StoreAnswer where
  | saved
  | loaded (found : Option Profile)
  | counted (n : ℕ)
  | failed (e : StoreError)

namespace ProfileStore

def answer (s : ProfileStore) : StoreCall → ProfileStore × StoreAnswer
  | .save p =>
    match s.save p with
    | .ok saved => (saved, .saved)
    | .error e => (s, .failed e)
  | .load userId =>
    match s.load userId with
    | .ok found => (s, .loaded found)
    | .error e => (s, .failed e)
  | .count =>
    match s.count with
    | .ok n => (s, .counted n)
    | .error e => (s, .failed e)

def after (s : ProfileStore) (calls : List StoreCall) : ProfileStore := calls.foldl (fun s c => (s.answer c).1) s

def answers (s : ProfileStore) : List StoreCall → List StoreAnswer
  | [] => []
  | c :: rest => (s.answer c).2 :: (s.answer c).1.answers rest

lemma after_concat (s : ProfileStore) (calls : List StoreCall) (c : StoreCall) :
    s.after (calls ++ [c]) = ((s.after calls).answer c).1 := by
  rw [after, List.foldl_append]
  rfl

lemma answer_load_fst (s : ProfileStore) (userId : String) : (s.answer (.load userId)).1 = s := by
  unfold answer
  dsimp only
  split <;> rfl

lemma getElem?_answers (s : ProfileStore) (calls : List StoreCall) (i : ℕ) :
    (s.answers calls)[i]? = calls[i]?.map fun c => ((s.after (calls.take i)).answer c).2 := by
  induction calls generalizing s i with
  | nil => rfl
  | cons c rest ih =>
    cases i with
    | zero => rfl
    | succ i =>
      rw [answers, List.getElem?_cons_succ, List.getElem?_cons_succ, List.take_succ_cons, ih]
      rfl

end ProfileStore

namespace Profile

def lastOf (ps : List Profile) (userId : String) : Option Profile := (ps.filter fun p => p.userId = userId).getLast?

def usersOf (ps : List Profile) : List String := (ps.map (·.userId)).dedup

lemma mem_of_lastOf {ps : List Profile} {userId : String} {p : Profile} (h : lastOf ps userId = some p) : p ∈ ps :=
  List.mem_of_mem_filter (List.mem_of_getLast? h)

lemma lastOf_concat (ps : List Profile) (p : Profile) (userId : String) :
    lastOf (ps ++ [p]) userId = if p.userId = userId then some p else lastOf ps userId := by
  rw [lastOf, List.filter_append]
  split
  · rename_i huser
    simp [huser]
  · rename_i huser
    simp [huser, lastOf]

end Profile

open Profile (lastOf usersOf)

namespace StoreCall

def saved? : StoreCall → Option Profile
  | .save p => some p
  | .load _ => none
  | .count => none

def saves (calls : List StoreCall) : List Profile := calls.filterMap saved?

lemma saves_concat (calls : List StoreCall) (c : StoreCall) :
    saves (calls ++ [c]) = saves calls ++ c.saved?.toList := by
  rw [saves, List.filterMap_append]
  cases c <;> rfl

lemma mem_saves_of_take {calls : List StoreCall} {i : ℕ} {p : Profile} (h : p ∈ saves (calls.take i)) :
    p ∈ saves calls := by
  obtain ⟨c, hc, hp⟩ := List.mem_filterMap.mp h
  exact List.mem_filterMap.mpr ⟨c, List.mem_of_mem_take hc, hp⟩

/-- The answer that a call is due after others. -/
def due (before : List StoreCall) : StoreCall → StoreAnswer
  | .save _ => .saved
  | .load userId => .loaded (lastOf (saves before) userId)
  | .count => .counted (usersOf (saves before)).length

/-- What a table answers: a profile with a float that is not finite cannot be loaded. -/
def dueOfTable (before : List StoreCall) : StoreCall → StoreAnswer
  | .load userId =>
    if (lastOf (saves before) userId).all Profile.isFinite then due before (.load userId)
    else .failed (.corrupt userId)
  | c => due before c

end StoreCall

namespace ProfileStore

open StoreCall (saves due dueOfTable)

structure Files (entries : List (String × Profile)) (ps : List Profile) : Prop where
  lookup : ∀ userId, entries.lookup userId = lastOf ps userId
  nodup : (entries.map Prod.fst).Nodup
  users : ∀ userId, userId ∈ entries.map Prod.fst ↔ ∃ p ∈ ps, p.userId = userId

def rowsOf (entries : List (String × Profile)) : List (String × String) := entries.map fun e => (e.1, e.2.rowText)

lemma rowsOf_put (p : Profile) (entries : List (String × Profile)) :
    rowsOf (Assoc.put p.userId p entries) = Assoc.put p.userId p.rowText (rowsOf entries) :=
  Assoc.map_put Profile.rowText p.userId p entries

section Files

variable {entries : List (String × Profile)} {ps : List Profile}

lemma Files.put (h : Files entries ps) (p : Profile) : Files (Assoc.put p.userId p entries) (ps ++ [p]) where
  lookup userId := by
    rw [Profile.lastOf_concat]
    split
    · rename_i huser
      rw [← huser, Assoc.lookup_put]
    · rename_i huser
      rw [Assoc.lookup_put_of_ne (Ne.symm huser), h.lookup]
  nodup := Assoc.nodup_put h.nodup
  users userId := by
    rw [Assoc.mem_keys_put, h.users]
    simp [or_comm, eq_comm]

lemma Files.length (h : Files entries ps) : entries.length = (usersOf ps).length := by
  have hperm : (entries.map Prod.fst).Perm (usersOf ps) := by
    refine (List.perm_ext_iff_of_nodup h.nodup (List.nodup_dedup _)).mpr fun userId => ?_
    rw [h.users, List.mem_dedup, List.mem_map]
  rw [← hperm.length_eq, List.length_map]

lemma Files.answer_memory {before : List StoreCall} (h : Files entries (saves before)) (c : StoreCall) :
    ((⟨.memory entries, {}⟩ : ProfileStore).answer c).2 = due before c := by
  cases c with
  | save p => rfl
  | load userId => exact congrArg StoreAnswer.loaded (h.lookup userId)
  | count => exact congrArg StoreAnswer.counted h.length

lemma Files.answer_table {before : List StoreCall} (h : Files entries (saves before))
    (hlegible : ∀ p ∈ saves before, p.Legible) (c : StoreCall) :
    ((⟨.table (rowsOf entries), {}⟩ : ProfileStore).answer c).2 = dueOfTable before c := by
  cases c with
  | save p => rfl
  | count =>
    have hlength : (rowsOf entries).length = (usersOf (saves before)).length := by
      rw [rowsOf, List.length_map, h.length]
    exact congrArg StoreAnswer.counted hlength
  | load userId =>
    have hlookup : (rowsOf entries).lookup userId = (lastOf (saves before) userId).map Profile.rowText := by
      rw [rowsOf, Assoc.lookup_map Profile.rowText, h.lookup]
    cases hlast : lastOf (saves before) userId with
    | none =>
      rw [hlast] at hlookup
      simp [ProfileStore.answer, ProfileStore.load, StoreContents.load, hlookup, dueOfTable, due, hlast]
    | some p =>
      rw [hlast] at hlookup
      have hrow := (hlegible p (Profile.mem_of_lastOf hlast)).readRow userId
      cases hfinite : p.isFinite <;>
        simp [ProfileStore.answer, ProfileStore.load, StoreContents.load, hlookup, dueOfTable, due, hlast, hrow, hfinite,
          Except.map]

end Files

lemma exists_entries (calls : List StoreCall) : ∃ entries, Files entries (saves calls) ∧
    memory.after calls = ⟨.memory entries, {}⟩ ∧ table.after calls = ⟨.table (rowsOf entries), {}⟩ := by
  induction calls using List.reverseRecOn with
  | nil => exact ⟨[], ⟨fun _ => rfl, .nil, fun _ => by simp [saves]⟩, rfl, rfl⟩
  | append_singleton calls c ih =>
    obtain ⟨entries, hfiles, hmemory, htable⟩ := ih
    rw [after_concat, after_concat, hmemory, htable, StoreCall.saves_concat]
    cases c with
    | save p =>
      refine ⟨Assoc.put p.userId p entries, hfiles.put p, rfl, ?_⟩
      rw [rowsOf_put]
      rfl
    | load userId =>
      refine ⟨entries, ?_, answer_load_fst _ userId, answer_load_fst _ userId⟩
      rwa [StoreCall.saved?, Option.toList_none, List.append_nil]
    | count =>
      refine ⟨entries, ?_, rfl, rfl⟩
      rwa [StoreCall.saved?, Option.toList_none, List.append_nil]

/-- Over any calls a store in memory and a table answer alike, unless what was saved last for a user has a float that is
not finite: then the loads for that user fail at the table, and nothing else differs. -/
theorem table_agrees_with_memory {calls : List StoreCall} (hlegible : ∀ p ∈ saves calls, p.Legible) :
    (∀ i, (memory.answers calls)[i]? = calls[i]?.map (due (calls.take i))) ∧
    (∀ i, (table.answers calls)[i]? = calls[i]?.map (dueOfTable (calls.take i))) ∧
    ((∀ p ∈ saves calls, p.isFinite = true) → table.answers calls = memory.answers calls) ∧
    ∀ i, (table.answers calls)[i]? ≠ (memory.answers calls)[i]? ↔
      ∃ userId p, calls[i]? = some (.load userId) ∧ lastOf (saves (calls.take i)) userId = some p ∧
        p.isFinite = false := by
  have hmemory (i : ℕ) : (memory.answers calls)[i]? = calls[i]?.map (due (calls.take i)) := by
    obtain ⟨entries, hfiles, hstore, -⟩ := exists_entries (calls.take i)
    rw [getElem?_answers, hstore]
    exact congrArg (calls[i]?.map ·) (funext hfiles.answer_memory)
  have htable (i : ℕ) : (table.answers calls)[i]? = calls[i]?.map (dueOfTable (calls.take i)) := by
    obtain ⟨entries, hfiles, -, hstore⟩ := exists_entries (calls.take i)
    rw [getElem?_answers, hstore]
    exact congrArg (calls[i]?.map ·) (funext (hfiles.answer_table fun p hp => hlegible p (StoreCall.mem_saves_of_take hp)))
  have hdiffer (i : ℕ) : (table.answers calls)[i]? ≠ (memory.answers calls)[i]? ↔
      ∃ userId p, calls[i]? = some (.load userId) ∧ lastOf (saves (calls.take i)) userId = some p ∧
        p.isFinite = false := by
    rw [htable, hmemory]
    cases calls[i]? with
    | none => simp
    | some c =>
      cases c with
      | save p => simp [dueOfTable]
      | count => simp [dueOfTable]
      | load userId =>
        cases hlast : lastOf (saves (calls.take i)) userId with
        | none => simp [dueOfTable, hlast]
        | some p => cases hfinite : p.isFinite <;> simp [dueOfTable, due, hlast, hfinite]
  refine ⟨hmemory, htable, fun hfinite => List.ext_getElem? fun i => ?_, hdiffer⟩
  by_contra hne
  obtain ⟨userId, p, -, hlast, hnot⟩ := (hdiffer i).mp hne
  have hp := hfinite p (StoreCall.mem_saves_of_take (Profile.mem_of_lastOf hlast))
  rw [hp] at hnot
  cases hnot

def knownUser : Profile :=
  { Profile.new "alice" ⟨0, 0⟩ with
    knownCountries := ["DE"]
    recentLogins := [⟨86400, 500⟩]
    outcomes := [⟨⟨86400, 500⟩, true, "198.51.100.20"⟩]
    typicalEmbeddings := [[0.5, -1.0]]
    calibrationBias := 0.05
    falseNegatives := 1 }

def garbledUser : Profile := { knownUser with calibrationBias := 0.0 / 0.0 }

lemma knownUser_legible : knownUser.Legible where
  instants := by decide +kernel
  bias := by decide +kernel
  embeddings := by decide +kernel

lemma garbledUser_legible : garbledUser.Legible :=
  ⟨knownUser_legible.instants, by decide +kernel, knownUser_legible.embeddings⟩

/-- Loading fails while the profile is garbled, and works again once it has been saved anew. -/
theorem garbled_user_recovers :
    let calls := [.save knownUser, .load "alice", .save garbledUser, .load "alice", .load "bob", .count,
      .save knownUser, .load "alice"]
    (∀ p ∈ saves calls, p.Legible) ∧
      (table.answers calls)[3]? = some (.failed (.corrupt "alice")) ∧
      (memory.answers calls)[3]? = some (.loaded (some garbledUser)) ∧
      (table.answers calls)[5]? = some (.counted 1) ∧
      (table.answers calls)[7]? = some (.loaded (some knownUser)) := by
  intro calls
  have hlegible : ∀ p ∈ saves calls, p.Legible := by
    simp only [calls, saves, List.filterMap_cons, StoreCall.saved?, List.filterMap_nil, List.forall_mem_cons]
    exact ⟨knownUser_legible, garbledUser_legible, knownUser_legible, by simp⟩
  obtain ⟨hmemory, htable, -, -⟩ := table_agrees_with_memory hlegible
  have hfinite : knownUser.isFinite = true := by decide +kernel
  have hgarbled : garbledUser.isFinite = false := by decide +kernel
  have hsecond : lastOf (saves (calls.take 3)) "alice" = some garbledUser := rfl
  have hthird : lastOf (saves (calls.take 7)) "alice" = some knownUser := rfl
  refine ⟨hlegible, ?_, ?_, ?_, ?_⟩
  · rw [htable]
    change some (dueOfTable (calls.take 3) (.load "alice")) = _
    simp [dueOfTable, hsecond, hgarbled]
  · rw [hmemory]
    rfl
  · rw [htable]
    rfl
  · rw [htable]
    change some (dueOfTable (calls.take 7) (.load "alice")) = _
    simp [dueOfTable, due, hthird, hfinite]

end ProfileStore

end LoginRisk
