import LoginRisk.Profile.Store
import LoginRisk.Proofs.Json.ComesBack

/-!
The row of a profile. It is read as the profile, field for field, unless a float in it is not finite; then it is
no row of a profile.
-/

namespace LoginRisk

open Json (ComesBack comesBack_string comesBack_bool comesBack_nat comesBack_instant comesBack_float
  comesBack_float32 comesBack_all comesBack_guard)
open Json.Decode (bool string nat float float32 instant list)

variable {depth : ℕ}

lemma LoginOutcome.comesBack {o : LoginOutcome} (h : Instant.read? o.timestamp.text = some o.timestamp) :
    ComesBack (depth + 1) LoginOutcome.ofJson o.toJson (some o) := by
  have htime : ComesBack depth instant (.string o.timestamp.text) (some o.timestamp) := comesBack_instant h
  have hsuccess : ComesBack depth bool (.bool o.success) (some o.success) := comesBack_bool o.success
  have hip : ComesBack depth string (.string o.ip) (some o.ip) := comesBack_string o.ip
  obtain ⟨j', f, hreads, hf, hfield⟩ : ∃ j' f, Json.Rereads (depth + 1) o.toJson j' ∧
      Json.Fields.of ["timestamp", "success", "ip"] j' = .ok f ∧ _ :=
    Json.exists_fields (by simpa using ⟨htime.reads, hsuccess.reads, hip.reads⟩) (by simp) (by simp)
  refine ⟨j', hreads, ?_⟩
  rw [LoginOutcome.ofJson, hf]
  change ((f.required "timestamp" instant) >>= _).toOption = _
  simp only [toOption_bind, hfield "timestamp" rfl htime, hfield "success" rfl hsuccess, hfield "ip" rfl hip]
  rfl

namespace Profile

def instants (p : Profile) : List Instant :=
  p.recentLogins ++ p.outcomes.map (·.timestamp) ++ [p.createdAt, p.updatedAt]

def isFinite (p : Profile) : Bool :=
  p.calibrationBias.isFinite && p.typicalEmbeddings.all fun v => v.all Float32.isFinite

/-- The instants and the finite floats are what is decoded from their texts. -/
structure Legible (p : Profile) : Prop where
  instants : ∀ t ∈ p.instants, Instant.read? t.text = some t
  bias : p.calibrationBias.isFinite = true →
    (Json.float p.calibrationBias).reread float = some p.calibrationBias
  embeddings : ∀ v ∈ p.typicalEmbeddings, ∀ x ∈ v, x.isFinite = true →
    (Json.float (Number.widen x)).reread float32 = some x

lemma comesBack_count (n : UInt32) : ComesBack depth count (.nat n.toNat) (some n) := by
  obtain ⟨j', hreads, hn⟩ : ComesBack depth (nat 32) (.nat n.toNat) (some n.toNat) := comesBack_nat n.toNat_lt
  refine ⟨j', hreads, ?_⟩
  rw [count, toOption_map, hn, Option.map_some, UInt32.ofNat_toNat]

lemma comesBack_histogram (hours : Vector UInt32 24) :
    ComesBack (depth + 1) histogram (.array (hours.toList.map fun n => .nat n.toNat)) (some hours) := by
  have hall : ∀ n ∈ hours.toList, ComesBack depth count (.nat n.toNat) (some n) := fun n _ => comesBack_count n
  obtain ⟨j', hreads, hcounts⟩ := comesBack_all hall
  have hsize : hours.toList.toArray.size = 24 := by simp
  refine ⟨j', hreads, ?_⟩
  rw [histogram, toOption_bind, hcounts, Option.bind_some, dif_pos hsize]
  exact congrArg some (Vector.toArray_inj.mp Vector.toArray_toList)

variable {p : Profile}

lemma Legible.comesBack_embeddings (h : p.Legible) :
    ComesBack (depth + 2) (list (list float32))
      (.array (p.typicalEmbeddings.map fun v => .array (v.map fun x => .float (Number.widen x))))
      (Option.guard (fun vs => vs.all fun v => v.all Float32.isFinite) p.typicalEmbeddings) :=
  comesBack_guard _ fun v hv => comesBack_guard _ fun x hx => comesBack_float32 (h.embeddings v hv x hx)

lemma Legible.comesBack (h : p.Legible) :
    ComesBack (depth + 3) Profile.ofJson p.toJson (Option.guard Profile.isFinite p) := by
  have hstrings (known : List String) : ComesBack (depth + 2) (list string) (.strings known) (some known) :=
    comesBack_all fun s _ => comesBack_string s
  have hcount (n : UInt32) : ComesBack (depth + 2) count (.nat n.toNat) (some n) := comesBack_count n
  have hinstant {t : Instant} (ht : t ∈ p.instants) : ComesBack (depth + 2) instant (.string t.text) (some t) :=
    comesBack_instant (h.instants t ht)
  have huser : ComesBack (depth + 2) string (.string p.userId) (some p.userId) := comesBack_string p.userId
  have hhours : ComesBack (depth + 2) histogram (.array (p.hourHistogram.toList.map fun n => .nat n.toNat))
      (some p.hourHistogram) := comesBack_histogram p.hourHistogram
  have hlogins : ComesBack (depth + 2) (list instant) (.array (p.recentLogins.map fun t : Instant => .string t.text))
      (some p.recentLogins) :=
    comesBack_all fun t ht => comesBack_instant (h.instants t (by simp [Profile.instants, ht]))
  have houtcomes : ComesBack (depth + 2) (list LoginOutcome.ofJson) (.array (p.outcomes.map LoginOutcome.toJson))
      (some p.outcomes) :=
    comesBack_all fun o ho => LoginOutcome.comesBack (h.instants o.timestamp (by
      simp only [Profile.instants, List.mem_append]
      exact .inl (.inr (List.mem_map_of_mem ho))))
  have hvectors := @Legible.comesBack_embeddings depth p h
  have hbias : ComesBack (depth + 2) float (.float p.calibrationBias)
      (Option.guard Float.isFinite p.calibrationBias) := comesBack_float h.bias
  have hcreated : p.createdAt ∈ p.instants := by simp [Profile.instants]
  have hupdated : p.updatedAt ∈ p.instants := by simp [Profile.instants]
  obtain ⟨j', f, hreads, hf, hfield⟩ : ∃ j' f, Json.Rereads (depth + 3) p.toJson j' ∧
      Json.Fields.of fieldNames j' = .ok f ∧ _ := Json.exists_fields
    (by
      simp only [List.forall_mem_cons]
      exact ⟨huser.reads, hhours.reads, (hstrings _).reads, (hstrings _).reads, (hstrings _).reads, (hstrings _).reads,
        hlogins.reads, houtcomes.reads, hvectors.reads, hbias.reads, (hcount _).reads, (hcount _).reads,
        (hcount _).reads, (hinstant hcreated).reads, (hinstant hupdated).reads, by simp⟩)
    (by simp [fieldNames]) (by simp)
  refine ⟨j', hreads, ?_⟩
  rw [Profile.ofJson, hf]
  change ((f.required "user_id" string) >>= _).toOption = _
  simp only [toOption_bind, hfield "user_id" rfl huser, hfield "hour_histogram" rfl hhours,
    hfield "known_countries" rfl (hstrings _), hfield "known_locations" rfl (hstrings _),
    hfield "known_devices" rfl (hstrings _), hfield "known_user_agents" rfl (hstrings _),
    hfield "recent_logins" rfl hlogins, hfield "outcomes" rfl houtcomes, hfield "typical_embeddings" rfl hvectors,
    hfield "calibration_bias" rfl hbias, hfield "false_positives" rfl (hcount _),
    hfield "false_negatives" rfl (hcount _), hfield "confirmed_decisions" rfl (hcount _),
    hfield "created_at" rfl (hinstant hcreated), hfield "updated_at" rfl (hinstant hupdated), Option.bind_some]
  cases hvs : p.typicalEmbeddings.all fun v => v.all Float32.isFinite with
  | false => simp [Option.guard, Profile.isFinite, hvs]
  | true =>
    cases hx : p.calibrationBias.isFinite with
    | false => simp [Option.guard, Profile.isFinite, hx]
    | true =>
      have hfinite : p.isFinite = true := by simp [Profile.isFinite, hvs, hx]
      simp only [Option.guard, hvs, hx, hfinite, if_true, Option.bind_some]
      rfl

/-- The row of a profile is that profile again, unless one of its floats is not finite. -/
theorem Legible.readRow (h : p.Legible) (userId : String) :
    StoreContents.readRow userId p.rowText = if p.isFinite then .ok p else .error (.corrupt userId) := by
  obtain ⟨j', hreads, hdecode⟩ : ComesBack Json.deepest Profile.ofJson p.toJson (Option.guard Profile.isFinite p) :=
    h.comesBack
  have hread : Json.read p.rowText = .ok j' := Json.read_compact hreads
  unfold StoreContents.readRow
  rw [hread]
  dsimp only
  cases hfound : Profile.ofJson j' with
  | ok found =>
    rw [hfound] at hdecode
    obtain ⟨hsame, hfinite⟩ := Option.guard_eq_some_iff.mp hdecode.symm
    rw [if_pos hfinite, hsame]
    rfl
  | error e =>
    rw [hfound] at hdecode
    have hnot : p.isFinite = false := by
      change none = Option.guard Profile.isFinite p at hdecode
      simpa [Option.guard] using hdecode
    rw [hnot]
    rfl

end Profile

end LoginRisk
