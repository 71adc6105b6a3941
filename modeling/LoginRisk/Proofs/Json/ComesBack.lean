import LoginRisk.Json.Decode
import LoginRisk.Proofs.Assoc
import LoginRisk.Proofs.Json.Reread
import Mathlib

/-!
What is decoded from the text of a value that stands inside another text.
-/

namespace LoginRisk

namespace Number

open Float.Model (Format UnpackedFloat)

def Binary.IsSpecial (b : Binary) : Prop := b = .nan ∨ ∃ negative, b = .infinite negative

lemma isSpecial_decode {f : BinaryFormat} {bits : ℕ}
    (h : bits / twoTo f.digits % twoTo f.exponentBits = twoTo f.exponentBits - 1) : (f.decode bits).IsSpecial := by
  unfold BinaryFormat.decode
  dsimp only
  rw [if_pos h]
  split
  · exact .inr ⟨_, rfl⟩
  · exact .inl rfl

lemma exponent_of_not_isFinite {spec : Format} {b : BitVec spec.numBits}
    (h : (UnpackedFloat.unpack spec b).isFinite = false) :
    b.toNat / 2 ^ spec.mantissaBitsWithoutImplicit % 2 ^ spec.exponentBits = (-BitVec.ofNat spec.exponentBits 1).toNat := by
  have hset : UnpackedFloat.unpackExponent b = -BitVec.ofNat spec.exponentBits 1 := by
    by_contra hne
    unfold UnpackedFloat.unpack at h
    dsimp only at h
    rw [if_neg hne] at h
    split at h
    · split at h <;> cases h
    · cases h
  have hwidth : spec.mantissaBitsWithoutImplicit + spec.exponentBits - 1 - spec.mantissaBitsWithoutImplicit + 1 =
      spec.exponentBits := by
    have hpos := spec.he
    omega
  rw [← hset, UnpackedFloat.unpackExponent, BitVec.toNat_cast, BitVec.extractLsb, BitVec.extractLsb'_toNat,
    Nat.shiftRight_eq_div_pow, hwidth]

lemma isSpecial_ofFloat {x : Float} (h : x.isFinite = false) : (ofFloat x).IsSpecial :=
  isSpecial_decode (exponent_of_not_isFinite h)

lemma isSpecial_ofFloat32 {x : Float32} (h : x.isFinite = false) : (ofFloat32 x).IsSpecial :=
  isSpecial_decode (exponent_of_not_isFinite h)

end Number

namespace Json

section Floats

lemma floatText_of_not_isFinite {x : Float} (h : x.isFinite = false) : floatText x = "null" := by
  obtain hnan | ⟨negative, hinfinite⟩ := Number.isSpecial_ofFloat h
  · rw [floatText, hnan]
  · rw [floatText, hinfinite]

lemma floatText_widen_of_not_isFinite {x : Float32} (h : x.isFinite = false) :
    floatText (Number.widen x) = "null" := by
  refine floatText_of_not_isFinite ?_
  unfold Number.widen
  obtain hnan | ⟨negative, hinfinite⟩ := Number.isSpecial_ofFloat32 h
  · rw [hnan]
    decide +kernel
  · rw [hinfinite]
    cases negative <;> decide +kernel

end Floats

variable {α : Type} {depth : ℕ}

/-- What is decoded from the text of a value on its own. -/
def reread (decode : Decoder α) (j : Json) : Option α := do
  let j' ← (read j.compact).toOption
  (decode j').toOption

/-- What is decoded from the text of a value inside another, nothing where it is refused. -/
def ComesBack (depth : ℕ) (decode : Decoder α) (j : Json) (back : Option α) : Prop :=
  ∃ j', Rereads depth j j' ∧ (decode j').toOption = back

lemma ComesBack.reads {decode : Decoder α} {j : Json} {back : Option α} (h : ComesBack depth decode j back) :
    ∃ j', Rereads depth j j' :=
  h.imp fun _ hback => hback.1

lemma comesBack_string (s : String) : ComesBack depth Decode.string (.string s) (some s) :=
  ⟨_, rereads_string s, rfl⟩

lemma comesBack_bool (b : Bool) : ComesBack depth Decode.bool (.bool b) (some b) :=
  ⟨_, rereads_bool b, rfl⟩

lemma comesBack_nat {n : ℕ} (h : n < 2 ^ 32) : ComesBack depth (Decode.nat 32) (.nat n) (some n) := by
  refine ⟨_, rereads_nat (h.trans (by decide)), ?_⟩
  have hrange : (decide ((0 : ℤ) ≤ n) && decide ((n : ℤ) ≤ Number.twoTo 32 - 1)) = true := by
    change n < Number.twoTo 32 at h
    simp only [Bool.and_eq_true, decide_eq_true_eq]
    omega
  change ((Decode.int 0 (Number.twoTo 32 - 1) (.number (.whole n))).map Int.toNat).toOption = _
  rw [Decode.int, if_pos hrange]
  rfl

lemma comesBack_instant {t : Instant} (h : Instant.read? t.text = some t) :
    ComesBack depth Decode.instant (.string t.text) (some t) := by
  refine ⟨_, rereads_string t.text, ?_⟩
  rw [Decode.instant, h]
  rfl

/-- A float that is decoded from its text alone is decoded from it in every place. -/
lemma comesBack_of_reread {x : Float} {decode : Decoder α} {a : α} (h : (float x).reread decode = some a) :
    ComesBack depth decode (.float x) (some a) := by
  obtain ⟨j', hread, hdecode⟩ := Option.bind_eq_some_iff.mp h
  have hread : read (float x).compact = .ok j' := by
    cases hfound : read (float x).compact with
    | error e =>
      rw [hfound] at hread
      cases hread
    | ok found =>
      rw [hfound] at hread
      cases hread
      rfl
  refine ⟨j', ?_, hdecode⟩
  obtain hnull | hnumeral := floatText_cases x
  · have hchars : (float x).chars = "null".toList := congrArg String.toList hnull
    have hsame := (read_compact (rereads_null hchars)).symm.trans hread
    cases hsame
    exact rereads_null hchars
  · exact rereads_number hnumeral hread

lemma comesBack_null {x : Float} {decode : Decoder α} (h : floatText x = "null")
    (hdecode : (decode .null).toOption = none) : ComesBack depth decode (.float x) none :=
  ⟨.null, rereads_null (congrArg String.toList h), hdecode⟩

lemma comesBack_float {x : Float} (h : x.isFinite = true → (float x).reread Decode.float = some x) :
    ComesBack depth Decode.float (.float x) (Option.guard Float.isFinite x) := by
  unfold Option.guard
  cases hfinite : x.isFinite with
  | true => exact comesBack_of_reread (h hfinite)
  | false => exact comesBack_null (floatText_of_not_isFinite hfinite) rfl

lemma comesBack_float32 {x : Float32}
    (h : x.isFinite = true → (float (Number.widen x)).reread Decode.float32 = some x) :
    ComesBack depth Decode.float32 (.float (Number.widen x)) (Option.guard Float32.isFinite x) := by
  unfold Option.guard
  cases hfinite : x.isFinite with
  | true => exact comesBack_of_reread (h hfinite)
  | false => exact comesBack_null (floatText_widen_of_not_isFinite hfinite) rfl

lemma comesBack_list {β : Type} {write : β → Json} {decode : Decoder α} {back : β → Option α} {items : List β}
    (h : ∀ b ∈ items, ComesBack depth decode (write b) (back b)) :
    ComesBack (depth + 1) (Decode.list decode) (.array (items.map write)) (items.mapM back) := by
  obtain ⟨items', hreads, hdecode⟩ : ∃ items', List.Forall₂ (Rereads depth) (items.map write) items' ∧
      (items'.mapM decode).toOption = items.mapM back := by
    induction items with
    | nil => exact ⟨[], .nil, rfl⟩
    | cons b items ih =>
      rw [List.forall_mem_cons] at h
      obtain ⟨j', hfirst, hback⟩ := h.1
      obtain ⟨items', hreads, hdecode⟩ := ih h.2
      refine ⟨j' :: items', .cons hfirst hreads, ?_⟩
      simp only [List.mapM_cons, toOption_bind, hback, hdecode]
      rfl
  exact ⟨.array items', rereads_array hreads, hdecode⟩

lemma mapM_guard {β : Type} (ok : β → Bool) (items : List β) :
    items.mapM (Option.guard ok) = Option.guard (fun items => items.all ok) items := by
  induction items with
  | nil => rfl
  | cons b items ih =>
    rw [List.mapM_cons, ih]
    cases hfirst : ok b <;> cases hrest : items.all ok <;> simp [Option.guard, hfirst, hrest]

lemma comesBack_guard {write : α → Json} {decode : Decoder α} (ok : α → Bool) {items : List α}
    (h : ∀ a ∈ items, ComesBack depth decode (write a) (Option.guard ok a)) :
    ComesBack (depth + 1) (Decode.list decode) (.array (items.map write))
      (Option.guard (fun items => items.all ok) items) :=
  mapM_guard ok items ▸ comesBack_list h

lemma comesBack_all {write : α → Json} {decode : Decoder α} {items : List α}
    (h : ∀ a ∈ items, ComesBack depth decode (write a) (some a)) :
    ComesBack (depth + 1) (Decode.list decode) (.array (items.map write)) (some items) := by
  have hguard := comesBack_guard (fun _ => true) h
  simpa [Option.guard] using hguard

lemma fields_of_object (names : List String) (members : List (String × Json))
    (hnames : ∀ m ∈ members, names.contains m.1 = true) (hnodup : (members.map Prod.fst).Nodup) :
    Fields.of names (.object members) = .ok ⟨false, members⟩ := by
  have hgiven : (members.filter fun m => names.contains m.1) = members := List.filter_eq_self.mpr hnames
  have honce : members.find? (fun m => 1 < (members.map Prod.fst).count m.1) = none := by
    rw [List.find?_eq_none]
    intro m hm
    have hcount := List.nodup_iff_count_le_one.mp hnodup m.1
    simpa using hcount
  simp only [Fields.of, hgiven, honce]

lemma exists_fields {names : List String} {members : List (String × Json)}
    (hreads : ∀ m ∈ members, ∃ j', Rereads depth m.2 j') (hnames : ∀ m ∈ members, names.contains m.1 = true)
    (hnodup : (members.map Prod.fst).Nodup) :
    ∃ j' f, Rereads (depth + 1) (.object members) j' ∧ Fields.of names j' = .ok f ∧
      ∀ {α : Type} (name : String) {decode : Decoder α} {j : Json} {back : Option α}, members.lookup name = some j →
        ComesBack depth decode j back → (f.required name decode).toOption = back := by
  let found (j : Json) : Json := Classical.epsilon (Rereads depth j)
  have hfound : ∀ m ∈ members, Rereads depth m.2 (found m.2) := fun m hm => Classical.epsilon_spec (hreads m hm)
  let members' := members.map fun m => (m.1, found m.2)
  have hsame : members'.map Prod.fst = members.map Prod.fst := by simp [members']
  have hfields : Fields.of names (.object members') = .ok ⟨false, members'⟩ := by
    refine fields_of_object names members' (fun m hm => ?_) (hsame ▸ hnodup)
    obtain ⟨written, hwritten, rfl⟩ := List.mem_map.mp hm
    exact hnames written hwritten
  refine ⟨.object members', _, rereads_object ?_, hfields, fun name decode j back hj hback => ?_⟩
  · rw [List.forall₂_map_right_iff, List.forall₂_same]
    exact fun m hm => ⟨rfl, hfound m hm⟩
  · obtain ⟨j', hreads', hdecode⟩ := hback
    have hlookup : members'.lookup name = some (found j) := by rw [Assoc.lookup_map found, hj, Option.map_some]
    rw [Fields.required, hlookup, (hfound _ (Assoc.mem_of_lookup hj)).unique hreads']
    exact hdecode

end Json

end LoginRisk
