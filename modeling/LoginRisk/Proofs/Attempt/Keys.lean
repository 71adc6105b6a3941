import LoginRisk.Attempt.Basic
import LoginRisk.Proofs.Text.Digits
import Mathlib.Tactic.MkIffOfInductiveProp

/-!
Which devices and places share a key. A fingerprint may read like the key of a user agent, and the parts of a place
may hold the separator or be the placeholder themselves. Apart from such imitations a key stands for one device or
for one place.
-/

namespace LoginRisk

namespace Attempt

@[mk_iff]
structure SameDevice (a b : Attempt) : Prop where
  fingerprint : nonEmpty a.deviceFingerprint = nonEmpty b.deviceFingerprint
  userAgent : nonEmpty a.deviceFingerprint = none → a.userAgent = b.userAgent

/-- The fingerprint reads like the key of another attempt, which has none. -/
@[mk_iff]
structure Imitates (a b : Attempt) : Prop where
  fingerprint : nonEmpty a.deviceFingerprint = some ("ua:" ++ b.userAgent)
  without : nonEmpty b.deviceFingerprint = none

lemma deviceKey_of_some {a : Attempt} {fingerprint : String} (h : nonEmpty a.deviceFingerprint = some fingerprint) :
    a.deviceKey = fingerprint := by
  rw [deviceKey, h, Option.getD_some]

lemma deviceKey_of_none {a : Attempt} (h : nonEmpty a.deviceFingerprint = none) :
    a.deviceKey = "ua:" ++ a.userAgent := by
  rw [deviceKey, h, Option.getD_none]

theorem deviceKey_eq_iff {a b : Attempt} :
    a.deviceKey = b.deviceKey ↔ a.SameDevice b ∨ a.Imitates b ∨ b.Imitates a := by
  rw [sameDevice_iff, imitates_iff, imitates_iff]
  cases ha : nonEmpty a.deviceFingerprint with
  | some fa =>
    rw [deviceKey_of_some ha]
    cases hb : nonEmpty b.deviceFingerprint with
    | some fb => simp [deviceKey_of_some hb]
    | none => simp [deviceKey_of_none hb]
  | none =>
    rw [deviceKey_of_none ha]
    cases hb : nonEmpty b.deviceFingerprint with
    | some fb => simp [deviceKey_of_some hb, eq_comm]
    | none => simp [deviceKey_of_none hb]

end Attempt

namespace Place

open Text (toUpper)

/-- The same city of the same region, either of which may be unknown, in a country of the same upper case. -/
structure SamePlace (p q : Place) : Prop where
  country : toUpper p.country = toUpper q.country
  region : p.region = q.region
  city : p.city = q.city

/-- The same parts are known, and country and region hold equally many separators. -/
structure SameShape (p q : Place) : Prop where
  region : p.region.isSome = q.region.isSome
  city : p.city.isSome = q.city.isSome
  countrySeparators : (toUpper p.country).toList.count '/' = (toUpper q.country).toList.count '/'
  regionSeparators : (p.region.getD "-").toList.count '/' = (q.region.getD "-").toList.count '/'

lemma toList_key (p : Place) : p.key.toList =
    (toUpper p.country).toList ++ '/' :: ((p.region.getD "-").toList ++ '/' :: (p.city.getD "-").toList) := by
  simp [key]

lemma eq_of_getD_eq {x y : Option String} (hknown : x.isSome = y.isSome) (h : x.getD "-" = y.getD "-") : x = y := by
  cases x <;> cases y <;> simp_all

theorem samePlace_iff {p q : Place} : p.SamePlace q ↔ p.key = q.key ∧ p.SameShape q := by
  constructor
  · rintro ⟨hcountry, hregion, hcity⟩
    exact ⟨by rw [key, key, hcountry, hregion, hcity], by rw [hregion], by rw [hcity], by rw [hcountry], by rw [hregion]⟩
  · rintro ⟨hkey, hshape⟩
    have hchars := congrArg String.toList hkey
    rw [toList_key, toList_key] at hchars
    obtain ⟨hcountry, hrest⟩ := Text.append_cons_inj_of_count hshape.countrySeparators hchars
    obtain ⟨hregion, hcity⟩ := Text.append_cons_inj_of_count hshape.regionSeparators hrest
    exact ⟨String.toList_inj.mp hcountry, eq_of_getD_eq hshape.region (String.toList_inj.mp hregion),
      eq_of_getD_eq hshape.city (String.toList_inj.mp hcity)⟩

end Place

end LoginRisk
