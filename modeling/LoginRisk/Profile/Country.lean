import LoginRisk.Profile.Basic
import LoginRisk.Text.Case

/-!
The countries that a profile knows.
-/

namespace LoginRisk.Profile

/-- Whether a country is known, the case of ASCII letters apart. -/
def knowsCountry (p : Profile) (country : String) : Bool :=
  p.knownCountries.any fun c => Text.eqIgnoringAsciiCase c country

end LoginRisk.Profile
