import LoginRisk.Credential.Pattern
import LoginRisk.Findings.Basic

/-!
The credential stage: features of the address and of the credential, and of the two together.
-/

namespace LoginRisk.Credential

def modelVersion : String := "heuristic-1.0"

def features (field : Field) (text : String) (more : List Pattern) : FieldFeatures :=
  let cs := text.toList
  let ts := tokens cs
  let found := patterns field cs (entropy text)
  { tokenCount := ts.length
    uniqueTokenRatio := uniqueTokenRatio ts
    entropy := entropy text
    language := language cs
    suspicious := (found ++ more).any fun p => !p.isEncoding
    patterns := (found ++ more).map Pattern.name }

def analyze (email credential : String) : CredentialFindings :=
  let ofEmail := features .email email []
  let ofCredential := features .credential credential (crossPatterns email credential)
  { email := ofEmail
    credential := ofCredential
    similarity := similarity email credential
    languageConsistency := ofEmail.language = ofCredential.language ||
      ofEmail.language = "unknown" || ofCredential.language = "unknown"
    processingMs := 0.0
    usedFallback := false
    modelVersion := modelVersion }

end LoginRisk.Credential
