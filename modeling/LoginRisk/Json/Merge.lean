import LoginRisk.Json.Basic

/-!
Putting one JSON value over another: objects are merged member by member, anything else replaces.
-/

namespace LoginRisk.Json

mutual

def merge (base patch : Json) : Json :=
  match patch with
  | .object members =>
    match base with
    | .object known => .object (mergeMembers known members)
    | _ => .object members
  | j => j

/-- Puts members over known ones of the same name, one after the other, and adds new ones at the
end. -/
def mergeMembers (known : List (String × Json)) : List (String × Json) → List (String × Json)
  | [] => known
  | (name, value) :: rest =>
    mergeMembers
      (Assoc.put name (match known.lookup name with
        | some old => merge old value
        | none => value) known)
      rest

end

end LoginRisk.Json
