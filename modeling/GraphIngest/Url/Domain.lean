import GraphIngest.Text.Separated
import GraphIngest.Url.Domain.Label

/-!
# Domains

## Main definitions

* `Domain.toAscii?`: the ASCII text of a domain.
-/

namespace GraphIngest

namespace Domain

/-- Characters that no domain holds. -/
def isForbidden (c : Char) : Bool :=
  c.toNat ≤ 0x20 || c.toNat = 0x7F ||
  ['#', '%', '/', ':', '<', '>', '?', '@', '[', '\\', ']', '^', '|'].contains c

/-- The characters of a domain in their forms. -/
def forms? (cs : List Char) : Option (List Char) :=
  (cs.mapM DomainForm.of?).map fun forms => Composition.compose forms.flatten

/-- The labels of a domain. If one is written from right to left, that concerns all of them. -/
def labels? (cs : List Char) : Option (List DomainLabel) := do
  let labels ← (Separated.split '.' (← forms? cs)).mapM DomainLabel.read?
  if labels.any (·.isRightToLeft) ∧ !labels.all (·.fitsDirections) then none
  return labels

/-- The ASCII text of a domain. -/
def toAscii? (cs : List Char) : Option (List Char) := do
  let name := ['.'].intercalate ((← labels? cs).map (·.text))
  if name.any isForbidden then none else some name

end Domain

end GraphIngest
