import RemoteFiles.Text.Direction
import RemoteFiles.Url.Domain.Label
import RemoteFiles.Url.Percent

/-!
# Domain names as hosts

A domain name is written in ASCII and in lower case, each label with characters outside ASCII in
its ASCII form.  No character that has a meaning elsewhere in a URL stands in it, and if a label
is written from right to left, all labels keep to one direction each.
-/

namespace RemoteFiles.Url

/-- The ASCII characters that no domain holds. -/
def isForbiddenInDomain (c : Char) : Bool :=
  c.toNat ≤ 0x20 || c.toNat == 0x7f ||
    ['%', '#', '/', ':', '<', '>', '?', '@', '[', '\\', ']', '^', '|'].contains c

/-- The mapped and composed form of a domain name. -/
def mapDomain? (cs : List Char) : Option (List Char) :=
  if isAscii cs then some (cs.map Char.toLower)
  else (cs.mapM mapChar?).map fun parts => Text.composed parts.flatten

/-- If one label is written from right to left, all of them keep to one direction each.  In ASCII
none is, and so the tables are not asked. -/
def directionsFit (labels : List Label) : Bool :=
  labels.all (isAscii ·.shown) || !(labels.any (Text.hasRightToLeft ·.shown)) ||
    labels.all (Text.hasOneDirection ·.shown)

/-- The ASCII form of a domain. -/
def domainToAscii? (cs : List Char) : Option (List Char) := do
  let mapped ← mapDomain? cs
  let labels ← (mapped.splitOn '.').mapM Label.ofMapped?
  let ascii := List.intercalate ['.'] (labels.map (·.ascii))
  if ascii.all (!isForbiddenInDomain ·) && directionsFit labels then some ascii else none

end RemoteFiles.Url
