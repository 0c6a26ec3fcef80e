import DocQuery.Unicode.CharSet

/-!
# Named sets of characters

The standard gives each property value a short and a long name, and reads names
without regard to case, blanks, hyphens, underscores and a leading `is`.
-/

namespace DocQuery

namespace Unicode

/-- A set of characters under its loose names, with its ranges in hexadecimal. -/
structure NamedSet where
  names : List String
  ranges : String

namespace NamedSet

def chars (set : NamedSet) : CharSet :=
  CharSet.ofText set.ranges

def find? (sets : List NamedSet) (name : String) : Option CharSet :=
  (sets.find? fun set => set.names.contains name).map chars

end NamedSet

def dropIs : List Char → List Char
  | 'i' :: 's' :: rest => rest
  | 'I' :: 'S' :: rest => rest
  | 'i' :: 'S' :: rest => rest
  | 'I' :: 's' :: rest => rest
  | cs => cs

/-- A name in loose form.  What is left of `isc` stays whole, for it is a name of
its own. -/
def looseName (name : String) : String :=
  let cs := dropIs name.toList
  let kept := cs.filter fun c => c ≠ ' ' && c ≠ '_' && c ≠ '-' && c.toNat < 0x80
  let loose := String.ofList (kept.map Char.toLower)
  if loose = "c" && cs.length < name.length then "isc" else loose

end Unicode

end DocQuery
