/-!
# File extensions

Extensions are kept without a leading dot, none of them empty and none twice.

- `Extension.addAll`: extend a list of extensions.
- `Extension.known`: whether an extension, given with or without its dot, is listed.
-/

namespace Polyglot.Extension

/-- The extension without one leading dot. -/
def bare (e : String) : String :=
  match e.toList with
  | '.' :: cs => String.ofList cs
  | _ => e

/-- Append an extension, unless it is empty or listed. -/
def add (listed : List String) (e : String) : List String :=
  let x := bare e
  if x.isEmpty || listed.contains x then listed else listed ++ [x]

/-- Append several extensions in order. -/
def addAll (listed given : List String) : List String := given.foldl add listed

/-- Whether an extension, given with or without its dot, is listed. -/
def known (listed : List String) (e : String) : Bool := listed.contains (bare e)

@[simp] theorem addAll_nil (listed : List String) : addAll listed [] = listed := rfl

/-- Extensions may be given in one call or in several. -/
theorem addAll_append (listed xs ys : List String) :
    addAll listed (xs ++ ys) = addAll (addAll listed xs) ys := by
  simp [addAll]

end Polyglot.Extension
