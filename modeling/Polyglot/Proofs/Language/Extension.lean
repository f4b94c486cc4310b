import Polyglot.Language.Extension

/-!
# The extensions that are kept

Extensions are given one by one, and each is looked up among those that are kept already.
What is kept in the end can be told at once: of the extensions without their dots, those
that are not empty, each where it stands first (`addAll_eq_append`, `addAll_nil_left`).
-/

namespace Polyglot.Extension

/-- Whether an extension without its dot is to be kept behind those that are listed. -/
def isNew (listed : List String) (x : String) : Bool := !(x.isEmpty || listed.contains x)

theorem add_of_isNew {listed : List String} {e : String} (h : isNew listed (bare e) = true) :
    add listed e = listed ++ [bare e] := by
  rw [isNew, Bool.not_eq_true'] at h
  simp only [add, h, Bool.false_eq_true, if_false]

theorem add_of_not_isNew {listed : List String} {e : String}
    (h : isNew listed (bare e) = false) : add listed e = listed := by
  rw [isNew, Bool.not_eq_false'] at h
  simp only [add, h, if_true]

theorem isNew_concat (listed : List String) (b x : String) :
    isNew (listed ++ [b]) x = ((!x == b) && isNew listed x) := by
  simp only [isNew, List.contains_append, List.contains_cons, List.contains_nil, Bool.or_false]
  cases x == b <;> simp

/-- Behind what is listed come the new extensions, each where it is given first. -/
theorem addAll_eq_append (listed given : List String) :
    addAll listed given = listed ++ ((given.map bare).filter (isNew listed)).eraseDups := by
  induction given generalizing listed with
  | nil => simp
  | cons e given ih =>
    have hcons : addAll listed (e :: given) = addAll (add listed e) given := rfl
    rw [hcons, ih, List.map_cons, List.filter_cons]
    cases h : isNew listed (bare e) with
    | false => rw [add_of_not_isNew h, if_neg Bool.false_ne_true]
    | true =>
      -- what is new behind the first one is new before it and another extension
      rw [add_of_isNew h, if_pos rfl, List.eraseDups_cons, List.filter_filter,
        List.append_assoc, List.singleton_append]
      congr 3
      exact List.filter_congr fun x _ => isNew_concat listed (bare e) x

theorem addAll_nil_left (given : List String) :
    addAll [] given = ((given.map bare).filter (!·.isEmpty)).eraseDups := by
  have hnew : isNew [] = fun x : String => !x.isEmpty := by
    funext x
    rw [isNew, List.contains_nil, Bool.or_false]
  rw [addAll_eq_append, hnew, List.nil_append]

example : addAll [] [".java", "", "jav", ".", "java", "..jav"] = ["java", "jav", ".jav"] := by
  decide

end Polyglot.Extension
