import Polyglot.Language.Version
import Polyglot.Proofs.Text.Trim

/-!
# Requests for a version

A text such as `java 17` is read in three steps: trimmed, cut at its first space, and trimmed
again behind the cut. The two trims drop every blank character and the cut looks at
U+0020 alone, so which text asks for what is told by a grammar (`Written`).

- `written_iff`: reading a text is the grammar, and so every text is written for one request.
- `written_qualify_bare`, `written_qualify_keyed`: how the printed name of a version is read.
-/

namespace Polyglot

/-- What a text asks for: a language by its terse name, and one of its versions by a key; without
a key it is the default version. -/
structure Request where
  terseName : String
  key? : Option String
deriving DecidableEq, Repr

namespace Request

open Text

/-- The request that a text is read as. -/
def ofText (s : String) : Request :=
  let text := trim s.toList
  match cutAtSpace text with
  | some (language, key) => ⟨String.ofList language, some (String.ofList (trim key))⟩
  | none => ⟨String.ofList text, none⟩

/-- How requests are written. -/
inductive Written (s : String) : Request → Prop
  /-- A terse name with blanks around it. -/
  | bare {front back : List Char} {name : String}
      (text : s.toList = front ++ name.toList ++ back)
      (front_blank : AllBlank front) (back_blank : AllBlank back)
      (name_trimmed : Trimmed name.toList) (name_whole : ' ' ∉ name.toList) :
      Written s ⟨name, none⟩
  /-- A terse name, a space and a key, with blanks around the whole and behind the space. -/
  | keyed {front gap back : List Char} {name key : String}
      (text : s.toList = front ++ name.toList ++ ' ' :: (gap ++ key.toList ++ back))
      (front_blank : AllBlank front) (gap_blank : AllBlank gap) (back_blank : AllBlank back)
      (name_ne : name ≠ "") (name_front : beginsBlank name.toList = false)
      (name_whole : ' ' ∉ name.toList)
      (key_ne : key ≠ "") (key_trimmed : Trimmed key.toList) :
      Written s ⟨name, some key⟩

/-! ## Reading is the grammar -/

theorem toList_ne_nil {s : String} : s.toList ≠ [] ↔ s ≠ "" := not_congr String.toList_eq_nil_iff

theorem ofText_of_uncut {s : String} (h : cutAtSpace (trim s.toList) = none) :
    ofText s = ⟨String.ofList (trim s.toList), none⟩ := by
  rw [ofText]
  simp only [h]

theorem ofText_of_cut {s : String} {language key : List Char}
    (h : cutAtSpace (trim s.toList) = some (language, key)) :
    ofText s = ⟨String.ofList language, some (String.ofList (trim key))⟩ := by
  rw [ofText]
  simp only [h]

theorem ofText_of_written {s : String} {q : Request} (h : Written s q) : ofText s = q := by
  cases h with
  | @bare front back name text hfront hback htrimmed hwhole =>
    have htrim : trim s.toList = name.toList :=
      trim_eq_iff.2 ⟨htrimmed, front, back, hfront, hback, text⟩
    rw [ofText_of_uncut, htrim, String.ofList_toList]
    rwa [htrim, cutAtSpace_eq_none]
  | @keyed front gap back name key text hfront hgap hback hname hbegin hwhole hkey htrimmed =>
    have hmiddle : Trimmed (name.toList ++ ' ' :: (gap ++ key.toList)) := by
      refine .append (toList_ne_nil.2 hname) hbegin (List.cons_ne_nil _ _) ?_
      rw [← List.cons_append, endsBlank_append (toList_ne_nil.2 hkey)]
      exact htrimmed.back
    have htrim : trim s.toList = name.toList ++ ' ' :: (gap ++ key.toList) :=
      trim_eq_iff.2 ⟨hmiddle, front, back, hfront, hback, by simp [text]⟩
    have hcut : cutAtSpace (trim s.toList) = some (name.toList, gap ++ key.toList) :=
      cutAtSpace_eq_some.2 ⟨htrim, hwhole⟩
    have hkeytrim : trim (gap ++ key.toList) = key.toList :=
      trim_eq_iff.2 ⟨htrimmed, gap, [], hgap, allBlank_nil, by simp⟩
    rw [ofText_of_cut hcut, hkeytrim, String.ofList_toList, String.ofList_toList]

theorem written_ofText (s : String) : Written s (ofText s) := by
  obtain ⟨front, back, hfront, hback, text⟩ := exists_trim s.toList
  have htrimmed := trimmed_trim s.toList
  cases hcut : cutAtSpace (trim s.toList) with
  | none =>
    rw [ofText_of_uncut hcut]
    refine .bare ?_ hfront hback ?_ ?_
    · rw [String.toList_ofList]
      exact text
    · rwa [String.toList_ofList]
    · rw [String.toList_ofList]
      exact cutAtSpace_eq_none.1 hcut
  | some parts =>
    obtain ⟨language, rest⟩ := parts
    obtain ⟨hsplit, hwhole⟩ := cutAtSpace_eq_some.1 hcut
    rw [hsplit] at htrimmed text
    obtain ⟨gap, tail, hgap, htail, hrest⟩ := exists_trim rest
    -- the trimmed text begins with no blank, so something stands before the space
    have hlanguage : language ≠ [] := by
      rintro rfl
      exact absurd htrimmed.front (by simp [beginsBlank_cons, isBlank_space])
    -- and it ends with no blank, so not all behind the space is blank
    have hkey : trim rest ≠ [] := by
      intro hnil
      have hend := htrimmed.back
      rw [endsBlank_append (List.cons_ne_nil _ _)] at hend
      have hblank : AllBlank (' ' :: rest) := allBlank_cons.2 ⟨isBlank_space, trim_eq_nil.1 hnil⟩
      exact absurd (eq_nil_of_allBlank hblank hend) (List.cons_ne_nil _ _)
    rw [ofText_of_cut hcut]
    refine .keyed ?_ hfront hgap (allBlank_append.2 ⟨htail, hback⟩) ?_ ?_ ?_ ?_ ?_
    · rw [String.toList_ofList, String.toList_ofList, text]
      conv => lhs; rw [hrest]
      simp
    · rwa [← toList_ne_nil, String.toList_ofList]
    · rw [String.toList_ofList, ← beginsBlank_append hlanguage]
      exact htrimmed.front
    · rwa [String.toList_ofList]
    · rwa [← toList_ne_nil, String.toList_ofList]
    · rw [String.toList_ofList]
      exact trimmed_trim rest

/-- A text is written for one request, the one that it is read as. -/
theorem written_iff {s : String} {q : Request} : Written s q ↔ ofText s = q :=
  ⟨ofText_of_written, fun h => h ▸ written_ofText s⟩

/-- A tab behind the name belongs to it, since only a space ends the name. -/
example : ofText " java\t 17 " = ⟨"java\t", some "17"⟩ := by decide

/-- The key of a request is never empty and has no blanks around it. -/
theorem key_of_ofText {s key : String} (h : (ofText s).key? = some key) :
    key ≠ "" ∧ Trimmed key.toList := by
  have hwritten := written_ofText s
  generalize ofText s = q at h hwritten
  cases hwritten with
  | bare => cases h
  | keyed _ _ _ _ _ _ _ hne htrimmed =>
    cases h
    exact ⟨hne, htrimmed⟩

/-! ## Printed names -/

theorem toList_qualify (name id : String) :
    (qualify name id).toList =
      if id = "" then name.toList else name.toList ++ ' ' :: id.toList := by
  rw [qualify]
  by_cases h : id = ""
  · simp [h]
  · simp [h, String.toList_append]

/-- A name that does not begin with a blank leaves no room for blanks in front of it. -/
theorem front_eq_nil {front name rest rest' : List Char}
    (h : name ++ rest = front ++ (name ++ rest')) (hname : name ≠ [])
    (hbegin : beginsBlank name = false) (hfront : AllBlank front) : front = [] := by
  cases front with
  | nil => rfl
  | cons c front =>
    have hc : isBlank c = true := (allBlank_cons.1 hfront).1
    have heq := congrArg beginsBlank h
    rw [beginsBlank_append hname, hbegin, List.cons_append, beginsBlank_cons, hc] at heq
    cases heq

/-- A printed name is read as the bare name when the id adds nothing but blanks. -/
theorem written_qualify_bare {name id : String} :
    Written (qualify name id) ⟨name, none⟩ ↔
      AllBlank id.toList ∧ Trimmed name.toList ∧ ' ' ∉ name.toList := by
  constructor
  · intro h
    cases h with
    | @bare front back _ text hfront hback htrimmed hwhole =>
      refine ⟨?_, htrimmed, hwhole⟩
      rw [toList_qualify] at text
      split at text
      · rename_i hid
        rw [hid]
        exact allBlank_nil
      · by_cases hname : name.toList = []
        · have hall : AllBlank (' ' :: id.toList) := by
            rw [hname, List.nil_append, List.append_nil] at text
            rw [text]
            exact allBlank_append.2 ⟨hfront, hback⟩
          exact (allBlank_cons.1 hall).2
        · rw [List.append_assoc] at text
          obtain rfl := front_eq_nil text hname htrimmed.front hfront
          rw [List.nil_append] at text
          obtain rfl := List.append_cancel_left text
          exact (allBlank_cons.1 hback).2
  · rintro ⟨hid, htrimmed, hwhole⟩
    by_cases hempty : id = ""
    · refine .bare ?_ allBlank_nil allBlank_nil htrimmed hwhole
      rw [toList_qualify, if_pos hempty, List.nil_append, List.append_nil]
    · refine .bare ?_ allBlank_nil (allBlank_cons.2 ⟨isBlank_space, hid⟩) htrimmed hwhole
      rw [toList_qualify, if_neg hempty, List.nil_append]

/-- A printed name is read as the name with a key when something else than blanks is left of the
id, and the name cannot be mistaken. -/
theorem written_qualify_keyed {name id key : String} :
    Written (qualify name id) ⟨name, some key⟩ ↔
      trim id.toList = key.toList ∧ key ≠ "" ∧ name ≠ "" ∧ beginsBlank name.toList = false ∧
        ' ' ∉ name.toList := by
  constructor
  · intro h
    cases h with
    | @keyed front gap back _ _ text hfront hgap hback hname hbegin hwhole hkey htrimmed =>
      refine ⟨?_, hkey, hname, hbegin, hwhole⟩
      have hne : name.toList ≠ [] := toList_ne_nil.2 hname
      rw [List.append_assoc, toList_qualify] at text
      split at text
      · -- a bare name is shorter than a name with a key
        have hlength := congrArg List.length text
        simp at hlength
        omega
      · obtain rfl := front_eq_nil text hne hbegin hfront
        rw [List.nil_append] at text
        have hid := (List.cons.inj (List.append_cancel_left text)).2
        exact trim_eq_iff.2 ⟨htrimmed, gap, back, hgap, hback, hid⟩
  · rintro ⟨htrim, hkey, hname, hbegin, hwhole⟩
    obtain ⟨htrimmed, gap, back, hgap, hback, hid⟩ := trim_eq_iff.1 htrim
    have hempty : id ≠ "" := by
      rintro rfl
      exact toList_ne_nil.2 hkey htrim.symm
    refine .keyed ?_ allBlank_nil hgap hback hname hbegin hwhole hkey htrimmed
    rw [toList_qualify, if_neg hempty, hid, List.nil_append]

end Request

end Polyglot
