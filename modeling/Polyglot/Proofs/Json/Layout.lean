import Polyglot.Json.Printer

/-!
# The lines of a JSON text

An indented text is written with the depth of nesting at hand, so that every line break comes with
its indentation. It can be told line by line, without a depth: a value that holds no others is one
line, and every other value is an opening line, the lines of its elements moved in by two blanks,
with a comma behind each element but the last, and a closing line.

- `Value.lines`: the lines of a value.
- `Value.pretty_eq_lines`: they are what is written.
-/

namespace Polyglot.Json

/-! ## Lines -/

/-- Lines with a comma behind the last one. -/
def punctuated : List String → List String
  | [] => []
  | [l] => [l ++ ","]
  | l :: ls => l :: punctuated ls

/-- Lines with a label in front of the first one. -/
def labelled (label : String) : List String → List String
  | [] => []
  | l :: ls => (label ++ l) :: ls

/-- Elements one below the other, with a comma behind each but the last. -/
def separated : List (List String) → List String
  | [] => []
  | [ls] => ls
  | ls :: rest => punctuated ls ++ separated rest

/-- Elements moved in between brackets; empty brackets stand on one line. -/
def block (opening closing : String) (parts : List (List String)) : List String :=
  if parts.isEmpty then [opening ++ closing]
  else [opening] ++ (separated parts).map ("  " ++ ·) ++ [closing]

/-- The lines of a value. -/
def Value.lines : Value → List String
  | .null => ["null"]
  | .boolean b => [toString b]
  | .integer n => [toString n]
  | .float x => [Decimal.text .mixed x]
  | .text s => [stringText false s]
  | .array vs => block "[" "]" (items vs)
  | .object fs => block "\x7b" "\x7d" (fields fs)
where
  items : List Value → List (List String)
    | [] => []
    | v :: vs => v.lines :: items vs
  fields : List (String × Value) → List (List String)
    | [] => []
    | (name, v) :: fs => labelled (stringText false name ++ ": ") v.lines :: fields fs

/-! ## Values have lines -/

theorem punctuated_ne_nil {ls : List String} (h : ls ≠ []) : punctuated ls ≠ [] := by
  match ls with
  | [] => exact absurd rfl h
  | [l] => exact List.cons_ne_nil _ _
  | l :: l' :: ls => exact List.cons_ne_nil _ _

theorem separated_ne_nil {parts : List (List String)} (hparts : parts ≠ [])
    (h : ∀ ls ∈ parts, ls ≠ []) : separated parts ≠ [] := by
  match parts with
  | [] => exact absurd rfl hparts
  | [ls] => exact h ls List.mem_cons_self
  | ls :: ls' :: rest =>
    exact List.append_ne_nil_of_left_ne_nil (punctuated_ne_nil (h ls List.mem_cons_self)) _

theorem block_ne_nil (opening closing : String) (parts : List (List String)) :
    block opening closing parts ≠ [] := by
  rw [block]
  split
  · exact List.cons_ne_nil _ _
  · exact List.cons_ne_nil _ _

theorem Value.lines_ne_nil (v : Value) : v.lines ≠ [] := by
  cases v with
  | array vs =>
    rw [lines]
    exact block_ne_nil _ _ _
  | object fs =>
    rw [lines]
    exact block_ne_nil _ _ _
  | _ =>
    rw [lines]
    exact List.cons_ne_nil _ _

theorem mem_items_ne_nil {vs : List Value} : ∀ ls ∈ Value.lines.items vs, ls ≠ [] := by
  induction vs with
  | nil => exact List.forall_mem_nil _
  | cons v vs ih => exact List.forall_mem_cons.2 ⟨v.lines_ne_nil, ih⟩

theorem mem_fields_ne_nil {fs : List (String × Value)} :
    ∀ ls ∈ Value.lines.fields fs, ls ≠ [] := by
  induction fs with
  | nil => exact List.forall_mem_nil _
  | cons f fs ih =>
    refine List.forall_mem_cons.2 ⟨?_, ih⟩
    obtain ⟨l, ls, hlines⟩ := List.exists_cons_of_ne_nil f.2.lines_ne_nil
    rw [hlines]
    exact List.cons_ne_nil _ _

/-! ## Line breaks between lines -/

section LineBreaks

variable {s : String} {ls : List String} {parts : List (List String)}

theorem intercalate_labelled (label : String) (h : ls ≠ []) :
    s.intercalate (labelled label ls) = label ++ s.intercalate ls := by
  obtain ⟨l, ls, rfl⟩ := List.exists_cons_of_ne_nil h
  exact String.intercalate_cons_append

theorem intercalate_punctuated (h : ls ≠ []) :
    s.intercalate (punctuated ls) = s.intercalate ls ++ "," := by
  induction ls with
  | nil => exact absurd rfl h
  | cons l ls ih =>
    cases ls with
    | nil => rw [punctuated, String.intercalate_singleton, String.intercalate_singleton]
    | cons l' ls =>
      have hne : l' :: ls ≠ [] := List.cons_ne_nil _ _
      calc s.intercalate (punctuated (l :: l' :: ls))
          = l ++ s ++ s.intercalate (punctuated (l' :: ls)) :=
            String.intercalate_cons_of_ne_nil (punctuated_ne_nil hne)
        _ = l ++ s ++ s.intercalate (l' :: ls) ++ "," := by rw [ih hne, ← String.append_assoc]
        _ = s.intercalate (l :: l' :: ls) ++ "," := by
            rw [String.intercalate_cons_of_ne_nil hne]

theorem intercalate_separated (h : ∀ ls ∈ parts, ls ≠ []) :
    s.intercalate (separated parts) = ("," ++ s).intercalate (parts.map s.intercalate) := by
  induction parts with
  | nil => rfl
  | cons ls rest ih =>
    obtain ⟨hls, hrest⟩ := List.forall_mem_cons.1 h
    cases rest with
    | nil => rw [separated, List.map_singleton, String.intercalate_singleton]
    | cons ls' rest =>
      have hne : ls' :: rest ≠ [] := List.cons_ne_nil _ _
      have hne' : (ls' :: rest).map s.intercalate ≠ [] := List.cons_ne_nil _ _
      calc s.intercalate (separated (ls :: ls' :: rest))
          = s.intercalate (punctuated ls) ++ s ++ s.intercalate (separated (ls' :: rest)) :=
            String.intercalate_append_of_ne_nil (punctuated_ne_nil hls)
              (separated_ne_nil hne hrest)
        _ = s.intercalate ls ++ ("," ++ s)
              ++ ("," ++ s).intercalate ((ls' :: rest).map s.intercalate) := by
            rw [intercalate_punctuated hls, ih hrest]
            simp only [String.append_assoc]
        _ = ("," ++ s).intercalate ((ls :: ls' :: rest).map s.intercalate) :=
            (String.intercalate_cons_of_ne_nil hne').symm

end LineBreaks

namespace Value

variable {level : Nat}

theorem newLine_succ (level : Nat) : newLine (level + 1) = newLine level ++ "  " := by
  have hblanks : List.replicate (2 * (level + 1)) ' '
      = List.replicate (2 * level) ' ' ++ [' ', ' '] :=
    List.replicate_append_replicate.symm
  rw [newLine, hblanks, String.ofList_append, ← String.append_assoc]
  rfl

/-- Lines that are moved in stand one level deeper. -/
theorem newLine_intercalate_moved {ls : List String} (h : ls ≠ []) :
    newLine level ++ (newLine level).intercalate (ls.map ("  " ++ ·))
      = newLine (level + 1) ++ (newLine (level + 1)).intercalate ls := by
  induction ls with
  | nil => exact absurd rfl h
  | cons l ls ih =>
    cases ls with
    | nil =>
      rw [List.map_singleton, String.intercalate_singleton, String.intercalate_singleton,
        newLine_succ, String.append_assoc]
    | cons l' ls =>
      have hne : l' :: ls ≠ [] := List.cons_ne_nil _ _
      have hne' : (l' :: ls).map ("  " ++ ·) ≠ [] := List.cons_ne_nil _ _
      calc newLine level ++ (newLine level).intercalate ((l :: l' :: ls).map ("  " ++ ·))
          = newLine level ++ ("  " ++ l ++ newLine level
              ++ (newLine level).intercalate ((l' :: ls).map ("  " ++ ·))) :=
            congrArg _ (String.intercalate_cons_of_ne_nil hne')
        _ = newLine (level + 1) ++ (l ++ (newLine (level + 1)
              ++ (newLine (level + 1)).intercalate (l' :: ls))) := by
            rw [← ih hne, newLine_succ]
            simp only [String.append_assoc]
        _ = newLine (level + 1) ++ (newLine (level + 1)).intercalate (l :: l' :: ls) := by
            rw [String.intercalate_cons_of_ne_nil hne]
            simp only [String.append_assoc]

/-- Elements between brackets are a block. -/
theorem group_eq_block (opening closing : String) {parts : List (List String)}
    (h : ∀ ls ∈ parts, ls ≠ []) :
    group opening closing level (parts.map (newLine (level + 1)).intercalate)
      = (newLine level).intercalate (block opening closing parts) := by
  cases parts with
  | nil => rfl
  | cons ls rest =>
    have hne := separated_ne_nil (List.cons_ne_nil ls rest) h
    have hmoved : (separated (ls :: rest)).map ("  " ++ ·) ≠ [] := by simpa using hne
    calc group opening closing level ((ls :: rest).map (newLine (level + 1)).intercalate)
        = opening ++ (newLine (level + 1)
            ++ (newLine (level + 1)).intercalate (separated (ls :: rest)))
            ++ newLine level ++ closing := by
          rw [intercalate_separated h, ← String.append_assoc]
          rfl
      _ = opening ++ newLine level
            ++ (newLine level).intercalate ((separated (ls :: rest)).map ("  " ++ ·))
            ++ newLine level ++ closing := by
          rw [← newLine_intercalate_moved hne, ← String.append_assoc]
      _ = (newLine level).intercalate (block opening closing (ls :: rest)) := by
          rw [block, if_neg (by simp),
            String.intercalate_append_of_ne_nil (by simp) (List.cons_ne_nil _ _),
            String.intercalate_append_of_ne_nil (List.cons_ne_nil _ _) hmoved,
            String.intercalate_singleton, String.intercalate_singleton]

/-! ## What is written -/

mutual

theorem prettyAt_eq_lines (level : Nat) :
    (v : Value) → v.prettyAt level = (newLine level).intercalate v.lines
  | .array vs => by
    rw [prettyAt, items_eq_lines, lines, group_eq_block _ _ mem_items_ne_nil]
  | .object fs => by
    rw [prettyAt, fields_eq_lines, lines, group_eq_block _ _ mem_fields_ne_nil]
  | .null | .boolean _ | .integer _ | .float _ | .text _ => by
    rw [prettyAt, lines, String.intercalate_singleton]

theorem items_eq_lines (level : Nat) :
    (vs : List Value) →
      prettyAt.items level vs = (lines.items vs).map (newLine level).intercalate
  | [] => by rw [prettyAt.items, lines.items, List.map_nil]
  | v :: vs => by
    rw [prettyAt.items, prettyAt_eq_lines level v, items_eq_lines level vs, lines.items,
      List.map_cons]

theorem fields_eq_lines (level : Nat) :
    (fs : List (String × Value)) →
      prettyAt.fields level fs = (lines.fields fs).map (newLine level).intercalate
  | [] => by rw [prettyAt.fields, lines.fields, List.map_nil]
  | (name, v) :: fs => by
    rw [prettyAt.fields, prettyAt_eq_lines level v, fields_eq_lines level fs, lines.fields,
      List.map_cons, intercalate_labelled _ v.lines_ne_nil]

end

end Value

end Polyglot.Json
