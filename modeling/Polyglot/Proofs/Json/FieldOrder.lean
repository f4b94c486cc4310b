import Mathlib.Data.List.Induction
import Mathlib.Data.List.Pairwise
import Mathlib.Data.List.Perm.Basic
import Polyglot.Json.Format
import Polyglot.Proofs.FirstError

/-!
# The order of fields

The fields of an object are written in one order and may be read in another: a reader of texts
keeps them in ascending order of name, and other programs keep them as they like. A record is read
from an object field by field. Where each field is put into the record without a look at the
others, what is read does not depend on their order (`readRecord_perm`).

- `putFields_perm`, `putFields_eq_of_perm`: the ascending order.
- `Value.arranged`: a value with the fields of all its objects in another order.
- `Apart`: readers of fields that do not get in each other's way.
- `ReadsAs`, `FieldsReadAs`: what a value and the fields of an object are read as, in whatever
  order fields stand. `ReadsAs.record` and its companions put it together.
-/

namespace Polyglot.Json

/-! ## Ascending fields -/

section Ascending

variable {α : Type} {fs gs : List (String × α)}

theorem putFields_concat (fs : List (String × α)) (name : String) (a : α) :
    putFields (fs ++ [(name, a)]) = putField name a (putFields fs) := List.foldl_append

/-- Fields of different names are only put in another order. -/
theorem putFields_perm (h : (fs.map Prod.fst).Nodup) : (putFields fs).Perm fs := by
  induction fs using List.reverseRecOn with
  | nil => exact .refl _
  | append_singleton fs f ih =>
    obtain ⟨name, a⟩ := f
    rw [List.map_append, List.map_singleton, (List.perm_append_singleton _ _).nodup_iff,
      List.nodup_cons] at h
    have hperm := ih h.2
    have hnew : name ∉ (putFields fs).map Prod.fst :=
      fun hmem => h.1 ((hperm.map Prod.fst).mem_iff.1 hmem)
    rw [putFields_concat]
    calc (putField name a (putFields fs)).Perm ((name, a) :: putFields fs) :=
          Entries.update_perm _ name hnew
      _ |>.Perm ((name, a) :: fs) := hperm.cons _
      _ |>.Perm (fs ++ [(name, a)]) := (List.perm_append_singleton _ _).symm

/-- Ascending fields come back from any order. -/
theorem putFields_eq_of_perm (h : gs.Pairwise (·.1 < ·.1)) (hperm : fs.Perm gs) :
    putFields fs = gs := by
  have hnodup : (fs.map Prod.fst).Nodup := (hperm.map Prod.fst).nodup_iff.2
    (Entries.nodup_of_ascending h)
  refine List.Perm.eq_of_pairwise (fun f g _ _ hfg hgf => ?_) (putFields_ascending fs) h
    ((putFields_perm hnodup).trans hperm)
  exact absurd (String.lt_trans hfg hgf) (String.lt_irrefl _)

end Ascending

namespace Value

/-! ## Values in another order -/

/-- A way to put fields of different names in some order. -/
def Arranges (arrange : List (String × Value) → List (String × Value)) : Prop :=
  ∀ fs, (fs.map Prod.fst).Nodup → (arrange fs).Perm fs

/-- A value with the fields of all its objects in another order. -/
def arranged (arrange : List (String × Value) → List (String × Value)) : Value → Value
  | .array vs => .array (items vs)
  | .object fs => .object (arrange (fields fs))
  | .null => .null
  | .boolean b => .boolean b
  | .integer n => .integer n
  | .float x => .float x
  | .text s => .text s
where
  items : List Value → List Value
    | [] => []
    | v :: vs => v.arranged arrange :: items vs
  fields : List (String × Value) → List (String × Value)
    | [] => []
    | (name, v) :: fs => (name, v.arranged arrange) :: fields fs

theorem arranges_id : Arranges id := fun _ _ => .refl _

theorem arranges_putFields : Arranges putFields := fun _ => putFields_perm

section Arranged

variable {arrange : List (String × Value) → List (String × Value)}

theorem arranged_array (vs : List Value) :
    (array vs).arranged arrange = .array (vs.map (arranged arrange)) := by
  have hitems : arranged.items arrange vs = vs.map (arranged arrange) := by
    induction vs with
    | nil => rw [arranged.items, List.map_nil]
    | cons v vs ih => rw [arranged.items, ih, List.map_cons]
  rw [arranged, hitems]

theorem arranged_object (fs : List (String × Value)) :
    (object fs).arranged arrange
      = .object (arrange (fs.map fun f => (f.1, f.2.arranged arrange))) := by
  have hfields : arranged.fields arrange fs = fs.map fun f => (f.1, f.2.arranged arrange) := by
    induction fs with
    | nil => rw [arranged.fields, List.map_nil]
    | cons f fs ih => rw [arranged.fields, ih, List.map_cons]
  rw [arranged, hfields]

end Arranged

mutual

theorem arranged_id : (v : Value) → v.arranged id = v
  | .array vs => by rw [arranged, items_id]
  | .object fs => by rw [arranged, fields_id, id]
  | .null | .boolean _ | .integer _ | .float _ | .text _ => by rw [arranged]

theorem items_id : (vs : List Value) → arranged.items id vs = vs
  | [] => by rw [arranged.items]
  | v :: vs => by rw [arranged.items, arranged_id v, items_id vs]

theorem fields_id : (fs : List (String × Value)) → arranged.fields id fs = fs
  | [] => by rw [arranged.fields]
  | (_, v) :: fs => by rw [arranged.fields, arranged_id v, fields_id fs]

end

/-! ## Fields and records -/

section Records

variable {π : Type} {readers : List (FieldReader Value (Except Problem) π)}
  {fs gs : List (String × Value)} {p q : π}

/-- Two fields can be read one after the other in either order. -/
def Apart (r r' : FieldReader Value (Except Problem) π) : Prop :=
  ∀ p v w q, (do r'.read (← r.read p v) w) = .ok q ↔ (do r.read (← r'.read p w) v) = .ok q

theorem Apart.symm {r r' : FieldReader Value (Except Problem) π} (h : Apart r r') : Apart r' r :=
  fun p v w q => (h p w v q).symm

/-- Fields are apart when they are put into the record in either order. -/
theorem apart_of_put {name name' : String} {optional optional' : Bool} {α β : Type}
    {read : Value → Except Problem α} {read' : Value → Except Problem β} {put : π → α → π}
    {put' : π → β → π} (h : ∀ p a b, put' (put p a) b = put (put' p b) a) :
    Apart ⟨name, optional, fun p v => do return put p (← read v)⟩
      ⟨name', optional', fun p v => do return put' p (← read' v)⟩ := by
  intro p v w q
  cases hv : read v <;> cases hw : read' w <;>
    simp [bind, Except.bind, pure, Except.pure, hv, hw, h]

/-- One field put into a record, if the record has it. -/
def readField (readers : List (FieldReader Value (Except Problem) π)) (p : π)
    (f : String × Value) : Except Problem π :=
  match readers.find? (·.name == f.1) with
  | some r => r.read p f.2
  | none => .ok p

theorem readField_of_some {r : FieldReader Value (Except Problem) π} {f : String × Value}
    (h : readers.find? (·.name == f.1) = some r) (p : π) :
    readField readers p f = r.read p f.2 := by
  rw [readField, h]

theorem readField_of_none {f : String × Value} (h : readers.find? (·.name == f.1) = none)
    (p : π) : readField readers p f = pure p := by
  rw [readField, h]
  rfl

theorem readFields_cons (f : String × Value) (fs : List (String × Value)) (p : π) :
    readFields readers (f :: fs) p = readField readers p f >>= readFields readers fs := by
  obtain ⟨name, v⟩ := f
  rw [readFields, readField]
  cases readers.find? (·.name == name) <;> rfl

theorem readFields_cons_cons_eq_ok {f g : String × Value} :
    readFields readers (f :: g :: fs) p = .ok q ↔
      ∃ p', readField readers p f >>= (readField readers · g) = .ok p' ∧
        readFields readers fs p' = .ok q := by
  have hcons : readFields readers (g :: fs)
      = fun p => readField readers p g >>= readFields readers fs := funext (readFields_cons g fs)
  rw [readFields_cons, hcons, ← bind_assoc, bind_eq_ok]

/-- Fields of different names are read in either order. -/
theorem readField_comm (hapart : readers.Pairwise Apart) {f g : String × Value}
    (hne : f.1 ≠ g.1) :
    readField readers p f >>= (readField readers · g) = .ok q ↔
      readField readers p g >>= (readField readers · f) = .ok q := by
  cases hf : readers.find? (·.name == f.1) with
  | none => simp only [readField_of_none hf, pure_bind, bind_pure]
  | some r =>
    cases hg : readers.find? (·.name == g.1) with
    | none => simp only [readField_of_none hg, pure_bind, bind_pure]
    | some r' =>
      have hrr' : r ≠ r' := by
        rintro rfl
        have hname := List.find?_some hf
        have hname' := List.find?_some hg
        rw [beq_iff_eq] at hname hname'
        exact hne (hname.symm.trans hname')
      have : Std.Symm (Apart (π := π)) := ⟨fun _ _ => Apart.symm⟩
      simp only [readField_of_some hf, readField_of_some hg]
      exact hapart.forall (List.mem_of_find?_eq_some hf) (List.mem_of_find?_eq_some hg) hrr'
        p f.2 g.2 q

/-- Fields of different names are read in any order. -/
theorem readFields_perm (hapart : readers.Pairwise Apart) (hperm : fs.Perm gs)
    (hnodup : (fs.map Prod.fst).Nodup) (h : readFields readers fs p = .ok q) :
    readFields readers gs p = .ok q := by
  induction hperm generalizing p with
  | nil => exact h
  | cons f _ ih =>
    rw [readFields_cons, bind_eq_ok] at h ⊢
    obtain ⟨p', hf, hrest⟩ := h
    exact ⟨p', hf, ih (List.nodup_cons.1 hnodup).2 hrest⟩
  | swap f g fs =>
    have hne : g.1 ≠ f.1 := fun hgf => (List.nodup_cons.1 hnodup).1 (hgf ▸ List.mem_cons_self)
    rw [readFields_cons_cons_eq_ok] at h ⊢
    obtain ⟨p', hp', hrest⟩ := h
    exact ⟨p', (readField_comm hapart hne).1 hp', hrest⟩
  | trans hfirst _ ihfirst ihsecond =>
    exact ihsecond ((hfirst.map Prod.fst).nodup_iff.1 hnodup) (ihfirst hnodup h)

theorem missing?_perm {names names' : List String} (h : names.Perm names') :
    missing? readers names = missing? readers names' := by
  have hcontains : names.contains = names'.contains :=
    funext fun name => Bool.eq_iff_iff.2 <| by
      rw [List.contains_iff_mem, List.contains_iff_mem, h.mem_iff]
  rw [missing?, missing?, hcontains]

/-- What is read from an object does not depend on the order of its fields. -/
theorem readRecord_perm {name : String} (hapart : readers.Pairwise Apart) (hperm : fs.Perm gs)
    (hnodup : (fs.map Prod.fst).Nodup) (h : readRecord name readers p (.object fs) = .ok q) :
    readRecord name readers p (.object gs) = .ok q := by
  rw [readRecord, bind_eq_ok] at h ⊢
  obtain ⟨p', hfields, hmissing⟩ := h
  refine ⟨p', readFields_perm hapart hperm hnodup hfields, ?_⟩
  rw [← missing?_perm (hperm.map Prod.fst)]
  exact hmissing

end Records

/-! ## What a value is read as -/

/-- A value is read as `a`, in whatever order the fields of its objects stand. -/
def ReadsAs {α : Type} (read : Value → Except Problem α) (v : Value) (a : α) : Prop :=
  ∀ arrange, Arranges arrange → read (v.arranged arrange) = .ok a

theorem mapM_eq_ok {α β : Type} {read : α → Except Problem β} {xs : List α} {ys : List β} :
    xs.mapM read = .ok ys ↔ List.Forall₂ (fun x y => read x = .ok y) xs ys := by
  induction xs generalizing ys with
  | nil =>
    rw [List.mapM_nil, List.forall₂_nil_left_iff]
    exact ⟨fun h => (Except.ok.inj h).symm, fun h => h ▸ rfl⟩
  | cons x xs ih =>
    simp only [List.mapM_cons, bind_eq_ok, List.forall₂_cons_left_iff, ih]
    constructor
    · rintro ⟨y, hy, ys, hys, h⟩
      exact ⟨y, ys, hy, hys, (Except.ok.inj h).symm⟩
    · rintro ⟨y, ys, hy, hys, rfl⟩
      exact ⟨y, hy, ys, hys, rfl⟩

namespace ReadsAs

variable {α : Type} {read : Value → Except Problem α}

/-- In particular it is read as `a` as it stands. -/
theorem as_written {v : Value} {a : α} (h : ReadsAs read v a) : read v = .ok a := by
  have hid := h id arranges_id
  rwa [arranged_id] at hid

theorem text (s : String) : ReadsAs readText (.text s) s := fun _ _ => by
  rw [arranged, readText]

theorem boolean (b : Bool) : ReadsAs readBoolean (.boolean b) b := fun _ _ => by
  rw [arranged, readBoolean]

theorem textOrNull (s? : Option String) : ReadsAs readOptionalText (.textOrNull s?) s? := by
  intro arrange _
  cases s? with
  | none => rw [Value.textOrNull, arranged, readOptionalText]
  | some s =>
    rw [Value.textOrNull, arranged]
    rfl

theorem ofNat (n : Nat) : ReadsAs readCount (.ofNat n) n := by
  intro arrange _
  rw [Value.ofNat, arranged, readCount, if_neg (by omega), Int.toNat_natCast]

theorem choice {variants : List (String × α)} {name : String} {a : α}
    (h : variants.lookup name = some a) : ReadsAs (readChoice variants) (.text name) a := by
  intro arrange _
  rw [arranged, readChoice, variant, h]

theorem list {as : List α} {f : α → Value} (h : ∀ a ∈ as, ReadsAs read (f a) a) :
    ReadsAs (readList read) (.array (as.map f)) as := by
  intro arrange harrange
  rw [arranged_array, readList, mapM_eq_ok, List.map_map, List.forall₂_map_left_iff,
    List.forall₂_same]
  exact fun a ha => h a ha arrange harrange

theorem texts (xs : List String) : ReadsAs (readList readText) (.ofTexts xs) xs :=
  list fun x _ => text x

/-- Entries in ascending order are read from an object in any order. -/
theorem map {entries : List (String × α)} {f : α → Value}
    (hascending : entries.Pairwise (·.1 < ·.1)) (h : ∀ e ∈ entries, ReadsAs read (f e.2) e.2) :
    ReadsAs (readMap read) (.object (entries.map fun e => (e.1, f e.2)))
      ⟨entries, hascending⟩ := by
  intro arrange harrange
  have hnodup : ((entries.map fun e => (e.1, (f e.2).arranged arrange)).map Prod.fst).Nodup := by
    rw [List.map_map]
    exact Entries.nodup_of_ascending hascending
  have hentries : List.Forall₂ (fun g e => (read g.2).map (g.1, ·) = .ok e)
      (entries.map fun e => (e.1, (f e.2).arranged arrange)) entries := by
    rw [List.forall₂_map_left_iff, List.forall₂_same]
    intro e he
    rw [h e he arrange harrange]
    rfl
  -- the entries in the order in which they are found
  obtain ⟨found, hfound, hperm⟩ := List.perm_comp_forall₂ (harrange _ hnodup) hentries
  rw [arranged_object, List.map_map, readMap, bind_eq_ok]
  exact ⟨found, mapM_eq_ok.2 hfound,
    congrArg Except.ok (Subtype.ext (putFields_eq_of_perm hascending hperm))⟩

end ReadsAs

/-! ## What a record is read as -/

section Records

variable {π : Type} {readers : List (FieldReader Value (Except Problem) π)}
  {fs : List (String × Value)} {p q : π}

/-- Fields in the order in which they stand make `q` of `p`, in whatever order the fields of their
own objects stand. -/
def FieldsReadAs (readers : List (FieldReader Value (Except Problem) π))
    (fs : List (String × Value)) (p q : π) : Prop :=
  ∀ arrange, Arranges arrange →
    readFields readers (fs.map fun f => (f.1, f.2.arranged arrange)) p = .ok q

theorem FieldsReadAs.nil : FieldsReadAs readers [] p p := fun _ _ => rfl

theorem FieldsReadAs.cons {α : Type} {name : String} {optional : Bool}
    {read : Value → Except Problem α} {put : π → α → π} {v : Value} {a : α}
    (hfind : readers.find? (·.name == name)
      = some ⟨name, optional, fun p v => do return put p (← read v)⟩)
    (hv : ReadsAs read v a) (hfs : FieldsReadAs readers fs (put p a) q) :
    FieldsReadAs readers ((name, v) :: fs) p q := by
  intro arrange harrange
  have hfield : readField readers p (name, v.arranged arrange) = .ok (put p a) := by
    rw [readField_of_some hfind]
    show (do return put p (← read (v.arranged arrange))) = _
    rw [hv arrange harrange]
    rfl
  rw [List.map_cons, readFields_cons, hfield]
  exact hfs arrange harrange

/-- A record is read from an object if it is made of the fields as they stand. -/
theorem ReadsAs.record {name : String} (hapart : readers.Pairwise Apart)
    (hnodup : (fs.map Prod.fst).Nodup) (hmissing : missing? readers (fs.map Prod.fst) = none)
    (hfields : FieldsReadAs readers fs p q) :
    ReadsAs (readRecord name readers p) (.object fs) q := by
  intro arrange harrange
  have hnames : (fs.map fun f => (f.1, f.2.arranged arrange)).map Prod.fst = fs.map Prod.fst := by
    rw [List.map_map]
    rfl
  rw [← hnames] at hnodup hmissing
  rw [arranged_object]
  refine readRecord_perm hapart (harrange _ hnodup).symm hnodup ?_
  rw [readRecord, hfields arrange harrange, hmissing]
  rfl

end Records

end Value

end Polyglot.Json
