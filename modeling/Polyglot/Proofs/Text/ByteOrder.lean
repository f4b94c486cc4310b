/-!
# Texts in the order of their bytes

Texts are compared by their characters, and so by code points. UTF-8 keeps this order:
of two characters the greater one has the greater bytes, and the difference shows before
the shorter of the two ends (`encode_append_lt`), so what follows plays no part.

- `bytes_lt_iff`, `bytes_le_iff`: the order of texts is the order of their bytes.
- `sortOn`: sorting by the bytes of a name; distinct names then ascend strictly.
-/

namespace Polyglot.Text

/-- The UTF-8 form of a text. -/
def bytes (s : String) : List UInt8 := s.toUTF8.data.toList

theorem bytes_eq_flatMap (s : String) : bytes s = s.toList.flatMap String.utf8EncodeChar := by
  rw [bytes, String.toUTF8_eq_toByteArray, ← String.utf8Encode_toList, List.utf8Encode,
    List.data_toByteArray]

/-! ## Characters -/

/-- The bytes of a character stand before those of a greater one, whatever follows. -/
theorem encode_append_lt {c d : Char} (h : c < d) (xs ys : List UInt8) :
    String.utf8EncodeChar c ++ xs < String.utf8EncodeChar d ++ ys := by
  have hlt : c.val.toNat < d.val.toNat := h
  have hd : d.val.toNat < 0x110000 := by
    have hvalid := d.valid
    simp only [UInt32.isValidChar, Nat.isValidChar] at hvalid
    omega
  -- one case for each pair of lengths: the leading byte of a longer form is greater, and forms of
  -- one length are numbers written with the same digits
  fun_cases String.utf8EncodeChar c <;> fun_cases String.utf8EncodeChar d <;>
    simp only [List.cons_append, List.nil_append, List.cons_lt_cons_iff,
      UInt8.lt_iff_toNat_lt, ← UInt8.toNat_inj, UInt8.toNat_ofNat']
  all_goals
    -- no byte overflows
    simp (disch := omega) only [Nat.mod_eq_of_lt]
    omega

theorem encodeAll_lt {cs ds : List Char} (h : cs < ds) :
    cs.flatMap String.utf8EncodeChar < ds.flatMap String.utf8EncodeChar := by
  induction cs generalizing ds with
  | nil =>
    cases ds with
    | nil => exact absurd h (List.not_lt_nil [])
    | cons d ds =>
      rw [List.flatMap_nil, List.flatMap_cons]
      obtain ⟨b, bs, hb⟩ := List.exists_cons_of_ne_nil (String.utf8EncodeChar_ne_nil (c := d))
      rw [hb, List.cons_append]
      exact List.nil_lt_cons _ _
  | cons c cs ih =>
    cases ds with
    | nil => exact absurd h (List.not_lt_nil _)
    | cons d ds =>
      rw [List.flatMap_cons, List.flatMap_cons]
      rcases List.cons_lt_cons_iff.1 h with hcd | ⟨rfl, hrest⟩
      · exact encode_append_lt hcd _ _
      · exact List.append_left_lt (ih hrest)

/-! ## Texts -/

theorem bytes_lt_bytes {s t : String} (h : s < t) : bytes s < bytes t := by
  rw [bytes_eq_flatMap, bytes_eq_flatMap]
  exact encodeAll_lt h

/-- The order of texts is the order of their bytes. -/
theorem bytes_lt_iff {s t : String} : bytes s < bytes t ↔ s < t := by
  constructor
  · intro h
    rcases Decidable.em (s < t) with hlt | hlt
    · exact hlt
    · -- texts are linearly ordered, and equal or smaller texts have equal or smaller bytes
      rcases Decidable.em (t < s) with hgt | hgt
      · exact absurd (bytes_lt_bytes hgt) (List.lt_asymm h)
      · have heq : s = t := String.le_antisymm hgt hlt
        exact absurd (heq ▸ h) (List.lt_irrefl _)
  · exact bytes_lt_bytes

theorem bytes_le_iff {s t : String} : bytes s ≤ bytes t ↔ s ≤ t := by
  rw [← List.not_lt, ← String.not_lt, bytes_lt_iff]

/-! ## Sorting -/

universe u

variable {α : Type u}

/-- The elements in the order of the bytes of their names. -/
def sortOn (name : α → String) (xs : List α) : List α :=
  xs.mergeSort fun a b => bytes (name a) ≤ bytes (name b)

theorem sortOn_perm (name : α → String) (xs : List α) : (sortOn name xs).Perm xs :=
  List.mergeSort_perm _ _

theorem sortOn_pairwise_le (name : α → String) (xs : List α) :
    (sortOn name xs).Pairwise fun a b => name a ≤ name b := by
  have htrans : ∀ a b c : α, decide (bytes (name a) ≤ bytes (name b)) = true →
      decide (bytes (name b) ≤ bytes (name c)) = true →
      decide (bytes (name a) ≤ bytes (name c)) = true := by
    intro a b c hab hbc
    rw [decide_eq_true_iff, bytes_le_iff] at hab hbc ⊢
    exact String.le_trans hab hbc
  have htotal : ∀ a b : α, (decide (bytes (name a) ≤ bytes (name b))
      || decide (bytes (name b) ≤ bytes (name a))) = true := by
    intro a b
    rw [Bool.or_eq_true, decide_eq_true_iff, decide_eq_true_iff, bytes_le_iff, bytes_le_iff]
    exact String.le_total (name a) (name b)
  have hsorted := List.pairwise_mergeSort htrans htotal xs
  exact hsorted.imp fun h => bytes_le_iff.1 (decide_eq_true_iff.1 h)

/-- Where the names are distinct, each one is less than the next. -/
theorem sortOn_ascending {name : α → String} {xs : List α} (h : (xs.map name).Nodup) :
    (sortOn name xs).Pairwise fun a b => name a < name b := by
  have hdistinct : ((sortOn name xs).map name).Nodup :=
    ((sortOn_perm name xs).map name).nodup_iff.2 h
  have hne : (sortOn name xs).Pairwise fun a b => name a ≠ name b := List.pairwise_map.1 hdistinct
  refine (sortOn_pairwise_le name xs).imp₂ (fun a b hle hne => ?_) hne
  exact String.not_le.1 fun hge => hne (String.le_antisymm hle hge)

/-- A list that ascends is the sorted form of every list with the same elements. -/
theorem eq_sortOn_of_perm {name : α → String} {xs ys : List α} (h : xs.Perm ys)
    (hxs : xs.Pairwise fun a b => name a < name b) : xs = sortOn name ys := by
  have hnames : (ys.map name).Nodup :=
    (h.map name).nodup_iff.1 (List.pairwise_map.2 (hxs.imp String.ne_of_lt))
  refine List.Perm.eq_of_pairwise (fun a b _ _ hab hba => ?_) hxs (sortOn_ascending hnames)
    (h.trans (sortOn_perm name ys).symm)
  exact absurd (String.lt_trans hab hba) (String.lt_irrefl _)

/-- The order of texts sorts them by their bytes. -/
theorem mergeSort_eq_sortOn (xs : List String) : xs.mergeSort = sortOn id xs := by
  have hle : (fun a b : String => decide (a ≤ b)) = fun a b => decide (bytes a ≤ bytes b) := by
    funext a b
    exact decide_eq_decide.2 bytes_le_iff.symm
  rw [sortOn, hle]
  rfl

end Polyglot.Text
