import Polyglot.Files.Path
import Polyglot.Proofs.Text.ByteOrder

/-!
# The extension of a path

The extension is cut out at slashes and then at the last dot, so neither is left in it
(`free_of_extension?`); and whatever has neither is the extension of every file name that ends
in a dot and it (`extension?_append`).

Slash and dot are single bytes in UTF-8, and no other character has these bytes in its form. So
the same holds of the characters of an extension that is a text (`free_of_extensionText?`,
`extensionText?_append`).
-/

namespace Polyglot

namespace Path

/-! ## Names -/

/-- A path that is empty or ends in a slash, so that a name may follow. -/
def EndsOpen (front : List UInt8) : Prop := front = [] ∨ front.getLast? = some slash

theorem pieces_of_not_mem {name : List UInt8} (h : slash ∉ name) : pieces name = [name] :=
  List.splitOn_eq_singleton h

theorem exists_pieces_append {front name : List UInt8} (hfront : EndsOpen front)
    (hname : slash ∉ name) : ∃ before, pieces (front ++ name) = before ++ [name] := by
  rcases hfront with rfl | hlast
  · exact ⟨[], pieces_of_not_mem hname⟩
  · obtain ⟨rest, rfl⟩ := List.getLast?_eq_some_iff.1 hlast
    refine ⟨pieces rest, ?_⟩
    have hsplit : pieces (rest ++ slash :: name) = pieces rest ++ pieces name :=
      List.splitOnP_append_cons rest name (beq_self_eq_true slash)
    rw [List.append_assoc, List.singleton_append, hsplit, pieces_of_not_mem hname]

theorem slash_not_mem_of_mem_pieces {bytes piece : List UInt8} (h : piece ∈ pieces bytes) :
    slash ∉ piece := by
  unfold pieces List.splitOn at h
  induction bytes generalizing piece with
  | nil =>
    rw [List.mem_singleton.1 h]
    exact List.not_mem_nil
  | cons b bytes ih =>
    rw [List.splitOnP_cons_eq_if_modifyHead] at h
    by_cases hb : b = slash
    · rw [if_pos (beq_iff_eq.2 hb)] at h
      rcases List.mem_cons.1 h with rfl | h
      · exact List.not_mem_nil
      · exact ih h
    · rw [if_neg (by simpa using hb)] at h
      -- the byte goes to the first of the pieces of the rest
      obtain ⟨first, rest, hrest⟩ :=
        List.exists_cons_of_ne_nil (List.splitOnP_ne_nil (· == slash) bytes)
      rw [hrest, List.modifyHead_cons] at h
      rcases List.mem_cons.1 h with rfl | h
      · have hfirst : slash ∉ first := ih (hrest ▸ List.mem_cons_self)
        exact fun hmem => (List.mem_cons.1 hmem).elim (fun heq => hb heq.symm) hfirst
      · exact ih (hrest ▸ List.mem_cons_of_mem _ h)

theorem slash_not_mem_of_fileName? {p : Path} {name : List UInt8} (h : p.fileName? = some name) :
    slash ∉ name := by
  unfold fileName? at h
  split at h
  · cases h
  · rename_i piece rest hpieces
    split at h
    · cases h
    · cases h
      have hmem : name ∈ (pieces p.bytes).reverse :=
        (List.dropWhile_sublist _).subset (hpieces ▸ List.mem_cons_self)
      exact slash_not_mem_of_mem_pieces (List.mem_reverse.1 hmem)

/-- What follows an open front is the file name, unless it stands for a folder. -/
theorem fileName?_append {front name : List UInt8} (hfront : EndsOpen front)
    (hname : slash ∉ name) (hempty : name ≠ []) (hself : name ≠ [dot])
    (hparent : name ≠ [dot, dot]) : fileName? ⟨front ++ name⟩ = some name := by
  obtain ⟨before, hpieces⟩ := exists_pieces_append hfront hname
  have hkept : ¬ (name == [] || name == [dot]) = true := by simp [hempty, hself]
  have hnot : ¬ (name == [dot, dot]) = true := by simpa using hparent
  rw [fileName?, hpieces, List.reverse_append, List.reverse_singleton, List.singleton_append,
    List.dropWhile_cons_of_neg (p := fun piece => piece == [] || piece == [dot]) hkept]
  exact if_neg hnot

/-! ## The last dot -/

theorem cutAtLastDot_append {stem ext : List UInt8} (h : dot ∉ ext) :
    cutAtLastDot (stem ++ dot :: ext) = some (stem, ext) := by
  have hrev : (stem ++ dot :: ext).reverse = ext.reverse ++ dot :: stem.reverse := by simp
  have hfree : ∀ b ∈ ext.reverse, (b != dot) = true := by
    intro b hb
    rw [bne_iff_ne]
    rintro rfl
    exact h (List.mem_reverse.1 hb)
  have hstop : ¬ (fun b => b != dot) dot = true := by simp
  rw [cutAtLastDot, hrev, List.takeWhile_append_of_pos hfree, List.dropWhile_append_of_pos hfree,
    List.takeWhile_cons_of_neg (p := (· != dot)) hstop,
    List.dropWhile_cons_of_neg (p := (· != dot)) hstop, List.append_nil]
  simp

theorem mem_of_extensionOfName {name ext : List UInt8} (h : extensionOfName name = some ext) :
    dot ∉ ext ∧ ext ⊆ name := by
  have hext : ext = (name.reverse.takeWhile (· != dot)).reverse := by
    unfold extensionOfName cutAtLastDot at h
    cases hdrop : name.reverse.dropWhile (· != dot) with
    | nil => simp [hdrop] at h
    | cons b before =>
      simp only [hdrop] at h
      split at h
      · cases h
      · exact (Option.some.inj h).symm
  constructor
  · intro hmem
    rw [hext, List.mem_reverse] at hmem
    simpa using List.all_eq_true.1 List.all_takeWhile dot hmem
  · intro b hb
    rw [hext, List.mem_reverse] at hb
    exact List.mem_reverse.1 ((List.takeWhile_sublist _).subset hb)

/-- Neither slash nor dot is left in an extension. -/
theorem free_of_extension? {p : Path} {ext : List UInt8} (h : p.extension? = some ext) :
    slash ∉ ext ∧ dot ∉ ext := by
  obtain ⟨name, hname, hext⟩ := Option.bind_eq_some_iff.1 h
  obtain ⟨hdot, hsub⟩ := mem_of_extensionOfName hext
  exact ⟨fun hmem => slash_not_mem_of_fileName? hname (hsub hmem), hdot⟩

/-- What has neither is the extension of all names that end in a dot and it, whatever the stem. -/
theorem extension?_append {front stem ext : List UInt8} (hfront : EndsOpen front)
    (hstem : stem ≠ []) (hstem_free : slash ∉ stem) (hext : ext ≠ []) (hslash : slash ∉ ext)
    (hdot : dot ∉ ext) : extension? ⟨front ++ (stem ++ dot :: ext)⟩ = some ext := by
  obtain ⟨b, bs, rfl⟩ := List.exists_cons_of_ne_nil hstem
  obtain ⟨c, cs, rfl⟩ := List.exists_cons_of_ne_nil hext
  have hname : slash ∉ (b :: bs) ++ dot :: c :: cs := by
    intro hmem
    rcases List.mem_append.1 hmem with hmem | hmem
    · exact hstem_free hmem
    · rcases List.mem_cons.1 hmem with heq | hmem
      · exact absurd heq (by decide)
      · exact hslash hmem
  -- three bytes at least are more than those of the names that stand for folders
  have hlength : 2 < ((b :: bs) ++ dot :: c :: cs).length := by
    simp only [List.length_append, List.length_cons]
    omega
  have hlonger : ∀ short : List UInt8, short.length ≤ 2 → (b :: bs) ++ dot :: c :: cs ≠ short := by
    rintro short hshort rfl
    omega
  have hfile : fileName? ⟨front ++ ((b :: bs) ++ dot :: c :: cs)⟩
      = some ((b :: bs) ++ dot :: c :: cs) :=
    fileName?_append hfront hname (hlonger [] (by decide)) (hlonger [dot] (by decide))
      (hlonger [dot, dot] (by decide))
  rw [extension?, hfile, Option.bind_some, extensionOfName, cutAtLastDot_append hdot]
  rfl

/-! ## Extensions that are texts -/

theorem bytes_of_toString? {bytes : List UInt8} {s : String} (h : toString? ⟨bytes⟩ = some s) :
    Text.bytes s = bytes := by
  unfold toString? String.fromUTF8? at h
  split at h
  · cases h
    rfl
  · cases h

theorem toString?_bytes (s : String) : toString? ⟨Text.bytes s⟩ = some s := by
  have hvalid : (⟨(Text.bytes s).toArray⟩ : ByteArray).IsValidUTF8 := s.isValidUTF8
  rw [toString?, String.fromUTF8?, dif_pos hvalid]
  rfl

/-- A byte below `0x80` is in the form of the character of this number and of no other. -/
theorem mem_utf8EncodeChar {b : UInt8} (hb : b.toNat < 0x80) {c : Char} :
    b ∈ String.utf8EncodeChar c ↔ c.val.toNat = b.toNat := by
  have hc : c.val.toNat < 0x110000 := by
    have hvalid := c.valid
    simp only [UInt32.isValidChar, Nat.isValidChar] at hvalid
    omega
  -- one case for each length: in a longer form all bytes are from `0x80` on
  fun_cases String.utf8EncodeChar c <;>
    simp only [List.mem_cons, List.not_mem_nil, or_false, ← UInt8.toNat_inj, UInt8.toNat_ofNat']
  all_goals
    simp (disch := omega) only [Nat.mod_eq_of_lt]
    omega

theorem mem_bytes {b : UInt8} (hb : b.toNat < 0x80) {c : Char} (hc : c.val.toNat = b.toNat)
    {s : String} : b ∈ Text.bytes s ↔ c ∈ s.toList := by
  rw [Text.bytes_eq_flatMap, List.mem_flatMap]
  constructor
  · rintro ⟨d, hd, hmem⟩
    have hval : d.val.toNat = c.val.toNat := ((mem_utf8EncodeChar hb).1 hmem).trans hc.symm
    rw [Char.ext (UInt32.toNat_inj.1 hval)] at hd
    exact hd
  · intro hmem
    exact ⟨c, hmem, (mem_utf8EncodeChar hb).2 hc⟩

theorem slash_mem_bytes {s : String} : slash ∈ Text.bytes s ↔ '/' ∈ s.toList :=
  mem_bytes (by decide) rfl

theorem dot_mem_bytes {s : String} : dot ∈ Text.bytes s ↔ '.' ∈ s.toList :=
  mem_bytes (by decide) rfl

/-- Neither slash nor dot is left in an extension that is a text. -/
theorem free_of_extensionText? {p : Path} {s : String} (h : p.extensionText? = some s) :
    '/' ∉ s.toList ∧ '.' ∉ s.toList := by
  obtain ⟨ext, hext, htext⟩ := Option.bind_eq_some_iff.1 h
  have hfree := free_of_extension? hext
  rw [← bytes_of_toString? htext, slash_mem_bytes, dot_mem_bytes] at hfree
  exact hfree

/-- A text that has neither is the extension of all names that end in a dot and it. -/
theorem extensionText?_append {front stem : List UInt8} (hfront : EndsOpen front)
    (hstem : stem ≠ []) (hstem_free : slash ∉ stem) {s : String} (hs : s ≠ "")
    (hslash : '/' ∉ s.toList) (hdot : '.' ∉ s.toList) :
    extensionText? ⟨front ++ (stem ++ dot :: Text.bytes s)⟩ = some s := by
  have hext : Text.bytes s ≠ [] := by
    intro hempty
    have htext := toString?_bytes s
    rw [hempty] at htext
    exact hs (Option.some.inj htext).symm
  rw [← slash_mem_bytes] at hslash
  rw [← dot_mem_bytes] at hdot
  rw [extensionText?, extension?_append hfront hstem hstem_free hext hslash hdot,
    Option.bind_some, toString?_bytes]

example : extensionText? (.ofString "src/app..d.ts/.") = some "ts" := by decide +kernel

end Path

end Polyglot
