import FlowCheck.Text.Blank
import FlowCheck.Text.Numeral
import Mathlib.Data.List.DropRight
import Mathlib.Data.Nat.Digits.Defs

/-!
# Trimmed words and numerals

Trimming leaves nothing more to trim (`trim_trim`).  Two words are the same up to case if they differ in ASCII
capitals only (`lowerAscii_eq_iff`).  A numeral is a number in decimal digits, perhaps after a plus sign, and
exactly the numerals of 64 bits are read (`word64?_eq_some_iff`).
-/

namespace FlowCheck.Text

/-! ### Trimming -/

theorem dropEndBlanks_eq (cs : List Char) : dropEndBlanks cs = cs.rdropWhile isBlank := rfl

/-- Without blanks at its start, a text has none there after those at its end are gone. -/
theorem dropWhile_rdropWhile {cs : List Char} (h : cs.dropWhile isBlank = cs) :
    (cs.rdropWhile isBlank).dropWhile isBlank = cs.rdropWhile isBlank := by
  obtain ⟨rest, hrest⟩ := List.rdropWhile_prefix isBlank cs
  cases hleft : cs.rdropWhile isBlank with
  | nil => rfl
  | cons c left =>
    rw [hleft, List.cons_append] at hrest
    have hc : isBlank c = false := by
      by_contra hblank
      rw [← hrest, List.dropWhile_cons, if_pos (by simpa using hblank)] at h
      have hlength := (List.dropWhile_sublist isBlank (l := left ++ rest)).length_le
      rw [h, List.length_cons] at hlength
      omega
    rw [List.dropWhile_cons, hc, if_neg Bool.false_ne_true]

theorem trim_trim (s : String) : trim (trim s) = trim s := by
  have hstart : (s.toList.dropWhile isBlank).dropWhile isBlank = s.toList.dropWhile isBlank :=
    List.dropWhile_idempotent isBlank s.toList
  have hend := List.rdropWhile_idempotent isBlank (s.toList.dropWhile isBlank)
  rw [trim, trim, String.toList_ofList, dropEndBlanks_eq, dropEndBlanks_eq, dropWhile_rdropWhile hstart, hend]

/-- The second text is what is left of the first without the blanks at both ends. -/
def Strips (cs rest : List Char) : Prop :=
  ∃ before after, cs = before ++ rest ++ after ∧ (∀ c ∈ before ++ after, isBlank c = true) ∧
    (∀ c ∈ rest.head?, isBlank c = false) ∧ ∀ c ∈ rest.getLast?, isBlank c = false

/-- No blank stands at an end exactly if there is nothing to drop there. -/
private theorem dropWhile_isBlank_eq_self_iff {cs : List Char} :
    cs.dropWhile isBlank = cs ↔ ∀ c ∈ cs.head?, isBlank c = false := by
  cases cs with
  | nil => simp
  | cons c cs => simp [List.dropWhile_eq_self_iff]

private theorem rdropWhile_isBlank_eq_self_iff {cs : List Char} :
    cs.rdropWhile isBlank = cs ↔ ∀ c ∈ cs.getLast?, isBlank c = false := by
  rw [List.rdropWhile, ← List.reverse_inj, List.reverse_reverse, dropWhile_isBlank_eq_self_iff, List.head?_reverse]

theorem strips_trim (s : String) : Strips s.toList (trim s).toList := by
  have hstart := List.takeWhile_append_dropWhile (p := isBlank) (l := s.toList)
  have hend := List.rdropWhile_append_rtakeWhile (p := isBlank) (l := s.toList.dropWhile isBlank)
  rw [trim, String.toList_ofList, dropEndBlanks_eq]
  refine ⟨s.toList.takeWhile isBlank, (s.toList.dropWhile isBlank).rtakeWhile isBlank, ?_, ?_, ?_, ?_⟩
  · rw [List.append_assoc, hend, hstart]
  · exact List.forall_mem_append.2 ⟨fun _ => List.mem_takeWhile_imp, fun _ => List.mem_rtakeWhile_imp⟩
  · exact dropWhile_isBlank_eq_self_iff.1 (dropWhile_rdropWhile (List.dropWhile_idempotent isBlank s.toList))
  · exact rdropWhile_isBlank_eq_self_iff.1 (List.rdropWhile_idempotent isBlank _)

/-- Trimming is the only way to strip a text. -/
theorem strips_iff {s : String} {rest : List Char} : Strips s.toList rest ↔ rest = (trim s).toList := by
  refine ⟨?_, fun h => h ▸ strips_trim s⟩
  rintro ⟨before, after, hs, hblank, hhead, hlast⟩
  obtain ⟨hbefore, hafter⟩ := List.forall_mem_append.1 hblank
  have hend : (rest ++ after).rdropWhile isBlank = rest := by
    have hafter' : ∀ c ∈ after.reverse, isBlank c = true := fun c hc => hafter c (List.mem_reverse.1 hc)
    rw [List.rdropWhile, List.reverse_append, List.dropWhile_append_of_pos hafter']
    exact rdropWhile_isBlank_eq_self_iff.2 hlast
  rw [trim, String.toList_ofList, dropEndBlanks_eq, hs, List.append_assoc, List.dropWhile_append_of_pos hbefore]
  cases rest with
  | nil =>
    rw [List.nil_append, List.dropWhile_eq_nil_iff.2 hafter]
    rfl
  | cons c rest =>
    rw [List.cons_append, List.dropWhile_cons, hhead c rfl, if_neg Bool.false_ne_true]
    exact hend.symm

/-! ### Case -/

def IsCapital (c : Char) : Prop :=
  'A' ≤ c ∧ c ≤ 'Z'

/-- The two characters are the same, or the first is the capital of the second. -/
def SameLetter (c d : Char) : Prop :=
  c = d ∨ IsCapital c ∧ d.toNat = c.toNat + 32

/-- The text is the word up to the case of ASCII letters; the word has no capitals. -/
def SameWord (s word : String) : Prop :=
  List.Forall₂ SameLetter s.toList word.toList

theorem toLower_of_not_isCapital {c : Char} (h : ¬IsCapital c) : c.toLower = c := by
  have hrange : ¬(c.val ≥ 'A'.val ∧ c.val ≤ 'Z'.val) := h
  exact dif_neg hrange

theorem toNat_toLower {c : Char} (h : IsCapital c) : c.toLower.toNat = c.toNat + 32 := by
  have hrange : c.val ≥ 'A'.val ∧ c.val ≤ 'Z'.val := h
  have hle : c.val.toNat ≤ 90 := UInt32.le_iff_toNat_le.1 h.2
  refine (congrArg Char.toNat (dif_pos hrange : c.toLower = _)).trans ?_
  show (c.val + ('a'.val - 'A'.val)).toNat = c.val.toNat + 32
  rw [UInt32.toNat_add]
  show (c.val.toNat + 32) % 2 ^ 32 = c.val.toNat + 32
  omega

theorem toLower_eq_iff {c d : Char} (hd : ¬IsCapital d) : c.toLower = d ↔ SameLetter c d := by
  by_cases hc : IsCapital c
  · have hne : c ≠ d := fun heq => hd (heq ▸ hc)
    rw [← Char.toNat_inj, toNat_toLower hc, SameLetter, or_iff_right hne, and_iff_right hc, eq_comm]
  · rw [toLower_of_not_isCapital hc, SameLetter, or_iff_left fun h => hc h.1]

theorem lowerAscii_eq_iff {s word : String} (hword : ∀ d ∈ word.toList, ¬IsCapital d) :
    lowerAscii s = word ↔ SameWord s word := by
  have hchars : ∀ cs ds : List Char, (∀ d ∈ ds, ¬IsCapital d) →
      (cs.map Char.toLower = ds ↔ List.Forall₂ SameLetter cs ds) := by
    intro cs
    induction cs with
    | nil =>
      intro ds _
      cases ds with
      | nil => exact iff_of_true rfl .nil
      | cons d ds => exact iff_of_false nofun nofun
    | cons c cs ih =>
      intro ds hds
      cases ds with
      | nil => exact iff_of_false nofun nofun
      | cons d ds =>
        rw [List.forall_mem_cons] at hds
        rw [List.map_cons, List.cons.injEq, List.forall₂_cons, toLower_eq_iff hds.1, ih ds hds.2]
  rw [SameWord, ← hchars s.toList word.toList hword, lowerAscii, ← String.toList_inj, String.toList_ofList]

/-! ### Numerals -/

/-- The number in decimal digits, the most significant first. -/
def decimal (digits : List Char) : Nat :=
  Nat.ofDigits 10 (digits.reverse.map fun c => c.toNat - '0'.toNat)

/-- The text gives the number in decimal digits, perhaps after a plus sign. -/
def IsNumeral (s : String) (n : UInt64) : Prop :=
  ∃ digits, (s.toList = digits ∨ s.toList = '+' :: digits) ∧ digits ≠ [] ∧ (∀ c ∈ digits, c.isDigit = true) ∧
    n.toNat = decimal digits

theorem foldl_eq_decimal (digits : List Char) :
    digits.foldl (fun n c => 10 * n + (c.toNat - '0'.toNat)) 0 = decimal digits := by
  induction digits using List.reverseRecOn with
  | nil => rfl
  | append_singleton digits c ih =>
    rw [List.foldl_append, ih, decimal, decimal, List.reverse_append, List.reverse_singleton, List.singleton_append,
      List.map_cons, Nat.ofDigits_cons, List.foldl_cons, List.foldl_nil]
    exact Nat.add_comm _ _

/-- The digits of a numeral: all characters, or those after a plus sign. -/
theorem word64?_eq (s : String) (digits : List Char) (hdigits : s.toList = '+' :: digits ∨
    s.toList = digits ∧ ∀ rest, digits ≠ '+' :: rest) :
    word64? s =
      if !digits.isEmpty && digits.all Char.isDigit && decimal digits < 0x10000000000000000 then
        some (decimal digits).toUInt64
      else none := by
  rw [← foldl_eq_decimal, word64?]
  rcases hdigits with heq | ⟨heq, hne⟩
  · rw [heq]
    rfl
  · rw [heq]
    split
    · rename_i rest
      exact absurd rfl (hne rest)
    · rfl

theorem exists_digits (s : String) :
    ∃ digits, s.toList = '+' :: digits ∨ s.toList = digits ∧ ∀ rest, digits ≠ '+' :: rest := by
  by_cases hplus : ∃ rest, s.toList = '+' :: rest
  · obtain ⟨rest, hrest⟩ := hplus
    exact ⟨rest, .inl hrest⟩
  · exact ⟨s.toList, .inr ⟨rfl, fun rest hrest => hplus ⟨rest, hrest⟩⟩⟩

theorem word64?_eq_some_iff {s : String} {n : UInt64} : word64? s = some n ↔ IsNumeral s n := by
  constructor
  · intro h
    obtain ⟨digits, hdigits⟩ := exists_digits s
    rw [word64?_eq s digits hdigits] at h
    split at h
    · rename_i hfits
      simp only [Bool.and_eq_true, Bool.not_eq_true', List.isEmpty_eq_false_iff, List.all_eq_true,
        decide_eq_true_eq] at hfits
      obtain ⟨⟨hne, hall⟩, hlt⟩ := hfits
      obtain rfl : (decimal digits).toUInt64 = n := Option.some.inj h
      refine ⟨digits, ?_, hne, hall, ?_⟩
      · exact hdigits.symm.imp_left And.left
      · exact UInt64.toNat_ofNat_of_lt' hlt
    · cases h
  · rintro ⟨digits, hs, hne, hall, hn⟩
    have hfits : decimal digits < 0x10000000000000000 := by
      rw [← hn]
      exact n.toNat_lt
    -- a plus sign is no digit, so digits do not start with one
    have hdigits : s.toList = '+' :: digits ∨ s.toList = digits ∧ ∀ rest, digits ≠ '+' :: rest := by
      refine hs.symm.imp_right fun heq => ⟨heq, ?_⟩
      rintro rest rfl
      exact absurd (hall '+' List.mem_cons_self) (by decide)
    rw [word64?_eq s digits hdigits, if_pos, ← hn]
    · exact congrArg some UInt64.ofNat_toNat
    · simp only [Bool.and_eq_true, Bool.not_eq_true', List.isEmpty_eq_false_iff, List.all_eq_true, decide_eq_true_eq]
      exact ⟨⟨hne, hall⟩, hfits⟩

end FlowCheck.Text
