import FlowCheck.Proofs.Text.Marks
import FlowCheck.Text.Quoted

/-!
# Where a quoted text ends

Between double quotes each character stands for itself or has an escape of its own, and none of them begins like
another one or like the closing quote (`escaped_append_inj`).  So a quoted text tells which text it is, and of
two quoted texts neither is the beginning of the other one (`eq_of_isPrefix_quoted`).
-/

namespace FlowCheck.Text

/-! ### Escapes -/

theorem hex_of_lt {n : Nat} (h : n < 16) : hex n = [Nat.digitChar n] :=
  Nat.toDigits_of_lt_base h

/-- The last digit of a numeral, and the numeral before it. -/
theorem hex_of_le {n : Nat} (h : 16 ≤ n) : hex n = hex (n / 16) ++ [Nat.digitChar (n % 16)] :=
  Nat.toDigits_of_base_le (by decide) h

theorem notMem_hex {c : Char} (hc : ∀ m < 16, c ≠ Nat.digitChar m) (n : Nat) : c ∉ hex n := by
  induction n using Nat.strongRecOn with
  | ind n ih =>
    by_cases h : n < 16
    · rw [hex_of_lt h, List.mem_singleton]
      exact hc n h
    · rw [hex_of_le (Nat.le_of_not_lt h), List.mem_append, List.mem_singleton]
      rintro (hrest | hlast)
      · exact ih (n / 16) (by omega) hrest
      · exact hc (n % 16) (by omega) hlast

theorem digitChar_inj {m n : Nat} (hm : m < 16) (hn : n < 16) (h : Nat.digitChar m = Nat.digitChar n) : m = n := by
  have hall : ∀ m < 16, ∀ n < 16, Nat.digitChar m = Nat.digitChar n → m = n := by decide
  exact hall m hm n hn h

theorem hex_inj {m n : Nat} (h : hex m = hex n) : m = n := by
  have hne : ∀ k : Nat, hex k ≠ [] := fun k => Nat.toDigits_ne_nil
  induction m using Nat.strongRecOn generalizing n with
  | ind m ih =>
    by_cases hm : m < 16 <;> by_cases hn : n < 16
    · rw [hex_of_lt hm, hex_of_lt hn] at h
      exact digitChar_inj hm hn (List.cons.inj h).1
    · rw [hex_of_lt hm, hex_of_le (Nat.le_of_not_lt hn), List.singleton_eq_append_iff] at h
      rcases h with ⟨h, -⟩ | ⟨-, h⟩
      · exact absurd h (hne _)
      · cases h
    · rw [hex_of_lt hn, hex_of_le (Nat.le_of_not_lt hm), List.append_eq_singleton_iff] at h
      rcases h with ⟨h, -⟩ | ⟨-, h⟩
      · exact absurd h (hne _)
      · cases h
    · rw [hex_of_le (Nat.le_of_not_lt hm), hex_of_le (Nat.le_of_not_lt hn)] at h
      obtain ⟨hrest, hlast⟩ := List.append_inj' h rfl
      have hdiv : m / 16 = n / 16 := ih (m / 16) (by omega) hrest
      have hmod : m % 16 = n % 16 := digitChar_inj (by omega) (by omega) (List.cons.inj hlast).1
      omega

/-- The characters with a letter of their own behind the backslash, and their letters. -/
def escapeLetters : List (Char × Char) :=
  [('"', '"'), ('\\', '\\'), ('\n', 'n'), ('\r', 'r'), ('\t', 't'), ('\x00', '0')]

/-- A character between double quotes stands for itself, or is behind a backslash, with its code point in braces if
there is no letter for it. -/
theorem escaped_cases (c : Char) :
    escaped '"' c = [c] ∧ c ≠ '"' ∧ c ≠ '\\' ∨ (∃ d, escaped '"' c = ['\\', d] ∧ (c, d) ∈ escapeLetters) ∨
      escaped '"' c = '\\' :: 'u' :: '\x7b' :: (hex c.toNat ++ ['\x7d']) := by
  by_cases hquote : c = '"'
  · exact Or.inr (Or.inl ⟨'"', by rw [escaped, if_pos hquote], by rw [hquote]; decide⟩)
  by_cases hslash : c = '\\'
  · exact Or.inr (Or.inl ⟨'\\', by rw [hslash]; rfl, by rw [hslash]; decide⟩)
  by_cases hletter : c = '\n' ∨ c = '\r' ∨ c = '\t' ∨ c = '\x00'
  · refine Or.inr (Or.inl ?_)
    rcases hletter with rfl | rfl | rfl | rfl
    · exact ⟨'n', rfl, by decide⟩
    · exact ⟨'r', rfl, by decide⟩
    · exact ⟨'t', rfl, by decide⟩
    · exact ⟨'0', rfl, by decide⟩
  simp only [not_or] at hletter
  obtain ⟨hn, hr, ht, hzero⟩ := hletter
  rw [escaped, if_neg hquote, if_neg hslash, if_neg hn, if_neg hr, if_neg ht, if_neg hzero]
  split
  · exact Or.inr (Or.inr rfl)
  · exact Or.inl ⟨rfl, hquote, hslash⟩

theorem escaped_append_ne_quote (c : Char) (s t : List Char) : escaped '"' c ++ s ≠ '"' :: t := by
  rcases escaped_cases c with ⟨h, hquote, -⟩ | ⟨d, h, -⟩ | h <;> rw [h]
  · exact fun heq => hquote (List.cons.inj heq).1
  · exact fun heq => absurd (List.cons.inj heq).1 (by decide)
  · exact fun heq => absurd (List.cons.inj heq).1 (by decide)

/-- One escape tells its character, and can be told from what follows it. -/
theorem escaped_append_inj {c d : Char} {s t : List Char} (h : escaped '"' c ++ s = escaped '"' d ++ t) :
    c = d ∧ s = t := by
  have hbrace : ∀ n, '\x7d' ∉ hex n := notMem_hex (by decide)
  have hletter : ∀ p ∈ escapeLetters, p.2 ≠ 'u' := by decide
  have hletters : ∀ p ∈ escapeLetters, ∀ q ∈ escapeLetters, p.2 = q.2 → p.1 = q.1 := by decide
  rcases escaped_cases c with ⟨hc, -, hcs⟩ | ⟨c', hc, hcl⟩ | hc <;>
    rcases escaped_cases d with ⟨hd, -, hds⟩ | ⟨d', hd, hdl⟩ | hd <;>
      rw [hc, hd] at h <;> simp only [List.cons_append, List.nil_append, List.cons.injEq] at h
  · exact h
  · exact absurd h.1 hcs
  · exact absurd h.1 hcs
  · exact absurd h.1.symm hds
  · exact ⟨hletters _ hcl _ hdl h.2.1, h.2.2⟩
  · exact absurd h.2.1 (hletter _ hcl)
  · exact absurd h.1.symm hds
  · exact absurd h.2.1.symm (hletter _ hdl)
  · rw [List.append_assoc, List.append_assoc] at h
    obtain ⟨hhex, hst⟩ := append_cons_inj (hbrace _) (hbrace _) h.2.2.2
    exact ⟨Char.toNat_inj.1 (hex_inj hhex), hst⟩

/-! ### Quoted texts -/

/-- A quoted text tells its characters, and can be told from what follows it. -/
theorem flatMap_escaped_append_inj {as bs s t : List Char}
    (h : as.flatMap (escaped '"') ++ '"' :: s = bs.flatMap (escaped '"') ++ '"' :: t) : as = bs ∧ s = t := by
  induction as generalizing bs with
  | nil =>
    cases bs with
    | nil => exact ⟨rfl, (List.cons.inj h).2⟩
    | cons b bs =>
      rw [List.flatMap_cons, List.append_assoc] at h
      exact absurd h.symm (escaped_append_ne_quote b _ _)
  | cons a as ih =>
    cases bs with
    | nil =>
      rw [List.flatMap_cons, List.append_assoc] at h
      exact absurd h (escaped_append_ne_quote a _ _)
    | cons b bs =>
      rw [List.flatMap_cons, List.flatMap_cons, List.append_assoc, List.append_assoc] at h
      obtain ⟨hfirst, hrest⟩ := escaped_append_inj h
      obtain ⟨hbodies, hst⟩ := ih hrest
      exact ⟨by rw [hfirst, hbodies], hst⟩

theorem eq_of_isPrefix_quoted {a b : String} (h : (quoted a).toList <+: (quoted b).toList) : a = b := by
  obtain ⟨rest, hrest⟩ := h
  simp only [quoted, String.toList_ofList, List.cons_append, List.append_assoc, List.nil_append] at hrest
  obtain ⟨hbodies, -⟩ := flatMap_escaped_append_inj (List.cons.inj hrest).2
  exact String.toList_inj.1 hbodies

theorem quoted_inj {a b : String} : quoted a = quoted b ↔ a = b :=
  ⟨fun h => eq_of_isPrefix_quoted (h ▸ List.prefix_refl _), congrArg quoted⟩

/-- No escape has a backtick. -/
theorem backtick_mem_of_mem_quoted {s : String} (h : '\x60' ∈ (quoted s).toList) : '\x60' ∈ s.toList := by
  have hletter : ∀ p ∈ escapeLetters, p.2 ≠ '\x60' := by decide
  have hmem : '\x60' ∈ s.toList.flatMap (escaped '"') := by simpa [quoted] using h
  obtain ⟨c, hc, hescaped⟩ := List.mem_flatMap.1 hmem
  rcases escaped_cases c with ⟨heq, -, -⟩ | ⟨d, heq, hd⟩ | heq <;> rw [heq] at hescaped
  · rw [List.mem_singleton] at hescaped
    rwa [hescaped]
  · have hbacktick : '\x60' = d := by simpa using hescaped
    exact absurd hbacktick.symm (hletter _ hd)
  · have hhex : '\x60' ∈ hex c.toNat := by simpa using hescaped
    exact absurd hhex (notMem_hex (by decide) _)

end FlowCheck.Text
