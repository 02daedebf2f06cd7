import FlowCheck.Proofs.Yaml.Blocks
import FlowCheck.Proofs.Yaml.Literal
import FlowCheck.Proofs.Yaml.PlainText

/-!
# Texts in YAML

The four styles of a text as the scanner meets them: in each it fills its line (`fills_plain`, `fills_singleQuoted`,
`fills_doubleQuoted`, `fills_literal`), and on one line it may be a key (`scans_plain`, `scans_singleQuoted`,
`scans_doubleQuoted`).

The printer picks a style by the characters of the text; what each style needs of them is there when it is picked
(`styled`), and a plain text is read as nothing but a text (`resolve_of_style`).
-/

namespace FlowCheck.Yaml

namespace TokenState

variable {c : Char} {cs rest more tail : List Char} {s : TokenState} {p p' : Place} {text : String}

/-! ### One token -/

theorem next_double (h : quotedScalar false .text [] .none (p.right 1) rest = .ok (text, p', more)) (s : TokenState) :
    s.next p '"' rest = (s.content p (.scalar false text)).map fun s => (s, p', more) := by
  have hplace : p.after '"' = p.right 1 := Place.after_eq_right rfl
  simp only [next, isMarker, hplace, bind, Except.bind]
  simp [h]
  cases s.content p (.scalar false text) <;> rfl

theorem next_single (h : quotedScalar true .text [] .none (p.right 1) rest = .ok (text, p', more)) (s : TokenState) :
    s.next p '\'' rest = (s.content p (.scalar false text)).map fun s => (s, p', more) := by
  have hplace : p.after '\'' = p.right 1 := Place.after_eq_right rfl
  simp only [next, isMarker, hplace, bind, Except.bind]
  simp [h]
  cases s.content p (.scalar false text) <;> rfl

theorem next_bar (hflow : s.inFlow = false) (hkey : s.openKey = none)
    (h : blockScalar true s.indent (p.right 1) rest = .ok (text, p', more)) :
    s.next p '|' rest = .ok ({ s.push (.scalar false text) with keyAllowed := true }, p', more) := by
  have hplace : p.after '|' = p.right 1 := Place.after_eq_right rfl
  have hdrop : s.dropKey = .ok s := by
    rw [dropKey, hkey]
    cases s
    cases hkey
    rfl
  simp only [next, isMarker, hplace, hflow, hdrop, bind, Except.bind]
  simp [h]
  rfl

theorem next_plain (hflow : s.inFlow = false) (hc : IsPlain (c :: cs)) {isBroken : Bool}
    (htail : ∀ c ∈ tail.head?, c = ':' ∨ c = '\n')
    (h : plainScalar false (s.indent + 1) [] .none p (c :: (cs ++ tail)) = .ok ((text, isBroken), p', more)) :
    s.next p c (cs ++ tail) =
      (s.content p (.scalar true text)).map fun s => ({ s with keyAllowed := isBroken }, p', more) := by
  obtain ⟨hspace, htab, hbreak, hopens, -, hmarkers⟩ := hc.opens
  obtain ⟨hdashes, hpoints⟩ := hmarkers tail htail
  simp only [Printer.opensMarkup, Bool.or_eq_false_iff, Bool.and_eq_false_imp, List.contains_cons, List.contains_nil,
    beq_eq_false_iff_ne, Bool.or_false, Bool.or_eq_true, decide_eq_true_eq] at hopens
  obtain ⟨hmarks, hgap⟩ := hopens
  -- a mark before a word is none
  have hword : c = '?' ∨ c = ':' ∨ c = '-' → endsWord (cs ++ tail) = false := fun hc =>
    endsWord_append (hgap (or_assoc.2 hc)) tail
  have hentry : ¬(c = '-' ∧ endsWord (cs ++ tail) = true) := by
    rintro ⟨hc, hends⟩
    rw [hword (by simp [hc])] at hends
    cases hends
  have hquestion : ¬(c = '?' ∧ endsWord (cs ++ tail) = true) := by
    rintro ⟨hc, hends⟩
    rw [hword (by simp [hc])] at hends
    cases hends
  have hcolon : ¬(c = ':' ∧ endsWord (cs ++ tail) = true) := by
    rintro ⟨hc, hends⟩
    rw [hword (by simp [hc])] at hends
    cases hends
  have hstarts : startsPlain false c (cs ++ tail) = true := by
    by_cases hc : c = '?' ∨ c = ':' ∨ c = '-'
    · have hends := hword hc
      generalize cs ++ tail = word at hends ⊢
      have hhead : word.head?.any isSpace = false := by
        cases word with
        | nil => rfl
        | cons d ds =>
          rw [endsWord, Bool.or_eq_false_iff] at hends
          exact hends.1
      rcases hc with rfl | rfl | rfl
      · simp [startsPlain, hends]
      · simp [startsPlain, hends]
      · simp [startsPlain, hhead]
    · simp only [not_or] at hc
      simp [startsPlain, isSpace, hspace, htab, hbreak, hmarks, hc]
  simp only [next, hflow, hdashes, hpoints, hmarks, hentry, hquestion, hcolon, hstarts, and_false, false_and, or_self,
    if_false, if_true, Bool.false_eq_true, false_or, h, bind, Except.bind]
  cases s.content p (.scalar true text) <;> rfl

/-! ### Double quotes -/

variable {i : Int} {n : Nat}

theorem next_doubleQuoted (cs : List Char) (s : TokenState) (p : Place) (rest : List Char) :
    s.next p '"' (cs.flatMap Printer.doubleEscape ++ ['"'] ++ rest) =
      (s.content p (.scalar false (String.ofList cs))).map fun s =>
        (s, p.right (Printer.doubleQuoted cs).length, rest) := by
  have hread := quotedScalar_double cs [] [] (p := p.right 1) (Nat.succ_pos _) rest
  have hlength : (p.right 1).right ((cs.flatMap Printer.doubleEscape).length + 1) =
      p.right (Printer.doubleQuoted cs).length := by
    rw [Place.right_right, Printer.doubleQuoted]
    simp [Nat.add_comm]
  rw [hlength] at hread
  rw [List.append_assoc, List.singleton_append]
  exact next_double hread s

theorem doubleQuoted_eq (cs : List Char) :
    Printer.doubleQuoted cs = '"' :: (cs.flatMap Printer.doubleEscape ++ ['"']) :=
  rfl

theorem fills_doubleQuoted (cs : List Char) :
    Fills i (Printer.doubleQuoted cs ++ ['\n']) [.scalar false (String.ofList cs)] := by
  rw [doubleQuoted_eq]
  exact .of_next (by decide) fun s p rest => ⟨p.right _, Nat.le_refl _, next_doubleQuoted cs s p ('\n' :: rest)⟩

theorem content_keyAllowed {α : Type} (s : TokenState) (p : Place) (tok : Token) (a : α) :
    (s.content p tok).map (fun s => ({ s with keyAllowed := false }, a)) = (s.content p tok).map fun s => (s, a) := by
  unfold content
  cases s.saveKey p <;> rfl

theorem scans_doubleQuoted (hlength : (Printer.doubleQuoted cs).length ≤ 1024) :
    Scans (Printer.doubleQuoted cs) (.scalar false (String.ofList cs)) where
  solid := ⟨_, _, rfl, by decide⟩
  length := hlength
  next s p c ds rest hcons _ _ := by
    rw [doubleQuoted_eq] at hcons
    cases hcons
    rw [next_doubleQuoted, content_keyAllowed]

/-! ### Single quotes -/

theorem next_singleQuoted (hn : 0 < n) (hchars : ∀ c ∈ cs, Printer.isPrintable c = true ∧ c ≠ '\n')
    (hchain : cs.IsChain Apart) (hrest : ∀ c ∈ rest.head?, c ≠ '\'') (s : TokenState) (p : Place) :
    s.next p '\'' (singleRest n false cs ++ rest) =
      (s.content p (.scalar false (String.ofList cs))).map fun s =>
        (s, (p.right 1).behind (singleRest n false cs), rest) := by
  have hgap : Gap.none.Behind false := .spaces []
  refine next_single ?_ s
  rw [quotedScalar_single hn hrest hgap (fun _ => Nat.succ_pos _) hchars hchain]
  · rfl
  · exact fun c _ => ⟨fun h => Bool.noConfusion h, fun h => absurd rfl h⟩

theorem fills_singleQuoted (hn : 0 < n) (hchars : ∀ c ∈ cs, Printer.isPrintable c = true ∧ c ≠ '\n')
    (hchain : cs.IsChain Apart) :
    Fills i (Printer.singleQuoted n cs ++ ['\n']) [.scalar false (String.ofList cs)] := by
  rw [singleQuoted_eq]
  refine .of_next (by decide) fun s p rest => ⟨_, ?_, next_singleQuoted hn hchars hchain (by simp) s p⟩
  exact Place.line_le_behind (p.right 1) _

theorem behind_singleRest (hbreak : ∀ c ∈ cs, Printer.isBreak c = false)
    (hchars : ∀ c ∈ cs, Printer.isPrintable c = true) (p : Place) :
    p.behind (singleRest n false cs) = p.right (singleRest n false cs).length := by
  refine Place.behind_eq_right ?_
  induction cs with
  | nil => exact List.forall_mem_singleton.2 rfl
  | cons c cs ih =>
    rw [List.forall_mem_cons] at hbreak hchars
    have hc := (isBreak_of_isPrintable hchars.1).trans hbreak.1
    have hstart : lineStart n false = [] := rfl
    rw [singleRest, hbreak.1, if_neg Bool.false_ne_true, hstart, List.nil_append]
    exact List.forall_mem_append.2 ⟨fun d => isBreak_of_mem_singleEscape hc, ih hbreak.2 hchars.2⟩

theorem scans_singleQuoted (hn : 0 < n) (hchars : ∀ c ∈ cs, Printer.isPrintable c = true ∧ c ≠ '\n')
    (hchain : cs.IsChain Apart) (hbreak : ∀ c ∈ cs, Printer.isBreak c = false)
    (hlength : (Printer.singleQuoted n cs).length ≤ 1024) :
    Scans (Printer.singleQuoted n cs) (.scalar false (String.ofList cs)) where
  solid := ⟨_, _, singleQuoted_eq n cs, by decide⟩
  length := hlength
  next s p c ds rest hcons _ _ := by
    rw [singleQuoted_eq] at hcons
    cases hcons
    rw [next_singleQuoted hn hchars hchain (by simp), behind_singleRest hbreak (fun c hc => (hchars c hc).1),
      content_keyAllowed, Place.right_right, singleQuoted_eq, List.length_cons, Nat.add_comm 1]

/-! ### Plain texts -/

theorem fills_plain (h : IsPlain cs) : Fills i (cs ++ ['\n']) [.scalar true (String.ofList cs)] := by
  intro done is b l column k rest hcolumn hb hends
  obtain ⟨c, cs, rfl⟩ := List.exists_cons_of_ne_nil h.ne_nil
  have hrest : rest = [] ∨ (k : Int) < i + 1 ∧ ∃ c cs, rest = c :: cs ∧ IsSolid c := by
    rcases hends with ⟨-, hrest⟩ | ⟨hk, hrest⟩
    · exact Or.inl hrest
    · exact Or.inr ⟨by omega, hrest⟩
  have htail : ∀ c ∈ ('\n' :: (Printer.spaces k ++ rest)).head?, c = ':' ∨ c = '\n' := by simp
  have hread := plainScalar_text h htail (i + 1) ⟨l, column⟩
  rw [plainScalar_newline hrest, List.reverse_reverse] at hread
  have hnext := next_plain (s := standing done i is b none) rfl h htail hread
  rw [content_standing] at hnext
  have htext : c :: cs ++ ['\n'] ++ (Printer.spaces k ++ rest) = c :: (cs ++ '\n' :: (Printer.spaces k ++ rest)) := by
    simp
  have hscalar : Reads ⟨standing done i is b none, ⟨l, column⟩, c :: (cs ++ '\n' :: (Printer.spaces k ++ rest))⟩
      ⟨standing (.scalar true (String.ofList (c :: cs)) :: done) i is true (keyAt b done i ⟨l, column⟩), ⟨l + 1, k⟩,
        rest⟩ :=
    .of_next (prepare_scalar hcolumn h.isSolid _) hnext (by simp only [List.length_cons, List.length_append]; omega)
  rw [htext]
  refine ⟨l + 1, hscalar.trans (.drop (fun k hk => ?_) _ _ _ _)⟩
  obtain ⟨hrequired, hplace⟩ := of_mem_keyAt hb hk
  rw [hplace]
  exact ⟨hrequired, Nat.lt_succ_self l⟩

theorem scans_plain (h : IsPlain cs) (hlength : cs.length ≤ 1024) : Scans cs (.scalar true (String.ofList cs)) where
  solid := by
    obtain ⟨c, cs, rfl⟩ := List.exists_cons_of_ne_nil h.ne_nil
    exact ⟨c, cs, rfl, h.isSolid⟩
  length := hlength
  next s p c ds rest hcons hflow hrest := by
    subst hcons
    have htail : ∀ c ∈ (':' :: rest).head?, c = ':' ∨ c = '\n' := by simp
    have hread := plainScalar_text h htail (s.indent + 1) p
    rw [plainScalar_colon hrest, List.reverse_reverse] at hread
    exact next_plain hflow h htail hread

/-! ### Literal blocks -/

theorem fills_literal (hn : (max i 0).toNat + 2 = n) (hne : cs ≠ [])
    (hchars : ∀ c ∈ cs, Printer.isPrintable c = true) :
    Fills i ('|' :: (Printer.literalMarks cs ++ '\n' :: literalRest n true cs)) [.scalar false (String.ofList cs)] := by
  intro done is b l column k rest hcolumn hb hends
  have hrest : k < n ∧ (rest = [] ∨ ∃ c cs, rest = c :: cs ∧ IsSolid c) := by
    rcases hends with ⟨hk, hrest⟩ | ⟨hk, hrest⟩
    · exact ⟨by omega, Or.inl hrest⟩
    · exact ⟨by omega, Or.inr hrest⟩
  obtain ⟨l', hread⟩ := blockScalar_literal hn hrest.1 hrest.2 hne hchars ((Place.mk l column).right 1)
  have hnext := next_bar (s := standing done i is b none) (p := ⟨l, column⟩) rfl rfl hread
  have htext : '|' :: (Printer.literalMarks cs ++ '\n' :: literalRest n true cs) ++ (Printer.spaces k ++ rest) =
      '|' :: (Printer.literalMarks cs ++ '\n' :: (literalRest n true cs ++ (Printer.spaces k ++ rest))) := by
    simp
  rw [htext]
  refine ⟨l', .of_next (prepare_scalar hcolumn (by decide) _) hnext ?_⟩
  simp only [List.length_cons, List.length_append]
  omega

/-! ### Styles -/

/-- The token of a text. -/
def textToken (s : String) : Token :=
  .scalar (Printer.style s == .plain) s

end TokenState

/-- What the style of a text says of its characters. -/
inductive Styled (cs : List Char) : Printer.Style → Prop
  | plain (h : IsPlain cs) : Styled cs .plain
  | single (hchars : ∀ c ∈ cs, Printer.isPrintable c = true ∧ c ≠ '\n') (hchain : cs.IsChain Apart) :
    Styled cs .single
  | double : Styled cs .double
  | literal (hne : cs ≠ []) (hchars : ∀ c ∈ cs, Printer.isPrintable c = true) (hfeed : '\n' ∈ cs) :
    Styled cs .literal

theorem isChain_of_pairs {r : Char → Char → Prop} {cs : List Char} (h : ∀ p ∈ Printer.pairs cs, r p.1 p.2) :
    cs.IsChain r := by
  induction cs with
  | nil => exact .nil
  | cons c cs ih =>
    cases cs with
    | nil => exact .singleton c
    | cons d cs =>
      have hpairs : Printer.pairs (c :: d :: cs) = (c, d) :: Printer.pairs (d :: cs) := rfl
      rw [hpairs, List.forall_mem_cons] at h
      exact .cons_cons h.1 (ih h.2)

theorem resolve_of_needsQuotes {s : String} (h : Printer.needsQuotes s = false) : resolve s = .text := by
  rw [Printer.needsQuotes, Bool.or_eq_false_iff] at h
  simpa using h.1

/-- A text is plain only where it is read as a text. -/
theorem resolve_of_style {s : String} (h : Printer.style s = .plain) : resolve s = .text := by
  refine resolve_of_needsQuotes (Bool.eq_false_iff.2 fun hneeds => ?_)
  simp only [Printer.style, hneeds, Bool.not_true, Bool.false_and, Bool.false_eq_true, if_false] at h
  split at h
  · split at h <;> cases h
  · split at h <;> cases h

theorem isPlain_of_quotes {s : String} (hneeds : Printer.needsQuotes s = false)
    (h : (Printer.quotes s.toList).plain = true) : IsPlain s.toList := by
  simp only [Printer.quotes, Bool.not_eq_true', Bool.or_eq_false_iff, List.any_eq_false, Bool.not_eq_true,
    Bool.not_eq_false] at h
  obtain ⟨⟨⟨⟨hspecial, hbreaks⟩, hfirst⟩, hlast⟩, hmarkup⟩ := h
  refine ⟨?_, fun c hc => ⟨hspecial c hc, hbreaks c hc⟩, ?_, ?_, hmarkup⟩
  · intro hnil
    have hempty : s = "" := String.toList_inj.1 hnil
    subst hempty
    cases resolve_of_needsQuotes hneeds
  · intro hspace
    simp [hspace] at hfirst
  · intro hspace
    simp [hspace] at hlast

theorem styled_single {cs : List Char} (hfeed : '\n' ∉ cs) (h : (Printer.quotes cs).single = true) :
    Styled cs .single := by
  simp only [Printer.quotes, Bool.not_eq_true', Bool.or_eq_false_iff, List.any_eq_false, Bool.not_eq_false,
    Bool.and_eq_true, decide_eq_true_eq] at h
  obtain ⟨⟨hspecial, hafter⟩, hbefore⟩ := h
  exact .single (fun c hc => ⟨hspecial c hc, ne_of_mem_of_not_mem hc hfeed⟩)
    (isChain_of_pairs fun p hp => ⟨hafter p hp, hbefore p hp⟩)

theorem styled_literal {cs : List Char} (hfeed : '\n' ∈ cs) (h : (Printer.quotes cs).block = true) :
    Styled cs .literal := by
  simp only [Printer.quotes, Bool.not_eq_true', Bool.or_eq_false_iff, List.any_eq_false, Bool.not_eq_false] at h
  exact .literal (List.ne_nil_of_mem hfeed) h.1.1.2 hfeed

theorem styled (s : String) : Styled s.toList (Printer.style s) := by
  simp only [Printer.style]
  by_cases hfeed : '\n' ∈ s.toList
  · rw [if_pos (List.contains_iff_mem.2 hfeed)]
    split
    · rename_i hblock
      exact styled_literal hfeed hblock
    · exact .double
  · rw [if_neg (mt List.contains_iff_mem.1 hfeed)]
    split
    · rename_i hplain
      rw [Bool.and_eq_true, Bool.not_eq_true'] at hplain
      exact .plain (isPlain_of_quotes hplain.1 hplain.2)
    · split
      · rename_i hsingle
        exact styled_single hfeed hsingle
      · exact .double

end FlowCheck.Yaml
