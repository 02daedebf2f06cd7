import FlowCheck.Proofs.Yaml.Quoted

/-!
# Plain YAML scalars

A text that may stand as it is (`IsPlain`) is read up to the colon behind it (`plainScalar_colon`) or over the end of
its line (`plainScalar_newline`).  Nothing inside it ends it: a colon stands before no gap and a number sign behind none
(`plainScalar_rest`), and its first characters begin nothing else (`IsPlain.opens`).
-/

namespace FlowCheck.Yaml

variable {c : Char} {cs rest tail : List Char} {p : Place} {k : Nat} {indent : Int}

/-- A text that may stand as it is: on one line, without space at its ends and without marks. -/
structure IsPlain (cs : List Char) : Prop where
  ne_nil : cs ≠ []
  chars : ∀ c ∈ cs, Printer.isPrintable c = true ∧ Printer.isBreak c = false
  first : cs.head? ≠ some ' '
  last : cs.getLast? ≠ some ' '
  markup : Printer.looksLikeMarkup cs = false

/-! ### Inside a line -/

theorem endsWord_of_isGap (h : Printer.isGap cs.head? = false) : endsWord cs = false := by
  cases cs with
  | nil => cases h
  | cons c cs =>
    simp only [List.head?_cons, Printer.isGap, Bool.or_eq_false_iff, Printer.isBreak] at h
    simp [endsWord, isSpace, isBreak, h]

theorem endsWord_append (h : Printer.isGap cs.head? = false) (tail : List Char) : endsWord (cs ++ tail) = false := by
  cases cs with
  | nil => cases h
  | cons c cs => exact endsWord_of_isGap h

theorem hasInnerMarkup_cons {prev : Char} (h : Printer.hasInnerMarkup (prev :: c :: cs) = false) :
    (c = ':' → Printer.isGap cs.head? = false) ∧ (c = '#' → Printer.isGap (some prev) = false) ∧
      Printer.hasInnerMarkup (c :: cs) = false := by
  simp only [Printer.hasInnerMarkup, Bool.or_eq_false_iff, Bool.and_eq_false_imp, decide_eq_true_eq] at h
  exact ⟨h.1.1, h.1.2, h.2⟩

/-- The rest of a plain text is read up to what follows it. -/
theorem plainScalar_rest {prev : Char} {g : List Char} (hmarkup : Printer.hasInnerMarkup (prev :: cs) = false)
    (hgap : g ≠ [] → prev = ' ') (hchars : ∀ c ∈ cs, Printer.isPrintable c = true ∧ Printer.isBreak c = false)
    (hlast : (prev :: cs).getLast? ≠ some ' ') (hp : 0 < p.column) (tail : List Char) (done : List Char) :
    plainScalar false indent done (.spaces g) p (cs ++ tail) =
      plainScalar false indent (cs.reverse ++ (g.reverse ++ done)) .none (p.right cs.length) tail := by
  induction cs generalizing prev g done p with
  | nil =>
    have hnil : g = [] := by
      by_contra hne
      exact hlast (by rw [hgap hne]; rfl)
    subst hnil
    rfl
  | cons c cs ih =>
    rw [List.forall_mem_cons] at hchars
    obtain ⟨⟨hprintable, hbreak⟩, hchars⟩ := hchars
    obtain ⟨hcolon, hnumber, hmarkup⟩ := hasInnerMarkup_cons hmarkup
    have hbreak := (isBreak_of_isPrintable hprintable).trans hbreak
    have hplace : p.after c = p.right 1 := Place.after_eq_right hbreak
    have htab : c ≠ '\t' := by rintro rfl; cases hprintable
    rw [List.getLast?_cons_cons] at hlast
    -- a space goes to the gap; any other character is put behind the gap, as it does not end the text
    by_cases hspace : c = ' '
    · subst hspace
      have hstep : plainScalar false indent done (.spaces g) p (' ' :: (cs ++ tail)) =
          plainScalar false indent done (.spaces (g ++ [' '])) (p.right 1) (cs ++ tail) := rfl
      rw [List.cons_append, hstep, ih hmarkup (fun _ => rfl) hchars hlast (Nat.succ_pos _)]
      simp [Place.right_right, Nat.add_comm 1]
    · have hsolid : (isSpace c || isBreak c) = false := by simp [isSpace, hspace, htab, hbreak]
      have hmarker : atDocumentMarker p (c :: (cs ++ tail)) = false := by
        simp [atDocumentMarker, Nat.ne_of_gt hp]
      have hcomment : (decide (c = '#') && !(Gap.spaces g).isEmpty) = false := by
        cases g with
        | nil => simp [Gap.isEmpty]
        | cons d g =>
          have hprev := hgap (List.cons_ne_nil _ _)
          subst hprev
          have hc : c ≠ '#' := fun h => absurd (hnumber h) (by decide)
          simp [hc]
      have hvalue : (decide (c = ':') && endsWord (cs ++ tail)) = false := by
        by_cases hc : c = ':'
        · rw [endsWord_append (hcolon hc), Bool.and_false]
        · simp [hc]
      have hends : endsPlain false indent (.spaces g) p c (cs ++ tail) = false := by
        simp only [endsPlain, Gap.isBroken, hmarker, hcomment, hvalue, Bool.false_and, Bool.or_false]
      rw [List.cons_append, plainScalar]
      simp only [hsolid, hends, Bool.false_and, Bool.false_eq_true, if_false, hplace]
      change plainScalar false indent (c :: (Gap.spaces g).join done) (.spaces []) _ _ = _
      rw [ih hmarkup (fun h => absurd rfl h) hchars hlast (Nat.succ_pos _)]
      simp [Place.right_right, Nat.add_comm 1, Gap.join, Gap.text]

/-- A text that does not begin with three marks does not so with what follows it. -/
theorem not_isMarker {m : Char} (hm : m ≠ ':' ∧ m ≠ '\n') (h : [m, m, m].isPrefixOf cs = false)
    (htail : ∀ c ∈ tail.head?, c = ':' ∨ c = '\n') : isMarker m (cs ++ tail) = false := by
  have hother : ∀ t ts, tail = t :: ts → t ≠ m := by
    rintro t ts rfl rfl
    rcases htail _ rfl with h | h
    · exact hm.1 h
    · exact hm.2 h
  have htake : (cs ++ tail).take 3 ≠ [m, m, m] := by
    rcases cs with _ | ⟨a, _ | ⟨b, _ | ⟨d, cs⟩⟩⟩
    · cases tail with
      | nil => simp
      | cons t ts => simp [hother t ts rfl]
    · cases tail with
      | nil => simp
      | cons t ts => simp [hother t ts rfl]
    · cases tail with
      | nil => simp
      | cons t ts => simp [hother t ts rfl]
    · intro heq
      simp only [List.cons_append, List.take_succ_cons, List.take_zero, List.cons.injEq, and_true] at heq
      obtain ⟨rfl, rfl, rfl⟩ := heq
      simp [List.isPrefixOf] at h
  simp [isMarker, htake]

/-- The first character of a plain text begins nothing else. -/
theorem IsPlain.opens (h : IsPlain (c :: cs)) : c ≠ ' ' ∧ c ≠ '\t' ∧ isBreak c = false ∧
    Printer.opensMarkup c cs.head? = false ∧ Printer.hasInnerMarkup (c :: cs) = false ∧
    ∀ tail : List Char, (∀ d ∈ tail.head?, d = ':' ∨ d = '\n') →
      isMarker '-' (c :: (cs ++ tail)) = false ∧ isMarker '.' (c :: (cs ++ tail)) = false := by
  have hmarkup := h.markup
  simp only [Printer.looksLikeMarkup, Bool.or_eq_false_iff] at hmarkup
  obtain ⟨⟨⟨hdashes, hpoints⟩, hopens⟩, hinner⟩ := hmarkup
  obtain ⟨hprintable, hbreak⟩ := h.chars c List.mem_cons_self
  refine ⟨fun hc => h.first (by rw [hc]; rfl), (by rintro rfl; cases hprintable),
    (isBreak_of_isPrintable hprintable).trans hbreak, hopens, hinner, fun tail htail => ⟨?_, ?_⟩⟩
  · exact not_isMarker (by decide) hdashes htail
  · exact not_isMarker (by decide) hpoints htail

theorem IsPlain.isSolid (h : IsPlain (c :: cs)) : IsSolid c := by
  obtain ⟨hspace, htab, hbreak, hopens, -, -⟩ := h.opens
  refine ⟨by simp [isSpace, hspace, htab], hbreak, ?_, ?_⟩
  · rintro rfl
    cases hopens
  · rintro rfl
    cases (h.chars _ List.mem_cons_self).1

/-- A plain text is read up to what follows it. -/
theorem plainScalar_text (h : IsPlain cs) (htail : ∀ c ∈ tail.head?, c = ':' ∨ c = '\n') (indent : Int) (p : Place) :
    plainScalar false indent [] .none p (cs ++ tail) =
      plainScalar false indent cs.reverse .none (p.right cs.length) tail := by
  obtain ⟨c, cs, rfl⟩ := List.exists_cons_of_ne_nil h.ne_nil
  obtain ⟨hspace, htab, hbreak, hopens, hinner, hmarkers⟩ := h.opens
  obtain ⟨hdashes, hpoints⟩ := hmarkers tail htail
  have hplace : p.after c = p.right 1 := Place.after_eq_right hbreak
  have hsolid : (isSpace c || isBreak c) = false := by simp [isSpace, hspace, htab, hbreak]
  have hvalue : (decide (c = ':') && endsWord (cs ++ tail)) = false := by
    by_cases hc : c = ':'
    · subst hc
      have hgap : Printer.isGap cs.head? = false := by simpa [Printer.opensMarkup] using hopens
      rw [endsWord_append hgap, Bool.and_false]
    · simp [hc]
  have hends : endsPlain false indent .none p c (cs ++ tail) = false := by
    simp only [endsPlain, Gap.none, Gap.isBroken, Gap.isEmpty, atDocumentMarker, hdashes, hpoints, hvalue,
      Bool.false_and, Bool.or_false, Bool.and_false, Bool.not_true]
  rw [List.cons_append, plainScalar]
  simp only [hsolid, hends, Bool.false_and, Bool.false_eq_true, if_false, hplace]
  change plainScalar false indent [c] (.spaces []) _ _ = _
  rw [plainScalar_rest hinner (fun h => absurd rfl h) (fun d hd => h.chars d (List.mem_cons_of_mem _ hd)) h.last
    (Nat.succ_pos _)]
  simp [Place.right_right, Nat.add_comm 1]

theorem plainScalar_colon (h : endsWord rest = true) (done : List Char) (p : Place) :
    plainScalar false indent done .none p (':' :: rest) =
      .ok ((String.ofList done.reverse, false), p, ':' :: rest) := by
  have hsolid : (isSpace ':' || isBreak ':') = false := rfl
  have hends : endsPlain false indent .none p ':' rest = true := by
    simp [endsPlain, h]
  simp only [plainScalar, hsolid, hends, Bool.false_eq_true, if_false, if_true]
  rfl

/-- The indentation of the next line does not count. -/
theorem plainScalar_spaces (done : List Char) (first : Option Char) (more : List Char) (p : Place) (rest : List Char) :
    plainScalar false indent done (.breaks first more) p (Printer.spaces k ++ rest) =
      plainScalar false indent done (.breaks first more) (p.right k) rest := by
  induction k generalizing p with
  | zero => rfl
  | succ k ih =>
    have hstep : plainScalar false indent done (.breaks first more) p (' ' :: (Printer.spaces k ++ rest)) =
        plainScalar false indent done (.breaks first more) (p.right 1) (Printer.spaces k ++ rest) := rfl
    rw [Printer.spaces, List.replicate_succ, List.cons_append, ← Printer.spaces, hstep, ih, Place.right_right,
      Nat.add_comm 1]

/-- A line that is not indented deep enough ends the text. -/
theorem plainScalar_newline (hrest : rest = [] ∨ (k : Int) < indent ∧ ∃ c cs, rest = c :: cs ∧ IsSolid c)
    (done : List Char) (p : Place) :
    plainScalar false indent done .none p ('\n' :: (Printer.spaces k ++ rest)) =
      .ok ((String.ofList done.reverse, true), ⟨p.line + 1, k⟩, rest) := by
  have hstep : plainScalar false indent done .none p ('\n' :: (Printer.spaces k ++ rest)) =
      plainScalar false indent done (.breaks (some '\n') []) ⟨p.line + 1, 0⟩ (Printer.spaces k ++ rest) := rfl
  rw [hstep, plainScalar_spaces, Place.right_column]
  rcases hrest with rfl | ⟨hk, c, cs, rfl, hc⟩
  · rfl
  · obtain ⟨hspace, hbreak, -, -⟩ := hc
    have hends : endsPlain false indent (.breaks (some '\n') []) ⟨p.line + 1, k⟩ c cs = true := by
      simp [endsPlain, Gap.isBroken, hk]
    rw [plainScalar]
    simp only [hspace, hbreak, Bool.or_false, Bool.false_eq_true, if_false, hends, if_true]
    rfl

end FlowCheck.Yaml
