import FlowCheck.Proofs.Yaml.Quoted

/-!
# Literal YAML scalars

A text with line feeds is written line by line below a header, and reads back up to the line that comes behind it
(`blockScalar_literal`).

* While it is read, the characters so far are held in three places (`BlockState.Holds`), and each character moves to the
  next state (`blockLines_char`, `blockLines_literalRest`).
* The header says what becomes of the breaks at the end, so that the text has its own again (`Holds.finish_eq`).
* The header also gives an indentation, if the text begins with a space or a break (`leadingBreaks_given`); else the
  first line tells it (`leadingBreaks_guessed`).
-/

namespace FlowCheck.Yaml

variable {c : Char} {cs rest : List Char} {p : Place} {n k : Nat} {chomping : Chomping} {s : BlockState}

/-! ### Lines -/

theorem blockLines_spaces (hline : s.inLine = false) (hp : p.column + k ≤ n) (cs : List Char) :
    blockLines true chomping n s p (Printer.spaces k ++ cs) = blockLines true chomping n s (p.right k) cs := by
  induction k generalizing p with
  | zero => rfl
  | succ k ih =>
    have hplace : p.after ' ' = p.right 1 := Place.after_eq_right rfl
    have hbreak : isBreak ' ' = false := rfl
    have hcolumn : p.column < n := by omega
    have hnext : (p.right 1).column + k ≤ n := by
      change p.column + 1 + k ≤ n
      omega
    rw [Printer.spaces, List.replicate_succ, List.cons_append, ← Printer.spaces, blockLines]
    simp only [hline, hbreak, Bool.false_eq_true, if_false, hcolumn, true_and, if_true, hplace]
    rw [ih hnext, Place.right_right, Nat.add_comm 1]

/-- What comes behind the last line of a block scalar: the end of the text, or a line that is indented less. -/
theorem blockLines_end (hline : s.inLine = false) (hk : k < n) (l : Nat)
    (hrest : rest = [] ∨ ∃ c cs, rest = c :: cs ∧ IsSolid c) :
    blockLines true chomping n s ⟨l, 0⟩ (Printer.spaces k ++ rest) = .ok (s.finish chomping, ⟨l, k⟩, rest) := by
  rw [blockLines_spaces hline (by simp; omega), Place.right_column]
  rcases hrest with rfl | ⟨c, cs, rfl, hc⟩
  · rfl
  · obtain ⟨hspace, hbreak, -, -⟩ := hc
    simp only [isSpace, Bool.or_eq_false_iff, decide_eq_false_iff_not] at hspace
    simp [blockLines, hline, hbreak, hspace, Nat.ne_of_lt hk]

/-! ### What a block scalar holds -/

namespace BlockState

/-- The characters so far are a text; between two lines those of the last breaks are kept apart. -/
structure Holds (s : BlockState) (text : List Char) : Prop where
  text : s.done.reverse ++ s.lead.toList ++ s.breaks = text
  lead : ∀ c ∈ s.lead, isBreak c = true
  breaks : ∀ c ∈ s.breaks, isBreak c = true
  first : s.inLine = false → s.lead = none → s.done = []
  inLine : s.inLine = true → s.lead = none ∧ s.breaks = []

namespace Holds

variable {text : List Char}

theorem beginLine (hs : s.Holds text) (c : Char) : (s.beginLine true c).Holds (text ++ [c]) where
  text := by
    rw [← hs.text]
    simp [BlockState.beginLine]
  lead _ h := nomatch h
  breaks _ h := nomatch h
  first h := nomatch h
  inLine _ := ⟨rfl, rfl⟩

theorem put (hs : s.Holds text) (hline : s.inLine = true) (c : Char) :
    { s with done := c :: s.done }.Holds (text ++ [c]) where
  text := by
    obtain ⟨hlead, hbreaks⟩ := hs.inLine hline
    rw [← hs.text, hlead, hbreaks]
    simp
  lead := hs.lead
  breaks := hs.breaks
  first h := by
    rw [hline] at h
    cases h
  inLine := hs.inLine

theorem endLine (hs : s.Holds text) (hline : s.inLine = true) (hc : isBreak c = true) :
    { s with lead := some c, inLine := false }.Holds (text ++ [c]) where
  text := by
    obtain ⟨hlead, hbreaks⟩ := hs.inLine hline
    rw [← hs.text, hlead, hbreaks]
    simp
  lead := by
    rintro _ ⟨⟩
    exact hc
  breaks := hs.breaks
  first _ h := nomatch h
  inLine h := nomatch h

theorem putBreak (hs : s.Holds text) (hline : s.inLine = false) (hc : isBreak c = true) :
    { s with breaks := s.breaks ++ [c] }.Holds (text ++ [c]) where
  text := by rw [← hs.text, ← List.append_assoc]
  lead := hs.lead
  breaks := List.forall_mem_append.2 ⟨hs.breaks, List.forall_mem_singleton.2 hc⟩
  first := hs.first
  inLine h := by
    rw [hline] at h
    cases h

end Holds

end BlockState

/-! ### Lines of a text -/

/-- Whether a line has just ended behind the text. -/
def endsFresh : Bool → List Char → Bool
  | fresh, [] => fresh
  | _, c :: cs => endsFresh (Printer.isBreak c) cs

/-- One character with the indentation before it, if it begins a line. -/
def literalChar (n : Nat) (fresh : Bool) (c : Char) : List Char :=
  if Printer.isBreak c then [c] else lineStart n fresh ++ [c]

/-- The rest of a block scalar up to the end of its last line. -/
def literalRest (n : Nat) : Bool → List Char → List Char
  | fresh, [] => if fresh then [] else ['\n']
  | fresh, c :: cs => literalChar n fresh c ++ literalRest n (Printer.isBreak c) cs

theorem literalRest_break (h : Printer.isBreak c = true) (n : Nat) (fresh : Bool) (cs : List Char) :
    literalRest n fresh (c :: cs) = c :: literalRest n true cs := by
  rw [literalRest, literalChar, if_pos h, h]
  rfl

theorem literalRest_start (h : Printer.isBreak c = false) (n : Nat) (cs : List Char) :
    literalRest n true (c :: cs) = Printer.spaces n ++ c :: literalRest n false cs := by
  rw [literalRest, literalChar, h, if_neg Bool.false_ne_true, lineStart, if_pos rfl, List.append_assoc,
    List.singleton_append]

variable {fresh : Bool} {text : List Char}

/-- One character moves to a state that holds it too. -/
theorem blockLines_char (n : Nat) (chomping : Chomping) (hc : Printer.isPrintable c = true) (hline : s.inLine = !fresh)
    (hfresh : fresh = true → p.column = 0) (hs : s.Holds text) :
    ∃ s' : BlockState, ∃ p', s'.inLine = (!Printer.isBreak c) ∧ (Printer.isBreak c = true → p'.column = 0) ∧
      s'.Holds (text ++ [c]) ∧ ∀ more, blockLines true chomping n s p (literalChar n fresh c ++ more) =
        blockLines true chomping n s' p' more := by
  unfold literalChar
  rw [← isBreak_of_isPrintable hc]
  cases hbreak : isBreak c with
  | true =>
    have hcolumn : (p.after c).column = 0 := by simp [Place.after, hbreak]
    cases fresh with
    | true =>
      refine ⟨{ s with breaks := s.breaks ++ [c] }, p.after c, hline, fun _ => hcolumn, hs.putBreak hline hbreak,
        fun more => ?_⟩
      simp [blockLines, hline, hbreak]
    | false =>
      refine ⟨_, p.after c, rfl, fun _ => hcolumn, hs.endLine hline hbreak, fun more => ?_⟩
      simp [blockLines, hline, hbreak]
  | false =>
    cases fresh with
    | true =>
      have hstart : p.column + n ≤ n := by
        rw [hfresh rfl]
        omega
      have hcolumn : (p.right n).column = n := by simp [Place.right, hfresh rfl]
      refine ⟨_, (p.right n).after c, rfl, fun h => Bool.noConfusion h, hs.beginLine c, fun more => ?_⟩
      rw [if_neg Bool.false_ne_true, lineStart, if_pos rfl, List.append_assoc, blockLines_spaces hline hstart]
      simp [blockLines, hline, hbreak, hcolumn]
    | false =>
      refine ⟨{ s with done := c :: s.done }, p.after c, hline, fun h => Bool.noConfusion h, hs.put hline c,
        fun more => ?_⟩
      simp [blockLines, hline, hbreak, lineStart]

/-- The lines of a block scalar are read up to the line that comes after it. -/
theorem blockLines_literalRest (chomping : Chomping) (hk : k < n)
    (hrest : rest = [] ∨ ∃ c cs, rest = c :: cs ∧ IsSolid c) (hchars : ∀ c ∈ cs, Printer.isPrintable c = true)
    (hline : s.inLine = !fresh) (hfresh : fresh = true → p.column = 0) (hs : s.Holds text) :
    ∃ l, ∃ s' : BlockState, s'.inLine = false ∧
      s'.Holds (text ++ cs ++ if endsFresh fresh cs then [] else ['\n']) ∧
      blockLines true chomping n s p (literalRest n fresh cs ++ (Printer.spaces k ++ rest)) =
        .ok (s'.finish chomping, ⟨l, k⟩, rest) := by
  induction cs generalizing fresh s p text with
  | nil =>
    rw [List.append_nil]
    cases fresh with
    | true =>
      have hplace : p = ⟨p.line, 0⟩ := by rw [← hfresh rfl]
      refine ⟨p.line, s, hline, by simpa [endsFresh] using hs, ?_⟩
      rw [literalRest, if_pos rfl, List.nil_append, hplace]
      exact blockLines_end hline hk _ hrest
    | false =>
      have hbreak : isBreak '\n' = true := rfl
      have hplace : p.after '\n' = ⟨p.line + 1, 0⟩ := rfl
      refine ⟨p.line + 1, _, rfl, hs.endLine hline hbreak, ?_⟩
      rw [literalRest, if_neg Bool.false_ne_true, List.singleton_append, blockLines]
      simp only [hline, hbreak, Bool.not_false, if_true, hplace]
      exact blockLines_end rfl hk _ hrest
  | cons c cs ih =>
    rw [List.forall_mem_cons] at hchars
    obtain ⟨s', p', hline', hcolumn, hholds, hchar⟩ := blockLines_char n chomping hchars.1 hline hfresh hs
    rw [literalRest, endsFresh, List.append_cons text c cs, List.append_assoc (literalChar n fresh c), hchar]
    exact ih hchars.2 hline' hcolumn hholds

/-! ### Breaks at the end -/

theorem getLast?_any_eq_endsFresh (cs : List Char) : cs.getLast?.any Printer.isBreak = endsFresh false cs := by
  have hmore : ∀ (fresh : Bool) (c : Char) (cs : List Char),
      (c :: cs).getLast?.any Printer.isBreak = endsFresh fresh (c :: cs) := by
    intro fresh c cs
    induction cs generalizing fresh c with
    | nil => rfl
    | cons d cs ih => rw [List.getLast?_cons_cons, endsFresh, ih (Printer.isBreak c) d]
  cases cs with
  | nil => rfl
  | cons c cs => exact hmore false c cs

/-- What the header of a literal block says of the breaks at its end. -/
def endMark (cs : List Char) : Chomping :=
  match cs.reverse with
  | [] => .strip
  | [c] => if Printer.isBreak c then .keep else .strip
  | c :: d :: _ => if !Printer.isBreak c then .strip else if Printer.isBreak d then .keep else .clip

theorem endMark_strip (h : Printer.isBreak c = false) (xs : List Char) : endMark (xs ++ [c]) = .strip := by
  rw [endMark, List.reverse_concat]
  cases xs.reverse <;> simp [h]

theorem endMark_keep (h : Printer.isBreak c = true) {xs : List Char}
    (hxs : ∀ d ∈ xs.getLast?, Printer.isBreak d = true) : endMark (xs ++ [c]) = .keep := by
  rcases List.eq_nil_or_concat xs with rfl | ⟨ys, d, rfl⟩
  · simp [endMark, h]
  · have hd := hxs d (by simp)
    simp [endMark, h, hd]

theorem endMark_clip {d : Char} (hc : Printer.isBreak c = true) (hd : Printer.isBreak d = false) (xs : List Char) :
    endMark (xs ++ [d] ++ [c]) = .clip := by
  simp [endMark, hc, hd]

/-- When one break ends the text, the last line holds what comes before it. -/
theorem BlockState.Holds.of_concat {text : List Char} (hs : s.Holds (text ++ [c])) (hline : s.inLine = false)
    (hlast : ∀ d ∈ text.getLast?, isBreak d = false) :
    s.done.reverse = text ∧ (text = [] ∨ s.lead = some c ∧ s.breaks = []) := by
  have htext := hs.text
  rcases List.eq_nil_or_concat s.breaks with hbreaks | ⟨bs, b, hbreaks⟩
  · rw [hbreaks, List.append_nil] at htext
    cases hlead : s.lead with
    | none =>
      rw [hlead, hs.first hline hlead] at htext
      exact absurd htext.symm (by simp)
    | some b =>
      rw [hlead] at htext
      obtain ⟨hdone, hb⟩ := List.append_inj' htext rfl
      cases hb
      exact ⟨hdone, Or.inr ⟨rfl, hbreaks⟩⟩
  · have hbreak : ∀ d ∈ bs, isBreak d = true := fun d hd => hs.breaks d (by rw [hbreaks]; simp [hd])
    rw [hbreaks, List.concat_eq_append, ← List.append_assoc] at htext
    obtain ⟨htext, -⟩ := List.append_inj' htext rfl
    rcases List.eq_nil_or_concat bs with rfl | ⟨bs, d, rfl⟩
    · cases hlead : s.lead with
      | none =>
        have hdone := hs.first hline hlead
        rw [hlead, hdone] at htext
        exact ⟨by rw [hdone, ← htext]; rfl, Or.inl htext.symm⟩
      | some d =>
        rw [hlead] at htext
        have hd := hlast d (by rw [← htext]; simp)
        rw [hs.lead d hlead] at hd
        cases hd
    · have hd := hlast d (by rw [← htext]; simp)
      rw [hbreak d (by simp)] at hd
      cases hd

/-- The text of a block scalar that holds a text with its last line ended. -/
theorem BlockState.Holds.finish_eq (hchars : ∀ c ∈ cs, Printer.isPrintable c = true) (hline : s.inLine = false)
    (hs : s.Holds (cs ++ if endsFresh false cs then [] else ['\n'])) :
    s.finish (endMark cs) = String.ofList cs := by
  rw [← getLast?_any_eq_endsFresh] at hs
  rcases List.eq_nil_or_concat cs with rfl | ⟨xs, c, rfl⟩
  · have hdone := (hs.of_concat hline (fun _ h => nomatch h)).1
    simp [BlockState.finish, endMark, hdone]
  rw [List.concat_eq_append] at hs hchars ⊢
  have hsame : ∀ d ∈ xs ++ [c], isBreak d = Printer.isBreak d := fun d hd => isBreak_of_isPrintable (hchars d hd)
  rw [List.getLast?_concat, Option.any_some] at hs
  cases hc : Printer.isBreak c with
  | false =>
    rw [hc, if_neg Bool.false_ne_true] at hs
    have hlast : ∀ d ∈ (xs ++ [c]).getLast?, isBreak d = false := by
      simp [hsame c (by simp), hc]
    rw [endMark_strip hc, BlockState.finish, (hs.of_concat hline hlast).1, List.append_nil]
  | true =>
    rw [hc, if_pos rfl, List.append_nil] at hs
    by_cases hlast : ∀ d ∈ xs.getLast?, Printer.isBreak d = true
    · rw [endMark_keep hc hlast, ← hs.text, BlockState.finish, List.append_assoc]
    · obtain ⟨ys, d, rfl⟩ := (List.eq_nil_or_concat xs).resolve_left (by rintro rfl; simp at hlast)
      rw [List.concat_eq_append] at hs hsame hlast ⊢
      have hd : Printer.isBreak d = false := by simpa using hlast
      obtain ⟨hdone, hnone | ⟨hlead, -⟩⟩ := hs.of_concat hline (by simp [hsame d (by simp), hd])
      · simp at hnone
      · rw [endMark_clip hc hd, BlockState.finish, hdone, hlead]
        rfl

/-! ### The header -/

/-- The mark of what becomes of the breaks at the end. -/
def Chomping.mark : Chomping → List Char
  | strip => ['-']
  | clip => []
  | keep => ['+']

/-- A text begins with a space or a break, so that its indentation cannot be guessed. -/
def opensBlank (cs : List Char) : Bool :=
  cs.head?.any fun c => c = ' ' || Printer.isBreak c

theorem literalMarks_eq (cs : List Char) :
    Printer.literalMarks cs = (if opensBlank cs then ['2'] else []) ++ (endMark cs).mark := by
  unfold Printer.literalMarks endMark opensBlank
  generalize cs.reverse = reversed
  refine congrArg (List.append _) ?_
  rcases reversed with _ | ⟨c, _ | ⟨d, reversed⟩⟩
  · rfl
  · cases h : Printer.isBreak c <;> simp only [h] <;> rfl
  · cases h : Printer.isBreak c <;> cases hd : Printer.isBreak d <;> simp only [h, hd] <;> rfl

theorem ofIndicators_marks (given : Bool) (chomping : Chomping) (cs : List Char) :
    BlockHeader.ofIndicators ((if given then ['2'] else []) ++ chomping.mark ++ '\n' :: cs) =
      .ok (⟨chomping, if given then some 2 else none⟩, '\n' :: cs) := by
  cases given <;> cases chomping <;> rfl

theorem lineEnd_newline (cs : List Char) : BlockHeader.lineEnd ('\n' :: cs) = .ok cs := rfl

/-! ### Before the first line -/

theorem leadingBreaks_spaces {given deepest : Nat} {breaks : List Char} (hgiven : given = 0 ∨ p.column + k ≤ given)
    (cs : List Char) :
    leadingBreaks given deepest breaks p (Printer.spaces k ++ cs) =
      leadingBreaks given (if k = 0 then deepest else max deepest (p.column + k)) breaks (p.right k) cs := by
  induction k generalizing p deepest with
  | zero => rfl
  | succ k ih =>
    have hplace : p.after ' ' = p.right 1 := Place.after_eq_right rfl
    have hcolumn : given = 0 ∨ p.column < given := by omega
    have hnext : given = 0 ∨ (p.right 1).column + k ≤ given := by
      change given = 0 ∨ p.column + 1 + k ≤ given
      omega
    rw [Printer.spaces, List.replicate_succ, List.cons_append, ← Printer.spaces, leadingBreaks]
    simp only [if_pos hcolumn, if_true, hplace]
    rw [ih hnext, Place.right_right, Nat.add_comm 1]
    congr 1
    change (if k = 0 then max deepest (p.column + 1) else max (max deepest (p.column + 1)) (p.column + 1 + k)) = _
    split
    · subst k
      rfl
    · rw [if_neg (Nat.succ_ne_zero k)]
      omega

/-- With its indentation given, a block scalar is looked at up to its first line with content. -/
theorem leadingBreaks_given (hk : k < n) (hrest : rest = [] ∨ ∃ c cs, rest = c :: cs ∧ IsSolid c)
    (hchars : ∀ c ∈ cs, Printer.isPrintable c = true) (deepest : Nat) (breaks : List Char) (l : Nat) :
    ∃ xs ds deepest' l' p', ∃ more : List Char, cs = xs ++ ds ∧ (∀ x ∈ xs, isBreak x = true) ∧
      leadingBreaks n deepest breaks ⟨l, 0⟩ (literalRest n true cs ++ (Printer.spaces k ++ rest)) =
        .ok ((breaks ++ xs, deepest'), p', more) ∧
      ∀ (chomping : Chomping) (s : BlockState), s.inLine = false → blockLines true chomping n s p' more =
        blockLines true chomping n s ⟨l', 0⟩ (literalRest n true ds ++ (Printer.spaces k ++ rest)) := by
  have hcolumn : ∀ m ≤ n, (Place.mk l 0).column + m ≤ n := fun m hm => by simpa using hm
  -- the breaks come one by one; a line with content ends them, or the end of the scalar
  induction cs generalizing breaks l deepest with
  | nil =>
    refine ⟨[], [], if k = 0 then deepest else max deepest (0 + k), l, ⟨l, k⟩, rest, rfl, List.forall_mem_nil _, ?_,
      fun chomping s hline => ?_⟩
    · rw [literalRest, if_pos rfl, List.nil_append, leadingBreaks_spaces (Or.inr (hcolumn k (Nat.le_of_lt hk))),
        Place.right_column, List.append_nil]
      rcases hrest with rfl | ⟨c, cs, rfl, hc⟩
      · rfl
      · obtain ⟨hspace, hbreak, -, -⟩ := hc
        simp only [isSpace, Bool.or_eq_false_iff, decide_eq_false_iff_not] at hspace
        simp only [leadingBreaks, hk, or_true, if_true, hspace, if_false, hbreak, Bool.false_eq_true]
    · rw [literalRest, if_pos rfl, List.nil_append, blockLines_spaces hline (hcolumn k (Nat.le_of_lt hk)),
        Place.right_column]
  | cons c cs ih =>
    rw [List.forall_mem_cons] at hchars
    have hsame := isBreak_of_isPrintable hchars.1
    cases hbreak : isBreak c with
    | true =>
      have hplace : (Place.mk l 0).after c = ⟨l + 1, 0⟩ := by simp [Place.after, hbreak]
      have hn : n = 0 ∨ 0 < n := by omega
      have hspace : c ≠ ' ' := by rintro rfl; cases hbreak
      have htab : c ≠ '\t' := by rintro rfl; cases hbreak
      obtain ⟨xs, ds, deepest', l', p', more, hcs, hxs, hread, hlines⟩ :=
        ih hchars.2 deepest (breaks ++ [c]) (l + 1) fun m hm => by simpa using hm
      refine ⟨c :: xs, ds, deepest', l', p', more, by rw [hcs]; rfl, List.forall_mem_cons.2 ⟨hbreak, hxs⟩, ?_, hlines⟩
      rw [literalRest_break (hsame.symm.trans hbreak), List.cons_append, leadingBreaks]
      simp only [if_pos hn, hspace, htab, if_false, hbreak, if_true, hplace, hread]
      rw [List.append_assoc, List.singleton_append]
    | false =>
      have hn : ¬(n = 0 ∨ n < n) := by omega
      refine ⟨[], c :: cs, if n = 0 then deepest else max deepest (0 + n), l, ⟨l, n⟩,
        c :: (literalRest n false cs ++ (Printer.spaces k ++ rest)), rfl, List.forall_mem_nil _, ?_,
        fun chomping s hline => ?_⟩
      · rw [literalRest_start (hsame.symm.trans hbreak), List.append_assoc,
          leadingBreaks_spaces (Or.inr (hcolumn n (Nat.le_refl n))), Place.right_column, List.cons_append,
          leadingBreaks, List.append_nil]
        simp only [if_neg hn, hbreak, Bool.false_eq_true, if_false]
      · rw [literalRest_start (hsame.symm.trans hbreak), List.append_assoc,
          blockLines_spaces hline (hcolumn n (Nat.le_refl n)), Place.right_column, List.cons_append]

/-- A block scalar tells its indentation when it begins with neither space nor break. -/
theorem leadingBreaks_guessed (hspace : c ≠ ' ') (htab : c ≠ '\t') (hbreak : isBreak c = false) (hn : 0 < n) (l : Nat)
    (cs : List Char) :
    leadingBreaks 0 0 [] ⟨l, 0⟩ (Printer.spaces n ++ c :: cs) = .ok (([], n), ⟨l, n⟩, c :: cs) := by
  rw [leadingBreaks_spaces (Or.inl rfl), Place.right_column, if_neg (Nat.ne_of_gt hn), leadingBreaks]
  simp [hspace, htab, hbreak]

theorem endsFresh_append (fresh : Bool) (xs ds : List Char) :
    endsFresh fresh (xs ++ ds) = endsFresh (endsFresh fresh xs) ds := by
  induction xs generalizing fresh with
  | nil => rfl
  | cons x xs ih => exact ih (Printer.isBreak x)

theorem endsFresh_of_breaks {xs ds : List Char} (hne : xs ++ ds ≠ []) (hxs : ∀ x ∈ xs, Printer.isBreak x = true) :
    endsFresh false (xs ++ ds) = endsFresh true ds := by
  have hbreaks : ∀ {xs : List Char}, (∀ x ∈ xs, Printer.isBreak x = true) → endsFresh true xs = true := by
    intro xs hxs
    induction xs with
    | nil => rfl
    | cons x xs ih =>
      rw [List.forall_mem_cons] at hxs
      rw [endsFresh, hxs.1]
      exact ih hxs.2
  cases xs with
  | nil =>
    cases ds with
    | nil => exact absurd rfl hne
    | cons d ds => rfl
  | cons x xs =>
    have hfirst : endsFresh false (x :: xs) = endsFresh true (x :: xs) := rfl
    rw [endsFresh_append, hfirst, hbreaks hxs]

/-- The lines behind the breaks at the beginning are read with them as the whole text. -/
theorem blockLines_behind {xs ds : List Char} (hne : xs ++ ds ≠ []) (hxs : ∀ x ∈ xs, isBreak x = true)
    (hchars : ∀ c ∈ xs ++ ds, Printer.isPrintable c = true) (hk : k < n)
    (hrest : rest = [] ∨ ∃ c cs, rest = c :: cs ∧ IsSolid c) (l : Nat) :
    ∃ l', blockLines true (endMark (xs ++ ds)) n { breaks := xs } ⟨l, 0⟩
        (literalRest n true ds ++ (Printer.spaces k ++ rest)) = .ok (String.ofList (xs ++ ds), ⟨l', k⟩, rest) := by
  obtain ⟨hchars', hds⟩ := List.forall_mem_append.1 hchars
  have hholds : ({ breaks := xs } : BlockState).Holds xs :=
    ⟨rfl, fun _ h => (nomatch h), hxs, fun _ _ => rfl, fun h => (nomatch h)⟩
  have hline : ({ breaks := xs } : BlockState).inLine = !true := rfl
  have hcolumn : true = true → (Place.mk l 0).column = 0 := fun _ => rfl
  obtain ⟨l', s, hend, hs, hread⟩ :=
    blockLines_literalRest (endMark (xs ++ ds)) hk hrest hds hline hcolumn hholds
  rw [← endsFresh_of_breaks hne fun x hx => by rw [← isBreak_of_isPrintable (hchars' x hx), hxs x hx]] at hs
  exact ⟨l', by rw [hread, hs.finish_eq hchars hend]⟩

theorem blockScalar_marks (parent : Int) (p : Place) (cs more : List Char) :
    blockScalar true parent p (Printer.literalMarks cs ++ '\n' :: more) =
      (leadingBreaks (if opensBlank cs then (max parent 0).toNat + 2 else 0) 0 [] ⟨p.line + 1, 0⟩ more).bind fun r =>
        blockLines true (endMark cs)
          (if opensBlank cs then (max parent 0).toNat + 2 else max r.1.2 (max (parent + 1).toNat 1))
          { breaks := r.1.1 } r.2.1 r.2.2 := by
  rw [blockScalar, literalMarks_eq, ofIndicators_marks]
  simp only [bind, Except.bind, lineEnd_newline]
  cases opensBlank cs with
  | true => rfl
  | false => rfl

/-- A literal block is read as its text, up to the line that comes after it. -/
theorem blockScalar_literal {parent : Int} (hn : (max parent 0).toNat + 2 = n) (hk : k < n)
    (hrest : rest = [] ∨ ∃ c cs, rest = c :: cs ∧ IsSolid c) (hne : cs ≠ [])
    (hchars : ∀ c ∈ cs, Printer.isPrintable c = true) (p : Place) :
    ∃ l, blockScalar true parent p
        (Printer.literalMarks cs ++ '\n' :: (literalRest n true cs ++ (Printer.spaces k ++ rest))) =
      .ok (String.ofList cs, ⟨l, k⟩, rest) := by
  rw [blockScalar_marks, hn]
  cases hblank : opensBlank cs with
  | true =>
    obtain ⟨xs, ds, deepest, l, p', more, rfl, hxs, hread, hlines⟩ :=
      leadingBreaks_given hk hrest hchars 0 [] (p.line + 1)
    obtain ⟨l', hend⟩ := blockLines_behind hne hxs hchars hk hrest l
    refine ⟨l', ?_⟩
    rw [if_pos rfl, hread, ← hend, ← hlines (endMark (xs ++ ds)) _ rfl]
    rfl
  | false =>
    obtain ⟨c, cs, rfl⟩ := List.exists_cons_of_ne_nil hne
    have hc := hchars c List.mem_cons_self
    have htab : c ≠ '\t' := by rintro rfl; cases hc
    simp only [opensBlank, List.head?_cons, Option.any_some, Bool.or_eq_false_iff, decide_eq_false_iff_not] at hblank
    have hbreak := (isBreak_of_isPrintable hc).trans hblank.2
    have hindent : max n (max (parent + 1).toNat 1) = n := by omega
    have hbody : literalRest n true (c :: cs) ++ (Printer.spaces k ++ rest) =
        Printer.spaces n ++ c :: (literalRest n false cs ++ (Printer.spaces k ++ rest)) := by
      rw [literalRest_start hblank.2, List.append_assoc, List.cons_append]
    have hnil : ∀ x ∈ ([] : List Char), isBreak x = true := List.forall_mem_nil _
    obtain ⟨l', hend⟩ := blockLines_behind hne hnil hchars hk hrest (p.line + 1)
    rw [hbody, List.nil_append] at hend
    refine ⟨l', ?_⟩
    rw [hbody, ← hend, blockLines_spaces rfl (by simp), Place.right_column, if_neg Bool.false_ne_true,
      leadingBreaks_guessed hblank.1 htab hbreak (by omega)]
    simp only [Except.bind, Bool.false_eq_true, if_false, hindent]

end FlowCheck.Yaml
