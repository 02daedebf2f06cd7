import FlowCheck.Proofs.Yaml.Steps
import Mathlib.Data.List.Chain

/-!
# Quoted YAML scalars

A quoted text reads back from the way it is written, up to what comes behind its closing quote.

* Between double quotes each character stands for itself, is named by a letter, or by its number
  (`isEscaped_doubleEscape`), and what is written for it puts it behind the characters before it
  (`quotedScalar_doubleEscape`).
* Between single quotes a break stands for itself, and the spaces before the next line do not count.  This is so as
  long as no space of the text stands beside a break (`Apart`, `quotedScalar_single`).
-/

namespace FlowCheck.Yaml

variable {c : Char} {cs done rest : List Char} {p : Place}

/-- A character with a meaning that no break has is none. -/
theorem isBreak_of_eq_some {α : Type} {f : Char → Option α} {a : α} (h : f c = some a)
    (hbreaks : f '\n' = none ∧ f '\u2028' = none ∧ f '\u2029' = none) : isBreak c = false := by
  refine Bool.eq_false_iff.2 fun hbreak => ?_
  simp only [isBreak, Bool.or_eq_true, decide_eq_true_eq] at hbreak
  rcases hbreak with (rfl | rfl) | rfl
  · cases hbreaks.1.symm.trans h
  · cases hbreaks.2.1.symm.trans h
  · cases hbreaks.2.2.symm.trans h

/-! ### Double quotes -/

theorem quotedScalar_hex {digits : List Char} (hne : digits ≠ []) (value : Nat) (gap : Gap)
    (h : digits.foldlM (fun n c => (Text.hexDigit? c).map (n * 16 + ·)) value = some c.toNat) :
    quotedScalar false (.hex digits.length value) done gap p (digits ++ rest) =
      quotedScalar false .text (c :: done) gap (p.right digits.length) rest := by
  induction digits generalizing value p with
  | nil => exact absurd rfl hne
  | cons d digits ih =>
    simp only [List.foldlM_cons] at h
    cases hd : Text.hexDigit? d with
    | none =>
      rw [hd] at h
      cases h
    | some n =>
      rw [hd] at h
      have hplace : p.after d = p.right 1 := Place.after_eq_right (isBreak_of_eq_some hd (by decide))
      have hvalue : value * 16 + n = 16 * value + n := by rw [Nat.mul_comm]
      simp only [Option.map_some, bind, Option.bind_some, hvalue] at h
      cases digits with
      | nil =>
        have hlast : 16 * value + n = c.toNat := Option.some.inj h
        have hvalid : ¬((0xD800 ≤ c.toNat ∧ c.toNat ≤ 0xDFFF) ∨ 0x10FFFF < c.toNat) := by
          rcases c.valid with hlow | hhigh
          · have hlow : c.toNat < 0xD800 := hlow
            omega
          · have hlow : 0xDFFF < c.toNat := hhigh.1
            have hhigh : c.toNat < 0x110000 := hhigh.2
            omega
        simp only [List.singleton_append, quotedScalar, hd, hlast, hvalid, List.length_singleton, hplace,
          Char.ofNat_toNat, Nat.lt_irrefl, if_false]
      | cons e digits =>
        have hmore : 1 < (d :: e :: digits).length := by simp
        have hih := ih (List.cons_ne_nil _ _) (16 * value + n) (p := p.right 1) h
        rw [List.cons_append, quotedScalar]
        simp only [hd, hmore, if_true, hplace]
        rw [List.length_cons, Nat.add_sub_cancel, hih, Place.right_right, Nat.add_comm 1]

/-- A character between double quotes stands for itself, is named by a letter, or by its number. -/
inductive IsEscaped (c : Char) : List Char → Prop
  | itself (hprintable : Printer.isPrintable c = true) (hbreak : isBreak c = false) (hquote : c ≠ '"')
      (hbackslash : c ≠ '\\') : IsEscaped c [c]
  | letter (name : Char) (h : escape? name = some c) : IsEscaped c ['\\', name]
  | digits {name : Char} {digits : List Char} (hnone : escape? name = none)
      (hname : hexDigits? name = some digits.length) (hne : digits ≠ [])
      (h : digits.foldlM (fun n c => (Text.hexDigit? c).map (n * 16 + ·)) 0 = some c.toNat) :
      IsEscaped c ('\\' :: name :: digits)

/-- The numbers of the characters that do not stand for themselves, and of some others below them. -/
def escapedNumbers : List Nat :=
  List.range 0xA0 ++ [0x2028, 0x2029, 0xFEFF, 0xFFFE, 0xFFFF]

theorem mem_escapedNumbers (h : (Printer.isPrintable c && !Printer.isBreak c) = false) :
    c.toNat ∈ escapedNumbers := by
  rcases Bool.and_eq_false_iff.1 h with h | h
  · simp only [Printer.isPrintable, Bool.or_eq_false_iff, Bool.and_eq_false_iff, decide_eq_false_iff_not] at h
    simp only [escapedNumbers, List.mem_append, List.mem_range, List.mem_cons, List.not_mem_nil, or_false]
    omega
  · simp only [Bool.not_eq_false', Printer.isBreak, Bool.or_eq_true, decide_eq_true_eq] at h
    rcases h with (((rfl | rfl) | rfl) | rfl) | rfl <;> decide

/-- The characters that do not stand for themselves can be looked at one by one. -/
theorem forall_escapedNumbers (r : Char → Prop) (hall : ∀ n ∈ escapedNumbers, r (Char.ofNat n))
    (h : (Printer.isPrintable c && !Printer.isBreak c) = false) : r c := by
  have hc := hall c.toNat (mem_escapedNumbers h)
  rwa [Char.ofNat_toNat] at hc

/-- The character behind the backslash, and the digits behind that. -/
def escapeParts (c : Char) : Char × List Char :=
  ((Printer.doubleEscape c).getD 1 c, (Printer.doubleEscape c).drop 2)

/-- The character is written with a letter, or with the digits of its number. -/
def IsNamed (c : Char) : Prop :=
  Printer.doubleEscape c = '\\' :: (escapeParts c).1 :: (escapeParts c).2 ∧
    ((escapeParts c).2 = [] ∧ escape? (escapeParts c).1 = some c ∨
      escape? (escapeParts c).1 = none ∧ hexDigits? (escapeParts c).1 = some (escapeParts c).2.length ∧
        (escapeParts c).2 ≠ [] ∧
        (escapeParts c).2.foldlM (fun n c => (Text.hexDigit? c).map (n * 16 + ·)) 0 = some c.toNat)

instance (c : Char) : Decidable (IsNamed c) :=
  inferInstanceAs (Decidable (_ ∧ (_ ∧ _ ∨ _)))

theorem IsNamed.isEscaped (h : IsNamed c) : IsEscaped c (Printer.doubleEscape c) := by
  obtain ⟨hescape, ⟨hnil, hletter⟩ | ⟨hnone, hname, hne, hdigits⟩⟩ := h
  · rw [hescape, hnil]
    exact .letter _ hletter
  · rw [hescape]
    exact .digits hnone hname hne hdigits

theorem isNamed_of_eq_false (h : (Printer.isPrintable c && !Printer.isBreak c) = false) : IsNamed c := by
  have hcases := forall_escapedNumbers (fun c => (Printer.isPrintable c && !Printer.isBreak c) = true ∨ IsNamed c)
    (by decide +kernel) h
  rw [h] at hcases
  exact hcases.resolve_left Bool.false_ne_true

theorem isEscaped_doubleEscape (c : Char) : IsEscaped c (Printer.doubleEscape c) := by
  by_cases hmark : c = '"' ∨ c = '\\'
  · rcases hmark with rfl | rfl
    · exact .letter '"' rfl
    · exact .letter '\\' rfl
  rw [not_or] at hmark
  cases hplain : Printer.isPrintable c && !Printer.isBreak c with
  | true =>
    have hself : Printer.doubleEscape c = [c] := by
      simp [Printer.doubleEscape, hmark, hplain]
    rw [Bool.and_eq_true, Bool.not_eq_true'] at hplain
    rw [hself]
    exact .itself hplain.1 (by rw [isBreak_of_isPrintable hplain.1, hplain.2]) hmark.1 hmark.2
  | false => exact (isNamed_of_eq_false hplain).isEscaped

theorem quotedScalar_backslash (done g : List Char) (p : Place) (rest : List Char) :
    quotedScalar false .text done (.spaces g) p ('\\' :: rest) =
      quotedScalar false .escape (g.reverse ++ done) .none (p.right 1) rest := by
  have hmarker : atDocumentMarker p ('\\' :: rest) = false := by
    simp [atDocumentMarker, isMarker]
  have hspace : (isSpace '\\' || isBreak '\\') = false := rfl
  have hplace : p.after '\\' = p.right 1 := Place.after_eq_right rfl
  simp [quotedScalar, hmarker, hspace, hplace, Gap.join, Gap.text]

theorem quotedScalar_letter {name : Char} (h : escape? name = some c) (done g : List Char) (p : Place)
    (rest : List Char) :
    quotedScalar false .text done (.spaces g) p ('\\' :: name :: rest) =
      quotedScalar false .text (c :: (g.reverse ++ done)) .none (p.right 2) rest := by
  have hbreak := isBreak_of_eq_some h (by decide)
  rw [quotedScalar_backslash, quotedScalar]
  simp only [hbreak, h, Place.after_eq_right hbreak, Place.right_right, Bool.false_eq_true, if_false]

theorem quotedScalar_digits {name : Char} {digits : List Char} (hnone : escape? name = none)
    (hname : hexDigits? name = some digits.length) (hne : digits ≠ [])
    (h : digits.foldlM (fun n c => (Text.hexDigit? c).map (n * 16 + ·)) 0 = some c.toNat) (done g : List Char)
    (p : Place) (rest : List Char) :
    quotedScalar false .text done (.spaces g) p ('\\' :: name :: (digits ++ rest)) =
      quotedScalar false .text (c :: (g.reverse ++ done)) .none (p.right (digits.length + 2)) rest := by
  have hbreak := isBreak_of_eq_some hname (by decide)
  rw [quotedScalar_backslash, quotedScalar]
  simp only [hbreak, hnone, hname, Place.after_eq_right hbreak, Place.right_right, Bool.false_eq_true, if_false]
  rw [quotedScalar_hex hne 0 _ h, Place.right_right]
  congr 2
  omega

/-- One character is read from the way it is written: it stands behind the characters before it. -/
theorem quotedScalar_doubleEscape (c : Char) (done g : List Char) (hp : 0 < p.column) (rest : List Char) :
    ∃ done' g', done'.reverse ++ g' = done.reverse ++ g ++ [c] ∧
      quotedScalar false .text done (.spaces g) p (Printer.doubleEscape c ++ rest) =
        quotedScalar false .text done' (.spaces g') (p.right (Printer.doubleEscape c).length) rest := by
  have hput : (c :: (g.reverse ++ done)).reverse ++ [] = done.reverse ++ g ++ [c] := by simp
  have hescaped := isEscaped_doubleEscape c
  generalize Printer.doubleEscape c = text at hescaped ⊢
  cases hescaped with
  | itself hprintable hbreak hquote hbackslash =>
    have hplace : p.after c = p.right 1 := Place.after_eq_right hbreak
    have hmarker : atDocumentMarker p (c :: rest) = false := by
      simp [atDocumentMarker, Nat.ne_of_gt hp]
    by_cases hspace : c = ' '
    · subst hspace
      refine ⟨done, g ++ [' '], by simp, ?_⟩
      simp [quotedScalar, isSpace, Gap.push, isBreak, hplace]
    · have htab : c ≠ '\t' := by rintro rfl; cases hprintable
      have hsolid : (isSpace c || isBreak c) = false := by simp [isSpace, hspace, htab, hbreak]
      refine ⟨_, _, hput, ?_⟩
      simp [quotedScalar, hsolid, hmarker, hquote, hbackslash, hplace, Gap.join, Gap.text, Gap.none]
  | letter name h => exact ⟨_, _, hput, quotedScalar_letter h done g p rest⟩
  | digits hnone hname hne h => exact ⟨_, _, hput, quotedScalar_digits hnone hname hne h done g p rest⟩

/-- A text between double quotes is read back. -/
theorem quotedScalar_double (cs done g : List Char) (hp : 0 < p.column) (rest : List Char) :
    quotedScalar false .text done (.spaces g) p (cs.flatMap Printer.doubleEscape ++ '"' :: rest) =
      .ok (String.ofList (done.reverse ++ g ++ cs), p.right ((cs.flatMap Printer.doubleEscape).length + 1), rest) := by
  induction cs generalizing done g p with
  | nil =>
    have hmarker : atDocumentMarker p ('"' :: rest) = false := by
      simp [atDocumentMarker, Nat.ne_of_gt hp]
    have hplace : p.after '"' = p.right 1 := Place.after_eq_right rfl
    have hspace : (isSpace '"' || isBreak '"') = false := rfl
    simp [quotedScalar, hmarker, hplace, hspace, Gap.join, Gap.text]
  | cons c cs ih =>
    obtain ⟨done', g', hread, hstep⟩ :=
      quotedScalar_doubleEscape c done g hp (cs.flatMap Printer.doubleEscape ++ '"' :: rest)
    rw [List.flatMap_cons, List.append_assoc, hstep, ih done' g' (Nat.lt_of_lt_of_le hp (Nat.le_add_right _ _)), hread,
      Place.right_right, List.length_append, List.append_assoc, List.singleton_append, Nat.add_assoc]

/-! ### Single quotes -/

/-- Neighbours in a text between single quotes: no space stands beside a break. -/
def Apart (a b : Char) : Prop :=
  ¬(Printer.isBreak a = true ∧ b = ' ') ∧ ¬(a = ' ' ∧ Printer.isBreak b = true)

/-- The indentation of a line, where one begins. -/
def lineStart (n : Nat) (fresh : Bool) : List Char :=
  if fresh then Printer.spaces n else []

/-- A character between single quotes; a quote is written twice. -/
def singleEscape (c : Char) : List Char :=
  if c = '\'' then ['\'', '\''] else [c]

theorem isBreak_of_mem_singleEscape {d : Char} (hc : isBreak c = false) (hd : d ∈ singleEscape c) :
    isBreak d = false := by
  unfold singleEscape at hd
  split at hd <;> simp_all

/-- The rest of a text between single quotes with its closing quote. -/
def singleRest (n : Nat) : Bool → List Char → List Char
  | fresh, [] => lineStart n fresh ++ ['\'']
  | fresh, c :: cs =>
    if Printer.isBreak c then c :: singleRest n true cs
    else lineStart n fresh ++ (singleEscape c ++ singleRest n false cs)

theorem singleRest_eq (n : Nat) (fresh : Bool) (cs : List Char) :
    singleRest n fresh cs = Printer.indented n singleEscape fresh cs ++
      lineStart n (cs.getLast?.any Printer.isBreak || cs.isEmpty && fresh) ++ ['\''] := by
  induction cs generalizing fresh with
  | nil => rfl
  | cons c cs ih =>
    have hlast : ((c :: cs).getLast?.any Printer.isBreak || (c :: cs).isEmpty && fresh) =
        (cs.getLast?.any Printer.isBreak || cs.isEmpty && Printer.isBreak c) := by
      cases cs <;> simp
    rw [singleRest, Printer.indented, hlast, ← lineStart]
    cases hbreak : Printer.isBreak c with
    | true =>
      rw [if_pos rfl, if_pos rfl, ih]
      rfl
    | false =>
      rw [if_neg Bool.false_ne_true, if_neg Bool.false_ne_true, ih]
      simp only [List.append_assoc]

theorem singleQuoted_eq (n : Nat) (cs : List Char) :
    Printer.singleQuoted n cs = '\'' :: singleRest n false cs := by
  rw [singleRest_eq, Bool.and_false, Bool.or_false]
  rfl

/-- The gap between what was read and what comes next: spaces, or behind a break breaks. -/
inductive Gap.Behind : Bool → Gap → Prop
  | spaces (g : List Char) : Behind false (.spaces g)
  | breaks {c : Char} (more : List Char) (h : c ≠ '\n') : Behind true (.breaks (some c) more)

section Gaps

variable {fresh : Bool} {gap : Gap} {n : Nat}

theorem Gap.reverse_join (gap : Gap) (done : List Char) : (gap.join done).reverse = done.reverse ++ gap.text := by
  simp [Gap.join]

theorem Gap.text_breaks (h : c ≠ '\n') (more : List Char) : (Gap.breaks (some c) more).text = c :: more := by
  unfold Gap.text
  split
  · rename_i heq
    cases heq
  · rename_i heq
    cases heq
    exact absurd rfl h
  · rename_i heq
    cases heq
    exact absurd rfl h
  · rename_i heq
    cases heq
    rfl

theorem Gap.Behind.push (h : gap.Behind fresh) (hc : isBreak c = true) (hfeed : c ≠ '\n')
    (hnone : fresh = false → gap = .none) : (gap.push c).Behind true ∧ (gap.push c).text = gap.text ++ [c] := by
  cases h with
  | spaces g =>
    cases hnone rfl
    have hpush : Gap.none.push c = .breaks (some c) [] := by simp [Gap.push, Gap.none, hc]
    rw [← Gap.none, hpush]
    exact ⟨.breaks [] hfeed, Gap.text_breaks hfeed []⟩
  | breaks more h =>
    rw [Gap.push, if_pos hc, Gap.text_breaks h, Gap.text_breaks h]
    exact ⟨.breaks _ h, rfl⟩

/-- Spaces and breaks are put into the gap. -/
theorem quotedScalar_push (hc : (isSpace c || isBreak c) = true) (done : List Char) (gap : Gap) (p : Place)
    (rest : List Char) :
    quotedScalar true .text done gap p (c :: rest) = quotedScalar true .text done (gap.push c) (p.after c) rest := by
  rw [quotedScalar]
  simp only [hc, if_true]

theorem quotedScalar_spaces (first : Option Char) (more : List Char) (n : Nat) (p : Place) (rest : List Char) :
    quotedScalar true .text done (.breaks first more) p (Printer.spaces n ++ rest) =
      quotedScalar true .text done (.breaks first more) (p.right n) rest := by
  induction n generalizing p with
  | zero => rfl
  | succ n ih =>
    have hplace : p.after ' ' = p.right 1 := Place.after_eq_right rfl
    have hpush : (Gap.breaks first more).push ' ' = .breaks first more := rfl
    rw [Printer.spaces, List.replicate_succ, List.cons_append, quotedScalar_push rfl, hpush, hplace, ← Printer.spaces,
      ih, Place.right_right, Nat.add_comm 1]

/-- The indentation of a line does not count. -/
theorem quotedScalar_lineStart (hgap : gap.Behind fresh) (n : Nat) (p : Place) (rest : List Char) :
    quotedScalar true .text done gap p (lineStart n fresh ++ rest) =
      quotedScalar true .text done gap (p.behind (lineStart n fresh)) rest := by
  cases hgap with
  | spaces g => rfl
  | breaks more h =>
    rw [lineStart, if_pos rfl, quotedScalar_spaces, Place.behind_spaces]

theorem column_lineStart_pos (hn : 0 < n) (hp : fresh = false → 0 < p.column) :
    0 < (p.behind (lineStart n fresh)).column := by
  cases fresh with
  | false => exact hp rfl
  | true =>
    rw [lineStart, if_pos rfl, Place.behind_spaces]
    exact Nat.lt_of_lt_of_le hn (Nat.le_add_left n p.column)

/-- A character that is no space and no break is put behind the gap. -/
theorem quotedScalar_singleEscape (hc : (isSpace c || isBreak c) = false) (hp : 0 < p.column) (gap : Gap)
    (rest : List Char) :
    quotedScalar true .text done gap p (singleEscape c ++ rest) =
      quotedScalar true .text (c :: gap.join done) .none (p.behind (singleEscape c)) rest := by
  rw [Bool.or_eq_false_iff] at hc
  have hplace : ∀ p : Place, p.after c = p.right 1 := fun p => Place.after_eq_right hc.2
  unfold singleEscape
  by_cases hquote : c = '\''
  · subst hquote
    have hmarker : atDocumentMarker p ('\'' :: '\'' :: rest) = false := by
      simp [atDocumentMarker, Nat.ne_of_gt hp]
    simp [quotedScalar, hc, hmarker, hplace, Place.behind]
  · have hmarker : atDocumentMarker p (c :: rest) = false := by
      simp [atDocumentMarker, Nat.ne_of_gt hp]
    simp [quotedScalar, hc, hmarker, hplace, hquote, Place.behind]

theorem column_singleEscape_pos (hc : isBreak c = false) (p : Place) : 0 < (p.behind (singleEscape c)).column := by
  have hlength : 0 < (singleEscape c).length := by
    unfold singleEscape
    split <;> exact Nat.succ_pos _
  rw [Place.behind_eq_right fun d => isBreak_of_mem_singleEscape hc]
  exact Nat.lt_of_lt_of_le hlength (Nat.le_add_left _ _)

theorem quotedScalar_close (hp : 0 < p.column) (hrest : ∀ c ∈ rest.head?, c ≠ '\'') (done : List Char) (gap : Gap) :
    quotedScalar true .text done gap p ('\'' :: rest) =
      .ok (String.ofList (done.reverse ++ gap.text), p.right 1, rest) := by
  have hmarker : atDocumentMarker p ('\'' :: rest) = false := by
    simp [atDocumentMarker, Nat.ne_of_gt hp]
  have hsolid : (isSpace '\'' || isBreak '\'') = false := rfl
  have hplace : p.after '\'' = p.right 1 := Place.after_eq_right rfl
  have hread : quotedScalar true .text done gap p ('\'' :: rest) =
      quotedScalar true .quote (gap.join done) .none (p.right 1) rest := by
    simp [quotedScalar, hmarker, hsolid, hplace]
  rw [hread]
  cases rest with
  | nil => rw [quotedScalar, Gap.reverse_join]
  | cons c rest => rw [quotedScalar, if_neg (hrest c rfl), Gap.reverse_join]

/-- A text between single quotes is read back.  What was read last is told by the gap: at the start of a line no space
comes next, and behind spaces no break. -/
theorem quotedScalar_single (hn : 0 < n) (hrest : ∀ c ∈ rest.head?, c ≠ '\'') (hgap : gap.Behind fresh)
    (hp : fresh = false → 0 < p.column) (hchars : ∀ c ∈ cs, Printer.isPrintable c = true ∧ c ≠ '\n')
    (hchain : cs.IsChain Apart)
    (hfirst : ∀ c ∈ cs.head?, (fresh = true → c ≠ ' ') ∧ (gap ≠ .none → fresh = false → isBreak c = false))
    (done : List Char) :
    quotedScalar true .text done gap p (singleRest n fresh cs ++ rest) =
      .ok (String.ofList (done.reverse ++ gap.text ++ cs), p.behind (singleRest n fresh cs), rest) := by
  induction cs generalizing done gap fresh p with
  | nil =>
    rw [List.append_nil, singleRest, List.append_assoc, List.singleton_append, quotedScalar_lineStart hgap,
      quotedScalar_close (column_lineStart_pos hn hp) hrest, Place.behind_append]
    rfl
  | cons c cs ih =>
    rw [List.forall_mem_cons] at hchars
    obtain ⟨⟨hprintable, hfeed⟩, hchars⟩ := hchars
    have hsame := isBreak_of_isPrintable hprintable
    obtain ⟨hspace, hbreaks⟩ := hfirst c rfl
    rw [List.isChain_cons] at hchain
    obtain ⟨hnext, hchain⟩ := hchain
    rw [singleRest, ← hsame]
    cases hbreak : isBreak c with
    | true =>
      have hnone : fresh = false → gap = .none := by
        intro hfresh
        by_contra hgap
        rw [hbreaks hgap hfresh] at hbreak
        cases hbreak
      obtain ⟨hpush, htext⟩ := hgap.push hbreak hfeed hnone
      have hread := ih hpush (p := p.after c) (fun h => Bool.noConfusion h) hchars hchain
        (fun d hd => ⟨fun _ hd' => (hnext d hd).1 ⟨hsame.symm.trans hbreak, hd'⟩, fun _ h => Bool.noConfusion h⟩) done
      rw [if_pos rfl, List.cons_append, quotedScalar_push (by rw [hbreak, Bool.or_true]), hread, htext]
      simp [Place.behind]
    | false =>
      rw [if_neg Bool.false_ne_true]
      have htab : c ≠ '\t' := by rintro rfl; cases hprintable
      by_cases hc : c = ' '
      · subst hc
        -- a space belongs to the gap, and no line begins with it
        cases hgap with
        | breaks more h => exact absurd rfl (hspace rfl)
        | spaces g =>
          have hnobreak : ∀ d ∈ cs.head?, isBreak d = false := by
            intro d hd
            rw [isBreak_of_isPrintable (hchars d (List.mem_of_mem_head? hd)).1]
            exact Bool.eq_false_iff.2 fun hd' => (hnext d hd).2 ⟨rfl, hd'⟩
          have hread := ih (.spaces (g ++ [' '])) (p := p.right 1) (fun _ => Nat.succ_pos _) hchars hchain
            (fun d hd => ⟨fun h => Bool.noConfusion h, fun _ _ => hnobreak d hd⟩) done
          have hplace : p.after ' ' = p.right 1 := Place.after_eq_right rfl
          have hpush : (Gap.spaces g).push ' ' = .spaces (g ++ [' ']) := rfl
          have hescape : lineStart n false ++ (singleEscape ' ' ++ singleRest n false cs) =
              ' ' :: singleRest n false cs :=
            rfl
          rw [hescape, List.cons_append, quotedScalar_push rfl, hpush, hplace, hread]
          simp [Gap.text, Place.behind, hplace]
      · have hsolid : (isSpace c || isBreak c) = false := by simp [isSpace, hc, htab, hbreak]
        have hread := ih (.spaces []) (p := (p.behind (lineStart n fresh)).behind (singleEscape c))
          (fun _ => column_singleEscape_pos hbreak _) hchars hchain
          (fun d hd => ⟨fun h => Bool.noConfusion h, fun h => absurd rfl h⟩) (c :: gap.join done)
        rw [List.append_assoc, quotedScalar_lineStart hgap, List.append_assoc,
          quotedScalar_singleEscape hsolid (column_lineStart_pos hn hp), Place.behind_append, Place.behind_append]
        refine hread.trans ?_
        simp [Gap.reverse_join, Gap.text]

end Gaps

end FlowCheck.Yaml
