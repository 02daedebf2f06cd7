import FlowCheck.Proofs.Yaml.Texts
import FlowCheck.Yaml.Reader
import FlowCheck.Proofs.Json.Reading

/-!
# Scalars in YAML

What the printer writes for a value without parts, ended by a line feed, fills its line for the scanner (`fills_scalar`,
and `fills_emptyList` and `fills_emptyObject` for containers that hold nothing), and the token that comes of it is read
as the value again (`scalarValue_scalarOf`).

A text that counts as a simple key may be one (`scans_text`): it is on one line, and as it is short, so is what is
written for it, whatever its characters (`length_doubleQuoted_le`, `length_singleQuoted_le`).
-/

namespace FlowCheck.Yaml

variable {c : Char} {cs text : List Char} {n : Nat} {i : Int}

/-! ### Lines -/

theorem endLine_append (pre : List Char) (h : text ≠ []) :
    Printer.endLine (pre ++ text) = pre ++ Printer.endLine text := by
  have hlast : (pre ++ text).getLast? = text.getLast? := by
    rw [List.getLast?_append, List.getLast?_eq_some_getLast h, Option.some_or]
  unfold Printer.endLine
  rw [hlast]
  split
  · rfl
  · rw [List.append_assoc]

theorem endLine_concat (hc : Printer.isBreak c = false) (cs : List Char) :
    Printer.endLine (cs ++ [c]) = cs ++ [c] ++ ['\n'] := by
  rw [Printer.endLine, List.getLast?_concat, Option.any_some, hc, if_neg Bool.false_ne_true]

/-- The lines of a literal block end with a break just when the text does. -/
theorem getLast?_indented (n : Nat) {fresh : Bool} (hc : Printer.isBreak c = fresh) (cs : List Char) :
    (c :: Printer.indented n (fun c => [c]) fresh cs).getLast?.any Printer.isBreak = endsFresh fresh cs := by
  induction cs generalizing c fresh with
  | nil => exact hc
  | cons d cs ih =>
    rw [endsFresh, Printer.indented]
    cases hd : Printer.isBreak d with
    | true =>
      rw [if_pos rfl, List.getLast?_cons_cons]
      exact ih hd
    | false =>
      have hne : d :: Printer.indented n (fun c => [c]) false cs ≠ [] := List.cons_ne_nil _ _
      rw [if_neg Bool.false_ne_true, List.append_assoc, List.singleton_append, ← List.cons_append,
        List.getLast?_append, List.getLast?_eq_some_getLast hne, Option.some_or, ← List.getLast?_eq_some_getLast]
      exact ih hd

theorem literalRest_eq (n : Nat) (fresh : Bool) (cs : List Char) :
    literalRest n fresh cs =
      Printer.indented n (fun c => [c]) fresh cs ++ if endsFresh fresh cs then [] else ['\n'] := by
  induction cs generalizing fresh with
  | nil => rfl
  | cons c cs ih =>
    rw [literalRest, Printer.indented, endsFresh, literalChar, ih, ← lineStart]
    split
    · rename_i hbreak
      rw [hbreak]
      rfl
    · rename_i hbreak
      rw [Bool.not_eq_true] at hbreak
      simp only [hbreak, List.append_assoc]

theorem endLine_literalBlock (n : Nat) (cs : List Char) :
    Printer.endLine (Printer.literalBlock n cs) =
      '|' :: (Printer.literalMarks cs ++ '\n' :: literalRest n true cs) := by
  have hbreak : Printer.isBreak '\n' = true := rfl
  have hlast := getLast?_indented n hbreak cs
  have hblock : Printer.literalBlock n cs =
      ('|' :: Printer.literalMarks cs) ++ '\n' :: Printer.indented n (fun c => [c]) true cs := rfl
  rw [hblock, endLine_append _ (List.cons_ne_nil _ _), Printer.endLine, hlast, literalRest_eq]
  split <;> simp

/-! ### Texts -/

theorem endLine_plain (h : IsPlain cs) : Printer.endLine cs = cs ++ ['\n'] := by
  obtain ⟨xs, c, rfl⟩ := (List.eq_nil_or_concat cs).resolve_left h.ne_nil
  rw [List.concat_eq_append] at h ⊢
  exact endLine_concat (h.chars c (by simp)).2 xs

theorem endLine_singleQuoted (n : Nat) (cs : List Char) :
    Printer.endLine (Printer.singleQuoted n cs) = Printer.singleQuoted n cs ++ ['\n'] :=
  endLine_concat rfl _

theorem endLine_doubleQuoted (cs : List Char) :
    Printer.endLine (Printer.doubleQuoted cs) = Printer.doubleQuoted cs ++ ['\n'] :=
  endLine_concat rfl _

theorem writeText_ne_nil (n : Nat) (s : String) : Printer.writeText n s ≠ [] := by
  have hstyled := styled s
  rw [Printer.writeText]
  generalize Printer.style s = style at hstyled ⊢
  cases hstyled with
  | plain h => exact h.ne_nil
  | single => exact List.cons_ne_nil _ _
  | double => exact List.cons_ne_nil _ _
  | literal => exact List.cons_ne_nil _ _

namespace TokenState

theorem fills_text (hn : (max i 0).toNat + 2 = n) (s : String) :
    Fills i (Printer.endLine (Printer.writeText n s)) [textToken s] := by
  obtain ⟨cs, rfl⟩ : ∃ cs, s = String.ofList cs := ⟨s.toList, String.ofList_toList.symm⟩
  have hpositive : 0 < n := by omega
  have hstyled := styled (String.ofList cs)
  rw [Printer.writeText, textToken]
  rw [String.toList_ofList] at hstyled ⊢
  generalize Printer.style (String.ofList cs) = style at hstyled ⊢
  cases hstyled with
  | plain h =>
    rw [endLine_plain h]
    exact fills_plain h
  | single hchars hchain =>
    rw [endLine_singleQuoted]
    exact fills_singleQuoted hpositive hchars hchain
  | double =>
    rw [endLine_doubleQuoted]
    exact fills_doubleQuoted cs
  | literal hne hchars =>
    rw [endLine_literalBlock]
    exact fills_literal hn hne hchars

end TokenState

/-! ### Keys -/

theorem length_doubleEscape_le (c : Char) : (Printer.doubleEscape c).length ≤ 6 := by
  cases hplain : Printer.isPrintable c && !Printer.isBreak c with
  | true =>
    simp only [Printer.doubleEscape, hplain, if_true]
    split <;> simp
  | false => exact forall_escapedNumbers (fun c => (Printer.doubleEscape c).length ≤ 6) (by decide +kernel) hplain

theorem length_doubleQuoted_le (cs : List Char) : (Printer.doubleQuoted cs).length ≤ 6 * cs.length + 2 := by
  have hflat : (cs.flatMap Printer.doubleEscape).length ≤ 6 * cs.length := by
    induction cs with
    | nil => exact Nat.le_refl _
    | cons c cs ih =>
      have hc := length_doubleEscape_le c
      rw [List.flatMap_cons, List.length_append, List.length_cons]
      omega
  rw [TokenState.doubleQuoted_eq, List.length_cons, List.length_append, List.length_singleton]
  omega

theorem length_singleQuoted_le (n : Nat) (hbreak : ∀ c ∈ cs, Printer.isBreak c = false) :
    (Printer.singleQuoted n cs).length ≤ 2 * cs.length + 2 := by
  rw [singleQuoted_eq, List.length_cons]
  refine Nat.succ_le_succ ?_
  induction cs with
  | nil => exact Nat.le_refl _
  | cons c cs ih =>
    rw [List.forall_mem_cons] at hbreak
    have hc : (singleEscape c).length ≤ 2 := by
      unfold singleEscape
      split <;> simp
    have hcs := ih hbreak.2
    have hstart : lineStart n false = [] := rfl
    rw [singleRest, hbreak.1, if_neg Bool.false_ne_true, hstart, List.nil_append, List.length_append, List.length_cons]
    omega

namespace TokenState

theorem scans_text (hn : 0 < n) {s : String} (hs : Printer.isSimpleKey s = true) :
    Scans (Printer.writeText n s) (textToken s) := by
  obtain ⟨cs, rfl⟩ : ∃ cs, s = String.ofList cs := ⟨s.toList, String.ofList_toList.symm⟩
  simp only [Printer.isSimpleKey, Bool.and_eq_true, Bool.not_eq_true', List.any_eq_false, Bool.not_eq_true,
    decide_eq_true_eq, String.toList_ofList] at hs
  obtain ⟨hbreak, hsize⟩ := hs
  have hlength : cs.length ≤ 128 := Nat.le_trans (Json.length_le_utf8ByteSize cs) hsize
  have hstyled := styled (String.ofList cs)
  rw [Printer.writeText, textToken]
  rw [String.toList_ofList] at hstyled ⊢
  generalize Printer.style (String.ofList cs) = style at hstyled ⊢
  cases hstyled with
  | plain h => exact scans_plain h (Nat.le_trans hlength (by decide))
  | single hchars hchain =>
    have hquoted := length_singleQuoted_le n hbreak
    exact scans_singleQuoted hn hchars hchain hbreak (by omega)
  | double =>
    have hquoted := length_doubleQuoted_le cs
    exact scans_doubleQuoted (by omega)
  | literal _ _ hfeed =>
    have hfalse := hbreak _ hfeed
    cases hfalse

end TokenState

/-! ### Scalars -/

/-- Whether a scalar is plain, and its characters. -/
def scalarOf : Value → Bool × String
  | .null => (true, "null")
  | .bool b => (true, toString b)
  | .int n => (true, toString n.val)
  | .string s => (Printer.style s == .plain, s)
  | _ => (true, "")

theorem toList_toString_int (n : Int) :
    (toString n).toList = (if n < 0 then ['-'] else []) ++ Nat.toDigits 10 n.natAbs := by
  cases n with
  | ofNat n => simp [toString, Int.repr, Nat.repr]
  | negSucc n => simp [toString, Int.repr, Nat.repr, Int.negSucc_lt_zero]

theorem hasInnerMarkup_of_notMem (hcolon : ':' ∉ cs) (hnumber : '#' ∉ cs) : Printer.hasInnerMarkup cs = false := by
  fun_induction Printer.hasInnerMarkup cs with
  | case1 => rfl
  | case2 => rfl
  | case3 c d rest ih =>
    simp only [List.mem_cons, not_or] at hcolon hnumber
    simp [Ne.symm hcolon.2.1, Ne.symm hnumber.2.1, ih, hcolon, hnumber]

theorem notMem_toString_int (hdigit : c.isDigit = false) (hminus : c ≠ '-') (n : Int) : c ∉ (toString n).toList := by
  intro hc
  rcases mem_toString_int hc with h | h
  · rw [h] at hdigit
    cases hdigit
  · exact hminus h

theorem isPrintable_of_isDigit (h : c.isDigit = true) : Printer.isPrintable c = true ∧ Printer.isBreak c = false := by
  have hne : ∀ d : Char, d.isDigit = false → c ≠ d := Json.ne_of_isDigit h
  constructor
  · simp only [Char.isDigit, Bool.and_eq_true, decide_eq_true_eq, ge_iff_le, UInt32.le_iff_toNat_le] at h
    simp only [Printer.isPrintable, Bool.or_eq_true, Bool.and_eq_true, decide_eq_true_eq]
    exact Or.inl (Or.inr ⟨Nat.le_trans (by decide) h.1, Nat.le_trans h.2 (by decide)⟩)
  · simp [Printer.isBreak, hne]

theorem isPlain_word (hchars : cs.all (fun c => Printer.isPrintable c && !Printer.isBreak c) = true)
    (hspace : cs ≠ [] ∧ cs.head? ≠ some ' ' ∧ cs.getLast? ≠ some ' ') (hmarkup : Printer.looksLikeMarkup cs = false) :
    IsPlain cs := by
  refine ⟨hspace.1, fun c hc => ?_, hspace.2.1, hspace.2.2, hmarkup⟩
  simpa using List.all_eq_true.1 hchars c hc

theorem isPlain_int (n : Int) : IsPlain (toString n).toList := by
  have hother : ∀ c : Char, c.isDigit = false → c ≠ '-' → c ∉ (toString n).toList := fun c hdigit hminus =>
    notMem_toString_int hdigit hminus n
  refine ⟨?_, fun c hc => ?_, ?_, ?_, ?_⟩
  · rw [toList_toString_int]
    simp [Nat.toDigits_ne_nil]
  · rcases mem_toString_int hc with h | rfl
    · exact isPrintable_of_isDigit h
    · decide
  · exact fun h => hother ' ' rfl (by decide) (List.mem_of_mem_head? h)
  · exact fun h => hother ' ' rfl (by decide) (List.mem_of_getLast? h)
  · have hinner := hasInnerMarkup_of_notMem (hother ':' rfl (by decide)) (hother '#' rfl (by decide))
    obtain ⟨d, digits, hcons, hd⟩ := exists_cons_of_decimal n.natAbs
    have hne : ∀ e : Char, e.isDigit = false → d ≠ e := Json.ne_of_isDigit hd
    have hminus : '-' ≠ d := (hne '-' rfl).symm
    have hpoint : '.' ≠ d := (hne '.' rfl).symm
    rw [toList_toString_int, hcons] at hinner ⊢
    by_cases hneg : n < 0
    · rw [if_pos hneg, List.singleton_append] at hinner ⊢
      rw [Printer.looksLikeMarkup.eq_def]
      simp [List.isPrefixOf, Printer.opensMarkup, Printer.isGap, Printer.isBreak, hne, hminus, hinner]
    · rw [if_neg hneg, List.nil_append] at hinner ⊢
      rw [Printer.looksLikeMarkup.eq_def]
      simp [List.isPrefixOf, Printer.opensMarkup, hne, hminus, hpoint, hinner]

/-! ### Numbers -/

theorem dropSign_decimal (n : Nat) : dropSign (Nat.toDigits 10 n) = Nat.toDigits 10 n := by
  unfold dropSign
  split
  · rename_i heq
    cases isDigit_of_mem_decimal (n := n) (heq ▸ List.mem_cons_self)
  · rename_i heq
    cases isDigit_of_mem_decimal (n := n) (heq ▸ List.mem_cons_self)
  · rfl

theorem hasLeadingZero_decimal (n : Nat) : hasLeadingZero (Nat.toDigits 10 n) = false := by
  rw [hasLeadingZero, dropSign_decimal]
  split
  · rename_i heq
    rw [eq_nil_of_decimal heq]
    rfl
  · rfl

theorem isDigits_decimal (n : Nat) : isDigits (Nat.toDigits 10 n) = true := by
  obtain ⟨d, digits, hcons, -⟩ := exists_cons_of_decimal n
  rw [isDigits, List.all_eq_true.2 fun c => isDigit_of_mem_decimal, hcons]
  rfl

theorem natural?_decimal (n : Nat) : natural? (Nat.toDigits 10 n) = some n := by
  have hvalue : digitsValue (Nat.toDigits 10 n) = n := Nat.ofDigitChars_ten_toDigits
  unfold natural?
  split
  · rename_i heq
    cases eq_nil_of_decimal heq
  · rename_i heq
    cases eq_nil_of_decimal heq
  · rename_i heq
    cases eq_nil_of_decimal heq
  · rw [isDigits_decimal, hasLeadingZero_decimal, hvalue]
    rfl

theorem integer?_toString {n : Int} (hle : -0x8000000000000000 ≤ n) (hlt : n < 0x10000000000000000) :
    integer? (toString n).toList = some n := by
  rw [toList_toString_int]
  by_cases hneg : n < 0
  · have hlow : n.natAbs ≤ 0x80000000000000000000000000000000 := by omega
    rw [if_pos hneg, List.singleton_append, integer?, natural?_decimal, Option.bind_some, if_pos hlow]
    congr 1
    omega
  · have hhigh : n.natAbs < 0x100000000000000000000000000000000 := by omega
    have hread : (natural? (Nat.toDigits 10 n.natAbs)).bind
        (fun m => if m < 0x100000000000000000000000000000000 then some (m : Int) else none) = some n := by
      rw [natural?_decimal, Option.bind_some, if_pos hhigh]
      congr 1
      omega
    rw [if_neg hneg, List.nil_append]
    unfold integer?
    split
    · rename_i heq
      cases isDigit_of_mem_decimal (n := n.natAbs) (heq ▸ List.mem_cons_self)
    · rename_i heq
      cases isDigit_of_mem_decimal (n := n.natAbs) (heq ▸ List.mem_cons_self)
    · exact hread

/-- No word of YAML is written with digits and a sign only. -/
theorem resolve_int {n : Int} (hle : -0x8000000000000000 ≤ n) (hlt : n < 0x10000000000000000) :
    resolve (toString n) = .int n := by
  have hother : ∀ words : List String,
      (words.all fun s => s.toList.isEmpty || s.toList.any fun c => !(c.isDigit || c = '-')) = true →
        words.contains (toString n) = false := by
    intro words hwords
    refine Bool.eq_false_iff.2 fun hn => ?_
    have hword := List.all_eq_true.1 hwords _ (List.contains_iff_mem.1 hn)
    simp only [Bool.or_eq_true, List.isEmpty_iff, (isPlain_int n).ne_nil, false_or, List.any_eq_true] at hword
    obtain ⟨c, hc, hother⟩ := hword
    rcases mem_toString_int hc with h | rfl
    · rw [h] at hother
      cases hother
    · cases hother
  have hnull : isNull (toString n) = false := hother _ rfl
  have hbool : bool? (toString n) = none := by
    rw [bool?, hother _ rfl, hother _ rfl]
    rfl
  simp only [resolve, hnull, hbool, integer?_toString hle hlt, Bool.false_eq_true, if_false]

theorem fills_scalar {v : Value} (hv : v.IsToken) (hn : (max i 0).toNat + 2 = n) :
    TokenState.Fills i (Printer.endLine (Printer.scalar n v)) [.scalar (scalarOf v).1 (scalarOf v).2] := by
  have hplain : ∀ {s : String}, IsPlain s.toList →
      TokenState.Fills i (Printer.endLine s.toList) [.scalar true s] := by
    intro s hs
    have hfills := TokenState.fills_plain (i := i) hs
    rw [endLine_plain hs]
    rwa [String.ofList_toList] at hfills
  cases v with
  | null => exact hplain (isPlain_word rfl (by decide) rfl)
  | bool b => cases b <;> exact hplain (isPlain_word rfl (by decide) rfl)
  | int k => exact hplain (isPlain_int k.val)
  | string s => exact TokenState.fills_text hn s
  | float x => exact hv.elim
  | list items => exact hv.elim
  | object fields => exact hv.elim

theorem scalar_ne_nil {v : Value} (hv : v.IsToken) : Printer.scalar n v ≠ [] := by
  cases v with
  | null => exact List.cons_ne_nil _ _
  | bool b => cases b <;> exact List.cons_ne_nil _ _
  | int k => exact (isPlain_int k.val).ne_nil
  | string s => exact writeText_ne_nil n s
  | float x => exact hv.elim
  | list items => exact hv.elim
  | object fields => exact hv.elim

theorem scalarValue_scalarOf {v : Value} (hv : v.IsToken) : scalarValue {} (scalarOf v).1 (scalarOf v).2 = .ok v := by
  cases v with
  | null => rfl
  | bool b => cases b <;> rfl
  | int k =>
    have hread : scalarValue {} true (toString k.val) = plainValue (toString k.val) := rfl
    rw [scalarOf, hread, plainValue, resolve_int k.le_val k.val_lt]
    simp only [wideInt, WideInt.ofInt?_val]
  | string s =>
    have hread : scalarValue {} (Printer.style s == .plain) s =
        if Printer.style s == .plain then plainValue s else .ok (.string s) := rfl
    rw [scalarOf, hread]
    split
    · rename_i hplain
      rw [plainValue, resolve_of_style (eq_of_beq hplain)]
    · rfl
  | float x => exact hv.elim
  | list items => exact hv.elim
  | object fields => exact hv.elim

/-! ### Empty containers -/

namespace TokenState

/-- Inside brackets that hold nothing, with the key that they may be. -/
def inBrackets (done : List Token) (i : Int) (is : List Int) (start : Token) (key : Option OpenKey) : TokenState :=
  { tokens := start :: done, count := done.length + 1, indent := i, indents := is, keyAllowed := true,
    outerKeys := [key] }

theorem openBracket_standing (b : Bool) (done : List Token) (i : Int) (is : List Int) (p : Place) (start : Token) :
    (standing done i is b none).openBracket p start =
      .ok (inBrackets done i is start (keyAt b done i p)) := by
  cases b <;> rfl

/-- A bracket that is closed at once fills its line. -/
theorem fills_brackets {d : Char} {start stop : Token} (hc : IsSolid c) (hd : IsSolid d)
    (hopen : ∀ (s : TokenState) (p : Place) (rest : List Char), s.next p c (d :: rest) =
      (s.openBracket p start).map fun s => (s, p.right 1, d :: rest))
    (hclose : ∀ (s : TokenState) (p : Place) (rest : List Char), s.next p d rest =
      (s.closeBracket stop).map fun s => (s, p.right 1, rest)) :
    Fills i [c, d, '\n'] [start, stop] := by
  intro done is b l column k rest hcolumn hb hends
  have hkey : ∀ k ∈ keyAt b done i ⟨l, column⟩, k.isRequired = false ∧ k.place = ⟨l, column⟩ := fun k =>
    of_mem_keyAt hb
  have hopen := hopen (standing done i is b none) ⟨l, column⟩ ('\n' :: (Printer.spaces k ++ rest))
  rw [openBracket_standing] at hopen
  generalize keyAt b done i ⟨l, column⟩ = key at hkey hopen
  have hfresh : ∀ k ∈ key, k.isStale ⟨l, column + 1⟩ = false := by
    intro k hk
    simp [OpenKey.isStale, (hkey k hk).2]
  have hline : ∀ k ∈ key, k.isRequired = false ∧ k.place.line ≤ l := by
    intro k hk
    rw [(hkey k hk).2]
    exact ⟨(hkey k hk).1, Nat.le_refl l⟩
  have hfirst : Reads ⟨standing done i is b none, ⟨l, column⟩, c :: d :: '\n' :: (Printer.spaces k ++ rest)⟩
      ⟨inBrackets done i is start key, ⟨l, column + 1⟩, d :: '\n' :: (Printer.spaces k ++ rest)⟩ :=
    .of_next (prepare_scalar hcolumn hc _) hopen (Nat.lt_succ_self _)
  have hsecond : Reads ⟨inBrackets done i is start key, ⟨l, column + 1⟩, d :: '\n' :: (Printer.spaces k ++ rest)⟩
      ⟨standing (stop :: start :: done) i is false key, ⟨l, column + 2⟩, '\n' :: (Printer.spaces k ++ rest)⟩ := by
    refine .of_next (prepare_solid (List.forall_mem_singleton.2 hfresh) (by simp [inBrackets]) hd _) ?_
      (Nat.lt_succ_self _)
    rw [hclose]
    rfl
  exact ⟨l + 1, hfirst.trans (hsecond.trans (.newline hline false _ i is k rest))⟩

theorem fills_emptyList : Fills i ['[', ']', '\n'] [.listStart, .listEnd] :=
  fills_brackets (by decide) (by decide) (fun s p rest => by simp [next, isMarker])
    fun s p rest => by simp [next, isMarker]

theorem fills_emptyObject : Fills i ['\x7b', '\x7d', '\n'] [.mappingStart, .mappingEnd] :=
  fills_brackets (by decide) (by decide) (fun s p rest => by simp [next, isMarker])
    fun s p rest => by simp [next, isMarker]

end TokenState

end FlowCheck.Yaml
