import FlowCheck.Proofs.Yaml.Layout

/-!
# Tokens of a printed tree

The scanner first looks at all characters of a text, and brings its breaks into one form.  Neither matters for a
printed text, whose characters are all printable (`Printable.node`); so it is read as the tokens of its tree, and the
stream ends behind them (`Token.ofText_text`).
-/

namespace FlowCheck.Yaml

/-! ### Characters that are written -/

/-- All characters stand for themselves. -/
def Printable (cs : List Char) : Prop :=
  ∀ c ∈ cs, Printer.isPrintable c = true

namespace Printable

variable {cs ds : List Char} {c : Char} {n : Nat}

theorem of_all (h : cs.all Printer.isPrintable = true) : Printable cs :=
  List.all_eq_true.1 h

theorem nil : Printable [] :=
  of_all rfl

theorem cons (hc : Printer.isPrintable c = true) (hcs : Printable cs) : Printable (c :: cs) :=
  List.forall_mem_cons.2 ⟨hc, hcs⟩

theorem append (hcs : Printable cs) (hds : Printable ds) : Printable (cs ++ ds) :=
  List.forall_mem_append.2 ⟨hcs, hds⟩

theorem spaces (n : Nat) : Printable (Printer.spaces n) := by
  intro c hc
  rw [List.eq_of_mem_replicate hc]
  rfl

theorem endLine (h : Printable cs) : Printable (Printer.endLine cs) := by
  unfold Printer.endLine
  split
  · exact h
  · exact h.append (.cons rfl .nil)

theorem doubleEscape (c : Char) : Printable (Printer.doubleEscape c) := by
  cases hplain : Printer.isPrintable c && !Printer.isBreak c with
  | true =>
    have hc := (Bool.and_eq_true_iff.1 hplain).1
    simp only [Printer.doubleEscape, hplain, if_true]
    split
    · exact .cons rfl (.cons hc .nil)
    · exact .cons hc .nil
  | false =>
    have hall := forall_escapedNumbers (fun c => (Printer.doubleEscape c).all Printer.isPrintable = true)
      (by decide +kernel) hplain
    exact of_all hall

theorem doubleQuoted (cs : List Char) : Printable (Printer.doubleQuoted cs) := by
  refine .cons rfl (.append (fun d hd => ?_) (.cons rfl .nil))
  obtain ⟨c, -, hd⟩ := List.mem_flatMap.1 hd
  exact doubleEscape c d hd

theorem indented {write : Char → List Char} (hcs : Printable cs) (hwrite : ∀ c ∈ cs, Printable (write c)) (n : Nat)
    (fresh : Bool) : Printable (Printer.indented n write fresh cs) := by
  induction cs generalizing fresh with
  | nil => exact nil
  | cons c cs ih =>
    obtain ⟨hc, hcs⟩ := List.forall_mem_cons.1 hcs
    obtain ⟨hwrite, hmore⟩ := List.forall_mem_cons.1 hwrite
    rw [Printer.indented]
    split
    · exact .cons hc (ih hcs hmore true)
    · refine .append (.append ?_ hwrite) (ih hcs hmore false)
      split
      · exact spaces n
      · exact nil

theorem singleQuoted (h : Printable cs) (n : Nat) : Printable (Printer.singleQuoted n cs) := by
  refine .append (.append (.cons rfl (h.indented (fun c hc => ?_) n false)) ?_) (.cons rfl .nil)
  · split
    · exact of_all rfl
    · exact .cons (h c hc) .nil
  · split
    · exact spaces n
    · exact nil

theorem literalBlock (h : Printable cs) (n : Nat) : Printable (Printer.literalBlock n cs) := by
  have hmarks : Printable (Printer.literalMarks cs) := by
    rw [literalMarks_eq]
    refine .append ?_ ?_
    · split <;> exact of_all rfl
    · cases endMark cs <;> exact of_all rfl
  exact .append (.cons rfl hmarks) (.cons rfl (h.indented (fun c hc => .cons (h c hc) .nil) n true))

theorem writeText (n : Nat) (s : String) : Printable (Printer.writeText n s) := by
  have hstyled := styled s
  rw [Printer.writeText]
  generalize Printer.style s = style at hstyled ⊢
  cases hstyled with
  | plain h => exact fun c hc => (h.chars c hc).1
  | single hchars => exact singleQuoted (fun c hc => (hchars c hc).1) n
  | double => exact doubleQuoted s.toList
  | literal _ hchars => exact literalBlock hchars n

theorem scalar (n : Nat) {v : Value} (hv : v.FloatFree) : Printable (Printer.scalar n v) := by
  cases v with
  | null => exact of_all rfl
  | bool b => cases b <;> exact of_all rfl
  | int k => exact fun c hc => ((isPlain_int k.val).chars c hc).1
  | string s => exact writeText n s
  | float x => exact hv.elim
  | list items => exact of_all rfl
  | object fields => exact of_all rfl

theorem inline (h : Printable cs) (place : Printer.Place) : Printable (Printer.inline place cs) := by
  cases place with
  | root => exact h
  | mark => exact .cons rfl h
  | key => exact .cons rfl h

theorem rows {lines : List (List Char)} (h : ∀ line ∈ lines, Printable line) (n : Nat) :
    Printable (Yaml.rows n lines) := by
  fun_induction Yaml.rows n lines with
  | case1 => exact nil
  | case2 line => exact (h line List.mem_cons_self).endLine
  | case3 line next lines ih =>
    exact .append (h line List.mem_cons_self).endLine (.append (spaces n) (ih fun line hline => h line (.tail _ hline)))

theorem block {lines : List (List Char)} (h : ∀ line ∈ lines, Printable line) (place : Printer.Place) (n : Nat) :
    Printable (Printer.block place n lines) := by
  cases lines with
  | nil => cases place <;> exact of_all rfl
  | cons line lines =>
    rw [block_eq]
    refine .append ?_ (rows h n)
    cases place with
    | root => exact spaces n
    | mark => exact of_all rfl
    | key => exact .cons rfl (spaces n)

mutual

theorem node (place : Printer.Place) (n : Nat) : (v : Value) → v.FloatFree → Printable (Printer.node place n v)
  | .null, h | .bool _, h | .int _, h | .string _, h => (scalar (n + 2) h).inline place
  | .float _, h => h.elim
  | .list [], h => (scalar (n + 2) h).inline place
  | .list (v :: vs), h => block (items _ (v :: vs) h) place _
  | .object [], h => (scalar (n + 2) h).inline place
  | .object (f :: fs), h => block (fields _ (f :: fs) h) place _

theorem items (n : Nat) : (vs : List Value) → Value.FloatFreeItems vs →
    ∀ line ∈ Printer.nodeItems n vs, Printable line
  | [], _ => List.forall_mem_nil _
  | v :: vs, h => List.forall_mem_cons.2 ⟨.cons rfl (node .mark n v h.1), items n vs h.2⟩

theorem fields (n : Nat) : (fs : List (String × Value)) → Value.FloatFreeFields fs →
    ∀ line ∈ Printer.nodeFields n fs, Printable line
  | [], _ => List.forall_mem_nil _
  | (k, v) :: fs, h => by
    refine List.forall_mem_cons.2 ⟨?_, fields n fs h.2⟩
    split
    · exact .append (writeText _ k) (.cons rfl (node .key n v h.1))
    · have hkey : Printable (Printer.endLine ('?' :: ' ' :: Printer.writeText (n + 2) k)) :=
        endLine (.cons rfl (.cons rfl (writeText _ k)))
      exact .append (.append hkey (spaces n)) (.cons rfl (node .mark n v h.1))

end

end Printable

/-! ### Tokens of the text -/

/-- The tokens of the text of a tree without doubles. -/
theorem Token.ofText_text {v : Value} (hv : v.FloatFree) :
    Token.ofText (text v) = .ok (Token.ofTree .root v ++ [.streamEnd]) := by
  have hprintable : Printable (text v).toList := by
    rw [text, String.toList_ofList]
    exact (Printable.node .root 0 v hv).endLine
  have hallowed : (text v).toList.all isAllowed = true :=
    List.all_eq_true.2 fun c hc => isAllowed_of_isPrintable (hprintable c hc)
  have hbegins : TokenState.Begins [] [] .root 0 (-1) (TokenState.between [] (-1) []) 0 := .root
  obtain ⟨l, n, hn, hscan⟩ := TokenState.tells v hv hbegins (Or.inl ⟨rfl, rfl⟩) 0
  simp only [List.length_nil, Nat.add_zero, Printer.spaces, List.replicate_zero, List.append_nil] at hn hscan
  have htext : (text v).toList = Printer.endLine (Printer.node .root 0 v) := by
    rw [text, String.toList_ofList]
  have hfuel : (text v).toList.length + 1 = (text v).toList.length - n + 1 + n := by
    rw [htext]
    omega
  have hclose : (TokenState.between (Token.ofTree .root v).reverse (-1) []).closeBlocks (-1) =
      TokenState.between (Token.ofTree .root v).reverse (-1) [] := rfl
  simp only [Token.ofText, hallowed, oneBreakForm_of_isPrintable hprintable, hfuel]
  rw [htext]
  change TokenState.scan _ (TokenState.between [] (-1) []) ⟨0, 0⟩ _ = _
  rw [hscan, TokenState.scan_nil, hclose]
  simp [TokenState.between, TokenState.standing]

end FlowCheck.Yaml
