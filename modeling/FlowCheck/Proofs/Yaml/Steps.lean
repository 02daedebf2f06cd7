import FlowCheck.Yaml.Printer
import FlowCheck.Yaml.Token

/-!
# Steps of the YAML scanner

What the scanner does with a text is put together from steps.  A `Cursor` is where it stands, and `Reads a b` says that
it comes from one cursor to another, whatever fuel is left; such steps can be put one behind the other (`Reads.trans`).

A step is what comes before a token and the token itself (`scan_succ`).  Before a token spaces and breaks are skipped,
old keys given up and blocks ended (`prepare`); where two cursors differ in space only, this makes them the same
(`Reads.of_prepare`).
-/

namespace FlowCheck.Yaml

variable {c : Char} {cs rest : List Char} {p : Place}

/-! ### Characters and places -/

theorem isBreak_of_isPrintable (h : Printer.isPrintable c = true) : isBreak c = Printer.isBreak c := by
  have hreturn : c ≠ '\r' := by rintro rfl; cases h
  have hnext : c ≠ '\u0085' := by rintro rfl; cases h
  simp [isBreak, Printer.isBreak, hreturn, hnext]

theorem isAllowed_of_isPrintable (h : Printer.isPrintable c = true) : isAllowed c = true := by
  simp only [Printer.isPrintable, isAllowed, Bool.or_eq_true, Bool.and_eq_true, decide_eq_true_eq,
    beq_iff_eq] at h ⊢
  omega

theorem oneBreakForm_of_isPrintable (h : ∀ c ∈ cs, Printer.isPrintable c = true) : oneBreakForm cs = cs := by
  fun_induction oneBreakForm cs with
  | case1 => rfl
  | case2 cs ih => exact absurd (h '\r' List.mem_cons_self) (by decide)
  | case3 c cs hpair ih =>
    have hc := h c List.mem_cons_self
    have hnot : ¬(c = '\r' ∨ c = '\u0085') := by
      rintro (rfl | rfl) <;> cases hc
    rw [if_neg hnot, ih fun d hd => h d (List.mem_cons_of_mem _ hd)]

/-- The character begins a token: it is no space and no break, and no comment or byte order mark. -/
def IsSolid (c : Char) : Prop :=
  isSpace c = false ∧ isBreak c = false ∧ c ≠ '#' ∧ c ≠ '\uFEFF'

instance (c : Char) : Decidable (IsSolid c) :=
  inferInstanceAs (Decidable (_ ∧ _ ∧ _ ∧ _))

namespace Place

theorem after_eq_right (h : isBreak c = false) : p.after c = p.right 1 := by
  simp [after, right, h]

theorem right_right (m n : Nat) : (p.right m).right n = p.right (m + n) := by
  simp [right, Nat.add_assoc]

theorem right_column (l n : Nat) : (Place.mk l 0).right n = ⟨l, n⟩ := by
  simp [right]

theorem line_le_after (p : Place) (c : Char) : p.line ≤ (p.after c).line := by
  unfold after
  split
  · exact Nat.le_succ _
  · exact Nat.le_refl _

/-- The place behind a text. -/
def behind (p : Place) (text : List Char) : Place :=
  text.foldl after p

theorem behind_eq_right (h : ∀ c ∈ cs, isBreak c = false) : p.behind cs = p.right cs.length := by
  induction cs generalizing p with
  | nil => rfl
  | cons c cs ih =>
    rw [List.forall_mem_cons] at h
    rw [behind, List.foldl_cons, after_eq_right h.1, ← behind, ih h.2, right_right, List.length_cons, Nat.add_comm 1]

theorem behind_append (text more : List Char) : p.behind (text ++ more) = (p.behind text).behind more :=
  List.foldl_append

theorem behind_spaces (n : Nat) : p.behind (Printer.spaces n) = p.right n := by
  rw [behind_eq_right, Printer.spaces, List.length_replicate]
  intro c hc
  rw [List.eq_of_mem_replicate hc]
  rfl

theorem line_le_behind (p : Place) (cs : List Char) : p.line ≤ (p.behind cs).line := by
  induction cs generalizing p with
  | nil => exact Nat.le_refl _
  | cons c cs ih => exact Nat.le_trans (line_le_after p c) (ih (p.after c))

end Place

namespace TokenState

/-! ### Before a token -/

/-- What the scanner does before each token. -/
def prepare (s : TokenState) (p : Place) (cs : List Char) : Except String (TokenState × Place × List Char) := do
  let (keyAllowed, p, cs) := skipSpace s.inFlow s.keyAllowed false p cs
  let s ← ({ s with keyAllowed }).expire p
  return (s.closeBlocks p.column, p, cs)

theorem scan_succ (fuel : Nat) (s : TokenState) (p : Place) (cs : List Char) :
    scan (fuel + 1) s p cs = (s.prepare p cs).bind fun r =>
      match r.2.2 with
      | [] => r.1.boundary .streamEnd |>.map (·.tokens.reverse)
      | c :: rest => (r.1.next r.2.1 c rest).bind fun r => scan fuel r.1 r.2.1 r.2.2 := by
  rw [scan, prepare]
  generalize skipSpace s.inFlow s.keyAllowed false p cs = skipped
  obtain ⟨keyAllowed, p', cs'⟩ := skipped
  simp only [bind, Except.bind, pure, Except.pure]
  cases ({ s with keyAllowed }).expire p' with
  | error e => rfl
  | ok s' =>
    cases cs' with
    | nil => cases (s'.closeBlocks p'.column).boundary .streamEnd <;> rfl
    | cons c rest => rfl

theorem line_le_skipSpace (inFlow keyAllowed inComment : Bool) (p : Place) (cs : List Char) :
    p.line ≤ (skipSpace inFlow keyAllowed inComment p cs).2.1.line := by
  fun_induction skipSpace inFlow keyAllowed inComment p cs with
  | case1 => exact Nat.le_refl _
  | case2 _ _ _ _ _ _ ih => exact Nat.le_trans (Place.line_le_after _ _) ih
  | case3 _ _ _ _ _ _ _ ih => exact Nat.le_trans (Place.line_le_after _ _) ih
  | case4 _ _ _ _ _ _ ih => exact Nat.le_trans (Place.line_le_after _ _) ih
  | case5 => exact Nat.le_refl _

theorem skipSpace_spaces (inFlow keyAllowed : Bool) (n : Nat) (p : Place) (cs : List Char) :
    skipSpace inFlow keyAllowed false p (Printer.spaces n ++ cs) =
      skipSpace inFlow keyAllowed false (p.right n) cs := by
  induction n generalizing p with
  | zero => rfl
  | succ n ih =>
    have hplace : (p.after ' ').right n = p.right (n + 1) := by
      simp [Place.after, Place.right, isBreak, Nat.add_assoc, Nat.add_comm 1 n]
    rw [Printer.spaces, List.replicate_succ, List.cons_append, ← hplace, ← ih, ← Printer.spaces]
    rfl

theorem skipSpace_solid (inFlow keyAllowed : Bool) (p : Place) (h : IsSolid c) :
    skipSpace inFlow keyAllowed false p (c :: cs) = (keyAllowed, p, c :: cs) := by
  obtain ⟨hspace, hbreak, hcomment, hmark⟩ := h
  simp only [isSpace, Bool.or_eq_false_iff, decide_eq_false_iff_not] at hspace
  simp [skipSpace, hbreak, hspace, hcomment, hmark]

end TokenState

namespace OpenKey

theorem expire_of_fresh {key : Option OpenKey} (h : ∀ k ∈ key, k.isStale p = false) : expire p key = .ok key := by
  cases key with
  | none => rfl
  | some k => simp [expire, h k rfl]

/-- An old key is given up without a word, unless it is required. -/
theorem expire_of_old {key : Option OpenKey} (h : ∀ k ∈ key, k.isRequired = false ∧ k.isStale p = true) :
    expire p key = .ok none := by
  cases key with
  | none => rfl
  | some k => simp [expire, drop, h k rfl, Except.map]

theorem mapM_expire_of_fresh {keys : List (Option OpenKey)} (h : ∀ key ∈ keys, ∀ k ∈ key, k.isStale p = false) :
    keys.mapM (expire p) = .ok keys := by
  induction keys with
  | nil => rfl
  | cons key keys ih =>
    rw [List.forall_mem_cons] at h
    rw [List.mapM_cons, expire_of_fresh h.1, ih h.2]
    rfl

end OpenKey

namespace TokenState

variable {s : TokenState}

theorem prepare_drop (hflow : s.outerKeys = [])
    (hkey : ∀ k ∈ s.openKey, k.isRequired = false ∧ k.place.line < p.line) (cs : List Char) :
    s.prepare p cs = { s with openKey := none }.prepare p cs := by
  -- the scanner goes back to no earlier line, so that the key is old when the token begins
  have hline := line_le_skipSpace s.inFlow s.keyAllowed false p cs
  have hsame : ({ s with openKey := none } : TokenState).inFlow = s.inFlow := rfl
  unfold prepare
  rw [hsame]
  generalize skipSpace s.inFlow s.keyAllowed false p cs = skipped at hline
  obtain ⟨keyAllowed, p', cs'⟩ := skipped
  have hold : ∀ k ∈ s.openKey, k.isRequired = false ∧ k.isStale p' = true := by
    intro k hk
    obtain ⟨hrequired, hold⟩ := hkey k hk
    simp only [OpenKey.isStale, Bool.or_eq_true, decide_eq_true_eq]
    exact ⟨hrequired, Or.inl (Nat.lt_of_lt_of_le hold hline)⟩
  have hexpire : ({ s with keyAllowed } : TokenState).expire p' =
      ({ s with openKey := none, keyAllowed } : TokenState).expire p' := by
    unfold expire
    simp only [hflow, List.mapM_nil, OpenKey.expire_of_old hold]
    rfl
  simp only [hexpire]

theorem prepare_newline (hflow : s.outerKeys = []) (p : Place) (cs : List Char) :
    s.prepare p ('\n' :: cs) = { s with keyAllowed := true }.prepare ⟨p.line + 1, 0⟩ cs := by
  simp [prepare, skipSpace, inFlow, hflow, isBreak, Place.after]

theorem prepare_spaces (s : TokenState) (p : Place) (n : Nat) (cs : List Char) :
    s.prepare p (Printer.spaces n ++ cs) = s.prepare (p.right n) cs := by
  simp only [prepare, skipSpace_spaces]

theorem prepare_solid (houter : ∀ key ∈ s.outerKeys, ∀ k ∈ key, k.isStale p = false)
    (hkey : ∀ k ∈ s.openKey, k.isStale p = false) (hc : IsSolid c) (cs : List Char) :
    s.prepare p (c :: cs) = .ok (s.closeBlocks p.column, p, c :: cs) := by
  have hexpire : s.expire p = .ok s := by
    rw [expire, OpenKey.mapM_expire_of_fresh houter, OpenKey.expire_of_fresh hkey]
    rfl
  rw [prepare, skipSpace_solid _ _ _ hc]
  simp only [hexpire, bind, Except.bind, pure, Except.pure]

/-! ### Steps -/

/-- Where a scanner stands. -/
structure Cursor where
  state : TokenState
  place : Place
  rest : List Char

/-- From one cursor the scanner comes to another; each step takes at least one character. -/
def Reads (a b : Cursor) : Prop :=
  ∃ n, n + b.rest.length ≤ a.rest.length ∧
    ∀ fuel, scan (fuel + 1 + n) a.state a.place a.rest = scan (fuel + 1) b.state b.place b.rest

namespace Reads

variable {a b d : Cursor}

theorem refl (a : Cursor) : Reads a a :=
  ⟨0, by omega, fun _ => rfl⟩

theorem trans (hab : Reads a b) (hbd : Reads b d) : Reads a d := by
  obtain ⟨m, hm, hab⟩ := hab
  obtain ⟨n, hn, hbd⟩ := hbd
  refine ⟨n + m, by omega, fun fuel => ?_⟩
  have hfirst : fuel + 1 + (n + m) = fuel + n + 1 + m := by omega
  have hsecond : fuel + n + 1 = fuel + 1 + n := by omega
  rw [hfirst, hab, hsecond, hbd]

/-- Cursors that differ in space only. -/
theorem of_prepare (h : a.state.prepare a.place a.rest = b.state.prepare b.place b.rest)
    (hlength : b.rest.length ≤ a.rest.length) : Reads a b :=
  ⟨0, by omega, fun fuel => by rw [Nat.add_zero, scan_succ, scan_succ, h]⟩

theorem space (s : TokenState) (l column : Nat) (cs : List Char) :
    Reads ⟨s, ⟨l, column⟩, ' ' :: cs⟩ ⟨s, ⟨l, column + 1⟩, cs⟩ :=
  .of_prepare (prepare_spaces s ⟨l, column⟩ 1 cs) (Nat.le_succ _)

/-- One token is read. -/
theorem of_next {s : TokenState} {p : Place} (hprepare : a.state.prepare a.place a.rest = .ok (s, p, c :: cs))
    (hnext : s.next p c cs = .ok (b.state, b.place, b.rest)) (hlength : b.rest.length < a.rest.length) :
    Reads a b := by
  refine ⟨1, by omega, fun fuel => ?_⟩
  rw [scan_succ, hprepare]
  simp only [Except.bind, hnext]

end Reads

end TokenState

end FlowCheck.Yaml
